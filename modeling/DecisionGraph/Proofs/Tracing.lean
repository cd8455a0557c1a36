import DecisionGraph.Finding.Wiring
import DecisionGraph.Proofs.Cycles
import DecisionGraph.Proofs.Lookup
import DecisionGraph.Proofs.Renumbering

/-!
The search for cycles over stored rows: a mark for every node, and for every node of the path how
many of its hops were followed. The path is cut where the cycle starts. No access misses, and what
is found are the cycles of the search over links.
-/

namespace DecisionGraph

open Access

inductive Mark
  | fresh
  | entered
  | left
  deriving DecidableEq

/-- A node of a path, and how many of its hops were followed. -/
structure Stop where
  node : Nat
  followed : Nat

/-- The marks and the path, which is given from its end. -/
structure Tour where
  marks : List Mark
  path : List Stop

namespace Table

variable (table : Table)

/-- The cycle that a hop back into the path closes. -/
def closing (hop : Hop) (path : List Stop) : Access Finding := do
  let stops := path.reverse
  let entry := (stops.findIdx? fun stop => stop.node = hop.node).getD 0
  let ids ← (← slice stops entry).mapM fun stop => table.idAt stop.node
  return .cycle hop.edge (ids ++ [← table.idAt hop.node])

/-- Follows the next hop of the last node of a path, or leaves the node. -/
def round (marks : List Mark) (stop : Stop) (path : List Stop) : Access (Tour × List Finding) := do
  match (← table.leaving stop.node)[stop.followed]? with
  | none => return (⟨← store marks stop.node .left, path⟩, [])
  | some hop =>
    let path := ⟨stop.node, stop.followed + 1⟩ :: path
    match ← fetch marks hop.node with
    | .fresh => return (⟨← store marks hop.node .entered, ⟨hop.node, 0⟩ :: path⟩, [])
    | .entered => return (⟨marks, path⟩, [← table.closing hop path])
    | .left => return (⟨marks, path⟩, [])

/-- What is left to do on a path. -/
def toFollow : List Stop → Nat
  | [] => 0
  | stop :: path =>
    (table.outgoing[stop.node]?.getD []).length - stop.followed + 1 + toFollow path

theorem round_less {marks : List Mark} {stop : Stop} {path : List Stop} {next : Tour}
    {found : List Finding} (taken : table.round marks stop path = .ok (next, found)) :
    next.marks.count .fresh < marks.count .fresh ∨
      next.marks.count .fresh ≤ marks.count .fresh ∧
        table.toFollow next.path < table.toFollow (stop :: path) := by
  unfold round at taken
  obtain ⟨hops, row, taken⟩ := bind_eq_ok_iff.mp taken
  have listed : table.outgoing[stop.node]? = some hops := fetch_eq_ok_iff.mp row
  split at taken
  · obtain ⟨after, stored, same⟩ := bind_eq_ok_iff.mp taken
    cases same
    obtain ⟨_, rfl⟩ := store_eq_ok_iff.mp stored
    refine .inr ⟨count_set_le_of_ne Mark.noConfusion, ?_⟩
    simp only [toFollow]
    omega
  · next hop next =>
    have short : stop.followed < hops.length := (List.getElem?_eq_some_iff.mp next).1
    have less : table.toFollow (⟨stop.node, stop.followed + 1⟩ :: path) <
        table.toFollow (stop :: path) := by
      simp only [toFollow, listed, Option.getD_some]
      omega
    obtain ⟨mark, read, taken⟩ := bind_eq_ok_iff.mp taken
    cases mark with
    | fresh =>
        obtain ⟨after, stored, same⟩ := bind_eq_ok_iff.mp taken
        cases same
        obtain ⟨_, rfl⟩ := store_eq_ok_iff.mp stored
        have used : Mark.entered ≠ Mark.fresh := Mark.noConfusion
        have fewer := count_set_of_ne (fetch_eq_ok_iff.mp read) used
        exact .inl (Nat.lt_of_succ_le (Nat.le_of_eq fewer))
    | entered =>
        obtain ⟨cycle, closed, same⟩ := bind_eq_ok_iff.mp taken
        cases same
        exact .inr ⟨Nat.le_refl _, less⟩
    | left =>
        cases taken
        exact .inr ⟨Nat.le_refl _, less⟩

/-- Follows a path to its end, and gives the marks and what was found. -/
def tour (marks : List Mark) : List Stop → Access (List Mark × List Finding)
  | [] => .ok (marks, [])
  | stop :: path =>
    match _taken : table.round marks stop path with
    | .error overrun => .error overrun
    | .ok (next, found) => do
      let (marks, later) ← tour next.marks next.path
      return (marks, found ++ later)
termination_by path => (marks.count .fresh, table.toFollow path)
decreasing_by
  -- The marks alone do not bound the rounds: leaving a node and following a hop keep them.
  rcases table.round_less _taken with fewer | ⟨same, less⟩
  · exact Prod.Lex.left _ _ fewer
  · rcases Nat.lt_or_eq_of_le same with fewer | same
    · exact Prod.Lex.left _ _ fewer
    · rw [same]
      exact Prod.Lex.right _ less

/-- Goes on a tour from every start that was not entered before. -/
def tours : List Nat → List Mark → Access (List Finding)
  | [], _ => .ok []
  | start :: starts, marks => do
    match ← fetch marks start with
    | .fresh =>
      let (marks, found) ← table.tour (← store marks start .entered) [⟨start, 0⟩]
      return found ++ (← tours starts marks)
    | _ => tours starts marks

def cycles : Access (List Finding) := do
  let live ← table.live
  table.tours (live.map (·.2)) (List.replicate table.graph.nodes.length .fresh)

end Table

/-! The cut starts within the path. -/

theorem findIdx?_append_cons {before : List Nat} {target : Nat} (first : target ∉ before)
    (after : List Nat) :
    (before ++ target :: after).findIdx? (· = target) = some before.length := by
  rw [List.findIdx?_append, List.findIdx?_eq_none_iff.mpr]
  · simp [List.findIdx?_cons]
  · intro node listed
    have other : node ≠ target := fun same => first (same ▸ listed)
    simpa using other

namespace Stop

/-- The node with the links that were not followed yet. -/
def frame (links : List Link) (stop : Stop) : Cycle.Frame :=
  ⟨stop.node, (Link.leaving links stop.node).drop stop.followed⟩

theorem frame_of_none {links : List Link} {stop : Stop}
    (none : (Link.leaving links stop.node)[stop.followed]? = none) :
    frame links stop = ⟨stop.node, []⟩ := by
  rw [frame, List.drop_eq_nil_of_le (List.getElem?_eq_none_iff.mp none)]

theorem frame_of_next {links : List Link} {stop : Stop} {link : Link}
    (next : (Link.leaving links stop.node)[stop.followed]? = some link) :
    frame links stop =
      ⟨stop.node, link :: (Link.leaving links stop.node).drop (stop.followed + 1)⟩ := by
  obtain ⟨short, got⟩ := List.getElem?_eq_some_iff.mp next
  rw [frame, List.drop_eq_getElem_cons short, got]

theorem map_node_frames (links : List Link) (path : List Stop) :
    (path.map (frame links)).map Cycle.Frame.node = path.map Stop.node := by
  rw [List.map_map]
  rfl

/-- The first place of a node of the path is where its loop starts. -/
theorem exists_entry (links : List Link) {path : List Stop} {target : Nat}
    (distinct : (path.map node).Nodup) (member : target ∈ path.map node) :
    ∃ entry ≤ path.reverse.length,
      path.reverse.findIdx? (fun stop => stop.node = target) = some entry ∧
        (path.reverse.drop entry).map node = Cycle.loop target (path.map (frame links)) := by
  obtain ⟨rest, split⟩ := Cycle.takeWhile_append_of_mem member
  rw [Cycle.loop, map_node_frames]
  generalize (path.map node).takeWhile (· ≠ target) = part at split ⊢
  have turned : path.reverse.map node = rest.reverse ++ target :: part.reverse := by
    rw [List.map_reverse, split]
    simp
  have once : target ∉ rest.reverse := by
    rw [split] at distinct
    have later := (List.nodup_append.mp distinct).2.1
    simpa using (List.nodup_cons.mp later).1
  have found : path.reverse.findIdx? (fun stop => stop.node = target) =
      some rest.reverse.length := by
    rw [← findIdx?_append_cons once part.reverse, ← turned, List.findIdx?_map]
    rfl
  refine ⟨rest.reverse.length, ?_, found, ?_⟩
  · have lengths := congrArg List.length turned
    simp only [List.length_map, List.length_append] at lengths
    omega
  · rw [List.map_drop, turned, List.drop_left]

end Stop

/-! The search over rows is the search over links. -/

namespace Graph

variable {graph : Graph}

def cycleFinding (graph : Graph) (cycle : Cycle) : Finding :=
  .cycle cycle.closingEdge ((Survey.ofGraph graph).idsAlong cycle)

theorem closing_eq {path : List Stop} {link : Link} (listed : link ∈ graph.links)
    (inside : ∀ stop ∈ path, stop.node < graph.nodes.length)
    (distinct : (path.map Stop.node).Nodup) (back : link.target ∈ path.map Stop.node) :
    graph.table.closing ⟨link.edge, link.target⟩ path =
      .ok (graph.cycleFinding
        ⟨Cycle.loop link.target (path.map (Stop.frame graph.links)), link.edge⟩) := by
  obtain ⟨entry, within, found, loop⟩ := Stop.exists_entry graph.links distinct back
  have ids : (path.reverse.drop entry).mapM (fun stop => graph.table.idAt stop.node) =
      .ok ((path.reverse.drop entry).map fun stop => graph.idAt stop.node) :=
    mapM_eq_ok fun stop member =>
      table_idAt (inside stop (List.mem_reverse.mp (List.mem_of_mem_drop member)))
  have named : (path.reverse.drop entry).map (fun stop => graph.idAt stop.node) =
      (Cycle.loop link.target (path.map (Stop.frame graph.links))).map graph.idAt := by
    rw [← loop, List.map_map]
    rfl
  have first : (Cycle.loop link.target (path.map (Stop.frame graph.links))).take 1 =
      [link.target] := rfl
  simp only [Table.closing, found, Option.getD_some, slice, if_pos within, ok_bind, ids,
    table_idAt (target_lt listed), pure_eq_ok, named, cycleFinding, Survey.idsAlong, first,
    List.map_append, List.map_cons, List.map_nil]
  rfl

/-- Starts that were not entered yet. -/
def unentered (starts : List Nat) (marks : List Mark) : List Nat :=
  starts.filter fun position => marks[position]? = some .fresh

theorem unentered_set {starts : List Nat} {marks : List Mark} {position : Nat} {mark : Mark}
    (inside : position < marks.length) (used : mark ≠ .fresh) :
    unentered starts (marks.set position mark) =
      (unentered starts marks).filter (· != position) := by
  rw [unentered, unentered, List.filter_filter]
  refine List.filter_congr fun other _ => ?_
  rw [Bool.eq_iff_iff, Bool.and_eq_true, decide_eq_true_iff, decide_eq_true_iff, bne_iff_ne]
  simp only [getElem?_set_eq_some_iff inside, used, and_false, false_or]

/-- A mark on a node that is not waiting leaves those that are. -/
theorem unentered_set_of_notMem {starts : List Nat} {marks : List Mark} {position : Nat}
    {mark : Mark} (inside : position < marks.length) (used : mark ≠ .fresh)
    (known : position ∉ unentered starts marks) :
    unentered starts (marks.set position mark) = unentered starts marks := by
  rw [unentered_set inside used, List.filter_eq_self]
  intro other waiting
  exact bne_iff_ne.mpr fun same => known (same ▸ waiting)

theorem unentered_skip {start : Nat} {starts : List Nat} {marks : List Mark}
    (used : marks[start]? ≠ some .fresh) :
    unentered (start :: starts) marks = unentered starts marks :=
  List.filter_cons_of_neg (by simpa using used)

/-- The nodes of the path are entered and distinct, and every fresh node is still waiting. -/
structure OnTour (graph : Graph) (starts : List Nat) (marks : List Mark) (path : List Stop) :
    Prop where
  length : marks.length = graph.nodes.length
  once : starts.Nodup
  inside : ∀ start ∈ starts, start < graph.nodes.length
  waiting : ∀ position, graph.IsLive position → marks[position]? = some .fresh → position ∈ starts
  entered : ∀ position, marks[position]? = some .entered ↔ position ∈ path.map Stop.node
  distinct : (path.map Stop.node).Nodup

namespace OnTour

variable {starts : List Nat} {marks : List Mark} {stop : Stop} {path : List Stop}

theorem lt (onTour : OnTour graph starts marks path) {position : Nat}
    (member : position ∈ path.map Stop.node) : position < graph.nodes.length := by
  have mark := (onTour.entered position).mpr member
  exact onTour.length ▸ (List.getElem?_eq_some_iff.mp mark).1

/-- No mark that is put later makes a node fresh again. -/
theorem waiting_set (onTour : OnTour graph starts marks path) {position : Nat} {mark : Mark}
    (inside : position < marks.length) (used : mark ≠ .fresh) (other : Nat)
    (live : graph.IsLive other) (fresh : (marks.set position mark)[other]? = some .fresh) :
    other ∈ starts := by
  rcases (getElem?_set_eq_some_iff inside).mp fresh with ⟨_, same⟩ | ⟨_, fresh⟩
  · exact absurd same used
  · exact onTour.waiting other live fresh

theorem leave (onTour : OnTour graph starts marks (stop :: path)) :
    OnTour graph starts (marks.set stop.node .left) path where
  length := by rw [List.length_set, onTour.length]
  once := onTour.once
  inside := onTour.inside
  waiting := onTour.waiting_set (onTour.length.symm ▸ onTour.lt List.mem_cons_self) Mark.noConfusion
  entered position := by
    have bound := onTour.length.symm ▸ onTour.lt List.mem_cons_self
    have apart := (List.nodup_cons.mp onTour.distinct).1
    rw [getElem?_set_eq_some_iff bound, onTour.entered, List.map_cons, List.mem_cons]
    constructor
    · rintro (⟨_, different⟩ | ⟨other, rfl | member⟩)
      · cases different
      · exact absurd rfl other
      · exact member
    · intro member
      exact .inr ⟨fun same => apart (same ▸ member), .inr member⟩
  distinct := (List.nodup_cons.mp onTour.distinct).2

theorem follow (onTour : OnTour graph starts marks (stop :: path)) (followed : Nat) :
    OnTour graph starts marks (⟨stop.node, followed⟩ :: path) := { onTour with }

theorem pass {start : Nat} (onTour : OnTour graph (start :: starts) marks path)
    (used : marks[start]? ≠ some .fresh) : OnTour graph starts marks path where
  length := onTour.length
  once := (List.nodup_cons.mp onTour.once).2
  inside other member := onTour.inside other (List.mem_cons_of_mem _ member)
  waiting position live fresh := by
    rcases List.mem_cons.mp (onTour.waiting position live fresh) with rfl | member
    · exact absurd fresh used
    · exact member
  entered := onTour.entered
  distinct := onTour.distinct

theorem enter (onTour : OnTour graph starts marks path) {position : Nat}
    (fresh : marks[position]? = some .fresh) :
    OnTour graph starts (marks.set position .entered) (⟨position, 0⟩ :: path) where
  length := by rw [List.length_set, onTour.length]
  once := onTour.once
  inside := onTour.inside
  waiting := onTour.waiting_set (List.getElem?_eq_some_iff.mp fresh).1 Mark.noConfusion
  entered other := by
    have bound := (List.getElem?_eq_some_iff.mp fresh).1
    rw [getElem?_set_eq_some_iff bound, onTour.entered, List.map_cons, List.mem_cons]
    by_cases same : other = position <;> simp [same]
  distinct := by
    refine List.nodup_cons.mpr ⟨fun member => ?_, onTour.distinct⟩
    have mark := (onTour.entered position).mpr member
    rw [fresh] at mark
    cases mark

theorem begin {start : Nat} (onTour : OnTour graph (start :: starts) marks path)
    (fresh : marks[start]? = some .fresh) :
    OnTour graph starts (marks.set start .entered) (⟨start, 0⟩ :: path) := by
  have bound := (List.getElem?_eq_some_iff.mp fresh).1
  exact (onTour.enter fresh).pass (by simp [bound])

/-! The nodes that wait, after each change of the marks. -/

theorem unentered_leave (onTour : OnTour graph starts marks (stop :: path)) :
    unentered starts (marks.set stop.node .left) = unentered starts marks := by
  have bound := onTour.length.symm ▸ onTour.lt List.mem_cons_self
  apply unentered_set_of_notMem bound Mark.noConfusion
  intro waiting
  have fresh := of_decide_eq_true (List.mem_filter.mp waiting).2
  rw [(onTour.entered stop.node).mpr List.mem_cons_self] at fresh
  cases fresh

theorem unentered_begin {start : Nat} (onTour : OnTour graph (start :: starts) marks path)
    (fresh : marks[start]? = some .fresh) :
    unentered (start :: starts) marks =
      start :: unentered starts (marks.set start .entered) := by
  have bound := (List.getElem?_eq_some_iff.mp fresh).1
  have known : start ∉ unentered starts marks := by
    intro waiting
    exact (List.nodup_cons.mp onTour.once).1 (List.mem_filter.mp waiting).1
  rw [unentered_set_of_notMem bound Mark.noConfusion known]
  exact List.filter_cons_of_pos (by simp [fresh])

theorem unentered_enter (onTour : OnTour graph starts marks path) {position : Nat}
    (fresh : marks[position]? = some .fresh) :
    unentered starts (marks.set position .entered) = (unentered starts marks).erase position := by
  have bound := (List.getElem?_eq_some_iff.mp fresh).1
  have waiting : (unentered starts marks).Nodup := onTour.once.filter _
  rw [unentered_set bound Mark.noConfusion, waiting.erase_eq_filter]

theorem mem_unentered_iff (onTour : OnTour graph starts marks path) {position : Nat}
    (live : graph.IsLive position) :
    position ∈ unentered starts marks ↔ marks[position]? = some .fresh := by
  rw [unentered, List.mem_filter, decide_eq_true_eq]
  exact and_iff_right_of_imp (onTour.waiting position live)

end OnTour

/-- From the first tour the search over links finds what was found, and then what it finds from the
next one. -/
def Continues (graph : Graph) (starts : List Nat) (tour next : Tour) (found : List Finding) : Prop :=
  (Cycle.search graph.links (unentered starts tour.marks)
      (tour.path.map (Stop.frame graph.links))).map graph.cycleFinding =
    found ++ (Cycle.search graph.links (unentered starts next.marks)
      (next.path.map (Stop.frame graph.links))).map graph.cycleFinding

section Round

variable {starts : List Nat} {marks : List Mark} {stop : Stop} {path : List Stop}

/-- The last node has no more links. -/
theorem continues_leave (onTour : OnTour graph starts marks (stop :: path))
    (none : (Link.leaving graph.links stop.node)[stop.followed]? = none) :
    graph.Continues starts ⟨marks, stop :: path⟩ ⟨marks.set stop.node .left, path⟩ [] := by
  rw [Continues, List.map_cons, Stop.frame_of_none none, Cycle.search, onTour.unentered_leave]
  rfl

/-- What the search over links does with the next link of the last node, by the mark of the node
that the link leads to. -/
theorem continues_follow (onTour : OnTour graph starts marks (stop :: path)) {link : Link}
    {mark : Mark} (next : (Link.leaving graph.links stop.node)[stop.followed]? = some link)
    (read : marks[link.target]? = some mark) :
    let onward := ⟨stop.node, stop.followed + 1⟩ :: path
    match mark with
    | .fresh => graph.Continues starts ⟨marks, stop :: path⟩
        ⟨marks.set link.target .entered, ⟨link.target, 0⟩ :: onward⟩ []
    | .entered => graph.Continues starts ⟨marks, stop :: path⟩ ⟨marks, onward⟩
        [graph.cycleFinding
          ⟨Cycle.loop link.target (onward.map (Stop.frame graph.links)), link.edge⟩]
    | .left => graph.Continues starts ⟨marks, stop :: path⟩ ⟨marks, onward⟩ [] := by
  have listed : link ∈ graph.links := (List.mem_filter.mp (List.mem_of_getElem? next)).1
  have waits : link.target ∈ unentered starts marks ↔ mark = .fresh := by
    rw [onTour.mem_unentered_iff (isLive_target listed), read, Option.some.injEq]
  have onPath : (link.target = stop.node ∨
      link.target ∈ (path.map (Stop.frame graph.links)).map Cycle.Frame.node) ↔
        mark = .entered := by
    have entered := onTour.entered link.target
    rw [read, Option.some.injEq, List.map_cons, List.mem_cons] at entered
    rw [Stop.map_node_frames, entered]
  simp only [Continues]
  rw [List.map_cons, Stop.frame_of_next next, Cycle.search]
  cases mark with
  | fresh =>
      rw [if_pos (waits.mpr rfl), onTour.unentered_enter read]
      rfl
  | entered =>
      rw [if_neg fun waiting => Mark.noConfusion (waits.mp waiting), if_pos (onPath.mpr rfl)]
      rfl
  | left =>
      rw [if_neg fun waiting => Mark.noConfusion (waits.mp waiting),
        if_neg fun back => Mark.noConfusion (onPath.mp back)]
      rfl

theorem round_eq (onTour : OnTour graph starts marks (stop :: path)) :
    ∃ next found, graph.table.round marks stop path = .ok (next, found) ∧
      OnTour graph starts next.marks next.path ∧
      graph.Continues starts ⟨marks, stop :: path⟩ next found := by
  have here : stop.node < graph.nodes.length := onTour.lt List.mem_cons_self
  have marked : stop.node < marks.length := onTour.length.symm ▸ here
  rw [Table.round, table_leaving here, ok_bind, Hop.leaving, List.getElem?_map]
  cases next : (Link.leaving graph.links stop.node)[stop.followed]? with
  | none =>
      refine ⟨_, _, ?_, onTour.leave, continues_leave onTour next⟩
      simp only [Option.map_none, store_of_lt marked, ok_bind, pure_eq_ok]
  | some link =>
      have listed : link ∈ graph.links := (List.mem_filter.mp (List.mem_of_getElem? next)).1
      have bound : link.target < marks.length := onTour.length.symm ▸ target_lt listed
      have followed := onTour.follow (stop.followed + 1)
      have read := List.getElem?_eq_getElem bound
      simp only [Option.map_some, fetch_of_getElem? read, ok_bind]
      cases mark : marks[link.target] with
      | fresh =>
          rw [mark] at read
          refine ⟨_, _, ?_, followed.enter read, continues_follow onTour next read⟩
          simp only [store_of_lt bound, ok_bind, pure_eq_ok]
      | entered =>
          rw [mark] at read
          have closed := closing_eq listed
            (fun other member => followed.lt (List.mem_map_of_mem member)) followed.distinct
            ((onTour.entered _).mp read)
          refine ⟨_, _, ?_, followed, continues_follow onTour next read⟩
          simp only [closed, ok_bind, pure_eq_ok]
      | left =>
          rw [mark] at read
          exact ⟨_, _, rfl, followed, continues_follow onTour next read⟩

end Round

theorem tour_eq {starts : List Nat} {marks : List Mark} {path : List Stop}
    (onTour : OnTour graph starts marks path) :
    ∃ after found, graph.table.tour marks path = .ok (after, found) ∧
      OnTour graph starts after [] ∧ graph.Continues starts ⟨marks, path⟩ ⟨after, []⟩ found := by
  -- The step lemma rules out the branch of a round that overran.
  fun_induction graph.table.tour marks path with
  | case1 marks => exact ⟨marks, [], rfl, onTour, rfl⟩
  | case2 marks stop path overrun missed =>
      obtain ⟨next, found, taken, _⟩ := round_eq onTour
      rw [missed] at taken
      cases taken
  | case3 marks stop path next found taken ih =>
      obtain ⟨_, _, again, onward, first⟩ := round_eq onTour
      rw [taken] at again
      cases again
      obtain ⟨after, later, done, finished, rest⟩ := ih onward
      refine ⟨after, found ++ later, by rw [done]; rfl, finished, ?_⟩
      rw [Continues, first, rest, List.append_assoc]

theorem tours_eq {starts : List Nat} {marks : List Mark} (onTour : OnTour graph starts marks []) :
    graph.table.tours starts marks =
      .ok ((Cycle.search graph.links (unentered starts marks) []).map graph.cycleFinding) := by
  induction starts generalizing marks with
  | nil => simp [Table.tours, unentered, Cycle.search]
  | cons start starts ih =>
      have bound : start < marks.length :=
        onTour.length.symm ▸ onTour.inside start List.mem_cons_self
      have skipped (used : marks[start]? ≠ some .fresh) :
          graph.table.tours starts marks = .ok ((Cycle.search graph.links
            (unentered (start :: starts) marks) []).map graph.cycleFinding) := by
        rw [ih (onTour.pass used), unentered_skip used]
      have read := List.getElem?_eq_getElem bound
      rw [Table.tours, fetch_of_getElem? read, ok_bind]
      cases mark : marks[start] with
      | fresh =>
          rw [mark] at read
          obtain ⟨after, found, toured, finished, cycles⟩ := tour_eq (onTour.begin read)
          rw [Continues, List.map_cons, List.map_nil, Stop.frame, List.drop_zero] at cycles
          simp only [store_of_lt bound, ok_bind, toured, ih finished, pure_eq_ok]
          rw [onTour.unentered_begin read, Cycle.search, cycles]
      | entered => exact skipped (by simp [read, mark])
      | left => exact skipped (by simp [read, mark])

/-! The whole search: no node was entered when it begins. -/

theorem onTour_first (graph : Graph) :
    OnTour graph (graph.live.map (·.2)) (List.replicate graph.nodes.length .fresh) [] where
  length := List.length_replicate
  once := graph.nodup_live
  inside := by
    intro start member
    obtain ⟨entry, live, rfl⟩ := List.mem_map.mp member
    exact lt_of_live live
  waiting := by
    rintro position ⟨node, live⟩ _
    exact List.mem_map.mpr ⟨_, live, rfl⟩
  entered position := by
    rw [List.getElem?_replicate]
    split <;> simp
  distinct := List.nodup_nil

theorem unentered_first (graph : Graph) :
    unentered (graph.live.map (·.2)) (List.replicate graph.nodes.length .fresh) =
      graph.live.map (·.2) := by
  rw [unentered, List.filter_eq_self]
  intro start member
  simp [graph.onTour_first.inside start member]

theorem table_cycles (graph : Graph) :
    graph.table.cycles = .ok (Survey.ofGraph graph).cycles := by
  rw [Table.cycles, table_live, ok_bind]
  change graph.table.tours _ (List.replicate graph.nodes.length .fresh) = _
  rw [tours_eq graph.onTour_first, unentered_first]
  rfl

end Graph

end DecisionGraph
