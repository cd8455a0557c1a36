import DecisionGraph.Proofs.CycleReport
import DecisionGraph.Proofs.Tracing

/-!
The turns of the search for cycles, over all its starts. The search comes to an end; by then each
live node has been on the path once, and each edge that links anything has been examined once. Where
a successor is on the path, the search for its place there finds it.
-/

namespace DecisionGraph

open Access

/-- A search between two turns: the starts that were not tried yet, the marks and the path, which is
given from its end. -/
structure Search where
  starts : List Nat
  marks : List Mark
  path : List Stop

structure Turn where
  before : Search
  after : Search
  found : List Finding

namespace Table

variable (table : Table)

/-- A round at the end of the path or, if the path is empty, the next start. -/
def turn : Search → Access (Option (Search × List Finding))
  | ⟨starts, marks, stop :: path⟩ => do
    let (tour, found) ← table.round marks stop path
    return some (⟨starts, tour.marks, tour.path⟩, found)
  | ⟨start :: starts, marks, []⟩ => do
    match ← fetch marks start with
    | .fresh => return some (⟨starts, ← store marks start .entered, [⟨start, 0⟩]⟩, [])
    | _ => return some (⟨starts, marks, []⟩, [])
  | ⟨[], _, []⟩ => return none

/-- A search and all the turns that are left to it. -/
inductive Run (table : Table) : Search → List Turn → Prop
  | done {search : Search} (ended : table.turn search = .ok none) : Run table search []
  | turn {before after : Search} {found : List Finding} {turns : List Turn}
      (taken : table.turn before = .ok (some (after, found))) (later : Run table after turns) :
      Run table before (⟨before, after, found⟩ :: turns)

def hopAt? (node place : Nat) : Option Hop := (table.outgoing[node]?.getD [])[place]?

end Table

namespace Search

def first (graph : Graph) : Search :=
  ⟨graph.live.map (·.2), List.replicate graph.nodes.length .fresh, []⟩

/-- The hop that is examined next. -/
def next? (table : Table) (search : Search) : Option Hop :=
  search.path.head?.bind fun stop => table.hopAt? stop.node stop.followed

/-- What holds at the head of the loop. -/
structure Sound (table : Table) (search : Search) : Prop where
  distinct : (search.path.map Stop.node).Nodup
  entered : ∀ position, search.marks[position]? = some .entered ↔
    position ∈ search.path.map Stop.node
  /-- The hop that was followed last from a node leads to the next node of the path. -/
  joined : search.path.IsChain fun child parent => ∃ followed hop,
    parent.followed = followed + 1 ∧ table.hopAt? parent.node followed = some hop ∧
      hop.node = child.node
  /-- Where a hop leads back into the path, its place there is found. -/
  closes : ∀ stop path hop, search.path = stop :: path → search.next? table = some hop →
    search.marks[hop.node]? = some .entered →
    ∃ entry, (⟨stop.node, stop.followed + 1⟩ :: path : List Stop).reverse.findIdx?
      (fun other => other.node = hop.node) = some entry

end Search

/-- The nodes of a path above the height of another one. -/
def risen (lower upper : List Stop) : List Nat :=
  (upper.take (upper.length - lower.length)).map Stop.node

namespace Turn

variable (turn : Turn)

def pushed : List Nat := risen turn.before.path turn.after.path

def popped : List Nat := risen turn.after.path turn.before.path

def examined (table : Table) : List Nat := (turn.before.next? table).toList.map Hop.edge

/-- The start that is tried; the path is empty then. -/
def start? : Option Nat := if turn.before.path.isEmpty then turn.before.starts.head? else none

end Turn

/-- The edges that link anything, by position. -/
def Graph.linking (graph : Graph) : List Nat :=
  (List.range graph.edges.length).filter fun edge => (graph.endpoints? edge).isSome

/-- Turns that go once through the graph: with each they try a start, pop a node or examine an
edge. -/
structure Exhausts (graph : Graph) (table : Table) (turns : List Turn) : Prop where
  tried : turns.filterMap Turn.start? = graph.live.map (·.2)
  pushed : (turns.flatMap Turn.pushed).Perm (graph.live.map (·.2))
  popped : (turns.flatMap Turn.popped).Perm (graph.live.map (·.2))
  examined : (turns.flatMap (Turn.examined · table)).Perm graph.linking
  length : turns.length = 2 * graph.live.length + graph.linking.length
  sound : ∀ turn ∈ turns, turn.before.Sound table ∧ turn.after.Sound table
  found : turns.flatMap Turn.found = (Survey.ofGraph graph).cycles

theorem risen_cons {lower path : List Stop} (level : lower.length = path.length) (stop : Stop) :
    risen lower (stop :: path) = [stop.node] := by
  simp [risen, level]

theorem risen_of_le {lower upper : List Stop} (below : upper.length ≤ lower.length) :
    risen lower upper = [] := by
  simp [risen, Nat.sub_eq_zero_of_le below]

/-! The turns are those of the tours from all the starts. -/

namespace Table

variable {table : Table} {marks : List Mark}

/-- What is found from a search on: on the rest of its tour, and on those from the other starts. -/
def rest (table : Table) (search : Search) : Access (List Finding) := do
  let (marks, found) ← table.tour search.marks search.path
  return found ++ (← table.tours search.starts marks)

theorem tour_cons {stop : Stop} {path : List Stop} {next : Tour} {found : List Finding}
    (taken : table.round marks stop path = .ok (next, found)) :
    table.tour marks (stop :: path) = (do
      let (marks, later) ← table.tour next.marks next.path
      return (marks, found ++ later)) := by
  rw [tour]
  split
  · next overrun missed =>
    rw [taken] at missed
    cases missed
  · next again =>
    rw [taken] at again
    cases again
    rfl

theorem map_nil_append (later : Access (List Finding)) : ([] ++ ·) <$> later = later := by
  rcases later with overrun | found <;> rfl

theorem rest_nil (starts : List Nat) (marks : List Mark) :
    table.rest ⟨starts, marks, []⟩ = table.tours starts marks := by
  rw [rest, tour, ok_bind]
  exact map_nil_append _

theorem rest_of_turn {before after : Search} {found : List Finding}
    (taken : table.turn before = .ok (some (after, found))) :
    table.rest before = (found ++ ·) <$> table.rest after := by
  obtain ⟨starts, marks, path⟩ := before
  cases path with
  | cons stop path =>
      obtain ⟨⟨tour, closed⟩, round, same⟩ := bind_eq_ok_iff.mp taken
      cases same
      rw [rest, rest, tour_cons round]
      rcases table.tour tour.marks tour.path with overrun | ⟨marks, later⟩
      · rfl
      · simp only [ok_bind, pure_eq_ok]
        rcases table.tours starts marks with overrun | others
        · rfl
        · simp only [ok_bind, map_ok, List.append_assoc]
  | nil =>
      cases starts with
      | nil => cases taken
      | cons start starts =>
          obtain ⟨mark, read, taken⟩ := bind_eq_ok_iff.mp taken
          rw [rest_nil, tours, read, ok_bind]
          cases mark with
          | fresh =>
              obtain ⟨stored, wrote, same⟩ := bind_eq_ok_iff.mp taken
              cases same
              rw [wrote, ok_bind, map_nil_append]
              rfl
          | entered =>
              cases taken
              rw [rest_nil, map_nil_append]
          | left =>
              cases taken
              rw [rest_nil, map_nil_append]

end Table

/-! What a turn can do. -/

namespace Graph

variable {graph : Graph}

inductive Step (graph : Graph) : Search → Search → Prop
  | skip {start : Nat} {starts : List Nat} {marks : List Mark}
      (used : marks[start]? ≠ some .fresh) :
      Step graph ⟨start :: starts, marks, []⟩ ⟨starts, marks, []⟩
  | begin {start : Nat} {starts : List Nat} {marks : List Mark}
      (fresh : marks[start]? = some .fresh) :
      Step graph ⟨start :: starts, marks, []⟩ ⟨starts, marks.set start .entered, [⟨start, 0⟩]⟩
  | leave {starts : List Nat} {marks : List Mark} {stop : Stop} {path : List Stop}
      (none : (Link.leaving graph.links stop.node)[stop.followed]? = none) :
      Step graph ⟨starts, marks, stop :: path⟩ ⟨starts, marks.set stop.node .left, path⟩
  | enter {starts : List Nat} {marks : List Mark} {stop : Stop} {path : List Stop} {link : Link}
      (next : (Link.leaving graph.links stop.node)[stop.followed]? = some link)
      (fresh : marks[link.target]? = some .fresh) :
      Step graph ⟨starts, marks, stop :: path⟩
        ⟨starts, marks.set link.target .entered,
          ⟨link.target, 0⟩ :: ⟨stop.node, stop.followed + 1⟩ :: path⟩
  | follow {starts : List Nat} {marks : List Mark} {stop : Stop} {path : List Stop} {link : Link}
      (next : (Link.leaving graph.links stop.node)[stop.followed]? = some link)
      (used : marks[link.target]? ≠ some .fresh) :
      Step graph ⟨starts, marks, stop :: path⟩
        ⟨starts, marks, ⟨stop.node, stop.followed + 1⟩ :: path⟩

section Step

variable {starts : List Nat} {marks : List Mark} {stop : Stop} {path : List Stop}
  {before after search : Search}

theorem step_of_round (here : stop.node < graph.nodes.length) {tour : Tour} {found : List Finding}
    (taken : graph.table.round marks stop path = .ok (tour, found)) :
    graph.Step ⟨starts, marks, stop :: path⟩ ⟨starts, tour.marks, tour.path⟩ := by
  rw [Table.round, table_leaving here, ok_bind, Hop.leaving, List.getElem?_map] at taken
  cases next : (Link.leaving graph.links stop.node)[stop.followed]? with
  | none =>
      rw [next] at taken
      obtain ⟨after, stored, same⟩ := bind_eq_ok_iff.mp taken
      cases same
      obtain ⟨_, rfl⟩ := store_eq_ok_iff.mp stored
      exact .leave next
  | some link =>
      rw [next] at taken
      obtain ⟨mark, read, taken⟩ := bind_eq_ok_iff.mp taken
      have listed : marks[link.target]? = some mark := fetch_eq_ok_iff.mp read
      cases mark with
      | fresh =>
          obtain ⟨after, stored, same⟩ := bind_eq_ok_iff.mp taken
          cases same
          obtain ⟨_, rfl⟩ := store_eq_ok_iff.mp stored
          exact .enter next listed
      | entered =>
          obtain ⟨cycle, closed, same⟩ := bind_eq_ok_iff.mp taken
          cases same
          exact .follow next (by simp [listed])
      | left =>
          cases taken
          exact .follow next (by simp [listed])

/-! What holds between any two turns. -/

/-- The link that was followed last from the one node leads to the other. -/
def ReachedFrom (graph : Graph) (child parent : Stop) : Prop :=
  ∃ followed link, parent.followed = followed + 1 ∧
    (Link.leaving graph.links parent.node)[followed]? = some link ∧ link.target = child.node

structure Underway (graph : Graph) (search : Search) : Prop where
  tour : OnTour graph search.starts search.marks search.path
  joined : search.path.IsChain graph.ReachedFrom

theorem isChain_reachedFrom_follow (joined : (stop :: path).IsChain graph.ReachedFrom)
    (followed : Nat) : ((⟨stop.node, followed⟩ : Stop) :: path).IsChain graph.ReachedFrom := by
  rw [List.isChain_cons] at joined ⊢
  exact joined

theorem Underway.step (underway : graph.Underway before) (step : graph.Step before after) :
    graph.Underway after := by
  obtain ⟨tour, joined⟩ := underway
  cases step with
  | skip used => exact ⟨tour.pass used, joined⟩
  | begin fresh => exact ⟨tour.begin fresh, List.isChain_singleton _⟩
  | leave none => exact ⟨tour.leave, joined.tail⟩
  | @enter starts marks stop path link next fresh =>
      refine ⟨(tour.follow (stop.followed + 1)).enter fresh, .cons_cons ?_ ?_⟩
      · exact ⟨stop.followed, link, rfl, next, rfl⟩
      · exact isChain_reachedFrom_follow joined _
  | follow next used => exact ⟨tour.follow _, isChain_reachedFrom_follow joined _⟩

/-- A turn takes a step, and there is no turn only where nothing is left. -/
theorem Underway.turn_cases (underway : graph.Underway search) :
    (graph.table.turn search = .ok none ∧ search.starts = [] ∧ search.path = []) ∨
      ∃ after found, graph.table.turn search = .ok (some (after, found)) ∧
        graph.Step search after := by
  obtain ⟨starts, marks, path⟩ := search
  have tour := underway.tour
  cases path with
  | cons stop path =>
      obtain ⟨next, found, taken, _⟩ := round_eq tour
      refine .inr ⟨_, found, ?_, step_of_round (tour.lt List.mem_cons_self) taken⟩
      rw [Table.turn, taken]
      rfl
  | nil =>
      cases starts with
      | nil => exact .inl ⟨rfl, rfl, rfl⟩
      | cons start starts =>
          have bound : start < marks.length :=
            tour.length.symm ▸ tour.inside start List.mem_cons_self
          have read := List.getElem?_eq_getElem bound
          refine .inr ?_
          rw [Table.turn, fetch_of_getElem? read, ok_bind]
          cases mark : marks[start] with
          | fresh =>
              rw [mark] at read
              refine ⟨_, [], ?_, .begin read⟩
              simp only [store_of_lt bound, ok_bind, pure_eq_ok]
          | entered => exact ⟨_, _, rfl, .skip (by simp [read, mark])⟩
          | left => exact ⟨_, _, rfl, .skip (by simp [read, mark])⟩

end Step

end Graph

/-! What a turn uses up. -/

namespace Search

variable (graph : Graph) (search : Search)

def waiting : List Nat := Graph.unentered search.starts search.marks

/-- The nodes that are still to be popped. -/
def unpopped : List Nat := search.path.map Stop.node ++ search.waiting

/-- The edges that are still to be examined. -/
def ahead : List Nat :=
  Cycle.ahead graph.links search.waiting (search.path.map (Stop.frame graph.links))

end Search

namespace Graph

variable {graph : Graph} {before after search : Search}

/-- A turn takes a node from those that wait, if it pushes one. -/
theorem Step.waiting (step : graph.Step before after) (underway : graph.Underway before) :
    (risen before.path after.path ++ after.waiting).Perm before.waiting := by
  have tour := underway.tour
  unfold Search.waiting
  cases step with
  | skip used =>
      rw [Graph.unentered_skip used]
      rfl
  | begin fresh =>
      rw [tour.unentered_begin fresh]
      rfl
  | leave none =>
      rw [risen_of_le (by simp), tour.unentered_leave]
      rfl
  | enter next fresh =>
      have listed := (List.mem_filter.mp (List.mem_of_getElem? next)).1
      have waits := (tour.mem_unentered_iff (isLive_target listed)).mpr fresh
      dsimp only
      rw [risen_cons (by simp), tour.unentered_enter fresh]
      exact (List.perm_cons_erase waits).symm
  | follow next used =>
      rw [risen_of_le (by simp)]
      rfl

/-- What is popped was on the path or is pushed. -/
theorem Step.path (step : graph.Step before after) :
    (risen after.path before.path ++ after.path.map Stop.node).Perm
      (risen before.path after.path ++ before.path.map Stop.node) := by
  cases step with
  | skip used => rfl
  | begin fresh => rfl
  | leave none =>
      dsimp only
      rw [risen_cons (by simp), risen_of_le (by simp)]
      rfl
  | enter next fresh =>
      dsimp only
      rw [risen_of_le (by simp), risen_cons (by simp)]
      rfl
  | follow next used =>
      dsimp only
      rw [risen_of_le (by simp), risen_of_le (by simp)]
      rfl

theorem hopAt?_table (graph : Graph) (node place : Nat) :
    graph.table.hopAt? node place =
      ((Link.leaving graph.links node)[place]?).map fun link => ⟨link.edge, link.target⟩ := by
  by_cases inside : node < graph.nodes.length
  · simp [Table.hopAt?, table, inside, Hop.leaving]
  · have none : Link.leaving graph.links node = [] := by
      apply List.filter_eq_nil_iff.mpr
      intro link listed source
      exact inside (of_decide_eq_true source ▸ source_lt listed)
    simp [Table.hopAt?, table, inside, none]

theorem next?_table (starts : List Nat) (marks : List Mark) (stop : Stop) (path : List Stop) :
    Search.next? graph.table ⟨starts, marks, stop :: path⟩ =
      ((Link.leaving graph.links stop.node)[stop.followed]?).map fun link =>
        ⟨link.edge, link.target⟩ :=
  hopAt?_table graph stop.node stop.followed

theorem Underway.sound (underway : graph.Underway search) : search.Sound graph.table where
  distinct := underway.tour.distinct
  entered := underway.tour.entered
  joined := by
    refine underway.joined.imp fun child parent joined => ?_
    obtain ⟨followed, link, last, next, reached⟩ := joined
    exact ⟨followed, ⟨link.edge, link.target⟩, last, by simp [hopAt?_table, next], reached⟩
  closes stop path hop last _ entered := by
    have member := (underway.tour.entered hop.node).mp entered
    have distinct := underway.tour.distinct
    rw [last] at member distinct
    have followed : (⟨stop.node, stop.followed + 1⟩ :: path : List Stop).map Stop.node =
        (stop :: path).map Stop.node := rfl
    rw [← followed] at member distinct
    obtain ⟨entry, _, found, _⟩ := Stop.exists_entry graph.links distinct member
    exact ⟨entry, found⟩

/-- A turn takes an edge from those that are ahead, if it examines one. -/
theorem Step.ahead (step : graph.Step before after) (underway : graph.Underway before) :
    ((before.next? graph.table).toList.map Hop.edge ++ after.ahead graph).Perm
      (before.ahead graph) := by
  have taken := step.waiting underway
  unfold Search.ahead
  cases step with
  | skip used => exact Cycle.ahead_perm _ taken _
  | begin fresh => exact (Cycle.ahead_enter _ _ _ _).trans (Cycle.ahead_perm _ taken _)
  | leave none =>
      rw [risen_of_le (by simp)] at taken
      rw [next?_table, none, List.map_cons, Stop.frame_of_none none]
      exact Cycle.ahead_perm _ taken _
  | enter next fresh =>
      rw [risen_cons (by simp)] at taken
      rw [next?_table, next, List.map_cons, List.map_cons, List.map_cons, Stop.frame_of_next next]
      exact ((Cycle.ahead_enter _ _ _ _).trans (Cycle.ahead_perm _ taken _)).cons _
  | follow next used =>
      rw [risen_of_le (by simp)] at taken
      rw [next?_table, next, List.map_cons, List.map_cons, Stop.frame_of_next next]
      exact (Cycle.ahead_perm _ taken _).cons _

theorem Step.unpopped (step : graph.Step before after) (underway : graph.Underway before) :
    (risen after.path before.path ++ after.unpopped).Perm before.unpopped := by
  have stops := step.path.append_right after.waiting
  rw [List.append_assoc, List.append_assoc] at stops
  exact (stops.trans (List.perm_append_comm_assoc _ _ _)).trans
    ((step.waiting underway).append_left _)

/-- Every turn uses up one thing: a start, a node of the path or an edge. -/
theorem Step.uses_one (step : graph.Step before after) :
    before.starts.length + (risen after.path before.path).length +
      ((before.next? graph.table).toList.map Hop.edge).length = after.starts.length + 1 := by
  cases step with
  | skip used => rfl
  | begin fresh => rfl
  | leave none =>
      dsimp only
      rw [risen_cons (by simp), next?_table, none]
      rfl
  | enter next fresh =>
      dsimp only
      rw [risen_of_le (by simp), next?_table, next]
      rfl
  | follow next used =>
      dsimp only
      rw [risen_of_le (by simp), next?_table, next]
      rfl

/-- The turns that are left. -/
def left (graph : Graph) (search : Search) : Nat :=
  search.starts.length + search.unpopped.length + (search.ahead graph).length

theorem Step.left (step : graph.Step before after) (underway : graph.Underway before) :
    graph.left after + 1 = graph.left before := by
  have nodes := (step.unpopped underway).length_eq
  have edges := (step.ahead underway).length_eq
  have one := step.uses_one
  rw [List.length_append] at nodes edges
  unfold Graph.left
  omega

theorem Underway.exists_run (underway : graph.Underway search) :
    ∃ turns, graph.table.Run search turns := by
  induction count : graph.left search using Nat.strong_induction_on generalizing search with
  | _ count ih =>
      rcases underway.turn_cases with ⟨ended, _⟩ | ⟨after, found, taken, step⟩
      · exact ⟨[], .done ended⟩
      · have fewer := step.left underway
        obtain ⟨turns, later⟩ := ih _ (by omega) (underway.step step) rfl
        exact ⟨_, .turn taken later⟩

theorem Underway.step_of_turn (underway : graph.Underway before) {found : List Finding}
    (taken : graph.table.turn before = .ok (some (after, found))) : graph.Step before after := by
  rcases underway.turn_cases with ⟨ended, _⟩ | ⟨_, _, again, step⟩
  · rw [taken] at ended
    cases ended
  · rw [taken] at again
    cases again
    exact step

theorem Underway.eq_of_ended (underway : graph.Underway search)
    (ended : graph.table.turn search = .ok none) : search = ⟨[], search.marks, []⟩ := by
  rcases underway.turn_cases with ⟨_, starts, path⟩ | ⟨_, _, again, _⟩
  · rw [← starts, ← path]
  · rw [ended] at again
    cases again

section Run

variable {turns : List Turn}

/-- What every turn takes from a stock that is used up in the end is the stock of the beginning. -/
theorem Underway.perm_of_run {stock : Search → List Nat} {taken : Turn → List Nat}
    (emptied : ∀ marks, stock ⟨[], marks, []⟩ = [])
    (each : ∀ before after found, graph.Underway before → graph.Step before after →
      (taken ⟨before, after, found⟩ ++ stock after).Perm (stock before))
    (underway : graph.Underway search) (run : graph.table.Run search turns) :
    (turns.flatMap taken).Perm (stock search) := by
  induction run with
  | done ended =>
      rw [underway.eq_of_ended ended, emptied]
      rfl
  | turn turned _ ih =>
      have step := underway.step_of_turn turned
      rw [List.flatMap_cons]
      exact ((ih (underway.step step)).append_left _).trans (each _ _ _ underway step)

theorem Underway.pushed (underway : graph.Underway search) (run : graph.table.Run search turns) :
    (turns.flatMap Turn.pushed).Perm search.waiting := by
  apply underway.perm_of_run (fun _ => rfl) _ run
  intro before after found underway step
  exact step.waiting underway

theorem Underway.popped (underway : graph.Underway search) (run : graph.table.Run search turns) :
    (turns.flatMap Turn.popped).Perm search.unpopped := by
  apply underway.perm_of_run (fun _ => rfl) _ run
  intro before after found underway step
  exact step.unpopped underway

theorem Underway.examined (underway : graph.Underway search)
    (run : graph.table.Run search turns) :
    (turns.flatMap (Turn.examined · graph.table)).Perm (search.ahead graph) := by
  apply underway.perm_of_run (fun _ => rfl) _ run
  intro before after found underway step
  exact step.ahead underway

theorem Underway.tried (underway : graph.Underway search) (run : graph.table.Run search turns) :
    turns.filterMap Turn.start? = search.starts := by
  induction run with
  | done ended =>
      rw [underway.eq_of_ended ended]
      rfl
  | turn turned _ ih =>
      have step := underway.step_of_turn turned
      have later := ih (underway.step step)
      cases step <;> simp [Turn.start?, later]

theorem Underway.length_run (underway : graph.Underway search)
    (run : graph.table.Run search turns) : turns.length = graph.left search := by
  induction run with
  | done ended =>
      rw [underway.eq_of_ended ended]
      rfl
  | turn turned _ ih =>
      have step := underway.step_of_turn turned
      rw [List.length_cons, ih (underway.step step), step.left underway]

theorem Underway.of_mem_run (underway : graph.Underway search)
    (run : graph.table.Run search turns) :
    ∀ turn ∈ turns, graph.Underway turn.before ∧ graph.Underway turn.after := by
  induction run with
  | done ended => exact fun _ listed => absurd listed List.not_mem_nil
  | turn turned _ ih =>
      have onward := underway.step (underway.step_of_turn turned)
      exact List.forall_mem_cons.mpr ⟨⟨underway, onward⟩, ih onward⟩

theorem Underway.found (underway : graph.Underway search) (run : graph.table.Run search turns) :
    graph.table.rest search = .ok (turns.flatMap Turn.found) := by
  induction run with
  | done ended =>
      rw [underway.eq_of_ended ended, Table.rest_nil]
      rfl
  | turn turned _ ih =>
      rw [Table.rest_of_turn turned, ih (underway.step (underway.step_of_turn turned))]
      rfl

end Run

/-! The whole search. -/

theorem underway_first (graph : Graph) : graph.Underway (.first graph) :=
  ⟨graph.onTour_first, List.isChain_nil⟩

theorem waiting_first (graph : Graph) : (Search.first graph).waiting = graph.live.map (·.2) :=
  graph.unentered_first

theorem mem_ahead_first {edge : Nat} :
    edge ∈ (Search.first graph).ahead graph ↔ ∃ link ∈ graph.links, link.edge = edge := by
  rw [Search.ahead, waiting_first]
  simp only [Cycle.ahead, Search.first, List.map_nil, List.flatMap_nil, List.nil_append,
    List.mem_flatMap, List.mem_map]
  constructor
  · rintro ⟨_, _, link, leaves, rfl⟩
    exact ⟨link, (List.mem_filter.mp leaves).1, rfl⟩
  · rintro ⟨link, listed, rfl⟩
    obtain ⟨node, live⟩ := isLive_source listed
    refine ⟨link.source, ⟨_, live, rfl⟩, link, ?_, rfl⟩
    exact List.mem_filter.mpr ⟨listed, decide_eq_true rfl⟩

theorem ahead_first_perm (graph : Graph) :
    ((Search.first graph).ahead graph).Perm graph.linking := by
  have once : ((Search.first graph).ahead graph).Nodup := by
    rw [Search.ahead, waiting_first]
    exact Cycle.nodup_ahead graph
  refine (List.perm_ext_iff_of_nodup once (List.nodup_range.filter _)).mpr fun edge => ?_
  rw [mem_ahead_first, List.mem_filter, List.mem_range]
  constructor
  · rintro ⟨link, listed, rfl⟩
    refine ⟨edge_lt listed, ?_⟩
    rw [endpoints?_eq_some_iff.mpr listed]
    rfl
  · rintro ⟨_, linked⟩
    obtain ⟨⟨source, target⟩, ends⟩ := Option.isSome_iff_exists.mp linked
    exact ⟨_, endpoints?_eq_some_iff.mp ends, rfl⟩

theorem left_first (graph : Graph) :
    graph.left (.first graph) = 2 * graph.live.length + graph.linking.length := by
  rw [left, Search.unpopped, waiting_first, graph.ahead_first_perm.length_eq, Search.first,
    List.map_nil, List.nil_append, List.length_map]
  omega

theorem rest_first (graph : Graph) :
    graph.table.rest (.first graph) = graph.table.cycles := by
  rw [Search.first, Table.rest_nil, Table.cycles, table_live, ok_bind]
  rfl

/-- On every graph the search for cycles comes to an end, and it goes once through the nodes and the
edges. -/
theorem cycle_search_exhausts (graph : Graph) :
    ∃ table turns, Table.build graph = .ok table ∧ table.Run (.first graph) turns ∧
      Exhausts graph table turns := by
  have underway := graph.underway_first
  obtain ⟨turns, run⟩ := underway.exists_run
  refine ⟨graph.table, turns, Table.build_eq graph, run, ?_⟩
  exact {
    tried := underway.tried run
    pushed := graph.waiting_first ▸ underway.pushed run
    popped := graph.waiting_first ▸ underway.popped run
    examined := (underway.examined run).trans graph.ahead_first_perm
    length := (underway.length_run run).trans graph.left_first
    sound := by
      intro turn listed
      obtain ⟨before, after⟩ := underway.of_mem_run run turn listed
      exact ⟨before.sound, after.sound⟩
    found := by
      have cycles := underway.found run
      rw [rest_first, table_cycles] at cycles
      exact (Except.ok.inj cycles).symm }

end Graph

end DecisionGraph
