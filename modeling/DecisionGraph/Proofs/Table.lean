import DecisionGraph.Proofs.Access
import DecisionGraph.Proofs.Position

/-!
Positions of nodes and edges, worked out once for all checks. The table is filled by two loops that
write at positions; no write misses, and every position that the table holds is one of the graph.
-/

namespace DecisionGraph

open Access

/-- An edge and the node at its other end. -/
structure Hop where
  edge : Nat
  node : Nat
  deriving DecidableEq

structure Table where
  graph : Graph
  /-- Where the ids are declared first. -/
  places : List (String × Nat)
  /-- Whether an earlier node has the id of a node. -/
  shadowed : List Bool
  /-- The ends of every edge, if both are declared. -/
  endpoints : List (Option (Nat × Nat))
  outgoing : List (List Hop)
  incoming : List (List Hop)

namespace Table

/-- What the nodes up to some point declare. -/
structure Names where
  places : List (String × Nat)
  shadowed : List Bool

/-- What the edges up to some point link. -/
structure Wires where
  endpoints : List (Option (Nat × Nat))
  outgoing : List (List Hop)
  incoming : List (List Hop)

def declare (names : Names) (entry : Node × Nat) : Access Names :=
  match names.places.lookup entry.1.id with
  | some _ => do return { names with shadowed := ← store names.shadowed entry.2 true }
  | none => return { names with places := names.places ++ [(entry.1.id, entry.2)] }

def push (rows : List (List Hop)) (position : Nat) (hop : Hop) : Access (List (List Hop)) := do
  let row ← fetch rows position
  store rows position (row ++ [hop])

def connect (places : List (String × Nat)) (wires : Wires) (entry : Edge × Nat) : Access Wires :=
  match places.lookup entry.1.source, places.lookup entry.1.target with
  | some source, some target => do
    let outgoing ← push wires.outgoing source ⟨entry.2, target⟩
    let incoming ← push wires.incoming target ⟨entry.2, source⟩
    return ⟨wires.endpoints ++ [some (source, target)], outgoing, incoming⟩
  | _, _ => return { wires with endpoints := wires.endpoints ++ [none] }

def build (graph : Graph) : Access Table := do
  let count := graph.nodes.length
  let names ← graph.nodes.zipIdx.foldlM declare ⟨[], List.replicate count false⟩
  let wires ← graph.edges.zipIdx.foldlM (connect names.places)
    ⟨[], List.replicate count [], List.replicate count []⟩
  return ⟨graph, names.places, names.shadowed, wires.endpoints, wires.outgoing, wires.incoming⟩

end Table

namespace Hop

def leaving (links : List Link) (position : Nat) : List Hop :=
  (Link.leaving links position).map fun link => ⟨link.edge, link.target⟩

def entering (links : List Link) (position : Nat) : List Hop :=
  (Link.entering links position).map fun link => ⟨link.edge, link.source⟩

end Hop

namespace Graph

variable (graph : Graph)

def declares (entry : Node × Nat) : Bool := graph.position? entry.1.id = some entry.2

/-- The names after the first `count` nodes. -/
def namesTo (count : Nat) : Table.Names where
  places := ((graph.nodes.zipIdx.take count).filter graph.declares).map fun entry =>
    (entry.1.id, entry.2)
  shadowed := graph.nodes.zipIdx.map fun entry => entry.2 < count && !graph.declares entry

def linkOf? (entry : Edge × Nat) : Option Link :=
  (graph.endsOf? entry.1).map fun ends => ⟨entry.2, ends.1, ends.2⟩

/-- The wires after the first `count` edges. -/
def wiresTo (count : Nat) : Table.Wires :=
  let links := (graph.edges.zipIdx.take count).filterMap graph.linkOf?
  { endpoints := (graph.edges.zipIdx.take count).map fun entry => graph.endsOf? entry.1
    outgoing := (List.range graph.nodes.length).map (Hop.leaving links)
    incoming := (List.range graph.nodes.length).map (Hop.entering links) }

/-- What the loops come to. -/
def table : Table where
  graph := graph
  places := graph.live.map fun entry => (entry.1.id, entry.2)
  shadowed := graph.nodes.zipIdx.map fun entry => !graph.declares entry
  endpoints := graph.edges.map graph.endsOf?
  outgoing := (List.range graph.nodes.length).map (Hop.leaving graph.links)
  incoming := (List.range graph.nodes.length).map (Hop.entering graph.links)

end Graph

/-! The first loop. -/

theorem lookup_eq_some_iff {pairs : List (String × Nat)} {id : String} {position : Nat}
    (once : ∀ first ∈ pairs, ∀ second ∈ pairs, first.1 = second.1 → first.2 = second.2) :
    pairs.lookup id = some position ↔ (id, position) ∈ pairs := by
  induction pairs with
  | nil => simp
  | cons pair pairs ih =>
      obtain ⟨name, place⟩ := pair
      have rest := ih fun first listed second also =>
        once first (List.mem_cons_of_mem _ listed) second (List.mem_cons_of_mem _ also)
      by_cases same : id = name
      · subst same
        rw [List.lookup_cons_self, Option.some.injEq]
        constructor
        · rintro rfl
          exact List.mem_cons_self
        · intro listed
          exact once (id, place) List.mem_cons_self (id, position) listed rfl
      · rw [List.lookup_cons, beq_false_of_ne same, List.mem_cons]
        simp [rest, same]

namespace Graph

variable (graph : Graph)

theorem declares_iff {entry : Node × Nat} :
    graph.declares entry = true ↔ graph.position? entry.1.id = some entry.2 := decide_eq_true_iff

theorem mem_take_zipIdx {α : Type} {items : List α} {count position : Nat} {item : α} :
    (item, position) ∈ items.zipIdx.take count ↔
      items[position]? = some item ∧ position < count := by
  rw [List.mem_iff_getElem?]
  constructor
  · rintro ⟨place, listed⟩
    rw [List.getElem?_take] at listed
    split at listed
    · next inside =>
      rw [List.getElem?_zipIdx, Option.map_eq_some_iff] at listed
      obtain ⟨_, found, same⟩ := listed
      cases same
      exact ⟨by simpa using found, by simpa using inside⟩
    · cases listed
  · rintro ⟨listed, inside⟩
    exact ⟨position, by simp [inside, List.getElem?_zipIdx, listed]⟩

theorem lookup_namesTo (count : Nat) (id : String) :
    (graph.namesTo count).places.lookup id = (graph.position? id).filter (· < count) := by
  have mem (name : String) (position : Nat) : (name, position) ∈ (graph.namesTo count).places ↔
      graph.position? name = some position ∧ position < count := by
    simp only [namesTo, List.mem_map, List.mem_filter, Prod.exists, Prod.mk.injEq, declares_iff]
    constructor
    · rintro ⟨node, place, ⟨listed, found⟩, rfl, rfl⟩
      exact ⟨found, (mem_take_zipIdx.mp listed).2⟩
    · rintro ⟨found, inside⟩
      obtain ⟨node, listed, rfl⟩ := getElem?_of_position? found
      exact ⟨node, position, ⟨mem_take_zipIdx.mpr ⟨listed, inside⟩, found⟩, rfl, rfl⟩
  refine Option.ext fun position => ?_
  rw [lookup_eq_some_iff, mem, Option.filter_eq_some_iff, decide_eq_true_iff]
  rintro ⟨name, first⟩ listed ⟨other, second⟩ also (rfl : name = other)
  have found := ((mem _ _).mp listed).1
  rw [((mem _ _).mp also).1] at found
  exact (Option.some.inj found).symm

theorem exists_position_le {node : Node} {position : Nat}
    (listed : graph.nodes[position]? = some node) :
    ∃ first ≤ position, graph.position? node.id = some first := by
  obtain ⟨bound, here⟩ := List.getElem?_eq_some_iff.mp listed
  obtain ⟨first, found⟩ := Option.isSome_iff_exists.mp
    (position?_isSome_iff.mpr ⟨node, List.mem_of_getElem? listed, rfl⟩)
  refine ⟨first, Nat.le_of_not_lt fun later => ?_, found⟩
  obtain ⟨_, _, earlier⟩ := List.findIdx?_eq_some_iff_getElem.mp found
  have other := earlier position later
  rw [here] at other
  simp at other

section Declare

variable {graph} {node : Node} {count : Nat} (listed : graph.nodes[count]? = some node)

include listed

theorem take_zipIdx_succ :
    graph.nodes.zipIdx.take (count + 1) = graph.nodes.zipIdx.take count ++ [(node, count)] := by
  have numbered : graph.nodes.zipIdx[count]? = some (node, count) := by
    simp [List.getElem?_zipIdx, listed]
  rw [List.take_add_one, numbered]
  rfl

theorem eq_of_mem_zipIdx {other : Node × Nat} (among : other ∈ graph.nodes.zipIdx)
    (same : other.2 = count) : other = (node, count) := by
  have member := List.mem_zipIdx_iff_getElem?.mp among
  rw [same, listed] at member
  exact Prod.ext (Option.some.inj member).symm same

theorem namesTo_of_declares (declares : graph.declares (node, count) = true) :
    graph.namesTo (count + 1) = { graph.namesTo count with
      places := (graph.namesTo count).places ++ [(node.id, count)] } := by
  simp only [namesTo, take_zipIdx_succ listed, List.filter_append, List.map_append,
    Table.Names.mk.injEq]
  constructor
  · simp [declares]
  · refine List.map_congr_left fun other among => ?_
    by_cases same : other.2 = count
    · rw [eq_of_mem_zipIdx listed among same, declares]
      simp
    · have bounds : other.2 < count + 1 ↔ other.2 < count := by omega
      rw [decide_eq_decide.mpr bounds]

theorem namesTo_of_shadowed (repeats : graph.declares (node, count) = false) :
    graph.namesTo (count + 1) = { graph.namesTo count with
      shadowed := (graph.namesTo count).shadowed.set count true } := by
  simp only [namesTo, take_zipIdx_succ listed, List.filter_append, List.map_append,
    Table.Names.mk.injEq]
  constructor
  · simp [repeats]
  · refine List.ext_getElem? fun place => ?_
    rw [List.getElem?_set, List.getElem?_map, List.getElem?_map, List.getElem?_zipIdx]
    by_cases same : count = place
    · subst same
      have bound := (List.getElem?_eq_some_iff.mp listed).1
      rw [listed, if_pos rfl, if_pos (by simpa using bound)]
      simp [repeats]
    · rw [if_neg same]
      cases graph.nodes[place]? with
      | none => rfl
      | some other =>
          have bounds : place < count + 1 ↔ place < count := by omega
          simp only [Option.map_some, Nat.zero_add, decide_eq_decide.mpr bounds]

end Declare

theorem declare_namesTo (count : Nat) (entry : Node × Nat)
    (listed : graph.nodes.zipIdx[count]? = some entry) :
    Table.declare (graph.namesTo count) entry = .ok (graph.namesTo (count + 1)) := by
  obtain ⟨node, position⟩ := entry
  have here : graph.nodes[count]? = some node ∧ count = position := by
    rw [List.getElem?_zipIdx] at listed
    simpa using listed
  obtain ⟨found, rfl⟩ := here
  obtain ⟨first, before, declared⟩ := graph.exists_position_le found
  rw [Table.declare, lookup_namesTo, declared]
  by_cases own : first = count
  · have declares : graph.declares (node, count) = true :=
      graph.declares_iff.mpr (own ▸ declared)
    rw [namesTo_of_declares found declares, Option.filter_some, if_neg (by simp [own])]
    rfl
  · have repeats : graph.declares (node, count) = false := by
      rw [Bool.eq_false_iff, ne_eq, declares_iff, declared, Option.some.injEq]
      exact own
    have earlier : first < count := by omega
    have bound : count < (graph.namesTo count).shadowed.length := by
      simpa [namesTo] using (List.getElem?_eq_some_iff.mp found).1
    rw [namesTo_of_shadowed found repeats, Option.filter_some, if_pos (decide_eq_true earlier)]
    simp only [store_of_lt bound]
    rfl

theorem namesTo_zero :
    graph.namesTo 0 = ⟨[], List.replicate graph.nodes.length false⟩ := by
  simp only [namesTo, List.take_zero, List.filter_nil, List.map_nil, Table.Names.mk.injEq,
    true_and, Nat.not_lt_zero, decide_false, Bool.false_and]
  rw [List.map_const', List.length_zipIdx]

theorem namesTo_length :
    graph.namesTo graph.nodes.zipIdx.length = ⟨graph.table.places, graph.table.shadowed⟩ := by
  simp only [namesTo, List.take_length, Table.Names.mk.injEq]
  refine ⟨rfl, List.map_congr_left fun entry listed => ?_⟩
  have member := List.mem_zipIdx_iff_getElem?.mp listed
  have inside := (List.getElem?_eq_some_iff.mp member).1
  simp [inside]

theorem names_eq :
    graph.nodes.zipIdx.foldlM Table.declare ⟨[], List.replicate graph.nodes.length false⟩ =
      .ok ⟨graph.table.places, graph.table.shadowed⟩ := by
  rw [← namesTo_zero, ← namesTo_length]
  exact foldlM_eq_ok graph.declare_namesTo

theorem lookup_places (id : String) : graph.table.places.lookup id = graph.position? id := by
  have found := graph.lookup_namesTo graph.nodes.zipIdx.length id
  rw [namesTo_length] at found
  rw [found]
  cases declared : graph.position? id with
  | none => rfl
  | some position =>
      have inside := lt_of_position? declared
      simp [inside]

/-! The second loop. -/

end Graph

theorem Table.push_rows {count position : Nat} (inside : position < count)
    (row : Nat → List Hop) (hop : Hop) :
    push ((List.range count).map row) position hop =
      .ok ((List.range count).map fun other =>
        if other = position then row other ++ [hop] else row other) := by
  rw [push, fetch_map_range inside, ok_bind, store_of_lt (by simpa using inside)]
  refine congrArg _ (List.ext_getElem? fun place => ?_)
  rw [List.getElem?_set, List.getElem?_map, List.getElem?_map]
  by_cases same : position = place
  · subst same
    simp [inside]
  · rw [if_neg same]
    by_cases bound : place < count
    · simp [bound, Ne.symm same]
    · simp [bound]

namespace Hop

theorem map_node_leaving (links : List Link) (position : Nat) :
    (leaving links position).map node = (Link.leaving links position).map Link.target := by
  rw [leaving, List.map_map]
  rfl

theorem map_node_entering (links : List Link) (position : Nat) :
    (entering links position).map node = (Link.entering links position).map Link.source := by
  rw [entering, List.map_map]
  rfl

theorem leaving_append (links : List Link) (link : Link) :
    leaving (links ++ [link]) = fun position =>
      if position = link.source then leaving links position ++ [⟨link.edge, link.target⟩]
      else leaving links position := by
  funext position
  rw [leaving, Link.leaving, List.filter_append, List.map_append]
  by_cases same : position = link.source
  · simp [same, leaving, Link.leaving]
  · simp [same, Ne.symm same, leaving, Link.leaving]

theorem entering_append (links : List Link) (link : Link) :
    entering (links ++ [link]) = fun position =>
      if position = link.target then entering links position ++ [⟨link.edge, link.source⟩]
      else entering links position := by
  funext position
  rw [entering, Link.entering, List.filter_append, List.map_append]
  by_cases same : position = link.target
  · simp [same, entering, Link.entering]
  · simp [same, Ne.symm same, entering, Link.entering]

end Hop

namespace Graph

variable (graph : Graph)

theorem connect_wiresTo (count : Nat) (entry : Edge × Nat)
    (listed : graph.edges.zipIdx[count]? = some entry) :
    Table.connect graph.table.places (graph.wiresTo count) entry =
      .ok (graph.wiresTo (count + 1)) := by
  have taken : graph.edges.zipIdx.take (count + 1) = graph.edges.zipIdx.take count ++ [entry] := by
    rw [List.take_add_one, listed]
    rfl
  rw [Table.connect, lookup_places, lookup_places]
  simp only [wiresTo, taken, List.filterMap_append, List.map_append]
  cases source : graph.position? entry.1.source with
  | none => simp [linkOf?, endsOf?, source]
  | some start =>
      cases target : graph.position? entry.1.target with
      | none => simp [linkOf?, endsOf?, source, target]
      | some stop =>
          have link : [entry].filterMap graph.linkOf? = [⟨entry.2, start, stop⟩] := by
            simp [linkOf?, endsOf?, source, target]
          have ends : graph.endsOf? entry.1 = some (start, stop) := by
            simp [endsOf?, source, target]
          simp only [link, Table.push_rows (lt_of_position? source),
            Table.push_rows (lt_of_position? target), ok_bind, pure_eq_ok, List.map_cons,
            List.map_nil, ends, Hop.leaving_append, Hop.entering_append]

theorem wires_eq :
    graph.edges.zipIdx.foldlM (Table.connect graph.table.places)
        ⟨[], List.replicate graph.nodes.length [], List.replicate graph.nodes.length []⟩ =
      .ok ⟨graph.table.endpoints, graph.table.outgoing, graph.table.incoming⟩ := by
  have start : graph.wiresTo 0 =
      ⟨[], List.replicate graph.nodes.length [], List.replicate graph.nodes.length []⟩ := by
    have left : Hop.leaving [] = fun _ => [] := rfl
    have entered : Hop.entering [] = fun _ => [] := rfl
    simp only [wiresTo, List.take_zero, List.filterMap_nil, List.map_nil, left, entered,
      List.map_const', List.length_range]
  have stop : graph.wiresTo graph.edges.zipIdx.length =
      ⟨graph.table.endpoints, graph.table.outgoing, graph.table.incoming⟩ := by
    have ends : graph.edges.zipIdx.map (fun entry => graph.endsOf? entry.1) =
        graph.edges.map graph.endsOf? := by
      conv => rhs; rw [← List.zipIdx_map_fst 0 graph.edges, List.map_map]
      rfl
    simp only [wiresTo, List.take_length, ends]
    rfl
  rw [← start, ← stop]
  exact foldlM_eq_ok graph.connect_wiresTo

end Graph

/-- The table is filled without an overrun. -/
theorem Table.build_eq (graph : Graph) : build graph = .ok graph.table := by
  rw [build, graph.names_eq, ok_bind, graph.wires_eq]
  rfl

/-! Positions that the table holds. -/

/-- The lists of a table are as long as those of the graph, and every position in them is one of the
graph. -/
structure Table.Inside (table : Table) : Prop where
  places : ∀ place ∈ table.places, place.2 < table.graph.nodes.length
  shadowed : table.shadowed.length = table.graph.nodes.length
  endpoints : table.endpoints.length = table.graph.edges.length
  ends : ∀ ends, some ends ∈ table.endpoints →
    ends.1 < table.graph.nodes.length ∧ ends.2 < table.graph.nodes.length
  outgoing : table.outgoing.length = table.graph.nodes.length
  incoming : table.incoming.length = table.graph.nodes.length
  hops : ∀ row ∈ table.outgoing ++ table.incoming, ∀ hop ∈ row,
    hop.edge < table.graph.edges.length ∧ hop.node < table.graph.nodes.length

namespace Graph

variable {graph : Graph}

theorem edge_lt {link : Link} (listed : link ∈ graph.links) : link.edge < graph.edges.length := by
  obtain ⟨_, found, _, _⟩ := mem_links_iff.mp listed
  exact (List.getElem?_eq_some_iff.mp found).1

theorem hop_leaving_lt {position : Nat} {hop : Hop}
    (listed : hop ∈ Hop.leaving graph.links position) :
    hop.edge < graph.edges.length ∧ position < graph.nodes.length ∧
      hop.node < graph.nodes.length := by
  obtain ⟨link, leaving, rfl⟩ := List.mem_map.mp listed
  obtain ⟨linked, same⟩ := List.mem_filter.mp leaving
  exact ⟨edge_lt linked, of_decide_eq_true same ▸ source_lt linked, target_lt linked⟩

theorem hop_entering_lt {position : Nat} {hop : Hop}
    (listed : hop ∈ Hop.entering graph.links position) :
    hop.edge < graph.edges.length ∧ position < graph.nodes.length ∧
      hop.node < graph.nodes.length := by
  obtain ⟨link, entering, rfl⟩ := List.mem_map.mp listed
  obtain ⟨linked, same⟩ := List.mem_filter.mp entering
  exact ⟨edge_lt linked, of_decide_eq_true same ▸ target_lt linked, source_lt linked⟩

theorem table_inside (graph : Graph) : graph.table.Inside where
  places := by
    intro place listed
    obtain ⟨entry, live, rfl⟩ := List.mem_map.mp listed
    exact lt_of_position? (mem_live_iff.mp live).2
  shadowed := by simp [table]
  endpoints := by simp [table]
  ends := by
    intro ends listed
    obtain ⟨edge, _, found⟩ := List.mem_map.mp listed
    unfold endsOf? at found
    split at found
    · next source target =>
      cases found
      exact ⟨lt_of_position? source, lt_of_position? target⟩
    · cases found
  outgoing := by simp [table]
  incoming := by simp [table]
  hops := by
    intro row listed hop among
    rcases List.mem_append.mp listed with listed | listed
    · obtain ⟨position, _, rfl⟩ := List.mem_map.mp listed
      exact (hop_leaving_lt among).imp_right And.right
    · obtain ⟨position, _, rfl⟩ := List.mem_map.mp listed
      exact (hop_entering_lt among).imp_right And.right

end Graph

end DecisionGraph
