import DecisionGraph.Proofs.CycleReport
import DecisionGraph.Proofs.Lookup
import Mathlib.Order.Bounds.Basic

/-!
What can be looked up about a graph: where an id is declared, what an edge links, the hops out of and
into a node, the category of a factor. The lookups of the checks and those of a table that is filled
edge by edge are the same, and they are exact.
-/

namespace DecisionGraph

open Access

structure Directory where
  position? : String → Option Nat
  isShadowed : Nat → Bool
  endpoints? : Nat → Option (Nat × Nat)
  outgoing : Nat → List Hop
  incoming : Nat → List Hop
  /-- One entry for each node, none for those that are no factors. -/
  categories : List (Option Category)

/-- The lookups of the checks. -/
def Graph.directory (graph : Graph) : Directory where
  position? := graph.position?
  isShadowed := graph.isShadowed
  endpoints? := graph.endpoints?
  outgoing := Hop.leaving graph.links
  incoming := Hop.entering graph.links
  categories := graph.categories

/-- The lookups in a table. Behind the end there is nothing. -/
def Table.directory (table : Table) : Access Directory := do
  return {
    position? := table.position?
    isShadowed := table.isShadowed
    endpoints? := fun edge => table.endpoints[edge]?.join
    outgoing := fun position => table.outgoing[position]?.getD []
    incoming := fun position => table.incoming[position]?.getD []
    categories := ← table.categories }

namespace Graph

def DeclaredAt (graph : Graph) (id : String) (position : Nat) : Prop :=
  ∃ node, graph.nodes[position]? = some node ∧ node.id = id

end Graph

namespace Directory

/-- An edge leads to the position from an option, the first node with its id. -/
def SetByOption (directory : Directory) (graph : Graph) (position : Nat) : Prop :=
  ∃ edge source option, directory.endpoints? edge = some (source, position) ∧
    graph.nodes[source]? = some option ∧ option.kind = .option

def Infers (directory : Directory) (graph : Graph) (position : Nat) (node : Node) :
    Category → Prop
  | .controllable => directory.SetByOption graph position
  | .observable => ¬ directory.SetByOption graph position ∧ node.IsMeasured
  | .external => ¬ directory.SetByOption graph position ∧ ¬ node.IsMeasured

structure Exact (directory : Directory) (graph : Graph) : Prop where
  declared : ∀ id position, directory.position? id = some position ↔
    IsLeast {place | graph.DeclaredAt id place} position
  undeclared : ∀ id, directory.position? id = none ↔ ∀ position, ¬ graph.DeclaredAt id position
  shadowed : ∀ position, directory.isShadowed position = true ↔
    ∃ node, graph.nodes[position]? = some node ∧ directory.position? node.id ≠ some position
  /-- Behind the last edge there is none, and so nothing that it links. -/
  endpoints : ∀ edge source target, directory.endpoints? edge = some (source, target) ↔
    ∃ listed, graph.edges[edge]? = some listed ∧
      directory.position? listed.source = some source ∧
      directory.position? listed.target = some target
  outgoing : ∀ position hop, hop ∈ directory.outgoing position ↔
    directory.endpoints? hop.edge = some (position, hop.node)
  incoming : ∀ position hop, hop ∈ directory.incoming position ↔
    directory.endpoints? hop.edge = some (hop.node, position)
  /-- In the order of the edges, and so each of them once. -/
  ordered : ∀ position, ((directory.outgoing position).map Hop.edge).Pairwise (· < ·) ∧
    ((directory.incoming position).map Hop.edge).Pairwise (· < ·)
  leaveOnce : ((List.range graph.nodes.length).flatMap fun position =>
      (directory.outgoing position).map Hop.edge).Perm
    ((List.range graph.edges.length).filter fun edge => (directory.endpoints? edge).isSome)
  enterOnce : ((List.range graph.nodes.length).flatMap fun position =>
      (directory.incoming position).map Hop.edge).Perm
    ((List.range graph.edges.length).filter fun edge => (directory.endpoints? edge).isSome)
  bare : ∀ position, directory.isShadowed position = true →
    directory.outgoing position = [] ∧ directory.incoming position = []
  marks : directory.categories.length = graph.nodes.length
  marked : ∀ position category, directory.categories[position]? = some (some category) ↔
    ∃ node, graph.nodes[position]? = some node ∧ node.kind = .factor ∧
      directory.Infers graph position node category

end Directory

namespace Graph

variable {graph : Graph}

/-! Ids. -/

theorem position?_eq_some_iff_isLeast {id : String} {position : Nat} :
    graph.position? id = some position ↔
      IsLeast {place | graph.DeclaredAt id place} position := by
  constructor
  · intro found
    constructor
    · exact getElem?_of_position? found
    · intro place declared
      obtain ⟨node, listed, rfl⟩ := declared
      obtain ⟨first, before, same⟩ := graph.exists_position_le listed
      rw [found, Option.some.injEq] at same
      omega
  · intro least
    obtain ⟨⟨node, listed, rfl⟩, lower⟩ := least
    obtain ⟨first, before, found⟩ := graph.exists_position_le listed
    have after : position ≤ first := lower (getElem?_of_position? found)
    rw [found, Nat.le_antisymm before after]

theorem position?_eq_none_iff {id : String} :
    graph.position? id = none ↔ ∀ position, ¬ graph.DeclaredAt id position := by
  constructor
  · intro absent position declared
    obtain ⟨node, listed, rfl⟩ := declared
    obtain ⟨first, before, found⟩ := graph.exists_position_le listed
    rw [absent] at found
    cases found
  · intro absent
    cases found : graph.position? id with
    | none => rfl
    | some position => exact absurd (getElem?_of_position? found) (absent position)

theorem isShadowed_iff {position : Nat} :
    graph.isShadowed position = true ↔
      ∃ node, graph.nodes[position]? = some node ∧ graph.position? node.id ≠ some position := by
  unfold isShadowed
  cases graph.nodes[position]? <;> simp

/-- A node that its id does not find is at no end of a link. -/
theorem not_isShadowed_of_position? {id : String} {position : Nat}
    (found : graph.position? id = some position) : graph.isShadowed position = false := by
  obtain ⟨node, listed, rfl⟩ := getElem?_of_position? found
  apply Bool.eq_false_iff.mpr
  intro shadowed
  obtain ⟨other, also, apart⟩ := isShadowed_iff.mp shadowed
  rw [listed, Option.some.injEq] at also
  subst also
  exact apart found

/-! Hops. -/

theorem mem_hopLeaving_iff {position : Nat} {hop : Hop} :
    hop ∈ Hop.leaving graph.links position ↔
      graph.endpoints? hop.edge = some (position, hop.node) := by
  rw [endpoints?_eq_some_iff, Hop.leaving, Link.leaving, List.mem_map]
  constructor
  · rintro ⟨link, listed, rfl⟩
    obtain ⟨linked, same⟩ := List.mem_filter.mp listed
    rw [← of_decide_eq_true same]
    exact linked
  · intro linked
    exact ⟨⟨hop.edge, position, hop.node⟩, List.mem_filter.mpr ⟨linked, decide_eq_true rfl⟩, rfl⟩

theorem mem_hopEntering_iff {position : Nat} {hop : Hop} :
    hop ∈ Hop.entering graph.links position ↔
      graph.endpoints? hop.edge = some (hop.node, position) := by
  rw [endpoints?_eq_some_iff, Hop.entering, Link.entering, List.mem_map]
  constructor
  · rintro ⟨link, listed, rfl⟩
    obtain ⟨linked, same⟩ := List.mem_filter.mp listed
    rw [← of_decide_eq_true same]
    exact linked
  · intro linked
    exact ⟨⟨hop.edge, hop.node, position⟩, List.mem_filter.mpr ⟨linked, decide_eq_true rfl⟩, rfl⟩

theorem mem_edges_leaving_iff {position edge : Nat} :
    edge ∈ (Hop.leaving graph.links position).map Hop.edge ↔
      ∃ ends, graph.endpoints? edge = some ends ∧ ends.1 = position := by
  rw [List.mem_map]
  constructor
  · rintro ⟨hop, listed, rfl⟩
    exact ⟨(position, hop.node), mem_hopLeaving_iff.mp listed, rfl⟩
  · rintro ⟨⟨source, target⟩, linked, rfl⟩
    exact ⟨⟨edge, target⟩, mem_hopLeaving_iff.mpr linked, rfl⟩

theorem mem_edges_entering_iff {position edge : Nat} :
    edge ∈ (Hop.entering graph.links position).map Hop.edge ↔
      ∃ ends, graph.endpoints? edge = some ends ∧ ends.2 = position := by
  rw [List.mem_map]
  constructor
  · rintro ⟨hop, listed, rfl⟩
    exact ⟨(hop.node, position), mem_hopEntering_iff.mp listed, rfl⟩
  · rintro ⟨⟨source, target⟩, linked, rfl⟩
    exact ⟨⟨edge, source⟩, mem_hopEntering_iff.mpr linked, rfl⟩

theorem pairwise_edge_links (graph : Graph) : (graph.links.map Link.edge).Pairwise (· < ·) := by
  refine (pairwise_zipIdx graph.edges).sublist (map_filterMap_sublist ?_ _)
  intro entry link made
  obtain ⟨ends, _, rfl⟩ := Option.map_eq_some_iff.mp made
  rfl

theorem pairwise_edge_leaving (graph : Graph) (position : Nat) :
    ((Hop.leaving graph.links position).map Hop.edge).Pairwise (· < ·) := by
  rw [Hop.leaving, List.map_map]
  exact graph.pairwise_edge_links.sublist (List.filter_sublist.map _)

theorem pairwise_edge_entering (graph : Graph) (position : Nat) :
    ((Hop.entering graph.links position).map Hop.edge).Pairwise (· < ·) := by
  rw [Hop.entering, List.map_map]
  exact graph.pairwise_edge_links.sublist (List.filter_sublist.map _)

theorem lt_of_endpoints? {edge source target : Nat}
    (linked : graph.endpoints? edge = some (source, target)) :
    edge < graph.edges.length ∧ source < graph.nodes.length ∧ target < graph.nodes.length := by
  have listed := endpoints?_eq_some_iff.mp linked
  exact ⟨edge_lt listed, source_lt listed, target_lt listed⟩

/-- Rows of hops, one for each node, that list an edge just where one of its ends is. Then each edge
that links anything is listed once in all of them. -/
theorem hops_perm {rows : Nat → List Hop} {home : Nat × Nat → Nat}
    (inside : ∀ edge ends, graph.endpoints? edge = some ends → home ends < graph.nodes.length)
    (listed : ∀ edge position, edge ∈ (rows position).map Hop.edge ↔
      ∃ ends, graph.endpoints? edge = some ends ∧ home ends = position)
    (ordered : ∀ position, ((rows position).map Hop.edge).Pairwise (· < ·)) :
    ((List.range graph.nodes.length).flatMap fun position => (rows position).map Hop.edge).Perm
      ((List.range graph.edges.length).filter fun edge => (graph.endpoints? edge).isSome) := by
  have once : ((List.range graph.nodes.length).flatMap fun position =>
      (rows position).map Hop.edge).Nodup := by
    have apart : ((List.range graph.nodes.length).map id).Nodup := by
      rw [List.map_id]
      exact List.nodup_range
    apply nodup_flatMap_of_key apart
    · intro first second edge here there
      obtain ⟨ends, linked, rfl⟩ := (listed edge first).mp here
      obtain ⟨others, also, rfl⟩ := (listed edge second).mp there
      rw [linked, Option.some.injEq] at also
      rw [also]
    · intro position _
      exact (ordered position).imp Nat.ne_of_lt
  refine (List.perm_ext_iff_of_nodup once (List.nodup_range.filter _)).mpr fun edge => ?_
  simp only [List.mem_flatMap, List.mem_filter, List.mem_range, listed]
  constructor
  · rintro ⟨position, _, ends, linked, rfl⟩
    exact ⟨(lt_of_endpoints? linked).1, by rw [linked]; rfl⟩
  · rintro ⟨_, links⟩
    obtain ⟨ends, linked⟩ := Option.isSome_iff_exists.mp links
    exact ⟨home ends, inside edge ends linked, ends, linked, rfl⟩

/-! Categories. -/

theorem hasOptionParent_iff_setByOption {position : Nat} :
    graph.hasOptionParent graph.links position = true ↔
      graph.directory.SetByOption graph position := by
  rw [hasOptionParent, List.any_eq_true]
  constructor
  · rintro ⟨link, listed, kind⟩
    obtain ⟨linked, same⟩ := List.mem_filter.mp listed
    obtain ⟨option, found, isOption⟩ := Option.map_eq_some_iff.mp (of_decide_eq_true kind)
    refine ⟨link.edge, link.source, option, ?_, found, isOption⟩
    apply endpoints?_eq_some_iff.mpr
    rw [← of_decide_eq_true same]
    exact linked
  · rintro ⟨edge, source, option, linked, found, isOption⟩
    refine ⟨⟨edge, source, position⟩, ?_, ?_⟩
    · exact List.mem_filter.mpr ⟨endpoints?_eq_some_iff.mp linked, decide_eq_true rfl⟩
    · apply decide_eq_true
      rw [kindAt?, found, Option.map_some, isOption]

theorem categoryOf_eq_some_iff {node : Node} {position : Nat} {category : Category} :
    graph.categoryOf graph.links node position = some category ↔
      node.kind = .factor ∧ graph.directory.Infers graph position node category := by
  have measured := isMeasured_iff node
  obtain ⟨id, label, body⟩ := node
  cases body with
  | factor declared data =>
      have parent : graph.hasOptionParent graph.links position = true ↔
          graph.directory.SetByOption graph position := hasOptionParent_iff_setByOption
      change (data.bind FactorData.finiteValue?).isSome = true ↔ _ at measured
      simp only [categoryOf, Node.kind, NodeBody.kind, true_and]
      by_cases isSet : graph.directory.SetByOption graph position
      · rw [if_pos (parent.mpr isSet)]
        cases category <;> simp [Directory.Infers, isSet]
      · rw [if_neg fun found => isSet (parent.mp found)]
        by_cases has : (data.bind FactorData.finiteValue?).isSome = true
        · rw [if_pos has]
          cases category <;> simp [Directory.Infers, isSet, measured.mp has]
        · rw [if_neg has]
          have unmeasured := mt measured.mpr has
          cases category <;> simp [Directory.Infers, isSet, unmeasured]
  | _ => simp [categoryOf, Node.kind, NodeBody.kind]

theorem getElem?_categories_eq_some_iff {position : Nat} {category : Category} :
    graph.categories[position]? = some (some category) ↔
      ∃ node, graph.nodes[position]? = some node ∧ node.kind = .factor ∧
        graph.directory.Infers graph position node category := by
  simp only [categories, List.getElem?_map, List.getElem?_zipIdx, Option.map_eq_some_iff,
    Nat.zero_add, exists_exists_and_eq_and, categoryOf_eq_some_iff]

/-! The table. -/

theorem table_directory (graph : Graph) : graph.table.directory = .ok graph.directory := by
  have positions : graph.table.position? = graph.position? := funext graph.table_position?
  have shadowed : graph.table.isShadowed = graph.isShadowed := by
    funext position
    cases listed : graph.nodes[position]? with
    | none => simp [Table.isShadowed, isShadowed, table, List.getElem?_zipIdx, listed]
    | some node => exact table_isShadowed listed
  have ends : (fun edge => graph.table.endpoints[edge]?.join) = graph.endpoints? := by
    funext edge
    cases listed : graph.edges[edge]? <;> simp [table, endpoints?, listed]
  have outside {position : Nat} (behind : ¬ position < graph.nodes.length) :
      Hop.leaving graph.links position = [] ∧ Hop.entering graph.links position = [] := by
    constructor
    · apply List.eq_nil_iff_forall_not_mem.mpr
      intro hop listed
      exact behind (lt_of_endpoints? (mem_hopLeaving_iff.mp listed)).2.1
    · apply List.eq_nil_iff_forall_not_mem.mpr
      intro hop listed
      exact behind (lt_of_endpoints? (mem_hopEntering_iff.mp listed)).2.2
  have leaving : (fun position => graph.table.outgoing[position]?.getD []) =
      Hop.leaving graph.links := by
    funext position
    by_cases inside : position < graph.nodes.length
    · simp [table, inside]
    · simp [table, inside, outside inside]
  have entering : (fun position => graph.table.incoming[position]?.getD []) =
      Hop.entering graph.links := by
    funext position
    by_cases inside : position < graph.nodes.length
    · simp [table, inside]
    · simp [table, inside, outside inside]
  rw [Table.directory, table_categories, ok_bind, positions, shadowed, ends, leaving, entering]
  rfl

theorem hops_of_shadowed {position : Nat} (shadowed : graph.isShadowed position = true) :
    Hop.leaving graph.links position = [] ∧ Hop.entering graph.links position = [] := by
  constructor
  · apply List.eq_nil_iff_forall_not_mem.mpr
    intro hop listed
    obtain ⟨edge, _, found, _⟩ := mem_links_iff.mp
      (endpoints?_eq_some_iff.mp (mem_hopLeaving_iff.mp listed))
    rw [not_isShadowed_of_position? found] at shadowed
    cases shadowed
  · apply List.eq_nil_iff_forall_not_mem.mpr
    intro hop listed
    obtain ⟨edge, _, _, found⟩ := mem_links_iff.mp
      (endpoints?_eq_some_iff.mp (mem_hopEntering_iff.mp listed))
    rw [not_isShadowed_of_position? found] at shadowed
    cases shadowed

/-- The two loops fill the table without an overrun, what is looked up in it is what the checks look
up, and every lookup gives just what the nodes and the edges say. -/
theorem directory_exact (graph : Graph) :
    (Table.build graph >>= Table.directory) = .ok graph.directory ∧
      graph.directory.Exact graph := by
  constructor
  · rw [Table.build_eq, ok_bind, table_directory]
  · exact {
      declared := fun id position => position?_eq_some_iff_isLeast
      undeclared := fun id => position?_eq_none_iff
      shadowed := fun position => isShadowed_iff
      endpoints := fun edge source target => endpoints?_eq_some_iff.trans mem_links_iff
      outgoing := fun position hop => mem_hopLeaving_iff
      incoming := fun position hop => mem_hopEntering_iff
      ordered := fun position =>
        ⟨graph.pairwise_edge_leaving position, graph.pairwise_edge_entering position⟩
      leaveOnce := by
        apply hops_perm _ (fun edge position => mem_edges_leaving_iff) graph.pairwise_edge_leaving
        intro edge ends linked
        exact (lt_of_endpoints? linked).2.1
      enterOnce := by
        apply hops_perm _ (fun edge position => mem_edges_entering_iff) graph.pairwise_edge_entering
        intro edge ends linked
        exact (lt_of_endpoints? linked).2.2
      bare := fun position => hops_of_shadowed
      marks := graph.length_categories
      marked := fun position category => getElem?_categories_eq_some_iff }

end Graph

end DecisionGraph
