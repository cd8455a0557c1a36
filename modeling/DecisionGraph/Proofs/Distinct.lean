import DecisionGraph.Proofs.Cycles
import DecisionGraph.Proofs.Mended
import DecisionGraph.Proofs.WellFormed

/-!
Graphs whose ids are distinct and whose edges have declared ends: there, positions and ids say the
same.
-/

namespace DecisionGraph.Graph

open Relation

variable {graph : Graph}

/-- Ids are declared once, and edges end at declared ids. -/
structure Sound (graph : Graph) : Prop where
  distinct : (graph.nodes.map Node.id).Nodup
  declared : ∀ edge ∈ graph.edges,
    (∃ node ∈ graph.nodes, node.id = edge.source) ∧ ∃ node ∈ graph.nodes, node.id = edge.target

theorem position?_of_getElem? (distinct : (graph.nodes.map Node.id).Nodup) {node : Node}
    {position : Nat} (listed : graph.nodes[position]? = some node) :
    graph.position? node.id = some position := by
  obtain ⟨first, found⟩ := Option.isSome_iff_exists.mp
    (position?_isSome_iff.mpr ⟨node, List.mem_of_getElem? listed, rfl⟩)
  obtain ⟨other, earlier, same⟩ := getElem?_of_position? found
  have ids : (graph.nodes.map Node.id)[first]? = (graph.nodes.map Node.id)[position]? := by
    simp [listed, earlier, same]
  have bound : first < (graph.nodes.map Node.id).length := by
    simpa using (List.getElem?_eq_some_iff.mp earlier).1
  rw [found, (List.getElem?_inj bound distinct).mp ids]

theorem mem_live_of_distinct (distinct : (graph.nodes.map Node.id).Nodup) {node : Node}
    {position : Nat} :
    (node, position) ∈ graph.live ↔ graph.nodes[position]? = some node :=
  mem_live_iff.trans
    ⟨And.left, fun listed => ⟨listed, position?_of_getElem? distinct listed⟩⟩

theorem kindAt?_eq_some_iff {position : Nat} {kind : NodeKind} :
    graph.kindAt? position = some kind ↔
      ∃ node, graph.nodes[position]? = some node ∧ node.kind = kind := by
  simp [kindAt?]

theorem idAt_of_getElem? {node : Node} {position : Nat}
    (listed : graph.nodes[position]? = some node) : graph.idAt position = node.id := by
  simp [idAt, listed]

/-! Links and edges. -/

theorem joins_of_leads {source target : Nat} (leads : Link.Leads graph.links source target) :
    graph.Joins (graph.idAt source) (graph.idAt target) := by
  obtain ⟨link, listed, rfl, rfl⟩ := leads
  obtain ⟨edge, found, sourceAt, targetAt⟩ := mem_links_iff.mp listed
  obtain ⟨source, sourceListed, sourceId⟩ := getElem?_of_position? sourceAt
  obtain ⟨target, targetListed, targetId⟩ := getElem?_of_position? targetAt
  rw [idAt_of_getElem? sourceListed, idAt_of_getElem? targetListed]
  exact ⟨edge, List.mem_of_getElem? found, sourceId.symm, targetId.symm⟩

def place (graph : Graph) (id : String) : Nat := (graph.position? id).getD 0

theorem place_of_getElem? (distinct : (graph.nodes.map Node.id).Nodup) {node : Node}
    {position : Nat} (listed : graph.nodes[position]? = some node) :
    graph.place node.id = position := by
  simp [place, position?_of_getElem? distinct listed]

theorem mem_links_of_edge {edge : Edge} {position : Nat}
    (listed : graph.edges[position]? = some edge)
    (sourceDeclared : (graph.position? edge.source).isSome = true)
    (targetDeclared : (graph.position? edge.target).isSome = true) :
    ⟨position, graph.place edge.source, graph.place edge.target⟩ ∈ graph.links := by
  obtain ⟨source, sourceAt⟩ := Option.isSome_iff_exists.mp sourceDeclared
  obtain ⟨target, targetAt⟩ := Option.isSome_iff_exists.mp targetDeclared
  refine mem_links_iff.mpr ⟨edge, listed, ?_, ?_⟩
  · simp [place, sourceAt]
  · simp [place, targetAt]

theorem leads_of_joins (sound : graph.Sound) {source target : String}
    (joins : graph.Joins source target) :
    Link.Leads graph.links (graph.place source) (graph.place target) := by
  obtain ⟨edge, member, rfl, rfl⟩ := joins
  obtain ⟨sourceDeclared, targetDeclared⟩ := sound.declared edge member
  obtain ⟨position, listed⟩ := List.mem_iff_getElem?.mp member
  have link := mem_links_of_edge listed (position?_isSome_iff.mpr sourceDeclared)
    (position?_isSome_iff.mpr targetDeclared)
  exact ⟨_, link, rfl, rfl⟩

section Walks

variable {first second : Node} {start stop : Nat}

theorem leads_iff (sound : graph.Sound) (starts : graph.nodes[start]? = some first)
    (stops : graph.nodes[stop]? = some second) :
    Link.Leads graph.links start stop ↔ graph.Joins first.id second.id := by
  constructor
  · intro leads
    simpa [idAt_of_getElem? starts, idAt_of_getElem? stops] using joins_of_leads leads
  · intro joins
    simpa [place_of_getElem? sound.distinct starts, place_of_getElem? sound.distinct stops] using
      leads_of_joins sound joins

theorem walk_iff (sound : graph.Sound) (starts : graph.nodes[start]? = some first)
    (stops : graph.nodes[stop]? = some second) :
    ReflTransGen (Link.Leads graph.links) start stop ↔
      ReflTransGen graph.Joins first.id second.id := by
  constructor
  · intro walk
    have lifted := ReflTransGen.lift graph.idAt (fun _ _ => joins_of_leads) _ _ walk
    simpa [Function.onFun, idAt_of_getElem? starts, idAt_of_getElem? stops] using lifted
  · intro walk
    have lifted := ReflTransGen.lift graph.place (fun _ _ => leads_of_joins sound) _ _ walk
    simpa [Function.onFun, place_of_getElem? sound.distinct starts,
      place_of_getElem? sound.distinct stops] using lifted

theorem mem_forward_iff (sound : graph.Sound) (starts : graph.nodes[start]? = some first)
    (stops : graph.nodes[stop]? = some second) :
    stop ∈ Reach.forward graph.links graph.nodes.length start ↔
      ReflTransGen graph.Joins first.id second.id := by
  rw [Reach.mem_forward fun _ => source_lt, walk_iff sound starts stops]
  exact and_iff_right (List.getElem?_eq_some_iff.mp stops).1

theorem mem_backward_iff (sound : graph.Sound) (starts : graph.nodes[start]? = some first)
    (stops : graph.nodes[stop]? = some second) :
    start ∈ Reach.backward graph.links graph.nodes.length stop ↔
      ReflTransGen graph.Joins first.id second.id := by
  rw [Reach.mem_backward fun _ => target_lt, walk_iff sound starts stops]
  exact and_iff_right (List.getElem?_eq_some_iff.mp starts).1

theorem acyclic_iff (sound : graph.Sound) :
    (∀ position, ¬ TransGen (Link.Leads graph.links) position position) ↔
      ∀ id, ¬ TransGen graph.Joins id id := by
  constructor
  · intro acyclic id walk
    exact acyclic _ (TransGen.lift graph.place (fun _ _ => leads_of_joins sound) _ _ walk)
  · intro acyclic position walk
    exact acyclic _ (TransGen.lift graph.idAt (fun _ _ => joins_of_leads) _ _ walk)

theorem leaving_eq_nil_iff (sound : graph.Sound) (starts : graph.nodes[start]? = some first) :
    Link.leaving graph.links start = [] ↔ ∀ id, ¬ graph.Joins first.id id := by
  simp only [Link.leaving, List.filter_eq_nil_iff, decide_eq_true_eq]
  constructor
  · intro none id joins
    obtain ⟨link, listed, source, _⟩ := leads_of_joins sound joins
    exact none link listed (source.trans (place_of_getElem? sound.distinct starts))
  · rintro none link listed rfl
    have joins := joins_of_leads ⟨link, listed, rfl, rfl⟩
    rw [idAt_of_getElem? starts] at joins
    exact none _ joins

theorem entering_eq_nil_iff (sound : graph.Sound) (stops : graph.nodes[stop]? = some second) :
    Link.entering graph.links stop = [] ↔ ∀ id, ¬ graph.Joins id second.id := by
  simp only [Link.entering, List.filter_eq_nil_iff, decide_eq_true_eq]
  constructor
  · intro none id joins
    obtain ⟨link, listed, _, target⟩ := leads_of_joins sound joins
    exact none link listed (target.trans (place_of_getElem? sound.distinct stops))
  · rintro none link listed rfl
    have joins := joins_of_leads ⟨link, listed, rfl, rfl⟩
    rw [idAt_of_getElem? stops] at joins
    exact none _ joins

end Walks

/-! Kinds and categories. -/

theorem mem_liveOfKind (distinct : (graph.nodes.map Node.id).Nodup) {kind : NodeKind}
    {position : Nat} :
    position ∈ graph.liveOfKind kind ↔
      ∃ node, graph.nodes[position]? = some node ∧ node.kind = kind := by
  simp [liveOfKind, mem_live_of_distinct distinct]

theorem live_eq_zipIdx (distinct : (graph.nodes.map Node.id).Nodup) :
    graph.live = graph.nodes.zipIdx := by
  refine List.filter_eq_self.mpr fun entry member => ?_
  have listed := List.mem_zipIdx_iff_getElem?.mp member
  simp [position?_of_getElem? distinct listed]

theorem length_liveOfKind (distinct : (graph.nodes.map Node.id).Nodup) (kind : NodeKind) :
    (graph.liveOfKind kind).length = graph.countKind kind := by
  have nodes : (graph.nodes.zipIdx.filter fun entry => entry.1.kind = kind).map Prod.fst =
      graph.nodes.filter fun node => node.kind = kind := by
    conv => rhs; rw [← List.zipIdx_map_fst 0 graph.nodes, List.filter_map]
    rfl
  rw [countKind, ← nodes, liveOfKind, live_eq_zipIdx distinct, List.length_map, List.length_map]

theorem uniqueOfKind?_of_count (distinct : (graph.nodes.map Node.id).Nodup) {kind : NodeKind}
    (once : graph.countKind kind = 1) :
    ∃ node position, graph.uniqueOfKind? kind = some position ∧
      graph.nodes[position]? = some node ∧ node.kind = kind ∧
      ∀ other ∈ graph.nodes, other.kind = kind → other = node := by
  rw [← length_liveOfKind distinct] at once
  obtain ⟨position, only⟩ := List.length_eq_one_iff.mp once
  have member : position ∈ graph.liveOfKind kind := by simp [only]
  obtain ⟨node, listed, same⟩ := (mem_liveOfKind distinct).mp member
  refine ⟨node, position, by simp [uniqueOfKind?, only], listed, same, fun other among kinds => ?_⟩
  obtain ⟨place, found⟩ := List.mem_iff_getElem?.mp among
  have also := (mem_liveOfKind distinct).mpr ⟨other, found, kinds⟩
  rw [only, List.mem_singleton] at also
  rw [also, listed, Option.some.injEq] at found
  exact found.symm

theorem hasOptionParent_iff (sound : graph.Sound) {node : Node} {position : Nat}
    (listed : graph.nodes[position]? = some node) :
    graph.hasOptionParent graph.links position = true ↔ graph.Steered node.id := by
  simp only [hasOptionParent, List.any_eq_true, Link.entering, List.mem_filter, decide_eq_true_eq,
    kindAt?_eq_some_iff]
  constructor
  · rintro ⟨link, ⟨among, rfl⟩, option, found, kind⟩
    exact ⟨option, List.mem_of_getElem? found, kind,
      (leads_iff sound found listed).mp ⟨link, among, rfl, rfl⟩⟩
  · rintro ⟨option, member, kind, joins⟩
    obtain ⟨place, found⟩ := List.mem_iff_getElem?.mp member
    obtain ⟨link, among, rfl, target⟩ := (leads_iff sound found listed).mpr joins
    exact ⟨link, ⟨among, target⟩, option, found, kind⟩

theorem isMeasured_iff (node : Node) :
    (node.factorData?.bind FactorData.finiteValue?).isSome = true ↔ node.IsMeasured := by
  simp only [Node.IsMeasured, Option.isSome_bind, FactorData.finiteValue?]
  cases node.factorData? with
  | none => simp
  | some data => cases stated : data.value <;> simp [stated]

theorem category?_eq_some_iff (sound : graph.Sound) {node : Node} {position : Nat}
    (listed : graph.nodes[position]? = some node) {category : Category} :
    graph.category? position = some category ↔ graph.Infers node category := by
  have steered := hasOptionParent_iff sound listed
  have measured := isMeasured_iff node
  rw [category?_of_node graph listed, categoryOf]
  unfold Infers
  cases body : node.body with
  | factor declared data =>
      have kind : node.kind = .factor := by simp [Node.kind, body, NodeBody.kind]
      simp only [Node.factorData?, body] at measured
      simp only
      by_cases set : graph.Steered node.id
      · cases category <;> simp [kind, steered.mpr set, set]
      · have notSet : ¬ graph.hasOptionParent graph.links position = true := fun h =>
          set (steered.mp h)
        by_cases known : node.IsMeasured
        · cases category <;> simp [kind, notSet, measured.mpr known, set, known]
        · have unknown : ¬ (data.bind FactorData.finiteValue?).isSome = true := fun h =>
            known (measured.mp h)
          rw [if_neg notSet, if_neg unknown]
          cases category <;> simp [kind, set, known]
  | _ => simp [Node.kind, body, NodeBody.kind]

end DecisionGraph.Graph
