import DecisionGraph.Proofs.Relisting
import DecisionGraph.Proofs.Survival
import DecisionGraph.Proofs.Verdict
import DecisionGraph.Readiness
import DecisionGraph.Sample

/-!
Listing order carries no meaning. A graph whose nodes and edges are listed in another order is
repaired, aimed at and judged as the first one is.
-/

namespace DecisionGraph

open Repair

/-! Items in another order. -/

section Pick

variable {α : Type}

/-- The items at the given positions. -/
def pick (items : List α) (order : List Nat) : List α :=
  order.filterMap fun position => items[position]?

theorem getElem?_pick {items : List α} {order : List Nat}
    (inside : ∀ position ∈ order, position < items.length) (place : Nat) :
    (pick items order)[place]? = (order[place]?).bind fun position => items[position]? := by
  induction order generalizing place with
  | nil => rfl
  | cons position order ih =>
      have bound := inside position List.mem_cons_self
      have here : items[position]? = some items[position] := List.getElem?_eq_getElem bound
      have rest := ih fun other member => inside other (List.mem_cons_of_mem _ member)
      rw [pick, List.filterMap_cons_some here]
      cases place with
      | zero => exact here.symm
      | succ place => exact rest place

variable {items : List α} {order : List Nat}

theorem lt_of_mem_order (whole : order.Perm (List.range items.length)) :
    ∀ position ∈ order, position < items.length :=
  fun _ member => List.mem_range.mp (whole.mem_iff.mp member)

/-- All items with their positions, in the order of a list of positions. -/
theorem entries_perm (whole : order.Perm (List.range items.length)) :
    (order.filterMap fun position => (items[position]?).map (·, position)).Perm items.zipIdx := by
  have places : List.range items.length = items.zipIdx.map (·.2) := by
    rw [List.zipIdx_map_snd, List.range_eq_range']
  refine (whole.filterMap _).trans (.of_eq ?_)
  rw [places, List.filterMap_map]
  refine (List.filterMap_congr fun entry listed => ?_).trans List.filterMap_some
  simp only [Function.comp, List.mem_zipIdx_iff_getElem?.mp listed, Option.map_some]

theorem zipIdx_pick (whole : order.Perm (List.range items.length)) :
    (pick items order).zipIdx.Perm
      (items.zipIdx.map fun entry => (entry.1, rank order entry.2)) := by
  have items_eq : (order.filterMap fun position => (items[position]?).map (·, position)).map
      (·.1) = pick items order := by
    rw [List.map_filterMap]
    refine List.filterMap_congr fun position _ => ?_
    rw [Option.map_map]
    exact Option.map_id'
  have places : (order.filterMap fun position => (items[position]?).map (·, position)).map
      (·.2) = order := by
    rw [List.map_filterMap]
    refine (List.filterMap_congr fun position member => ?_).trans List.filterMap_some
    rw [List.getElem?_eq_getElem (lt_of_mem_order whole position member)]
    rfl
  have distinct : order.Nodup := whole.nodup_iff.mpr List.nodup_range
  have numbered := zipIdx_map_fst_of_nodup (places.symm ▸ distinct)
  rw [items_eq, places] at numbered
  rw [numbered]
  exact (entries_perm whole).map _

theorem rank_of_getElem? (whole : order.Perm (List.range items.length)) {place position : Nat}
    (listed : order[place]? = some position) : rank order position = place := by
  have distinct : order.Nodup := whole.nodup_iff.mpr List.nodup_range
  obtain ⟨bound, rfl⟩ := List.getElem?_eq_some_iff.mp listed
  rw [rank_of_mem (List.getElem_mem bound), distinct.idxOf_getElem place bound]

end Pick

namespace Graph

/-- The graph with its nodes and edges in the order of the given positions. -/
def listed (graph : Graph) (nodes edges : List Nat) : Graph :=
  { graph with nodes := pick graph.nodes nodes, edges := pick graph.edges edges }

variable {graph : Graph} {nodes edges : List Nat}
  (nodeOrder : nodes.Perm (List.range graph.nodes.length))
  (edgeOrder : edges.Perm (List.range graph.edges.length))

include nodeOrder edgeOrder

theorem relists_listed (distinct : (graph.nodes.map Node.id).Nodup) :
    Renumbering.Relists ⟨rank nodes, rank edges⟩ graph (graph.listed nodes edges) where
  nodes := zipIdx_pick nodeOrder
  edges := zipIdx_pick edgeOrder
  distinct := distinct

theorem mended_listed (distinct : (graph.nodes.map Node.id).Nodup) (wanted : Bool) :
    (graph.listed nodes edges).mended wanted = (graph.mended wanted).listed nodes edges := by
  have carries := (relists_listed nodeOrder edgeOrder distinct).carries
  have inside := lt_of_mem_order nodeOrder
  have sameLength : (graph.mended wanted).nodes.length = graph.nodes.length := by
    simp [mended, length_categories]
  have mendedNodes : ((graph.listed nodes edges).mended wanted).nodes =
      pick (graph.mended wanted).nodes nodes := by
    refine List.ext_getElem? fun place => ?_
    rw [getElem?_nodes_mended, getElem?_pick (sameLength ▸ inside), listed,
      getElem?_pick inside]
    cases placed : nodes[place]? with
    | none => rfl
    | some position =>
        have bound := inside position (List.mem_of_getElem? placed)
        have live : graph.IsLive position :=
          ⟨_, (mem_live_of_distinct distinct).mpr (List.getElem?_eq_getElem bound)⟩
        have category : (graph.listed nodes edges).category? place = graph.category? position := by
          have numbered : Renumbering.node ⟨rank nodes, rank edges⟩ position = place :=
            rank_of_getElem? nodeOrder placed
          rw [← numbered]
          exact carries.category?_eq live
        rw [← listed, category]
        exact (graph.getElem?_nodes_mended wanted position).symm
  have mendedEdges : ((graph.listed nodes edges).mended wanted).edges =
      pick (graph.mended wanted).edges edges := by
    simp only [mended, listed, pick, List.getElem?_map, List.map_filterMap]
  exact congrArg₂ (Graph.mk · · graph.notes) mendedNodes mendedEdges

end Graph

/-! Constraints are aimed alike. -/

namespace Repair

theorem choose_perm {first second : List Candidate} (perm : second.Perm first)
    (stem : List Char) : choose stem second = choose stem first := by
  have stems := perm.filter (Candidate.fitsStem stem)
  have labels := perm.filter (Candidate.fitsLabel stem)
  unfold choose
  generalize first.filter (Candidate.fitsStem stem) = before at stems ⊢
  generalize second.filter (Candidate.fitsStem stem) = after at stems ⊢
  generalize first.filter (Candidate.fitsLabel stem) = known at labels ⊢
  generalize second.filter (Candidate.fitsLabel stem) = found at labels ⊢
  rcases before with _ | ⟨only, _ | ⟨another, more⟩⟩
  · rw [List.perm_nil.mp stems]
    rcases known with _ | ⟨only, _ | ⟨another, more⟩⟩
    · rw [List.perm_nil.mp labels]
    · rw [List.perm_singleton.mp labels]
    · rcases found with _ | ⟨only, _ | ⟨next, others⟩⟩
      · rfl
      · have counts := labels.length_eq
        simp at counts
      · rfl
  · rw [List.perm_singleton.mp stems]
  · rcases after with _ | ⟨only, _ | ⟨next, others⟩⟩
    · have counts := stems.length_eq
      simp at counts
    · have counts := stems.length_eq
      simp at counts
    · rfl

theorem aim_of_nodes {first second : Graph} (same : first.nodes = second.nodes)
    (labels : SortedMap String) (id : String) : aim first labels id = aim second labels id := by
  obtain ⟨nodes, _, _⟩ := first
  obtain ⟨_, _, _⟩ := second
  cases same
  rfl

theorem candidates_outline (graph : Graph) (labels : SortedMap String) (family : String) :
    candidates graph.outline labels family = candidates graph labels family := by
  rw [candidates, Graph.live_outline, List.filterMap_map]
  rfl

theorem aim_outline (graph : Graph) (labels : SortedMap String) (id : String) :
    aim graph.outline labels id = aim graph labels id := by
  simp only [aim, Graph.position?_outline, candidates_outline]

theorem aimConstraint_congr {graph other : Graph} {labels : SortedMap String}
    (same : ∀ id, aim other labels id = aim graph labels id) (constraint : Constraint) :
    aimConstraint other labels constraint = aimConstraint graph labels constraint := by
  rw [aimConstraint, aimConstraint, same]

theorem aimAll_congr {graph other : Graph} {options : Options}
    (same : ∀ id, aim other options.labels id = aim graph options.labels id) :
    aimAll options other = aimAll options graph := by
  unfold aimAll aimConstraints
  have each : aimConstraint other options.labels = aimConstraint graph options.labels :=
    funext (aimConstraint_congr same)
  rw [each]

end Repair

theorem Renumbering.Carries.aim_eq {moved : Renumbering} {graph other : Graph}
    (carries : moved.Carries graph other) (labels : SortedMap String) (id : String) :
    aim other labels id = aim graph labels id := by
  have candidates_perm (family : String) :
      (candidates other labels family).Perm (candidates graph labels family) := by
    refine (carries.live.filterMap _).trans (.of_eq ?_)
    rw [List.filterMap_map]
    rfl
  unfold aim
  rw [carries.position?_eq, Option.isSome_map]
  simp only [choose_perm (candidates_perm _)]

namespace Graph

/-- A repair aims constraints as at the graph that it is given. -/
theorem constraints_repair (graph : Graph) (options : Repair.Options) :
    (graph.repair options).2.constraints = (aimAll options graph).value := by
  have nodes : graph.worded.nodes = (graph.mended false).nodes := graph.nodes_nodeRules false
  have aims (id : String) : aim graph.worded options.labels id = aim graph options.labels id := by
    have mended : aim (graph.mended false) options.labels id = aim graph options.labels id := by
      rw [← aim_outline, outline_mended, aim_outline]
    rw [← mended, aim_of_nodes nodes]
  change (aimAll options graph.worded).value = _
  rw [aimAll_congr aims]

theorem ids_mended (graph : Graph) (wanted : Bool) :
    (graph.mended wanted).nodes.map Node.id = graph.nodes.map Node.id := by
  have ids (listed : Graph) :
      listed.nodes.map Node.id = listed.outline.nodes.map Node.id := by
    rw [nodes_outline, List.map_map]
    rfl
  rw [ids, outline_mended, ← ids]

/-- The graph that is checked: without options it is not repaired. -/
def prepared (graph : Graph) : Option Repair.Options → Graph
  | none => graph
  | some options => graph.mended options.fill

section Prepare

variable (graph : Graph) (options : Option Repair.Options) (limits : Limits)

theorem prepare_fst : (graph.prepare options limits).1 = graph.prepared options := by
  cases options with
  | none => rfl
  | some options => exact graph.value_repair options

theorem report_prepare :
    (graph.prepare options limits).2.report = (graph.prepared options).check limits := by
  cases options with
  | none => rfl
  | some options => exact congrArg (check · limits) (graph.value_repair options)

theorem gate_prepare : (graph.prepare options limits).2.gate = (graph.prepared options).gate := by
  cases options with
  | none => rfl
  | some options => exact congrArg gate (graph.value_repair options)

theorem constraints_prepare :
    (graph.prepare options limits).2.constraints =
      options.bind fun options => (aimAll options graph).value := by
  cases options with
  | none => rfl
  | some options => exact graph.constraints_repair options

theorem ids_prepared : (graph.prepared options).nodes.map Node.id = graph.nodes.map Node.id := by
  cases options with
  | none => rfl
  | some options => exact graph.ids_mended options.fill

end Prepare

section Orders

variable {graph : Graph} {nodes edges : List Nat}
  (nodeOrder : nodes.Perm (List.range graph.nodes.length))
  (edgeOrder : edges.Perm (List.range graph.edges.length))

include nodeOrder edgeOrder

theorem prepared_listed (distinct : (graph.nodes.map Node.id).Nodup)
    (options : Option Repair.Options) :
    (graph.listed nodes edges).prepared options = (graph.prepared options).listed nodes edges := by
  cases options with
  | none => rfl
  | some options => exact mended_listed nodeOrder edgeOrder distinct options.fill

theorem relists_prepared (distinct : (graph.nodes.map Node.id).Nodup)
    (options : Option Repair.Options) :
    Renumbering.Relists ⟨rank nodes, rank edges⟩ (graph.prepared options)
      ((graph.listed nodes edges).prepared options) := by
  have nodeCount : (graph.prepared options).nodes.length = graph.nodes.length := by
    simpa using congrArg List.length (graph.ids_prepared options)
  have edgeCount : (graph.prepared options).edges.length = graph.edges.length := by
    cases options with
    | none => rfl
    | some options => exact List.length_map ..
  rw [prepared_listed nodeOrder edgeOrder distinct]
  exact relists_listed (nodeCount ▸ nodeOrder) (edgeCount ▸ edgeOrder)
    (graph.ids_prepared options ▸ distinct)

omit edgeOrder in
theorem ids_listed :
    ((graph.listed nodes edges).nodes.map Node.id).Perm (graph.nodes.map Node.id) :=
  (perm_of_zipIdx (zipIdx_pick nodeOrder)).map Node.id

end Orders

theorem invalid_of_repeated {graph : Graph} (repeated : ¬(graph.nodes.map Node.id).Nodup)
    (limits : Limits) : (graph.check limits).valid = false :=
  Bool.eq_false_iff.mpr fun valid => repeated (wellFormed_of_valid valid).distinct

/-- The order in which nodes and edges are listed carries no meaning: a graph in another order is
repaired to the same graph in that order, keeps the same constraints and is as ready; its report and
the last gate have as many issues of each code, but for cycles, of which some are found in both or
in none. Where an id is declared twice, the report is invalid in every order. -/
theorem prepared_alike_in_any_order (graph : Graph) {nodes edges : List Nat}
    (nodeOrder : nodes.Perm (List.range graph.nodes.length))
    (edgeOrder : edges.Perm (List.range graph.edges.length))
    (options : Option Repair.Options) (limits : Limits) :
    let first := graph.prepare options limits
    let again := (graph.listed nodes edges).prepare options limits
    ((graph.nodes.map Node.id).Nodup →
      again.1 = first.1.listed nodes edges ∧
      again.2.constraints = first.2.constraints ∧
      again.2.isReady = first.2.isReady ∧
      (∀ code, code ≠ .cycleDetected →
        (again.2.report.withCode code).length = (first.2.report.withCode code).length) ∧
      again.2.report.hasCode .cycleDetected = first.2.report.hasCode .cycleDetected ∧
      ∀ code, (again.2.gate.errors.filter fun issue => issue.code = code).length =
        (first.2.gate.errors.filter fun issue => issue.code = code).length) ∧
    (¬(graph.nodes.map Node.id).Nodup → again.2.report.valid = false) := by
  intro first again
  simp only [first, again, Readiness.isReady, prepare_fst, report_prepare, gate_prepare,
    constraints_prepare]
  constructor
  · intro distinct
    have relists := relists_prepared nodeOrder edgeOrder distinct options
    have carries := (relists_listed nodeOrder edgeOrder distinct).carries
    refine ⟨prepared_listed nodeOrder edgeOrder distinct options, ?_, ?_,
      fun _ => relists.length_withCode limits, relists.hasCode_eq limits _, relists.length_gate⟩
    · refine congrArg options.bind (funext fun given => ?_)
      rw [aimAll_congr (carries.aim_eq given.labels)]
    · rw [relists.valid_eq, relists.valid_gate]
  · intro repeated
    apply invalid_of_repeated
    rw [ids_prepared]
    exact (ids_listed nodeOrder).nodup_iff.not.mpr repeated

/-- Two options set the same, and the last edge closes a cycle; both lists are turned around. -/
theorem prepared_alike_turned_around :
    let graph : Graph := { Sample.identicalOptions with
      edges := Sample.identicalOptions.edges ++ [.bare "out_revenue" "fac_price" (-0.5)] }
    let nodes := [5, 4, 3, 2, 1, 0]
    let edges := [6, 5, 4, 3, 2, 1, 0]
    let first := graph.prepare (some .standard) .standard
    let again := (graph.listed nodes edges).prepare (some .standard) .standard
    nodes.Perm (List.range graph.nodes.length) ∧ edges.Perm (List.range graph.edges.length) ∧
      (graph.nodes.map Node.id).Nodup ∧
      again.1 = first.1.listed nodes edges ∧ again.2.isReady = first.2.isReady ∧
      (again.2.report.withCode .optionsIdentical).length =
        (first.2.report.withCode .optionsIdentical).length := by
  intro graph nodes edges first again
  have nodeOrder : nodes.Perm (List.range graph.nodes.length) := by decide
  have edgeOrder : edges.Perm (List.range graph.edges.length) := by decide
  have distinct : (graph.nodes.map Node.id).Nodup := by decide
  obtain ⟨sameGraph, _, sameReadiness, sameCounts, _⟩ :=
    (graph.prepared_alike_in_any_order nodeOrder edgeOrder (some .standard) .standard).1 distinct
  exact ⟨nodeOrder, edgeOrder, distinct, sameGraph, sameReadiness, sameCounts _ (by decide)⟩

end Graph

end DecisionGraph
