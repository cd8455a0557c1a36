import DecisionGraph.Proofs.Outline
import DecisionGraph.Repair

/-!
A repair in closed form. The five rules pass over the graph one after the other; what they leave
behind is one function of each node and its category, and one function of each edge.
-/

namespace DecisionGraph

open Repair

namespace Logged

variable {α β : Type}

@[simp] theorem value_unchanged (value : α) : (unchanged value).value = value := rfl

@[simp] theorem log_unchanged (value : α) : (unchanged value).log = [] := rfl

@[simp] theorem value_map (f : α → β) (logged : Logged α) :
    (logged.map f).value = f logged.value := rfl

@[simp] theorem log_map (f : α → β) (logged : Logged α) : (logged.map f).log = logged.log := rfl

@[simp] theorem value_andThen (logged : Logged α) (next : α → Logged β) :
    (logged.andThen next).value = (next logged.value).value := rfl

@[simp] theorem log_andThen (logged : Logged α) (next : α → Logged β) :
    (logged.andThen next).log = logged.log ++ (next logged.value).log := rfl

@[simp] theorem value_each (change : α → Logged β) (items : List α) :
    (each change items).value = items.map fun item => (change item).value := rfl

theorem each_unchanged (change : α → Logged β) (part : α → β) (items : List α)
    (same : ∀ item ∈ items, change item = unchanged (part item)) :
    each change items = unchanged (items.map part) := by
  have values : items.map (fun item => (change item).value) = items.map part :=
    List.map_congr_left fun item member => by rw [same item member, value_unchanged]
  have logs : items.flatMap (fun item => (change item).log) = [] :=
    List.flatMap_eq_nil_iff.mpr fun item member => by rw [same item member, log_unchanged]
  simp only [each, unchanged, values, logs]

end Logged

/-- The word itself, or the word that stands in for a foreign one. -/
def Term.corrected {α : Type} (fallback : α) : Term α → Term α
  | .foreign _ => .word fallback
  | term => term

theorem Term.corrected_eq_word {α : Type} (fallback : α) (term : Term α) :
    ∃ value, term.corrected fallback = .word value := by
  cases term with
  | word value => exact ⟨value, rfl⟩
  | foreign text => exact ⟨fallback, rfl⟩

namespace FactorData

/-- The data with everything that a controllable factor needs but its value. -/
def filled (data : Option FactorData) : FactorData :=
  { data.getD .empty with
    factorType := some (((data.getD .empty).factorType).getD (.word defaultFactorType))
    drivers := some (((data.getD .empty).drivers).getD defaultDrivers) }

def stripped (data : FactorData) : FactorData := { data with factorType := none, drivers := none }

def corrected (data : FactorData) : FactorData :=
  { data with
    factorType := data.factorType.map (Term.corrected fallbackType)
    extraction := data.extraction.map (Term.corrected fallbackExtraction) }

def adapted (data : Option FactorData) : Category → Option FactorData
  | .controllable => some (filled data)
  | .observable => data.map stripped
  | .external => data

/-- The data after the first rule, which looks only at factors whose claim is wrong. -/
def overridden (inferred declared : Option Category) (data : Option FactorData) :
    Option FactorData :=
  match inferred with
  | some inferred => if declared = some inferred then data else adapted data inferred
  | none => data

def mended (wanted : Bool) (inferred declared : Option Category) (data : Option FactorData) :
    Option FactorData :=
  let corrected := (overridden inferred declared data).map corrected
  if wanted = true ∧ inferred = some .controllable then some (filled corrected) else corrected

theorem mended_observable (wanted : Bool) (declared : Option Category) (data : Option FactorData) :
    mended wanted (some .observable) declared data =
      if declared = some .observable then data.map corrected
      else (data.map stripped).map corrected := by
  unfold mended overridden
  rw [if_neg (by simp)]
  simp only
  split <;> rfl

theorem mended_external (wanted : Bool) (declared : Option Category) (data : Option FactorData) :
    mended wanted (some .external) declared data = data.map corrected := by
  unfold mended overridden
  rw [if_neg (by simp)]
  simp only
  split <;> rfl

end FactorData

/-- A node after all rules, given the category that the structure gives it. -/
def Node.mended (wanted : Bool) (inferred : Option Category) (node : Node) : Node :=
  match node.body with
  | .factor declared data =>
    { node with body := .factor (inferred.or declared)
                          (FactorData.mended wanted inferred declared data) }
  | _ => node

def Direction.mended (mean : Float) (term : Term Direction) : Term Direction :=
  match Direction.ofMean? mean with
  | some implied => .word implied
  | none => term.corrected fallbackDirection

def Edge.mended (edge : Edge) : Edge :=
  { edge with direction := edge.direction.map (Direction.mended edge.mean) }

namespace Repair

theorem value_correctTerm {α : Type} [Vocabulary α] (fallback : α) (target : Target)
    (field : String) (term : Option (Term α)) :
    (correctTerm fallback target field term).value = term.map (Term.corrected fallback) := by
  cases term with
  | none => rfl
  | some term => cases term <;> rfl

theorem value_fill (rule : RepairRule) (code : IssueCode) (id : String) (data : Option FactorData) :
    (fill rule code id data).value = some (FactorData.filled data) := by
  simp only [fill, FactorData.filled]
  generalize data.getD .empty = data
  obtain ⟨_, _, _, type, drivers⟩ := data
  cases type <;> cases drivers <;> rfl

theorem value_strip (id : String) (data : Option FactorData) :
    (strip id data).value = data.map FactorData.stripped := by
  cases data with
  | none => rfl
  | some data =>
      obtain ⟨_, _, _, type, drivers⟩ := data
      cases type <;> cases drivers <;> rfl

theorem value_adapt (id : String) (category : Category) (data : Option FactorData) :
    (adapt id category data).value = FactorData.adapted data category := by
  cases category with
  | controllable => exact value_fill _ _ _ _
  | observable => exact value_strip _ _
  | external => rfl

theorem value_overrideCategory (inferred : Option Category) (node : Node) :
    (overrideCategory inferred node).value =
      match node.body with
      | .factor declared data =>
        { node with body := .factor (inferred.or declared)
                              (FactorData.overridden inferred declared data) }
      | _ => node := by
  obtain ⟨id, label, body⟩ := node
  cases inferred with
  | none => cases body <;> rfl
  | some inferred =>
      cases body with
      | factor declared data =>
          by_cases same : declared = some inferred
          · simp [overrideCategory, FactorData.overridden, same]
          · simp [overrideCategory, FactorData.overridden, same, value_adapt]
      | _ => rfl

theorem value_correctNode (node : Node) :
    (correctNode node).value =
      match node.body with
      | .factor declared data =>
          { node with body := .factor declared (data.map FactorData.corrected) }
      | _ => node := by
  obtain ⟨id, label, body⟩ := node
  cases body with
  | factor declared data =>
      cases data with
      | none => rfl
      | some data =>
          simp [correctNode, correctData, value_correctTerm, FactorData.corrected]
  | _ => rfl

theorem value_completeData (inferred : Option Category) (node : Node) :
    (completeData inferred node).value =
      match node.body with
      | .factor declared data =>
        { node with body := .factor declared
                              (if inferred = some .controllable then some (FactorData.filled data)
                              else data) }
      | _ => node := by
  obtain ⟨id, label, body⟩ := node
  cases body with
  | factor declared data =>
      cases inferred with
      | none => rfl
      | some inferred => cases inferred <;> simp [completeData, value_fill]
  | _ => cases inferred with
      | none => rfl
      | some inferred => cases inferred <;> rfl

theorem value_nodeRules (wanted : Bool) (inferred : Option Category) (node : Node) :
    (if wanted then
        (completeData inferred (correctNode (overrideCategory inferred node).value).value).value
      else (correctNode (overrideCategory inferred node).value).value) =
      node.mended wanted inferred := by
  obtain ⟨id, label, body⟩ := node
  cases body with
  | factor declared data =>
      cases wanted <;>
        simp [value_overrideCategory, value_correctNode, value_completeData, Node.mended,
          FactorData.mended]
  | _ => cases wanted <;>
      simp [value_overrideCategory, value_correctNode, value_completeData, Node.mended]

theorem value_correctSign (edge : Edge) (position : Nat) (declared : Direction)
    (stated : edge.direction = some (.word declared)) :
    (correctSign edge position).value =
      { edge with direction := some (.word ((Direction.ofMean? edge.mean).getD declared)) } := by
  obtain ⟨_, _, mean, _, _, _, direction⟩ := edge
  simp only at stated
  subst stated
  simp only [correctSign]
  cases sign : Direction.ofMean? mean with
  | none => rfl
  | some implied =>
      by_cases same : declared = implied
      · simp [same]
      · simp [same]

theorem value_edgeRules (edge : Edge) (position : Nat) :
    (correctSign (correctEdge edge position).value position).value = edge.mended := by
  have corrected : (correctEdge edge position).value =
      { edge with direction := edge.direction.map (Term.corrected fallbackDirection) } := by
    simp [correctEdge, value_correctTerm]
  rw [corrected, Edge.mended]
  cases stated : edge.direction with
  | none => simp [correctSign]
  | some term =>
      obtain ⟨declared, word⟩ := term.corrected_eq_word fallbackDirection
      rw [value_correctSign _ _ declared (by simp [word])]
      simp only [Option.map_some, Direction.mended, word]
      cases Direction.ofMean? edge.mean <;> rfl

end Repair

theorem zip_map_zip {α β γ : Type} (change : α × β → γ) (items : List α) (marks : List β) :
    ((items.zip marks).map change).zip marks =
      (items.zip marks).map fun entry => (change entry, entry.2) := by
  induction items generalizing marks with
  | nil => rfl
  | cons item rest ih =>
      cases marks with
      | nil => rfl
      | cons mark marks => simp [ih marks]

theorem zipIdx_map_zipIdx {α β : Type} (change : α × Nat → β) (items : List α) :
    (items.zipIdx.map change).zipIdx = items.zipIdx.map fun entry => (change entry, entry.2) := by
  refine List.ext_getElem? fun position => ?_
  simp only [List.getElem?_zipIdx, List.getElem?_map, Option.map_map]
  rfl

namespace Graph

variable (graph : Graph)

/-- The category of the node at a position, if it is a factor. -/
def category? (position : Nat) : Option Category := graph.categories[position]?.join

theorem length_categories : graph.categories.length = graph.nodes.length := by
  simp [categories]

theorem category?_of_node {position : Nat} {node : Node}
    (found : graph.nodes[position]? = some node) :
    graph.category? position = graph.categoryOf graph.links node position := by
  simp [category?, categories, List.getElem?_zipIdx, found]

theorem category?_isSome_iff {graph : Graph} {node : Node} {position : Nat}
    (found : graph.nodes[position]? = some node) :
    (graph.category? position).isSome = true ↔ node.isFactor = true := by
  rw [category?_of_node graph found, categoryOf, Node.isFactor, Node.kind]
  cases node.body with
  | factor declared data =>
      simp only [NodeBody.kind, decide_true, iff_true]
      split
      · rfl
      · split <;> rfl
  | _ => simp [NodeBody.kind]

def mended (wanted : Bool) : Graph :=
  { graph with
    nodes := (graph.nodes.zip graph.categories).map fun entry => entry.1.mended wanted entry.2
    edges := graph.edges.map Edge.mended }

theorem getElem?_nodes_mended (wanted : Bool) (position : Nat) :
    (graph.mended wanted).nodes[position]? =
      (graph.nodes[position]?).map (Node.mended wanted (graph.category? position)) := by
  cases found : graph.nodes[position]? with
  | none =>
      have short : graph.nodes.length ≤ position := List.getElem?_eq_none_iff.mp found
      simp [mended, length_categories, short]
  | some node =>
      have bound : position < graph.categories.length := by
        rw [length_categories]
        exact (List.getElem?_eq_some_iff.mp found).1
      have zipped : (graph.nodes.zip graph.categories)[position]? =
          some (node, graph.categories[position]) :=
        List.getElem?_zip_eq_some.mpr ⟨found, List.getElem?_eq_getElem bound⟩
      simp [mended, zipped, category?, bound]

theorem nodes_nodeRules (wanted : Bool) :
    let categories := graph.categories
    let signed :=
      (correctSigns (correctWords (overrideCategories categories graph).value).value).value
    (completeAll wanted categories signed).value.nodes = (graph.mended wanted).nodes := by
  have corrected : (correctSigns (correctWords
      (overrideCategories graph.categories graph).value).value).value.nodes =
      (graph.nodes.zip graph.categories).map fun entry =>
        (correctNode (overrideCategory entry.2 entry.1).value).value := by
    change ((graph.nodes.zip graph.categories).map _).map _ = _
    exact List.map_map
  cases wanted with
  | false =>
      refine corrected.trans (List.map_congr_left fun entry _ => ?_)
      exact value_nodeRules false entry.2 entry.1
  | true =>
      change ((_ : List Node).zip graph.categories).map _ = _
      rw [corrected, zip_map_zip, List.map_map]
      exact List.map_congr_left fun entry _ => value_nodeRules true entry.2 entry.1

theorem edges_edgeRules (wanted : Bool) :
    let categories := graph.categories
    let signed :=
      (correctSigns (correctWords (overrideCategories categories graph).value).value).value
    (completeAll wanted categories signed).value.edges = graph.edges.map Edge.mended := by
  have signed : (correctSigns (correctWords
      (overrideCategories graph.categories graph).value).value).value.edges =
      graph.edges.map Edge.mended := by
    change ((graph.edges.zipIdx.map _).zipIdx.map _) = _
    rw [zipIdx_map_zipIdx, List.map_map]
    conv => rhs; rw [← List.zipIdx_map_fst 0 graph.edges, List.map_map]
    exact List.map_congr_left fun entry _ => value_edgeRules entry.1 entry.2
  cases wanted with
  | false => exact signed
  | true => exact signed

/-- The rules, one after the other, do what the closed form says. -/
theorem value_repair (options : Repair.Options) :
    (graph.repair options).1 = graph.mended options.fill := by
  have nodes := graph.nodes_nodeRules options.fill
  have edges := graph.edges_edgeRules options.fill
  have notes : (graph.repair options).1.notes = graph.notes := by
    simp only [repair, completeAll]
    split <;> rfl
  change (graph.repair options).1.nodes = _ at nodes
  change (graph.repair options).1.edges = _ at edges
  generalize (graph.repair options).1 = repaired at nodes edges notes
  obtain ⟨_, _, _⟩ := repaired
  simp only at nodes edges notes
  subst nodes edges notes
  rfl

end Graph

/-! The closed form keeps the outline. -/

namespace FactorData

/-- The numbers of a factor, which no rule writes. -/
def numbers (data : Option FactorData) : Option Float × Option Float :=
  (data.bind value, data.bind baseline)

theorem numbers_filled (data : Option FactorData) :
    numbers (some (filled data)) = numbers data := by
  cases data <;> rfl

theorem numbers_adapted (data : Option FactorData) (category : Category) :
    numbers (adapted data category) = numbers data := by
  cases category with
  | controllable => exact numbers_filled data
  | observable => cases data <;> rfl
  | external => rfl

theorem numbers_corrected (data : Option FactorData) :
    numbers (data.map corrected) = numbers data := by
  cases data <;> rfl

theorem numbers_mended (wanted : Bool) (inferred declared : Option Category)
    (data : Option FactorData) : numbers (mended wanted inferred declared data) = numbers data := by
  have overridden : numbers (overridden inferred declared data) = numbers data := by
    unfold FactorData.overridden
    cases inferred with
    | none => rfl
    | some inferred =>
        simp only
        split
        · rfl
        · exact numbers_adapted data inferred
  unfold mended
  split
  · rw [numbers_filled, numbers_corrected, overridden]
  · rw [numbers_corrected, overridden]

end FactorData

theorem Node.outline_mended (wanted : Bool) (inferred : Option Category) (node : Node) :
    (node.mended wanted inferred).outline = node.outline := by
  obtain ⟨id, label, body⟩ := node
  cases body with
  | factor declared data =>
      have numbers := FactorData.numbers_mended wanted inferred declared data
      simp only [FactorData.numbers, Prod.mk.injEq] at numbers
      simp only [Node.mended, Node.outline, NodeBody.outline, numbers]
  | _ => rfl

namespace Node

variable (wanted : Bool) (inferred : Option Category) (node : Node)

@[simp] theorem id_mended : (node.mended wanted inferred).id = node.id := by
  rw [← id_outline, outline_mended, id_outline]

@[simp] theorem label_mended : (node.mended wanted inferred).label = node.label := by
  rw [← label_outline, outline_mended, label_outline]

@[simp] theorem isFactor_mended : (node.mended wanted inferred).isFactor = node.isFactor := by
  rw [← isFactor_outline, outline_mended, isFactor_outline]

end Node

theorem Edge.outline_mended (edge : Edge) : edge.mended.outline = edge.outline := rfl

@[simp] theorem Graph.outline_mended (graph : Graph) (wanted : Bool) :
    (graph.mended wanted).outline = graph.outline := by
  have nodes : (graph.mended wanted).nodes.map Node.outline = graph.nodes.map Node.outline := by
    refine List.ext_getElem? fun position => ?_
    rw [List.getElem?_map, getElem?_nodes_mended, List.getElem?_map, Option.map_map]
    refine congrArg (Option.map · graph.nodes[position]?) (funext fun node => ?_)
    exact Node.outline_mended _ _ node
  have edges : (graph.mended wanted).edges.map Edge.outline = graph.edges.map Edge.outline := by
    simp [mended, Function.comp_def, Edge.outline_mended]
  simp only [outline, nodes, edges]
  rfl

/-! So nothing that is read off the outline changes. -/

namespace Graph

variable (graph : Graph) (wanted : Bool)

@[simp] theorem position?_mended (id : String) :
    (graph.mended wanted).position? id = graph.position? id := by
  rw [← position?_outline, outline_mended, position?_outline]

@[simp] theorem kindAt?_mended (position : Nat) :
    (graph.mended wanted).kindAt? position = graph.kindAt? position := by
  rw [← kindAt?_outline, outline_mended, kindAt?_outline]

@[simp] theorem links_mended : (graph.mended wanted).links = graph.links := by
  rw [← links_outline, outline_mended, links_outline]

@[simp] theorem categories_mended : (graph.mended wanted).categories = graph.categories := by
  rw [← categories_outline, outline_mended, categories_outline]

@[simp] theorem category?_mended (position : Nat) :
    (graph.mended wanted).category? position = graph.category? position := by
  simp [category?]

end Graph

end DecisionGraph
