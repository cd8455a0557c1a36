import DecisionGraph.Proofs.Mended

/-!
Settled graphs: what the rules of a repair bring about, said without the rules. A mended graph is
settled, and a settled graph gives no rule anything to do.
-/

namespace DecisionGraph

open Repair

/-- No word of the data is foreign. -/
structure FactorData.InVocabulary (data : FactorData) : Prop where
  factorType : ∀ text, data.factorType ≠ some (.foreign text)
  extraction : ∀ text, data.extraction ≠ some (.foreign text)

/-- A node that agrees with the category that the structure gives it. -/
structure Node.Settled (filled : Bool) (inferred : Option Category) (node : Node) : Prop where
  claim : ∀ category, inferred = some category → node.isFactor = true →
    node.declaredCategory? = some category
  words : ∀ data, node.factorData? = some data → data.InVocabulary
  complete : filled = true → inferred = some .controllable → node.isFactor = true →
    ∃ data, node.factorData? = some data ∧ data.factorType.isSome = true ∧
      data.drivers.isSome = true

/-- An edge whose direction is a word that the mean does not contradict. -/
structure Edge.Settled (edge : Edge) : Prop where
  word : ∀ text, edge.direction ≠ some (.foreign text)
  sign : ∀ declared implied, edge.direction = some (.word declared) →
    Direction.ofMean? edge.mean = some implied → declared = implied

structure Graph.Settled (filled : Bool) (graph : Graph) : Prop where
  nodes : ∀ (position : Nat) (node : Node), graph.nodes[position]? = some node →
    node.Settled filled (graph.category? position)
  edges : ∀ edge ∈ graph.edges, edge.Settled

/-! A mended graph is settled. -/

theorem Term.corrected_ne_foreign {α : Type} (fallback : α) (term : Term α) (text : String) :
    term.corrected fallback ≠ .foreign text := by
  obtain ⟨value, word⟩ := term.corrected_eq_word fallback
  simp [word]

theorem FactorData.inVocabulary_corrected (data : FactorData) : data.corrected.InVocabulary := by
  refine ⟨fun text => ?_, fun text => ?_⟩
  · simp [corrected, Term.corrected_ne_foreign]
  · simp [corrected, Term.corrected_ne_foreign]

theorem FactorData.inVocabulary_filled {data : Option FactorData}
    (words : ∀ kept, data = some kept → kept.InVocabulary) : (filled data).InVocabulary := by
  cases data with
  | none => exact ⟨by simp [filled, empty], by simp [filled, empty]⟩
  | some kept =>
      obtain ⟨type, extraction⟩ := words kept rfl
      refine ⟨fun text => ?_, extraction⟩
      cases stated : kept.factorType with
      | none => simp [filled, stated]
      | some term => simpa [filled, stated] using type text

theorem FactorData.inVocabulary_mended (wanted : Bool) (inferred declared : Option Category)
    (data : Option FactorData) :
    ∀ kept, mended wanted inferred declared data = some kept → kept.InVocabulary := by
  have corrected : ∀ kept, (overridden inferred declared data).map corrected = some kept →
      kept.InVocabulary := by
    intro kept found
    obtain ⟨before, _, rfl⟩ := Option.map_eq_some_iff.mp found
    exact inVocabulary_corrected before
  intro kept found
  unfold mended at found
  split at found
  · cases found
    exact inVocabulary_filled corrected
  · exact corrected kept found

theorem Node.settled_mended (wanted : Bool) (inferred : Option Category) (node : Node) :
    (node.mended wanted inferred).Settled wanted inferred := by
  obtain ⟨id, label, body⟩ := node
  cases body with
  | factor declared data =>
      refine ⟨?_, FactorData.inVocabulary_mended wanted inferred declared data, ?_⟩
      · rintro category rfl _
        rfl
      · rintro rfl rfl _
        refine ⟨_, rfl, ?_, ?_⟩
        · simp [FactorData.filled]
        · simp [FactorData.filled]
  | _ => exact ⟨by simp [mended, isFactor, kind, NodeBody.kind], by simp [mended, factorData?],
      by simp [mended, isFactor, kind, NodeBody.kind]⟩

theorem Edge.settled_mended (edge : Edge) : edge.mended.Settled := by
  obtain ⟨_, _, mean, _, _, _, direction⟩ := edge
  cases direction with
  | none => exact ⟨by simp [mended], by simp [mended]⟩
  | some term =>
      simp only [mended, Option.map_some, Direction.mended]
      cases sign : Direction.ofMean? mean with
      | none => exact ⟨by simp [Term.corrected_ne_foreign], by simp [sign]⟩
      | some implied => exact ⟨by simp, by simp [sign]⟩

theorem Graph.settled_mended (graph : Graph) (wanted : Bool) :
    (graph.mended wanted).Settled wanted := by
  refine ⟨fun position node found => ?_, fun edge member => ?_⟩
  · rw [getElem?_nodes_mended] at found
    obtain ⟨before, _, rfl⟩ := Option.map_eq_some_iff.mp found
    rw [category?_mended]
    exact before.settled_mended wanted _
  · obtain ⟨before, _, rfl⟩ := List.mem_map.mp member
    exact before.settled_mended

/-! A settled graph gives no rule anything to do. -/

namespace Repair

theorem overrideCategory_of_settled {filled : Bool} {inferred : Option Category} {node : Node}
    (settled : node.Settled filled inferred) :
    overrideCategory inferred node = .unchanged node := by
  obtain ⟨id, label, body⟩ := node
  cases inferred with
  | none => rfl
  | some category =>
      cases body with
      | factor declared data =>
          have claim : declared = some category := settled.claim category rfl rfl
          simp [overrideCategory, claim]
      | _ => rfl

theorem correctTerm_of_known {α : Type} [Vocabulary α] (fallback : α) (target : Target)
    (field : String) (term : Option (Term α)) (known : ∀ text, term ≠ some (.foreign text)) :
    correctTerm fallback target field term = .unchanged term := by
  cases term with
  | none => rfl
  | some term =>
      cases term with
      | word value => rfl
      | foreign text => exact absurd rfl (known text)

theorem correctNode_of_settled {filled : Bool} {inferred : Option Category} {node : Node}
    (settled : node.Settled filled inferred) : correctNode node = .unchanged node := by
  obtain ⟨id, label, body⟩ := node
  cases body with
  | factor declared data =>
      cases data with
      | none => rfl
      | some data =>
          obtain ⟨type, extraction⟩ := settled.words data rfl
          simp only [correctNode, correctData, correctTerm_of_known _ _ _ _ type,
            correctTerm_of_known _ _ _ _ extraction]
          rfl
  | _ => rfl

theorem completeData_of_settled {inferred : Option Category} {node : Node}
    (settled : node.Settled true inferred) : completeData inferred node = .unchanged node := by
  obtain ⟨id, label, body⟩ := node
  cases inferred with
  | none => rfl
  | some category =>
      cases category with
      | controllable =>
          cases body with
          | factor declared data =>
              obtain ⟨kept, found, type, drivers⟩ := settled.complete rfl rfl rfl
              obtain ⟨value, baseline, extraction, factorType, list⟩ := kept
              change data = some _ at found
              obtain ⟨type, rfl⟩ := Option.isSome_iff_exists.mp type
              obtain ⟨list, rfl⟩ := Option.isSome_iff_exists.mp drivers
              subst found
              rfl
          | _ => rfl
      | observable => rfl
      | external => rfl

theorem correctEdge_of_settled {edge : Edge} (settled : edge.Settled) (position : Nat) :
    correctEdge edge position = .unchanged edge := by
  rw [correctEdge, correctTerm_of_known _ _ _ _ settled.word]
  rfl

theorem correctSign_of_settled {edge : Edge} (settled : edge.Settled) (position : Nat) :
    correctSign edge position = .unchanged edge := by
  unfold correctSign
  split
  · next declared implied stated sign =>
    rw [if_pos (settled.sign declared implied stated sign)]
  · rfl

theorem eachNode_unchanged (change : Option Category → Node → Logged Node) (graph : Graph)
    (same : ∀ (position : Nat) (node : Node), graph.nodes[position]? = some node →
      change (graph.category? position) node = .unchanged node) :
    eachNode change graph.categories graph = .unchanged graph := by
  have each := Logged.each_unchanged (fun entry : Node × Option Category => change entry.2 entry.1)
    Prod.fst (graph.nodes.zip graph.categories) (by
      intro entry member
      obtain ⟨position, found⟩ := List.mem_iff_getElem?.mp member
      obtain ⟨node, category⟩ := List.getElem?_zip_eq_some.mp found
      simpa [Graph.category?, category] using same position entry.1 node)
  rw [List.map_fst_zip (Nat.le_of_eq graph.length_categories.symm)] at each
  unfold eachNode
  rw [each]
  rfl

theorem eachEdge_unchanged (change : Edge → Nat → Logged Edge) (graph : Graph)
    (same : ∀ edge ∈ graph.edges, ∀ position, change edge position = .unchanged edge) :
    eachEdge change graph = .unchanged graph := by
  have each := Logged.each_unchanged (fun entry : Edge × Nat => change entry.1 entry.2)
    Prod.fst graph.edges.zipIdx (fun entry member =>
      same entry.1 (List.fst_mem_of_mem_zipIdx member) entry.2)
  rw [List.zipIdx_map_fst] at each
  unfold eachEdge
  rw [each]
  rfl

theorem overrideCategories_of_settled {filled : Bool} {graph : Graph}
    (settled : graph.Settled filled) :
    overrideCategories graph.categories graph = .unchanged graph :=
  eachNode_unchanged _ graph fun position node found =>
    overrideCategory_of_settled (settled.nodes position node found)

theorem correctWords_of_settled {filled : Bool} {graph : Graph} (settled : graph.Settled filled) :
    correctWords graph = .unchanged graph := by
  have nodes : Logged.each correctNode graph.nodes = .unchanged (graph.nodes.map id) := by
    refine Logged.each_unchanged correctNode id graph.nodes fun node member => ?_
    obtain ⟨position, found⟩ := List.mem_iff_getElem?.mp member
    exact correctNode_of_settled (settled.nodes position node found)
  unfold correctWords
  rw [nodes, List.map_id]
  exact eachEdge_unchanged _ graph fun edge member position =>
    correctEdge_of_settled (settled.edges edge member) position

theorem correctSigns_of_settled {filled : Bool} {graph : Graph} (settled : graph.Settled filled) :
    correctSigns graph = .unchanged graph :=
  eachEdge_unchanged _ graph fun edge member position =>
    correctSign_of_settled (settled.edges edge member) position

theorem completeAll_of_settled {filled : Bool} {graph : Graph} (settled : graph.Settled filled) :
    completeAll filled graph.categories graph = .unchanged graph := by
  cases filled with
  | false => rfl
  | true =>
      exact eachNode_unchanged _ graph fun position node found =>
        completeData_of_settled (settled.nodes position node found)

end Repair

end DecisionGraph
