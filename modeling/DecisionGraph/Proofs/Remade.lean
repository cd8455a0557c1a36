import DecisionGraph.Proofs.Mended

/-!
A repair said element by element and without its rules: what becomes of a node depends on the node
and the category that the graph gives it, what becomes of an edge on the edge alone, and nothing
else changes.
-/

namespace DecisionGraph

open Float.Model (UnpackedFloat)

/-- What a repair leaves of the data of a factor that has one category and claims another, the same
or none. -/
def FactorData.remade (fill : Bool) (category : Category) (claimed : Option Category)
    (data : Option FactorData) : Option FactorData :=
  let worded := data.map fun data => { data with
    extraction := data.extraction.map (Term.corrected .inferred)
    factorType := data.factorType.map (Term.corrected .other) }
  if category = .controllable ∧ (claimed ≠ some category ∨ fill = true) then
    let kept := worded.getD .empty
    some { kept with
      factorType := some (kept.factorType.getD (.word .other))
      drivers := some (kept.drivers.getD ["Estimation uncertainty"]) }
  else if category = .observable ∧ claimed ≠ some category then
    worded.map fun kept => { kept with factorType := none, drivers := none }
  else worded

def Node.remade (fill : Bool) (inferred : Option Category) (node : Node) : Node :=
  match inferred, node.body with
  | some category, .factor claimed data =>
    { node with body := .factor (some category) (FactorData.remade fill category claimed data) }
  | _, _ => node

def Edge.remade (edge : Edge) : Edge :=
  { edge with
    direction := edge.direction.map fun stated =>
      if edge.mean.isFinite = true ∧ ¬ (edge.mean == 0) = true then
        .word (if 0 < edge.mean then .positive else .negative)
      else stated.corrected .positive }

def Graph.remade (fill : Bool) (graph : Graph) : Graph :=
  { graph with
    nodes := graph.nodes.mapIdx fun position node => node.remade fill (graph.category? position)
    edges := graph.edges.map Edge.remade }

/-! The rules on the data of a factor may change places. -/

namespace FactorData

theorem corrected_filled (data : Option FactorData) :
    (filled data).corrected = filled (data.map corrected) := by
  cases data with
  | none => rfl
  | some data =>
      obtain ⟨value, baseline, extraction, type, drivers⟩ := data
      cases type <;> rfl

theorem filled_filled (data : Option FactorData) : filled (some (filled data)) = filled data := by
  cases data <;> rfl

theorem mended_controllable (fill : Bool) (claimed : Option Category) (data : Option FactorData) :
    mended fill (some .controllable) claimed data =
      if claimed ≠ some .controllable ∨ fill = true then some (filled (data.map corrected))
      else data.map corrected := by
  by_cases same : claimed = some .controllable
  · cases fill with
    | false => simp [mended, overridden, same]
    | true => simp [mended, overridden, same]
  · cases fill with
    | false => simp [mended, overridden, same, adapted, corrected_filled]
    | true => simp [mended, overridden, same, adapted, corrected_filled, filled_filled]

theorem mended_eq_remade (fill : Bool) (category : Category) (claimed : Option Category)
    (data : Option FactorData) :
    mended fill (some category) claimed data = remade fill category claimed data := by
  cases category with
  | controllable =>
      rw [mended_controllable]
      by_cases written : claimed ≠ some .controllable ∨ fill = true
      · rw [if_pos written, remade, if_pos ⟨rfl, written⟩]
        rfl
      · have unchanged : ¬ (Category.controllable = .observable ∧ claimed ≠ some .controllable) :=
          fun both => nomatch both.1
        rw [if_neg written, remade, if_neg (fun both => written both.2), if_neg unchanged]
        rfl
  | observable =>
      have unfilled : ¬ (Category.observable = .controllable ∧
          (claimed ≠ some .observable ∨ fill = true)) := fun both => nomatch both.1
      rw [mended_observable, remade, if_neg unfilled]
      by_cases same : claimed = some .observable
      · rw [if_pos same, if_neg (fun both => both.2 same)]
        rfl
      · rw [if_neg same, if_pos ⟨rfl, same⟩]
        cases data <;> rfl
  | external =>
      have unfilled : ¬ (Category.external = .controllable ∧
          (claimed ≠ some .external ∨ fill = true)) := fun both => nomatch both.1
      have unstripped : ¬ (Category.external = .observable ∧ claimed ≠ some .external) :=
        fun both => nomatch both.1
      rw [mended_external, remade, if_neg unfilled, if_neg unstripped]
      rfl

end FactorData

/-! The sign of a mean. -/

namespace Direction

theorem lt_iff_compare (first second : Float) :
    first < second ↔
      (first.toModel.unpack.compare second.toModel.unpack == some .lt) = true :=
  ⟨fun less => of_decide_eq_true (p := first.toModel < second.toModel) less,
    fun less => decide_eq_true (p := first.toModel < second.toModel) less⟩

/-- A finite number that is not zero is above zero or below it. -/
theorem lt_zero_iff {mean : Float} (finite : mean.isFinite = true)
    (nonzero : ¬ (mean == 0) = true) : mean < 0 ↔ ¬ 0 < mean := by
  have zero : (0 : Float).toModel.unpack = .zero .positive := rfl
  have finite : mean.toModel.unpack.isFinite = true := finite
  have nonzero : ¬ (mean.toModel.unpack.compare (.zero .positive) == some .eq) = true := nonzero
  rw [lt_iff_compare, lt_iff_compare, zero]
  generalize mean.toModel.unpack = unpacked at finite nonzero
  cases unpacked with
  | notANumber => cases finite
  | infinity sign => cases finite
  | zero sign => exact absurd rfl nonzero
  | finite sign mantissa exponent positive =>
      cases sign with
      | positive => exact ⟨nofun, fun above => absurd rfl above⟩
      | negative => exact ⟨fun _ => nofun, fun _ => rfl⟩

theorem not_lt_of_eq_zero {mean : Float} (isZero : (mean == 0) = true) :
    ¬ 0 < mean ∧ ¬ mean < 0 := by
  have zero : (0 : Float).toModel.unpack = .zero .positive := rfl
  have isZero : (mean.toModel.unpack.compare (.zero .positive) == some .eq) = true := isZero
  rw [lt_iff_compare, lt_iff_compare, zero]
  generalize mean.toModel.unpack = unpacked at isZero
  cases unpacked with
  | notANumber => cases isZero
  | infinity sign => cases sign <;> cases isZero
  | zero sign => exact ⟨Bool.false_ne_true, Bool.false_ne_true⟩
  | finite sign mantissa exponent positive => cases sign <;> cases isZero

/-- A mean has a sign when it is finite and not zero. -/
theorem ofMean?_eq_ite (mean : Float) :
    ofMean? mean =
      if mean.isFinite = true ∧ ¬ (mean == 0) = true then
        some (if 0 < mean then .positive else .negative)
      else none := by
  unfold ofMean?
  by_cases finite : mean.isFinite = true
  · by_cases isZero : (mean == 0) = true
    · obtain ⟨above, below⟩ := not_lt_of_eq_zero isZero
      simp [finite, isZero, above, below]
    · have below := lt_zero_iff finite isZero
      by_cases above : 0 < mean
      · simp [finite, isZero, above]
      · simp [finite, isZero, above, below.mpr above]
  · simp [finite]

end Direction

theorem Edge.mended_eq_remade (edge : Edge) : edge.mended = edge.remade := by
  have directions (term : Term Direction) : Direction.mended edge.mean term =
      if edge.mean.isFinite = true ∧ ¬ (edge.mean == 0) = true then
        .word (if 0 < edge.mean then .positive else .negative)
      else term.corrected .positive := by
    rw [Direction.mended, Direction.ofMean?_eq_ite]
    by_cases signed : edge.mean.isFinite = true ∧ ¬ (edge.mean == 0) = true
    · simp only [if_pos signed]
    · simp only [if_neg signed]
      rfl
  exact congrArg (fun correct => { edge with direction := edge.direction.map correct })
    (funext directions)

theorem Node.mended_eq_remade (fill : Bool) {inferred : Option Category} {node : Node}
    (known : inferred.isSome = true ↔ node.isFactor = true) :
    node.mended fill inferred = node.remade fill inferred := by
  obtain ⟨id, label, body⟩ := node
  cases body with
  | factor claimed data =>
      obtain ⟨category, rfl⟩ := Option.isSome_iff_exists.mp (known.mpr rfl)
      simp only [mended, remade, FactorData.mended_eq_remade, Option.some_or]
  | _ => cases inferred <;> rfl

namespace Graph

theorem mended_eq_remade (graph : Graph) (fill : Bool) : graph.mended fill = graph.remade fill := by
  have nodes : (graph.mended fill).nodes = (graph.remade fill).nodes := by
    refine List.ext_getElem? fun position => ?_
    rw [getElem?_nodes_mended, remade, List.getElem?_mapIdx]
    cases listed : graph.nodes[position]? with
    | none => rfl
    | some node =>
        exact congrArg some (Node.mended_eq_remade fill (category?_isSome_iff listed))
  have edges : (graph.mended fill).edges = (graph.remade fill).edges :=
    List.map_congr_left fun edge _ => edge.mended_eq_remade
  have notes : (graph.mended fill).notes = (graph.remade fill).notes := rfl
  generalize graph.mended fill = mended at nodes edges notes
  obtain ⟨_, _, _⟩ := mended
  simp only at nodes edges notes
  subst nodes edges notes
  rfl

/-- The rules of a repair, one after the other, remake each node and each edge on its own and leave
everything else as it is. Every factor has a category to be remade by. -/
theorem repair_eq_remade (graph : Graph) (options : Repair.Options) :
    (graph.repair options).1 = graph.remade options.fill ∧
      ∀ (position : Nat) (node : Node), graph.nodes[position]? = some node →
        ((graph.category? position).isSome = true ↔ node.isFactor = true) :=
  ⟨(graph.value_repair options).trans (graph.mended_eq_remade options.fill),
    fun _ _ => category?_isSome_iff⟩

end Graph

end DecisionGraph
