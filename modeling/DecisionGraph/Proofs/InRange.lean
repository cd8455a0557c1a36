import DecisionGraph.Proofs.Inspected
import DecisionGraph.Proofs.Renewal
import DecisionGraph.Readiness

/-!
Repair and preparation with tested accesses. Whatever a graph holds, no access runs over the end of
a list, and the result is that of the repair and the preparation without tests.
-/

namespace DecisionGraph

open Access

namespace Tested

variable (table : Table) (labels : SortedMap String)

/-- The live ids of a family, with their stems. -/
def namesakes (family : String) : Access (List (String × List Char)) := do
  return (← table.live).filterMap fun entry =>
    match familyAndStem? entry.1.id with
    | some (other, stem) =>
      if other = family then some (entry.1.id, lowerText stem.toList) else none
    | none => none

/-- The label that is given for an id, or else that of its node. -/
def labelOf (id : String) : Access String :=
  match labels.get? id with
  | some label => return label
  | none => return ((← table.named? id).map Node.label).getD ""

def fitsStem (stem : List Char) (candidate : String × List Char) : Bool :=
  isWithin stem candidate.2
    || Repair.shortestStem ≤ candidate.2.length && isWithin candidate.2 stem

def fitting (stem : List Char) (candidate : String × List Char) :
    Access (List (String × List Char)) := do
  let label ← labelOf table labels candidate.1
  if isWithin stem (stemOfLabel label.toList) then return [candidate] else return []

def choose (stem : List Char) (candidates : List (String × List Char)) :
    Access (Option String) :=
  match candidates.filter (fitsStem stem) with
  | [only] => return some only.1
  | _ :: _ :: _ => return none
  | [] => do
    match ← collect (fitting table labels stem) candidates with
    | [only] => return some only.1
    | _ => return none

def aim (id : String) : Access (Option String) := do
  if (table.position? id).isSome then return some id
  else
    match familyAndStem? id with
    | none => return none
    | some (family, stem) =>
      let stem := lowerText stem.toList
      if stem.length < Repair.shortestStem then return none
      else choose table labels stem (← namesakes table family)

/-- A constraint with the node that it is aimed at, if any; else it is dropped. -/
def redirect (constraint : Constraint) : Option String → Logged (Option Constraint)
  | none => ⟨none, [.ofCode .constraintTargetRemap .constraintDropped (.constraint constraint.id)
      "node_id" (.string constraint.node) .null]⟩
  | some node =>
    if node = constraint.node then .unchanged (some constraint)
    else
      ⟨some { constraint with node },
        [.ofCode .constraintTargetRemap .constraintRemapped (.constraint constraint.id) "node_id"
          (.string constraint.node) (.string node)]⟩

def aimConstraint (constraint : Constraint) : Access (Logged (Option Constraint)) :=
  redirect constraint <$> aim table labels constraint.node

def aimAll (options : Repair.Options) (graph : Graph) : Access (Logged (Option (List Constraint))) := do
  match options.constraints with
  | none => return .unchanged none
  | some constraints =>
    let table ← Table.build graph
    let aimed ← constraints.mapM (aimConstraint table options.labels)
    return ⟨some ((aimed.map Logged.value).filterMap id), aimed.flatMap Logged.log⟩

def repair (graph : Graph) (options : Repair.Options) : Access (Graph × Repair.Outcome) := do
  let categories ← (← Table.build graph).categories
  let overridden := Repair.overrideCategories categories graph
  let corrected := Repair.correctWords overridden.value
  let aimed ← aimAll options corrected.value
  let signed := Repair.correctSigns corrected.value
  let completed := Repair.completeAll options.fill categories signed.value
  return (completed.value,
    ⟨overridden.log ++ corrected.log ++ aimed.log ++ signed.log ++ completed.log, aimed.value⟩)

/-- The last check only walks along the edges. -/
def readiness (graph : Graph) (limits : Limits) (repaired : Repair.Outcome) : Access Readiness := do
  let report ← Inspection.check graph limits
  return ⟨repaired.mutations, repaired.constraints, report, graph.gate, graph.fingerprint⟩

def prepare (graph : Graph) (options : Option Repair.Options) (limits : Limits) :
    Access (Graph × Readiness) := do
  match options with
  | none => return (graph, ← readiness graph limits ⟨[], none⟩)
  | some options =>
    let (repaired, outcome) ← repair graph options
    return (repaired, ← readiness repaired limits outcome)

end Tested

/-! Aiming. -/

namespace Graph

variable {graph : Graph} (labels : SortedMap String)

def labelFor (graph : Graph) (labels : SortedMap String) (id : String) : String :=
  match labels.get? id with
  | some label => label
  | none => (((graph.position? id).bind fun position => graph.nodes[position]?).map Node.label).getD ""

theorem labelOf_eq (id : String) :
    Tested.labelOf graph.table labels id = .ok (graph.labelFor labels id) := by
  rw [Tested.labelOf, labelFor, table_named?]
  cases labels.get? id <;> rfl

theorem candidate_label {family : String} {candidate : Repair.Candidate}
    (listed : candidate ∈ Repair.candidates graph labels family) :
    candidate.label = graph.labelFor labels candidate.id := by
  obtain ⟨node, position, _, live, _, rfl⟩ := Repair.exists_live_of_candidate listed
  obtain ⟨here, declared⟩ := mem_live_iff.mp live
  rw [labelFor, declared, Option.bind_some, here]
  cases labels.get? node.id <;> rfl

theorem namesakes_eq (family : String) :
    Tested.namesakes graph.table family =
      .ok ((Repair.candidates graph labels family).map fun candidate =>
        (candidate.id, candidate.stem)) := by
  rw [Tested.namesakes, table_live, ok_bind, Repair.candidates, List.map_filterMap]
  refine congrArg Except.ok (List.filterMap_congr ?_)
  rintro ⟨node, position⟩ _
  dsimp only
  cases familyAndStem? node.id with
  | none => rfl
  | some parts => by_cases same : parts.1 = family <;> simp [same]

theorem fitting_eq (stem : List Char) (candidate : String × List Char) :
    Tested.fitting graph.table labels stem candidate =
      .ok (if isWithin stem (stemOfLabel (graph.labelFor labels candidate.1).toList)
        then [candidate] else []) := by
  rw [Tested.fitting, labelOf_eq, ok_bind]
  split <;> rfl

theorem choose_eq (stem : List Char) (family : String) :
    Tested.choose graph.table labels stem
        ((Repair.candidates graph labels family).map fun candidate =>
          (candidate.id, candidate.stem)) =
      .ok (Repair.choose stem (Repair.candidates graph labels family)) := by
  have byLabel : (Repair.candidates graph labels family).filter (fun candidate =>
      isWithin stem (stemOfLabel (graph.labelFor labels candidate.id).toList)) =
        (Repair.candidates graph labels family).filter (Repair.Candidate.fitsLabel stem) :=
    List.filter_congr fun candidate listed => by
      rw [Repair.Candidate.fitsLabel, candidate_label labels listed]
  have byStem : (Tested.fitsStem stem ∘ fun candidate : Repair.Candidate =>
      (candidate.id, candidate.stem)) = Repair.Candidate.fitsStem stem := rfl
  rw [Tested.choose, Repair.choose, List.filter_map, byStem,
    collect_filter fun candidate _ => fitting_eq labels stem candidate, List.filter_map]
  simp only [Function.comp_def, byLabel]
  rcases (Repair.candidates graph labels family).filter (Repair.Candidate.fitsStem stem)
    with _ | ⟨only, _ | ⟨second, others⟩⟩
  · rcases (Repair.candidates graph labels family).filter (Repair.Candidate.fitsLabel stem)
      with _ | ⟨only, _ | ⟨second, others⟩⟩ <;> rfl
  · rfl
  · rfl

theorem aim_eq (id : String) :
    Tested.aim graph.table labels id = .ok (Repair.aim graph labels id) := by
  rw [Tested.aim, Repair.aim, table_position?]
  split
  · rfl
  · cases familyAndStem? id with
    | none => rfl
    | some parts =>
        obtain ⟨family, stem⟩ := parts
        simp only [namesakes_eq labels, ok_bind, choose_eq]
        split <;> rfl

theorem aimConstraint_eq (graph : Graph) (labels : SortedMap String) (constraint : Constraint) :
    Tested.aimConstraint graph.table labels constraint =
      .ok (Repair.aimConstraint graph labels constraint) := by
  rw [Tested.aimConstraint, aim_eq, map_ok, Repair.aimConstraint]
  cases Repair.aim graph labels constraint.node with
  | none => rfl
  | some node => rfl

theorem aimAll_eq (graph : Graph) (options : Repair.Options) :
    Tested.aimAll options graph = .ok (Repair.aimAll options graph) := by
  rw [Tested.aimAll, Repair.aimAll]
  cases options.constraints with
  | none => rfl
  | some constraints =>
      have aimed := mapM_eq_ok fun constraint (_ : constraint ∈ constraints) =>
        aimConstraint_eq graph options.labels constraint
      simp only [Table.build_eq, ok_bind, aimed, pure_eq_ok, List.map_map, List.flatMap_map]
      rfl

theorem repair_eq (graph : Graph) (options : Repair.Options) :
    Tested.repair graph options = .ok (graph.repair options) := by
  simp only [Tested.repair, Table.build_eq, table_categories, aimAll_eq, ok_bind]
  rfl

theorem readiness_eq (graph : Graph) (limits : Limits) (repaired : Repair.Outcome) :
    Tested.readiness graph limits repaired = .ok (.ofGraph graph limits repaired) := by
  rw [Tested.readiness, inspection_check]
  rfl

theorem prepare_eq (graph : Graph) (options : Option Repair.Options) (limits : Limits) :
    Tested.prepare graph options limits = .ok (graph.prepare options limits) := by
  cases options with
  | none =>
      simp only [Tested.prepare, readiness_eq, ok_bind]
      rfl
  | some options =>
      simp only [Tested.prepare, repair_eq, readiness_eq, ok_bind]
      rfl

/-- Every position that is worked out lies inside the lists, and whatever the graph, the options
and the limits are, the check, the repair and the preparation never access anything behind the end
of a list. -/
theorem never_out_of_range (graph : Graph) (options : Option Repair.Options) (limits : Limits) :
    (∃ table, Table.build graph = .ok table ∧ table.Inside) ∧
      Inspection.check graph limits = .ok (graph.check limits) ∧
      (∀ given, Tested.repair graph given = .ok (graph.repair given)) ∧
      Tested.prepare graph options limits = .ok (graph.prepare options limits) := by
  refine ⟨⟨graph.table, Table.build_eq graph, table_inside graph⟩, inspection_check graph limits,
    repair_eq graph, prepare_eq graph options limits⟩

end Graph

end DecisionGraph
