import DecisionGraph.Proofs.Fit
import DecisionGraph.Proofs.Mended
import DecisionGraph.Proofs.Paths
import DecisionGraph.Proofs.Position

/-!
What a report says about the data of a factor: which keys its category misses and which it rules
out, all of them and nothing else. It says nothing just when the data make a payload of the
category.
-/

namespace DecisionGraph

/-! Payloads and the data that they are made of. -/

/-- The data without the key that no category asks about. -/
def FactorData.essential (data : FactorData) : FactorData := { data with baseline := none }

namespace DataDefect

variable {keys : List DataKey} {data : FactorData} {defect : DataDefect}

theorem names_of_mem_absent (listed : defect ∈ absent keys data) :
    defect ≠ missing [] ∧ defect ≠ extra [] := by
  obtain ⟨some, rfl⟩ := mem_absent.mp listed
  exact ⟨fun none => some (missing.inj none), nofun⟩

theorem names_of_mem_present (listed : defect ∈ present keys data) :
    defect ≠ missing [] ∧ defect ≠ extra [] := by
  obtain ⟨some, rfl⟩ := mem_present.mp listed
  exact ⟨nofun, fun none => some (extra.inj none)⟩

end DataDefect

namespace Payload

/-- The key values that a payload carries. -/
def data? : Payload → Option FactorData
  | controllable value extraction factorType drivers =>
    some ⟨some value, none, some extraction, some factorType, some drivers⟩
  | observable value extraction => some ⟨some value, none, some extraction, none, none⟩
  | external => none

variable {data : Option FactorData} {category : Category}

theorem data?_of_ofData {payload : Payload} (made : ofData data category = .ok payload) :
    payload.data? = data.map FactorData.essential := by
  unfold ofData at made
  split at made <;> cases made
  · rfl
  · rfl
  · rfl

theorem defects_eq_nil_iff_exists :
    defects data category = [] ↔ ∃ payload, ofData data category = .ok payload ∧
      payload.category = category ∧ payload.data? = data.map FactorData.essential := by
  rcases ofData_cases data category with ⟨sound, payload, made, same⟩ | ⟨flawed, refused⟩
  · exact ⟨fun _ => ⟨payload, made, same, data?_of_ofData made⟩, fun _ => sound⟩
  · simp [flawed, refused]

theorem names_of_mem_defects {defect : DataDefect} (listed : defect ∈ defects data category) :
    defect ≠ .missing [] ∧ defect ≠ .extra [] := by
  cases category with
  | controllable => exact DataDefect.names_of_mem_absent listed
  | observable =>
      rcases List.mem_append.mp listed with missed | held
      · exact DataDefect.names_of_mem_absent missed
      · exact DataDefect.names_of_mem_present held
  | external =>
      cases data with
      | none => cases listed
      | some data =>
          cases List.mem_singleton.mp listed
          exact ⟨nofun, nofun⟩

theorem names_of_refused {found : List DataDefect} (refused : ofData data category = .error found) :
    found ≠ [] ∧ ∀ defect ∈ found, defect ≠ .missing [] ∧ defect ≠ .extra [] := by
  rcases ofData_cases data category with ⟨-, payload, made, -⟩ | ⟨flawed, same⟩
  · cases made.symm.trans refused
  · cases same.symm.trans refused
    exact ⟨flawed, fun defect => names_of_mem_defects⟩

end Payload

/-! The issues of a report that are about data. -/

/-- The codes of what a check says about data. -/
def dataCodes : List IssueCode :=
  [.controllableMissingData, .observableMissingData, .observableExtraData, .externalHasData]

/-- The issues with a code about the data of the node at a position. -/
def Report.aboutData (report : Report) (code : IssueCode) (position : Nat) : List Issue :=
  (report.withCode code).filter fun issue =>
    issue.path = (Place.nodeField position "data").text

theorem origin_of_mem_dataCodes {code : IssueCode} (about : code ∈ dataCodes) :
    code.origin = .factorData := by
  revert code
  decide

theorem Finding.code_dataDefect_mem (position : Nat) (id : String) (category : Category)
    (defect : DataDefect) : (dataDefect position id category defect).code ∈ dataCodes := by
  cases defect <;> cases category <;> simp [code, dataCodes]

/-- The issues with a code among those that tell of defects. -/
def DataDefect.told (position : Nat) (id : String) (category : Category) (code : IssueCode)
    (defects : List DataDefect) : List Issue :=
  ((defects.map (.dataDefect position id category)).filter fun finding =>
    finding.code = code).map Finding.issue

namespace DataDefect

variable (position : Nat) (id : String) (category : Category) (code : IssueCode)

theorem told_append (defects more : List DataDefect) :
    told position id category code (defects ++ more) =
      told position id category code defects ++ told position id category code more := by
  rw [told, List.map_append, List.filter_append, List.map_append, told, told]

theorem told_ite (none : Prop) [Decidable none] (defect : DataDefect) :
    told position id category code (if none then [] else [defect]) =
      if (Finding.dataDefect position id category defect).code = code ∧ ¬ none then
        [(Finding.dataDefect position id category defect).issue]
      else [] := by
  by_cases nothing : none
  · simp [told, nothing]
  · by_cases coded : (Finding.dataDefect position id category defect).code = code
    · simp [told, nothing, coded]
    · simp [told, nothing, coded]

end DataDefect

namespace Survey

variable {code : IssueCode}

theorem filter_code_dataOf (about : code ∈ dataCodes) (node : Node) (position : Nat)
    (category : Category) :
    ((dataOf node position category).filter fun finding => finding.code = code) =
      ((Payload.defects node.factorData? category).map
        (.dataDefect position node.id category)).filter fun finding => finding.code = code := by
  have claims : ((claimsOf node position category).filter fun finding => finding.code = code) =
      [] := by
    refine filter_code_eq_nil fun finding found same => ?_
    obtain ⟨declared, -, -, rfl⟩ := mem_claimsOf.mp found
    subst same
    simp [Finding.code, dataCodes] at about
  rw [dataOf_eq_append, List.filter_append, claims, List.append_nil]

theorem place_of_mem_dataOf (about : code ∈ dataCodes) {node : Node} {position : Nat}
    {category : Category} {finding : Finding}
    (found : finding ∈ (dataOf node position category).filter fun finding => finding.code = code) :
    finding.place = .nodeField position "data" := by
  rw [filter_code_dataOf about] at found
  obtain ⟨defect, -, rfl⟩ := List.mem_map.mp (List.mem_filter.mp found).1
  rfl

end Survey

namespace Graph

variable {graph : Graph} {limits : Limits} {node : Node} {position : Nat} {category : Category}
  {code : IssueCode}

theorem aboutData_check (about : code ∈ dataCodes) (limits : Limits) (position : Nat) :
    (graph.check limits).aboutData code position =
      ((((Survey.ofGraph graph).data.filter fun finding => finding.code = code).filter
        fun finding => finding.place = .nodeField position "data").map Finding.issue) := by
  have passes : (Survey.ofGraph graph).passesOf limits code.origin = (Survey.ofGraph graph).data := by
    rw [origin_of_mem_dataCodes about]
    rfl
  have paths (finding : Finding) : (decide (finding.issue.path =
      (Place.nodeField position "data").text)) =
        decide (finding.place = .nodeField position "data") :=
    decide_eq_decide.mpr Place.text_injective.eq_iff
  rw [Report.aboutData, withCode_check, Survey.filter_code_findings, passes, List.filter_map]
  simp only [Function.comp_def, paths]

theorem aboutData_of_live (live : (node, position) ∈ graph.live)
    (inferred : graph.category? position = some category) (about : code ∈ dataCodes)
    (limits : Limits) :
    (graph.check limits).aboutData code position =
      DataDefect.told position node.id category code
        (Payload.defects node.factorData? category) := by
  have known : (Survey.ofGraph graph).category? position = some category := inferred
  rw [aboutData_check about, Survey.data, List.filter_flatMap, List.filter_flatMap]
  -- Of all that the pass finds, only what it finds of the node itself is about its data.
  refine congrArg _ ((flatMap_eq_of_key graph.nodup_live live ?_).trans ?_)
  · rintro ⟨other, elsewhere⟩ - apart
    refine List.filter_eq_nil_iff.mpr fun finding found here => apart ?_
    simp only at found
    split at found
    · cases (Survey.place_of_mem_dataOf about found).symm.trans (of_decide_eq_true here)
      rfl
    · cases found
  · simp only [known]
    rw [← Survey.filter_code_dataOf about]
    exact List.filter_eq_self.mpr fun finding found =>
      decide_eq_true (Survey.place_of_mem_dataOf about found)

theorem aboutData_eq_nil_iff (live : (node, position) ∈ graph.live)
    (inferred : graph.category? position = some category) :
    (∀ code ∈ dataCodes, (graph.check limits).aboutData code position = []) ↔
      Payload.defects node.factorData? category = [] := by
  constructor
  · intro silent
    refine List.eq_nil_iff_forall_not_mem.mpr fun defect listed => ?_
    have about := Finding.code_dataDefect_mem position node.id category defect
    have none := silent _ about
    rw [aboutData_of_live live inferred about, DataDefect.told, List.map_eq_nil_iff,
      List.filter_eq_nil_iff] at none
    exact none _ (List.mem_map_of_mem listed) (decide_eq_true rfl)
  · intro sound code about
    rw [aboutData_of_live live inferred about, sound]
    rfl

theorem exists_live_of_withCode (about : code ∈ dataCodes) {issue : Issue}
    (reported : issue ∈ (graph.check limits).withCode code) :
    ∃ node position, (node, position) ∈ graph.live ∧ node.isFactor = true ∧
      issue.path = (Place.nodeField position "data").text := by
  obtain ⟨finding, found, rfl, rfl⟩ := mem_withCode_iff.mp reported
  obtain ⟨node, position, category, live, inferred, stated⟩ :=
    Survey.mem_data.mp (Survey.mem_data_of_origin found (origin_of_mem_dataCodes about))
  have isFactor := (category?_isSome_iff (mem_live_iff.mp live).1).mp
    (Option.isSome_of_eq_some inferred)
  rcases Survey.mem_dataOf.mp stated with ⟨defect, -, rfl⟩ | ⟨declared, -, -, rfl⟩
  · exact ⟨node, position, live, isFactor, rfl⟩
  · simp [Finding.code, dataCodes] at about

theorem aboutData_of_bare (bare : ∀ node, (node, position) ∈ graph.live → node.isFactor = false)
    (about : code ∈ dataCodes) (limits : Limits) :
    (graph.check limits).aboutData code position = [] := by
  refine List.eq_nil_iff_forall_not_mem.mpr fun issue listed => ?_
  obtain ⟨reported, here⟩ := List.mem_filter.mp listed
  obtain ⟨node, elsewhere, live, isFactor, path⟩ := exists_live_of_withCode about reported
  cases Place.text_injective (path.symm.trans (of_decide_eq_true here))
  cases isFactor.symm.trans (bare node live)

theorem has_value_of_observable (listed : graph.nodes[position]? = some node)
    (inferred : graph.category? position = some .observable) :
    (node.factorData?.getD .empty).has .value = true := by
  rw [category?_of_node graph listed, categoryOf] at inferred
  split at inferred
  · next declared data body =>
    have given : node.factorData? = data := by simp only [Node.factorData?, body]
    rw [given]
    split at inferred
    · cases inferred
    · split at inferred
      · next finite =>
        obtain ⟨value, known⟩ := Option.isSome_iff_exists.mp finite
        obtain ⟨data, rfl, known⟩ := Option.bind_eq_some_iff.mp known
        exact Option.isSome_of_eq_some (Option.filter_eq_some_iff.mp known).1
      · cases inferred
  · cases inferred

end Graph

def Node.lacks (node : Node) (keys : List DataKey) : List DataKey :=
  keys.filter fun key => !(node.factorData?.getD .empty).has key

def Node.holds (node : Node) (keys : List DataKey) : List DataKey :=
  keys.filter fun key => (node.factorData?.getD .empty).has key

/-- What a report tells of the data of a factor: one issue that lists the keys which its category
asks for in vain, one that lists those which it rules out, and nothing of other categories. -/
structure Report.TellsData (report : Report) (node : Node) (position : Nat)
    (category : Category) : Prop where
  controllable : report.aboutData .controllableMissingData position =
    let lacking := node.lacks [.value, .extraction, .factorType, .drivers]
    if category = .controllable ∧ lacking ≠ [] then
      [(Finding.dataDefect position node.id .controllable (.missing lacking)).issue]
    else []
  observable : report.aboutData .observableMissingData position =
    if category = .observable ∧ node.lacks [.extraction] ≠ [] then
      [(Finding.dataDefect position node.id .observable (.missing [.extraction])).issue]
    else []
  extra : report.aboutData .observableExtraData position =
    let held := node.holds [.factorType, .drivers]
    if category = .observable ∧ held ≠ [] then
      [(Finding.dataDefect position node.id .observable (.extra held)).issue]
    else []
  external : report.aboutData .externalHasData position =
    if category = .external ∧ node.factorData? ≠ none then
      [(Finding.dataDefect position node.id .external .unexpected).issue]
    else []

namespace Graph

variable {graph : Graph} {limits : Limits} {node : Node} {position : Nat} {category : Category}
  {code : IssueCode}

theorem defects_controllable (node : Node) :
    Payload.defects node.factorData? .controllable =
      if node.lacks [.value, .extraction, .factorType, .drivers] = [] then []
      else [.missing (node.lacks [.value, .extraction, .factorType, .drivers])] :=
  DataDefect.absent_eq ..

theorem defects_external (node : Node) :
    Payload.defects node.factorData? .external =
      if node.factorData? = none then [] else [.unexpected] := by
  rw [Payload.defects]
  cases node.factorData? <;> rfl

theorem defects_observable (valued : (node.factorData?.getD .empty).has .value = true) :
    Payload.defects node.factorData? .observable =
      (if node.lacks [.extraction] = [] then [] else [.missing [.extraction]])
        ++ if node.holds [.factorType, .drivers] = [] then []
          else [.extra (node.holds [.factorType, .drivers])] := by
  -- A factor is observable because it has a value, so only the extraction can be missing.
  have lacking : [DataKey.value, .extraction].filter (fun key =>
      !(node.factorData?.getD .empty).has key) = node.lacks [.extraction] := by
    simp [Node.lacks, valued]
  rw [Payload.defects, DataDefect.absent_eq, DataDefect.present_eq, lacking]
  congr 1
  split
  · rfl
  · next some =>
    have alone := (List.sublist_singleton.mp List.filter_sublist).resolve_left some
    rw [Node.lacks, alone]

theorem tellsData_of_live (live : (node, position) ∈ graph.live)
    (inferred : graph.category? position = some category) (limits : Limits) :
    (graph.check limits).TellsData node position category := by
  have told (code : IssueCode) (about : code ∈ dataCodes) :=
    aboutData_of_live live inferred about limits
  cases category with
  | controllable =>
      rw [defects_controllable] at told
      constructor
      all_goals
        rw [told _ (by decide), DataDefect.told_ite]
        simp [Finding.code]
  | observable =>
      have valued := has_value_of_observable (mem_live_iff.mp live).1 inferred
      rw [defects_observable valued] at told
      constructor
      all_goals
        rw [told _ (by decide), DataDefect.told_append, DataDefect.told_ite, DataDefect.told_ite]
        simp [Finding.code]
  | external =>
      rw [defects_external] at told
      constructor
      all_goals
        rw [told _ (by decide), DataDefect.told_ite]
        simp [Finding.code]

/-- A report tells of the data of the factors that their ids find, and of no other nodes. Of such a
factor it tells what the category that the structure gives it misses and rules out, and it is silent
just when the data make a payload of that category with the same values. Where data make no payload,
something can be told. -/
theorem data_told_exactly (graph : Graph) (limits : Limits) :
    (∀ node position, (node, position) ∈ graph.live → node.isFactor = true →
      ∃ category, graph.category? position = some category ∧
        (graph.check limits).TellsData node position category ∧
        ((∀ code ∈ dataCodes, (graph.check limits).aboutData code position = []) ↔
          ∃ payload, Payload.ofData node.factorData? category = .ok payload ∧
            payload.category = category ∧
            payload.data? = node.factorData?.map FactorData.essential)) ∧
      (∀ code ∈ dataCodes, ∀ issue ∈ (graph.check limits).withCode code,
        ∃ node position, (node, position) ∈ graph.live ∧ node.isFactor = true ∧
          issue ∈ (graph.check limits).aboutData code position) ∧
      (∀ position, (∀ node, (node, position) ∈ graph.live → node.isFactor = false) →
        ∀ code ∈ dataCodes, (graph.check limits).aboutData code position = []) ∧
      ∀ data category found, Payload.ofData data category = .error found →
        found ≠ [] ∧ ∀ defect ∈ found, defect ≠ .missing [] ∧ defect ≠ .extra [] := by
  refine ⟨fun node position live isFactor => ?_, fun code about issue reported => ?_,
    fun position bare code about => aboutData_of_bare bare about limits,
    fun data category found => Payload.names_of_refused⟩
  · have known := (category?_isSome_iff (mem_live_iff.mp live).1).mpr isFactor
    obtain ⟨category, inferred⟩ := Option.isSome_iff_exists.mp known
    refine ⟨category, inferred, tellsData_of_live live inferred limits, ?_⟩
    rw [aboutData_eq_nil_iff live inferred, Payload.defects_eq_nil_iff_exists]
  · obtain ⟨node, position, live, isFactor, path⟩ := exists_live_of_withCode about reported
    exact ⟨node, position, live, isFactor, List.mem_filter.mpr ⟨reported, decide_eq_true path⟩⟩

end Graph

end DecisionGraph
