import DecisionGraph.Proofs.Audit
import DecisionGraph.Proofs.Entries
import DecisionGraph.Proofs.Fit
import DecisionGraph.Proofs.NoWorse
import DecisionGraph.Proofs.Paths
import DecisionGraph.Proofs.Remade
import DecisionGraph.Sample

/-!
A check and a repair see the same faults. What the check of a graph says of claims, of absent data
and of directions is what the log of its repair says was put right.
-/

namespace DecisionGraph

open Repair

/-- Where a node has the key. -/
def DataKey.field : DataKey → String
  | value => "data.value"
  | extraction => "data.extractionType"
  | factorType => "data.factor_type"
  | drivers => "data.uncertainty_drivers"

namespace Mutation

/-- A claim gives way to another category. -/
def Reclassifies (entry : Mutation) : Prop := entry.field = "category" ∧ entry.before ≠ .null

/-- A key of the data that was absent gets a value. -/
def Adds (key : DataKey) (entry : Mutation) : Prop :=
  entry.field = key.field ∧ entry.before = .null

/-- A value that is no claim gives way to another. -/
def Replaces (entry : Mutation) : Prop := entry.field ≠ "category" ∧ entry.before ≠ .null

def Redirects (entry : Mutation) : Prop := entry.field = "effect_direction"

theorem Replaces.not_reclassifies {entry : Mutation} (replaces : entry.Replaces) :
    ¬ entry.Reclassifies := fun reclassifies => replaces.1 reclassifies.1

theorem Replaces.not_adds {entry : Mutation} (replaces : entry.Replaces) {key : DataKey} :
    ¬ entry.Adds key := fun adds => replaces.2 adds.2

end Mutation

namespace Logged

variable {α β : Type} {property : Mutation → Prop}

def Any (property : Mutation → Prop) (logged : Logged α) : Prop :=
  ∃ entry ∈ logged.log, property entry

theorem any_unchanged (value : α) : ¬ (unchanged value).Any property := by
  rintro ⟨entry, listed, -⟩
  cases listed

theorem any_one {value : α} {entry : Mutation} :
    Any property ⟨value, [entry]⟩ ↔ property entry := by
  simp [Any]

theorem any_cons {value : α} {entry : Mutation} {log : List Mutation} :
    Any property ⟨value, entry :: log⟩ ↔ property entry ∨ Any property ⟨value, log⟩ := by
  simp [Any]

theorem any_map {logged : Logged α} {f : α → β} :
    (logged.map f).Any property ↔ logged.Any property := Iff.rfl

theorem any_andThen {logged : Logged α} {next : α → Logged β} :
    (logged.andThen next).Any property ↔
      logged.Any property ∨ (next logged.value).Any property := by
  simp [Any, or_and_right, exists_or]

theorem All.not_any {logged : Logged α} {other : Mutation → Prop} (all : logged.All other)
    (apart : ∀ entry, other entry → ¬ property entry) : ¬ logged.Any property := by
  rintro ⟨entry, listed, holds⟩
  exact apart entry (all entry listed) holds

end Logged

namespace Repair

open Logged Mutation

/-! What the rules log at one node. -/

variable {rule : RepairRule} {code : IssueCode} {id : String} {data : Option FactorData}
  {key : DataKey} {inferred : Option Category} {node : Node}

theorem any_fill_reclassifies : ¬ (fill rule code id data).Any Reclassifies := by
  unfold fill
  obtain ⟨value, baseline, extraction, type, drivers⟩ := data.getD .empty
  cases type <;> cases drivers <;>
    simp [any_map, any_andThen, any_one, any_unchanged, fillType, fillDrivers, entry, ofCode,
      Reclassifies]

theorem any_fill_adds (filled : key = .factorType ∨ key = .drivers) :
    (fill rule code id data).Any (Adds key) ↔ (data.getD .empty).has key = false := by
  unfold fill
  obtain ⟨value, baseline, extraction, type, drivers⟩ := data.getD .empty
  rcases filled with rfl | rfl <;> cases type <;> cases drivers <;>
    simp [any_map, any_andThen, any_one, any_unchanged, fillType, fillDrivers, entry, ofCode,
      Adds, DataKey.field, FactorData.has]

theorem all_strip_replaces : (strip id data).All Replaces := by
  cases data with
  | none => exact all_unchanged none
  | some data =>
      obtain ⟨value, baseline, extraction, type, drivers⟩ := data
      refine All.map (All.andThen ?_ ?_) _
      · cases type with
        | none => exact all_unchanged _
        | some type =>
            have present : type.json ≠ .null := by cases type <;> nofun
            exact all_one ⟨show "data.factor_type" ≠ "category" by decide, present⟩
      · cases drivers with
        | none => cases type <;> exact all_unchanged _
        | some drivers =>
            have other : "data.uncertainty_drivers" ≠ "category" := by decide
            cases type <;> exact all_one ⟨other, nofun⟩

theorem all_correctTerm_replaces {α : Type} [Vocabulary α] (fallback : α) (target : Target)
    {field : String} (data : field ≠ "category") (term : Option (Term α)) :
    (correctTerm fallback target field term).All Replaces := by
  rcases term with _ | value | text
  · exact all_unchanged none
  · exact all_unchanged _
  · exact all_one ⟨data, nofun⟩

theorem all_correctNode_replaces : (correctNode node).All Replaces := by
  obtain ⟨id, label, body⟩ := node
  cases body with
  | factor category data =>
      cases data with
      | none => exact all_unchanged _
      | some data =>
          have type := all_correctTerm_replaces fallbackType (.node id)
            (show "data.factor_type" ≠ "category" by decide) data.factorType
          have extraction := all_correctTerm_replaces fallbackExtraction (.node id)
            (show "data.extractionType" ≠ "category" by decide) data.extraction
          exact (type.andThen extraction).map _
  | _ => exact all_unchanged _

theorem any_adapt_reclassifies {category : Category} :
    ¬ (adapt id category data).Any Reclassifies := by
  cases category with
  | controllable => exact any_fill_reclassifies
  | observable => exact all_strip_replaces.not_any fun _ => Replaces.not_reclassifies
  | external => exact any_unchanged data

theorem any_adapt_adds (filled : key = .factorType ∨ key = .drivers) {category : Category} :
    (adapt id category data).Any (Adds key) ↔
      category = .controllable ∧ (data.getD .empty).has key = false := by
  cases category with
  | controllable => simpa [adapt] using any_fill_adds filled
  | observable =>
      have none : ¬ (strip id data).Any (Adds key) :=
        all_strip_replaces.not_any fun _ replaces => replaces.not_adds
      simpa [adapt] using none
  | external => simpa [adapt] using any_unchanged data

section Factor

variable {inferred : Category} {declared : Option Category} {label : String}

theorem any_overrideCategory {property : Mutation → Prop} :
    (overrideCategory (some inferred) ⟨id, label, .factor declared data⟩).Any property ↔
      declared ≠ some inferred ∧
        (property (entry .categoryOverride .categoryOverride id "category"
            (.ofOption Vocabulary.json declared) (Vocabulary.json inferred)) ∨
          (adapt id inferred data).Any property) := by
  by_cases same : declared = some inferred
  · simpa [overrideCategory, same] using any_unchanged _
  · simp [overrideCategory, same, Any]

theorem any_completeData {property : Mutation → Prop} :
    (completeData (some inferred) ⟨id, label, .factor declared data⟩).Any property ↔
      inferred = .controllable ∧
        (fill .controllableDataCompletion .controllableDataFilled id data).Any property := by
  cases inferred with
  | controllable => simp [completeData, any_map]
  | observable => simpa [completeData] using any_unchanged _
  | external => simpa [completeData] using any_unchanged _

theorem any_completeData_reclassifies :
    ¬ (completeData (some inferred) node).Any Reclassifies := by
  obtain ⟨id, label, body⟩ := node
  cases body with
  | factor declared data => exact fun logged => any_fill_reclassifies (any_completeData.mp logged).2
  | _ => cases inferred <;> exact any_unchanged _

/-- What the rules before the last one leave of a factor. -/
theorem value_correctNode_overrideCategory :
    (correctNode
        (overrideCategory (some inferred) ⟨id, label, .factor declared data⟩).value).value =
      ⟨id, label, .factor (some inferred)
        ((FactorData.overridden (some inferred) declared data).map FactorData.corrected)⟩ := by
  simp [value_overrideCategory, value_correctNode]

theorem any_nodeRules_reclassifies {wanted : Bool} :
    (nodeRules wanted (some inferred) ⟨id, label, .factor declared data⟩).Any Reclassifies ↔
      ∃ claim, declared = some claim ∧ claim ≠ inferred := by
  have words (node : Node) : ¬ (correctNode node).Any Reclassifies :=
    all_correctNode_replaces.not_any fun _ => Replaces.not_reclassifies
  have completed (node : Node) :
      ¬ (if wanted then completeData (some inferred) node else .unchanged node).Any
        Reclassifies := by
    cases wanted with
    | false => exact any_unchanged node
    | true => exact any_completeData_reclassifies
  simp only [nodeRules, any_andThen, words, completed, or_false, any_overrideCategory,
    any_adapt_reclassifies]
  cases declared with
  | none => simp [Reclassifies, entry, ofCode, Json.ofOption]
  | some claim => simp [Reclassifies, entry, ofCode, Json.ofOption, Vocabulary.json]

/-- A key that is absent is filled in by the first rule when the claim is wrong and by the last one
otherwise. -/
theorem any_nodeRules_adds (filled : key = .factorType ∨ key = .drivers) :
    (nodeRules true (some inferred) ⟨id, label, .factor declared data⟩).Any (Adds key) ↔
      inferred = .controllable ∧ (data.getD .empty).has key = false := by
  have words (node : Node) : ¬ (correctNode node).Any (Adds key) :=
    all_correctNode_replaces.not_any fun _ replaces => replaces.not_adds
  have claim : ¬ (entry .categoryOverride .categoryOverride id "category"
      (.ofOption Vocabulary.json declared) (Vocabulary.json inferred)).Adds key := by
    rintro ⟨field, -⟩
    rcases filled with rfl | rfl
    · exact absurd field (show "category" ≠ "data.factor_type" by decide)
    · exact absurd field (show "category" ≠ "data.uncertainty_drivers" by decide)
  simp only [nodeRules, any_andThen, words, false_or, any_overrideCategory, claim,
    any_adapt_adds filled, value_correctNode_overrideCategory, if_true, any_completeData,
    any_fill_adds filled, FactorData.has_map_corrected]
  -- A wrong claim makes the first rule fill the data, and then the last one finds nothing absent.
  by_cases same : declared = some inferred
  · simp [same, FactorData.overridden]
  · have present : (FactorData.filled data).has key = true := by
      rcases filled with rfl | rfl
      · rfl
      · rfl
    constructor
    · rintro (⟨-, known⟩ | ⟨rfl, lacking⟩)
      · exact known
      · simp [FactorData.overridden, same, FactorData.adapted, present] at lacking
    · exact fun known => .inl ⟨same, known⟩

end Factor

/-- The rules on nodes leave what is no factor alone. -/
theorem nodeRules_of_other {wanted : Bool} {inferred : Option Category}
    (other : node.isFactor = false) : nodeRules wanted inferred node = .unchanged node := by
  obtain ⟨id, label, body⟩ := node
  cases body with
  | factor declared data => cases other
  | _ => rcases inferred with _ | _ | _ | _ <;> cases wanted <;> rfl

/-- A foreign word is corrected, and a word against the sign of the mean is turned around. -/
theorem any_edgeRules_redirects {edge : Edge} {position : Nat} {implied : Direction}
    (sign : Direction.ofMean? edge.mean = some implied) :
    (edgeRules edge position).Any Redirects ↔
      ∃ declared, edge.direction = some declared ∧ declared ≠ .word implied := by
  obtain ⟨source, target, mean, deviation, beliefExists, belief, direction⟩ := edge
  simp only at sign
  rcases direction with _ | declared | text
  · simp [edgeRules, any_andThen, any_map, correctEdge, correctTerm, correctSign, any_unchanged]
  · by_cases same : declared = implied
    · simp [edgeRules, any_andThen, any_map, correctEdge, correctTerm, correctSign, any_unchanged,
        sign, same]
    · simp [edgeRules, any_andThen, any_map, correctEdge, correctTerm, correctSign, any_unchanged,
        sign, same, any_one, Redirects, ofCode]
  · simp [edgeRules, any_andThen, any_map, correctEdge, correctTerm, any_one, Redirects, ofCode]

end Repair

/-! What the checks find. -/

/-- The facts of an issue list a word under a name. -/
def Issue.Lists (issue : Issue) (name word : String) : Prop :=
  ∃ facts words, issue.context = .object facts ∧ (name, .ofStrings words) ∈ facts ∧ word ∈ words

theorem Finding.context_issue_missing (position : Nat) (id : String) (category : Category)
    (keys : List DataKey) :
    (Finding.dataDefect position id category (.missing keys)).issue.context =
      .object [("missing", .ofStrings (keys.map DataKey.name)), ("node_id", .string id)] :=
  (Json.free_pair (by decide) _ _).2

theorem Finding.lists_missing_iff {position : Nat} {id : String} {category : Category}
    {keys : List DataKey} {word : String} :
    (Finding.dataDefect position id category (.missing keys)).issue.Lists "missing" word ↔
      word ∈ keys.map DataKey.name := by
  unfold Issue.Lists
  rw [context_issue_missing]
  constructor
  · rintro ⟨facts, words, ⟨⟩, listed, member⟩
    rcases List.mem_cons.mp listed with same | other
    · have strings : words = keys.map DataKey.name := by
        simpa [Json.ofStrings_inj] using same
      exact strings ▸ member
    · simp at other
  · intro member
    exact ⟨_, _, rfl, List.mem_cons_self, member⟩

theorem DataKey.name_injective : Function.Injective DataKey.name := by
  intro key other same
  cases key <;> cases other <;> first | rfl | exact absurd same (by decide)

namespace Graph

variable {graph : Graph} {limits : Limits} {node : Node} {position : Nat}

theorem names_categoryMismatch_iff (live : (node, position) ∈ graph.live) :
    (graph.check limits).Names .categoryMismatch (.nodeField position "category") ↔
      ∃ declared category, node.declaredCategory? = some declared ∧
        graph.category? position = some category ∧ declared ≠ category := by
  constructor
  · intro named
    obtain ⟨finding, found, code, place⟩ := names_check_iff.mp named
    obtain ⟨other, _, category, earlier, inferred, stated⟩ :=
      Survey.mem_data.mp (Survey.mem_data_of_origin found (by rw [code]; rfl))
    rcases Survey.mem_dataOf.mp stated with ⟨defect, -, rfl⟩ | ⟨declared, claim, wrong, rfl⟩
    · simp [Finding.place] at place
    · cases place
      cases eq_of_live earlier live
      exact ⟨declared, category, claim, inferred, wrong⟩
  · rintro ⟨declared, category, claim, inferred, wrong⟩
    have reported : _ ∈ (graph.check limits).errors :=
      categoryClaim_mem_errors live claim inferred wrong
    exact ⟨_, List.mem_filter.mpr ⟨List.mem_append_left _ reported, rfl⟩, rfl⟩

theorem lists_missing_iff (live : (node, position) ∈ graph.live) {key : DataKey} :
    (∃ issue ∈ (graph.check limits).withCode .controllableMissingData,
        issue.path = (Place.nodeField position "data").text ∧ issue.Lists "missing" key.name) ↔
      graph.category? position = some .controllable ∧
        (node.factorData?.getD .empty).has key = false := by
  constructor
  · rintro ⟨issue, reported, path, lists⟩
    obtain ⟨finding, found, code, rfl⟩ := mem_withCode_iff.mp reported
    have place : finding.place = .nodeField position "data" := Place.text_injective path
    obtain ⟨other, _, category, earlier, inferred, stated⟩ :=
      Survey.mem_data.mp (Survey.mem_data_of_origin found (by rw [code]; rfl))
    rcases Survey.mem_dataOf.mp stated with ⟨defect, listed, rfl⟩ | ⟨declared, -, -, rfl⟩
    · cases place
      cases eq_of_live earlier live
      cases category with
      | controllable =>
          obtain ⟨-, rfl⟩ := DataDefect.mem_absent.mp listed
          obtain ⟨known, member, same⟩ := List.mem_map.mp (Finding.lists_missing_iff.mp lists)
          cases DataKey.name_injective same
          exact ⟨inferred, by simpa using (List.mem_filter.mp member).2⟩
      | observable => cases defect <;> cases code
      | external => cases defect <;> cases code
    · cases code
  · rintro ⟨inferred, lacking⟩
    have member : key ∈ [DataKey.value, .extraction, .factorType, .drivers].filter fun key =>
        !(node.factorData?.getD .empty).has key := by
      cases key <;> simp [lacking]
    have defect : _ ∈ Payload.defects node.factorData? .controllable :=
      DataDefect.mem_absent.mpr ⟨List.ne_nil_of_mem member, rfl⟩
    have found : _ ∈ (Survey.ofGraph graph).data := Survey.mem_data.mpr
      ⟨node, position, .controllable, live, inferred, Survey.mem_dataOf.mpr (.inl ⟨_, defect, rfl⟩)⟩
    have found : _ ∈ (Survey.ofGraph graph).findings limits :=
      Survey.mem_findings.mpr (.inr (.inr (.inr (.inl found))))
    exact ⟨_, mem_withCode_iff.mpr ⟨_, found, rfl, rfl⟩, rfl,
      Finding.lists_missing_iff.mpr (List.mem_map_of_mem member)⟩

theorem signFinding?_eq_some_iff {edge : Edge} {finding : Finding} :
    signFinding? edge position = some finding ↔
      ∃ declared implied, edge.direction = some declared ∧
        Direction.ofMean? edge.mean = some implied ∧ declared ≠ .word implied ∧
        finding = .signMismatch position edge declared implied := by
  unfold signFinding?
  split
  · next declared implied stated sign =>
    by_cases agree : declared = .word implied
    · simp [stated, sign, agree]
    · simp [stated, sign, agree, eq_comm]
  · next other =>
    constructor
    · rintro ⟨⟩
    · rintro ⟨declared, implied, stated, sign, -⟩
      exact absurd sign (other declared implied stated)

theorem form_of_mem_signFindings {finding : Finding} (found : finding ∈ graph.signFindings) :
    ∃ position edge declared implied, graph.edges[position]? = some edge ∧
      finding = .signMismatch position edge declared implied := by
  obtain ⟨⟨edge, position⟩, listed, signed⟩ := List.mem_filterMap.mp found
  obtain ⟨declared, implied, _, _, _, rfl⟩ := signFinding?_eq_some_iff.mp signed
  exact ⟨position, edge, declared, implied, List.mem_zipIdx_iff_getElem?.mp listed, rfl⟩

theorem gate_names_iff :
    (∃ issue ∈ graph.gate.errors, issue.code = .signMismatch ∧
        issue.path = (Place.edgeField position "effect_direction").text) ↔
      ∃ edge declared implied, graph.edges[position]? = some edge ∧
        edge.direction = some declared ∧ Direction.ofMean? edge.mean = some implied ∧
        declared ≠ .word implied := by
  constructor
  · rintro ⟨issue, reported, -, path⟩
    obtain ⟨finding, found, rfl⟩ := List.mem_map.mp reported
    obtain ⟨⟨edge, other⟩, listed, signed⟩ := List.mem_filterMap.mp found
    obtain ⟨declared, implied, stated, sign, wrong, rfl⟩ := signFinding?_eq_some_iff.mp signed
    have place : (Finding.signMismatch other edge declared implied).place = _ :=
      Place.text_injective path
    cases place
    exact ⟨edge, declared, implied, List.mem_zipIdx_iff_getElem?.mp listed, stated, sign, wrong⟩
  · rintro ⟨edge, declared, implied, listed, stated, sign, wrong⟩
    have signed : signFinding? edge position = some _ :=
      signFinding?_eq_some_iff.mpr ⟨declared, implied, stated, sign, wrong, rfl⟩
    have found : .signMismatch position edge declared implied ∈ graph.signFindings :=
      List.mem_filterMap.mpr ⟨(edge, position), List.mem_zipIdx_iff_getElem?.mpr listed, signed⟩
    exact ⟨_, List.mem_map_of_mem found, rfl, rfl⟩

/-! What the log says of one node and of one edge. -/

theorem exists_entry_of_node {options : Repair.Options} {property : Mutation → Prop}
    (distinct : (graph.nodes.map Node.id).Nodup) (listed : graph.nodes[position]? = some node) :
    (∃ entry ∈ (graph.repair options).2.mutations, entry.target = .node node.id ∧ property entry) ↔
      (nodeRules options.fill (graph.category? position) node).Any property := by
  rw [Logged.Any, ← filter_node_repair distinct options listed]
  simp [Target.nodeId?_eq_some_iff, and_assoc]

theorem exists_entry_of_edge {options : Repair.Options} {property : Mutation → Prop} {edge : Edge}
    (listed : graph.edges[position]? = some edge) :
    (∃ entry ∈ (graph.repair options).2.mutations,
      entry.target.edgePosition? = some position ∧ property entry) ↔
      (edgeRules edge position).Any property := by
  rw [Logged.Any, ← filter_edge_repair options listed]
  simp [and_assoc]

/-- The category of a factor, or none of any other node. -/
theorem category?_cases (listed : graph.nodes[position]? = some node) :
    (∃ id label declared data category, node = ⟨id, label, .factor declared data⟩ ∧
      graph.category? position = some category) ∨
      node.isFactor = false ∧ graph.category? position = none := by
  have known := category?_isSome_iff listed
  obtain ⟨id, label, body⟩ := node
  cases body with
  | factor declared data =>
      obtain ⟨category, inferred⟩ := Option.isSome_iff_exists.mp (known.mpr rfl)
      exact .inl ⟨id, label, declared, data, category, rfl, inferred⟩
  | _ =>
      refine .inr ⟨rfl, Option.eq_none_iff_forall_ne_some.mpr fun category inferred => ?_⟩
      cases known.mp (by rw [inferred]; rfl)

theorem any_nodeRules_reclassifies_iff {wanted : Bool}
    (listed : graph.nodes[position]? = some node) :
    (nodeRules wanted (graph.category? position) node).Any Mutation.Reclassifies ↔
      ∃ declared category, node.declaredCategory? = some declared ∧
        graph.category? position = some category ∧ declared ≠ category := by
  rcases category?_cases listed with ⟨id, label, declared, data, category, rfl, inferred⟩ |
    ⟨other, inferred⟩
  · rw [inferred, any_nodeRules_reclassifies]
    simp [Node.declaredCategory?]
  · simpa [nodeRules_of_other other, inferred] using Logged.any_unchanged node

theorem any_nodeRules_adds_iff {key : DataKey} (filled : key = .factorType ∨ key = .drivers)
    (listed : graph.nodes[position]? = some node) :
    (nodeRules true (graph.category? position) node).Any (Mutation.Adds key) ↔
      graph.category? position = some .controllable ∧
        (node.factorData?.getD .empty).has key = false := by
  rcases category?_cases listed with ⟨id, label, declared, data, category, rfl, inferred⟩ |
    ⟨other, inferred⟩
  · rw [inferred, any_nodeRules_adds filled]
    simp [Node.factorData?]
  · simpa [nodeRules_of_other other, inferred] using Logged.any_unchanged node

/-- The check of a graph and its repair, with data filled in, see the same faults. A claim is
reported as wrong just where the log has it give way, a key that a controllable factor lacks is
listed just where the log has it added, and the gate reports a direction just where the mean has a
sign and the log has the direction change. -/
theorem check_agrees_with_repair (distinct : (graph.nodes.map Node.id).Nodup)
    (options : Repair.Options) (filling : options.fill = true) (limits : Limits) :
    let log := (graph.repair options).2.mutations
    (∀ (position : Nat) (node : Node), graph.nodes[position]? = some node →
      ((graph.check limits).Names .categoryMismatch (.nodeField position "category") ↔
        ∃ entry ∈ log, entry.target = .node node.id ∧ entry.Reclassifies) ∧
      ∀ key : DataKey, key = .factorType ∨ key = .drivers →
        ((∃ issue ∈ (graph.check limits).withCode .controllableMissingData,
            issue.path = (Place.nodeField position "data").text ∧
              issue.Lists "missing" key.name) ↔
          ∃ entry ∈ log, entry.target = .node node.id ∧ entry.Adds key)) ∧
    ∀ position : Nat,
      (∃ issue ∈ graph.gate.errors, issue.code = .signMismatch ∧
          issue.path = (Place.edgeField position "effect_direction").text) ↔
        (∃ edge, graph.edges[position]? = some edge ∧ edge.mean.isFinite = true ∧
          ¬ (edge.mean == 0) = true) ∧
        ∃ entry ∈ log, entry.target.edgePosition? = some position ∧ entry.Redirects := by
  intro log
  refine ⟨fun position node listed => ?_, fun position => ?_⟩
  · have live : (node, position) ∈ graph.live := (mem_live_of_distinct distinct).mpr listed
    constructor
    · rw [names_categoryMismatch_iff live, exists_entry_of_node distinct listed,
        any_nodeRules_reclassifies_iff listed]
    · intro key filled
      rw [lists_missing_iff live, exists_entry_of_node distinct listed, filling,
        any_nodeRules_adds_iff filled listed]
  · rw [gate_names_iff]
    constructor
    · rintro ⟨edge, declared, implied, listed, stated, sign, wrong⟩
      refine ⟨⟨edge, listed, ?_⟩, ?_⟩
      · by_contra unsigned
        rw [Direction.ofMean?_eq_ite, if_neg unsigned] at sign
        cases sign
      · exact (exists_entry_of_edge listed).mpr
          ((any_edgeRules_redirects sign).mpr ⟨declared, stated, wrong⟩)
    · rintro ⟨⟨edge, listed, signed⟩, logged⟩
      have sign := Direction.ofMean?_eq_ite edge.mean
      rw [if_pos signed] at sign
      obtain ⟨declared, stated, wrong⟩ :=
        (any_edgeRules_redirects sign).mp ((exists_entry_of_edge listed).mp logged)
      exact ⟨edge, declared, _, listed, stated, sign, wrong⟩

/-- The price lacks a type, which the log adds, and the foreign direction is corrected against the
sign of its mean. -/
theorem check_agrees_with_repair_misspelt :
    (∃ issue ∈ (Sample.misspelt.check .standard).withCode .controllableMissingData,
        issue.path = "nodes[1].data" ∧ issue.Lists "missing" "factor_type") ∧
      ∃ issue ∈ Sample.misspelt.gate.errors, issue.code = .signMismatch ∧
        issue.path = "edges[1].effect_direction" := by
  have distinct : (Sample.misspelt.nodes.map Node.id).Nodup := by decide
  obtain ⟨nodes, edges⟩ := check_agrees_with_repair distinct .standard rfl .standard
  have price : Sample.misspelt.nodes[1]? = some (Node.bareFactor "fac_price" "Unit price") := rfl
  have added : entry .categoryOverride .categoryOverride "fac_price" "data.factor_type" .null
      (Vocabulary.json defaultFactorType) ∈ (Sample.misspelt.repair .standard).2.mutations :=
    List.mem_iff_getElem?.mpr ⟨1, rfl⟩
  have redirected : .ofCode .enumValidation .enumValueCorrected
      (.edge 1 "fac_price" "fac_demand") "effect_direction" (.string "inverse")
      (Vocabulary.json fallbackDirection) ∈ (Sample.misspelt.repair .standard).2.mutations :=
    List.mem_iff_getElem?.mpr ⟨5, rfl⟩
  constructor
  · exact ((nodes 1 _ price).2 .factorType (.inl rfl)).mpr ⟨_, added, rfl, rfl, rfl⟩
  · exact (edges 1).mpr
      ⟨⟨_, rfl, by decide +kernel, by decide +kernel⟩, _, redirected, rfl, rfl⟩

end Graph

end DecisionGraph
