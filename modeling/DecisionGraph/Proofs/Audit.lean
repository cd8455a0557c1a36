import DecisionGraph.Proofs.Canonical
import DecisionGraph.Proofs.Redone
import DecisionGraph.Sample

/-!
The log of a repair as an audit trail: it can be replayed from start to end, its entries stand in
the order of the rules and are as grave as their codes, and none of them leaves a field as it was.
-/

namespace DecisionGraph

open Repair

/-- The place of a rule among the rules. -/
def RepairRule.place (rule : RepairRule) : Nat := (Vocabulary.all : List RepairRule).idxOf rule

/-- An entry of a rule. What is said of its values holds where words are kept as words. -/
structure Mutation.Sound (rule : RepairRule) (canonical : Prop) (entry : Mutation) : Prop where
  rule : entry.rule = rule
  severity : entry.severity = entry.code.severity
  changed : canonical → entry.before ≠ entry.after

/-- An entry that a rule makes of a code. -/
def Mutation.Made (rule : RepairRule) (code : IssueCode) (canonical : Prop) (entry : Mutation) :
    Prop :=
  ∃ target field before after, (canonical → before ≠ after) ∧
    entry = .ofCode rule code target field before after

/-- What a rule enters as the value of a field. -/
inductive Json.Entered : Json → Prop
  | nothing : Entered .null
  | text (text : String) : Entered (.string text)
  | texts (texts : List String) : Entered (.ofStrings texts)

/-- An entry that a rule makes of a code for a target. -/
def Mutation.MadeFor (rule : RepairRule) (code : IssueCode) (target : Target) (canonical : Prop)
    (entry : Mutation) : Prop :=
  ∃ field before after, before.Entered ∧ after.Entered ∧ (canonical → before ≠ after) ∧
    entry = .ofCode rule code target field before after

namespace Mutation

variable {rule : RepairRule} {code : IssueCode} {canonical : Prop} {target : Target}

theorem madeFor_ofCode {before after : Json} (field : String) (entered : before.Entered)
    (left : after.Entered) (changed : canonical → before ≠ after) :
    (ofCode rule code target field before after).MadeFor rule code target canonical :=
  ⟨field, before, after, entered, left, changed, rfl⟩

theorem MadeFor.made {entry : Mutation} (made : entry.MadeFor rule code target canonical) :
    entry.Made rule code canonical := by
  obtain ⟨field, before, after, _, _, changed, same⟩ := made
  exact ⟨target, field, before, after, changed, same⟩

theorem Made.sound {entry : Mutation} (made : entry.Made rule code canonical) :
    entry.Sound rule canonical := by
  obtain ⟨target, field, before, after, changed, rfl⟩ := made
  exact ⟨rfl, rfl, changed⟩

theorem Made.code_eq {entry : Mutation} (made : entry.Made rule code canonical) :
    entry.code = code := by
  obtain ⟨target, field, before, after, _, rfl⟩ := made
  rfl

end Mutation

namespace Logged

variable {α β : Type} {property : Mutation → Prop}

def All (property : Mutation → Prop) (logged : Logged α) : Prop :=
  ∀ entry ∈ logged.log, property entry

theorem all_unchanged (value : α) : (unchanged value).All property := by
  intro entry listed
  cases listed

theorem all_one {value : α} {entry : Mutation} (holds : property entry) :
    All property ⟨value, [entry]⟩ := by
  intro other listed
  rw [List.mem_singleton.mp listed]
  exact holds

theorem All.imp {other : Mutation → Prop} {logged : Logged α} (all : logged.All property)
    (implied : ∀ entry, property entry → other entry) : logged.All other :=
  fun entry listed => implied entry (all entry listed)

theorem All.map {logged : Logged α} (all : logged.All property) (f : α → β) :
    (logged.map f).All property := all

theorem All.andThen {logged : Logged α} {next : α → Logged β} (all : logged.All property)
    (later : (next logged.value).All property) : (logged.andThen next).All property := by
  intro entry listed
  rcases List.mem_append.mp listed with earlier | after
  · exact all entry earlier
  · exact later entry after

theorem all_each {change : α → Logged β} {items : List α}
    (all : ∀ item ∈ items, (change item).All property) : (each change items).All property := by
  intro entry listed
  obtain ⟨item, member, entered⟩ := List.mem_flatMap.mp listed
  exact all item member entry entered

end Logged

/-! Words that differ are written differently. -/

namespace Vocabulary

variable {α : Type} [Vocabulary α]

theorem json_ne_json (known : ∀ value : α, ofWord? (word value) = some value) {first second : α}
    (different : first ≠ second) : json first ≠ json second := by
  intro same
  have words : word first = word second := Json.string.inj same
  exact different (Option.some.inj ((known first).symm.trans (words ▸ known second)))

theorem foreign_ne_json {value : α} (known : ofWord? (word value) = some value) {text : String}
    (canonical : (Term.foreign text : Term α).Canonical) : Json.string text ≠ json value := by
  intro same
  have words : text = word value := Json.string.inj same
  have unknown := canonical text rfl
  rw [words, known] at unknown
  cases unknown

end Vocabulary

/-! The rules make entries of their own. -/

namespace Repair

variable {canonical : Prop} (rule : RepairRule) (code : IssueCode) (id : String)

theorem all_fill (data : Option FactorData) :
    (fill rule code id data).All (Mutation.MadeFor rule code (.node id) canonical) := by
  have type (data : FactorData) :
      (fillType rule code id data).All (Mutation.MadeFor rule code (.node id) canonical) := by
    unfold fillType
    split
    · exact Logged.all_unchanged data
    · exact Logged.all_one (Mutation.madeFor_ofCode _ .nothing (.text _) fun _ => nofun)
  have drivers (data : FactorData) :
      (fillDrivers rule code id data).All (Mutation.MadeFor rule code (.node id) canonical) := by
    unfold fillDrivers
    split
    · exact Logged.all_unchanged data
    · exact Logged.all_one (Mutation.madeFor_ofCode _ .nothing (.texts _) fun _ => nofun)
  exact (type _).andThen (drivers _)

theorem all_strip (data : Option FactorData) :
    (strip id data).All
      (Mutation.MadeFor .categoryOverride .categoryOverride (.node id) canonical) := by
  have type (data : FactorData) : (stripType id data).All
      (Mutation.MadeFor .categoryOverride .categoryOverride (.node id) canonical) := by
    unfold stripType
    split
    · exact Logged.all_unchanged data
    · exact Logged.all_one (Mutation.madeFor_ofCode _ (.text _) .nothing fun _ => nofun)
  have drivers (data : FactorData) : (stripDrivers id data).All
      (Mutation.MadeFor .categoryOverride .categoryOverride (.node id) canonical) := by
    unfold stripDrivers
    split
    · exact Logged.all_unchanged data
    · exact Logged.all_one (Mutation.madeFor_ofCode _ (.texts _) .nothing fun _ => nofun)
  cases data with
  | none => exact Logged.all_unchanged none
  | some data => exact (type data).andThen (drivers _)

theorem all_overrideCategory (inferred : Option Category) (node : Node) :
    (overrideCategory inferred node).All
      (Mutation.MadeFor .categoryOverride .categoryOverride (.node node.id) canonical) := by
  obtain ⟨id, label, body⟩ := node
  cases inferred with
  | none => exact Logged.all_unchanged _
  | some inferred =>
      cases body with
      | factor declared data =>
          by_cases same : declared = some inferred
          · simp only [overrideCategory, if_pos same]
            exact Logged.all_unchanged _
          · have changed : Json.ofOption Vocabulary.json declared ≠ Vocabulary.json inferred := by
              cases declared with
              | none =>
                  intro same
                  cases same
              | some declared =>
                  exact Vocabulary.json_ne_json (by intro value; cases value <;> rfl)
                    fun equal => same (congrArg some equal)
            have entered : (Json.ofOption Vocabulary.json declared).Entered := by
              cases declared with
              | none => exact .nothing
              | some declared => exact .text _
            have adapted : (adapt id inferred data).All
                (Mutation.MadeFor .categoryOverride .categoryOverride (.node id) canonical) := by
              cases inferred with
              | controllable => exact all_fill _ _ _ data
              | observable => exact all_strip _ data
              | external => exact Logged.all_unchanged data
            simp only [overrideCategory, if_neg same]
            intro entry listed
            rcases List.mem_cons.mp listed with rfl | later
            · exact Mutation.madeFor_ofCode _ entered (.text _) fun _ => changed
            · exact adapted entry later
      | _ => exact Logged.all_unchanged _

theorem all_completeData (inferred : Option Category) (node : Node) :
    (completeData inferred node).All (Mutation.MadeFor .controllableDataCompletion
      .controllableDataFilled (.node node.id) canonical) := by
  unfold completeData
  split
  · exact (all_fill _ _ _ _).map _
  · exact Logged.all_unchanged node

theorem all_correctTerm {α : Type} [Vocabulary α] (fallback : α) (target : Target) (field : String)
    {term : Option (Term α)}
    (known : Vocabulary.ofWord? (Vocabulary.word fallback) = some fallback)
    (words : canonical → ∀ stated, term = some stated → stated.Canonical) :
    (correctTerm fallback target field term).All
      (Mutation.MadeFor .enumValidation .enumValueCorrected target canonical) := by
  rcases term with _ | value | text
  · exact Logged.all_unchanged none
  · exact Logged.all_unchanged _
  · exact Logged.all_one (Mutation.madeFor_ofCode _ (.text _) (.text _) fun holds =>
      Vocabulary.foreign_ne_json known (words holds _ rfl))

theorem all_correctNode {node : Node} (words : canonical → node.Canonical) :
    (correctNode node).All
      (Mutation.MadeFor .enumValidation .enumValueCorrected (.node node.id) canonical) := by
  obtain ⟨id, label, body⟩ := node
  cases body with
  | factor category data =>
      cases data with
      | none => exact Logged.all_unchanged _
      | some data =>
          have type := all_correctTerm fallbackType (.node id) "data.factor_type" rfl
            fun holds => (words holds data rfl).factorType
          have extraction := all_correctTerm fallbackExtraction (.node id)
            "data.extractionType" rfl fun holds => (words holds data rfl).extraction
          exact (type.andThen extraction).map _
  | _ => exact Logged.all_unchanged _

theorem all_correctEdge {edge : Edge} (position : Nat) (words : canonical → edge.Canonical) :
    (correctEdge edge position).All (Mutation.MadeFor .enumValidation .enumValueCorrected
      (edgeTarget edge position) canonical) :=
  (all_correctTerm fallbackDirection (edgeTarget edge position) "effect_direction" rfl
    words).map _

theorem all_correctSign (edge : Edge) (position : Nat) :
    (correctSign edge position).All (Mutation.MadeFor .signReconciliation .signCorrected
      (edgeTarget edge position) canonical) := by
  unfold correctSign
  split
  · split
    · exact Logged.all_unchanged edge
    · rename_i different
      exact Logged.all_one (Mutation.madeFor_ofCode _ (.text _) (.text _) fun _ =>
        Vocabulary.json_ne_json (by intro value; cases value <;> rfl) different)
  · exact Logged.all_unchanged edge

theorem all_aimAll (options : Options) (graph : Graph) :
    (aimAll options graph).All (Mutation.Sound .constraintTargetRemap canonical) := by
  intro entry listed
  obtain ⟨constraint, code, after, different, rfl⟩ := Graph.mem_log_aimAll listed
  exact ⟨rfl, rfl, fun _ => different.symm⟩

end Repair

/-! The first rule keeps words as words. -/

theorem FactorData.canonical_filled {data : Option FactorData}
    (words : ∀ kept, data = some kept → kept.Canonical) : (filled data).Canonical := by
  cases data with
  | none => exact ⟨by rintro _ ⟨⟩ _ ⟨⟩, nofun⟩
  | some kept =>
      obtain ⟨value, baseline, extraction, type, drivers⟩ := kept
      obtain ⟨typed, extracted⟩ := words _ rfl
      cases type with
      | none => exact ⟨by rintro _ ⟨⟩ _ ⟨⟩, extracted⟩
      | some type => exact ⟨typed, extracted⟩

theorem FactorData.canonical_overridden {inferred declared : Option Category}
    {data : Option FactorData} (words : ∀ kept, data = some kept → kept.Canonical) :
    ∀ kept, overridden inferred declared data = some kept → kept.Canonical := by
  unfold overridden
  cases inferred with
  | none => exact words
  | some inferred =>
      by_cases same : declared = some inferred
      · simpa only [if_pos same] using words
      · simp only [if_neg same]
        cases inferred with
        | controllable =>
            rintro kept ⟨⟩
            exact canonical_filled words
        | observable =>
            intro kept stripped
            obtain ⟨before, rfl, rfl⟩ := Option.map_eq_some_iff.mp stripped
            exact ⟨nofun, (words before rfl).extraction⟩
        | external => exact words

theorem Node.canonical_overrideCategory (inferred : Option Category) {node : Node}
    (words : node.Canonical) : (overrideCategory inferred node).value.Canonical := by
  rw [value_overrideCategory]
  obtain ⟨id, label, body⟩ := node
  cases body with
  | factor declared data => exact FactorData.canonical_overridden words
  | _ => exact words

/-! The rules one after the other. -/

/-- A log of the rules up to a last one. -/
structure Audited (canonical : Prop) (last : RepairRule) (log : List Mutation) : Prop where
  order : log.Pairwise fun earlier later => earlier.rule.place ≤ later.rule.place
  last : ∀ entry ∈ log, entry.rule.place ≤ last.place
  severity : ∀ entry ∈ log, entry.severity = entry.code.severity
  changed : canonical → ∀ entry ∈ log, entry.before ≠ entry.after

theorem audited_nil {canonical : Prop} {last : RepairRule} : Audited canonical last [] :=
  ⟨.nil, by simp, by simp, by simp⟩

theorem Audited.append {canonical : Prop} {last rule : RepairRule} {log later : List Mutation}
    (audited : Audited canonical last log) (entered : ∀ entry ∈ later, entry.Sound rule canonical)
    (upwards : last.place ≤ rule.place) : Audited canonical rule (log ++ later) := by
  have same : ∀ entry ∈ later, entry.rule.place = rule.place := fun entry listed =>
    congrArg RepairRule.place (entered entry listed).rule
  refine ⟨List.pairwise_append.mpr ⟨audited.order, ?_, ?_⟩, ?_, ?_, ?_⟩
  · exact List.pairwise_of_forall_mem_list fun first listed second also =>
      (same first listed).trans_le (same second also).ge
  · intro first listed second also
    rw [same second also]
    exact (audited.last first listed).trans upwards
  · intro entry listed
    rcases List.mem_append.mp listed with earlier | also
    · exact (audited.last entry earlier).trans upwards
    · exact (same entry also).le
  · intro entry listed
    rcases List.mem_append.mp listed with earlier | also
    · exact audited.severity entry earlier
    · exact (entered entry also).severity
  · intro holds entry listed
    rcases List.mem_append.mp listed with earlier | also
    · exact audited.changed holds entry earlier
    · exact (entered entry also).changed holds

namespace Graph

variable (graph : Graph) (options : Repair.Options)

theorem all_eachNode {change : Option Category → Node → Logged Node}
    {property : Mutation → Prop} (categories : List (Option Category))
    (all : ∀ inferred, ∀ node ∈ graph.nodes, (change inferred node).All property) :
    (eachNode change categories graph).All property :=
  Logged.All.map (Logged.all_each fun (node, inferred) listed =>
    all inferred node (List.of_mem_zip listed).1) _

theorem all_eachEdge {change : Edge → Nat → Logged Edge} {property : Mutation → Prop}
    (all : ∀ edge position, graph.edges[position]? = some edge →
      (change edge position).All property) : (eachEdge change graph).All property :=
  Logged.All.map (Logged.all_each fun (edge, position) listed =>
    all edge position (List.mem_zipIdx_iff_getElem?.mp listed)) _

theorem all_correctWords {canonical : Prop} (words : canonical → graph.Canonical) :
    (correctWords graph).All (Mutation.Made .enumValidation .enumValueCorrected canonical) := by
  have nodes : (Logged.each correctNode graph.nodes).All
      (Mutation.Made .enumValidation .enumValueCorrected canonical) :=
    Logged.all_each fun node listed => (all_correctNode fun holds =>
      (words holds).nodes node listed).imp fun _ => Mutation.MadeFor.made
  exact nodes.andThen (all_eachEdge _ fun edge position listed => (all_correctEdge position
    fun holds => (words holds).edges edge (List.mem_of_getElem? listed)).imp
      fun _ => Mutation.MadeFor.made)

theorem all_overrideCategories {canonical : Prop} (categories : List (Option Category)) :
    (overrideCategories categories graph).All
      (Mutation.Made .categoryOverride .categoryOverride canonical) :=
  all_eachNode graph categories fun inferred node _ =>
    (all_overrideCategory inferred node).imp fun _ => Mutation.MadeFor.made

theorem all_correctSigns {canonical : Prop} :
    (correctSigns graph).All (Mutation.Made .signReconciliation .signCorrected canonical) :=
  all_eachEdge graph fun edge position _ =>
    (all_correctSign edge position).imp fun _ => Mutation.MadeFor.made

theorem all_completeAll {canonical : Prop} (wanted : Bool) (categories : List (Option Category)) :
    (completeAll wanted categories graph).All
      (Mutation.Made .controllableDataCompletion .controllableDataFilled canonical) := by
  cases wanted with
  | false => exact Logged.all_unchanged graph
  | true =>
      exact all_eachNode graph categories fun inferred node _ =>
        (all_completeData inferred node).imp fun _ => Mutation.MadeFor.made

theorem canonical_overrideCategories (categories : List (Option Category))
    (words : graph.Canonical) : (overrideCategories categories graph).value.Canonical := by
  refine ⟨fun node listed => ?_, words.edges⟩
  obtain ⟨⟨before, inferred⟩, zipped, rfl⟩ := List.mem_map.mp listed
  exact Node.canonical_overrideCategory inferred (words.nodes before (List.of_mem_zip zipped).1)

theorem audited_repair : Audited graph.Canonical .controllableDataCompletion
    (graph.repair options).2.mutations := by
  have start : Audited graph.Canonical .categoryOverride [] := audited_nil
  have overridden : (overrideCategories graph.categories graph).All
      (Mutation.Sound .categoryOverride graph.Canonical) := fun entry listed =>
    (all_overrideCategories graph graph.categories entry listed).sound
  have words := canonical_overrideCategories graph graph.categories
  generalize first : overrideCategories graph.categories graph = overriding at overridden words
  have corrected : (correctWords overriding.value).All
      (Mutation.Sound .enumValidation graph.Canonical) := fun entry listed =>
    (all_correctWords overriding.value words entry listed).sound
  generalize second : correctWords overriding.value = correcting at corrected
  have aimed : (aimAll options correcting.value).All
      (Mutation.Sound .constraintTargetRemap graph.Canonical) := all_aimAll options correcting.value
  have signed : (correctSigns correcting.value).All
      (Mutation.Sound .signReconciliation graph.Canonical) := fun entry listed =>
    (all_correctSigns correcting.value entry listed).sound
  have completed :
      (completeAll options.fill graph.categories (correctSigns correcting.value).value).All
        (Mutation.Sound .controllableDataCompletion graph.Canonical) := fun entry listed =>
    (all_completeAll (correctSigns correcting.value).value options.fill graph.categories entry
      listed).sound
  have log := ((((start.append overridden (by decide)).append corrected (by decide)).append aimed
    (by decide)).append signed (by decide)).append completed (by decide)
  simpa only [repair, first, second, List.nil_append] using log

/-- The log of a repair is an audit trail. Its entries about nodes and edges, one after the other,
lead from the graph to what is repaired: each finds the value that it says the field has before and
leaves the one that it says it has afterwards. They stand in the order of the rules and are as grave
as their codes, and for a graph that was read from a text each of them changes its field. -/
theorem repair_audited (distinct : (graph.nodes.map Node.id).Nodup) :
    Replays Redoes ((graph.repair options).2.mutations.filter Mutation.isOfGraph) graph
        (graph.repair options).1 ∧
      (graph.repair options).2.mutations.Pairwise
        (fun earlier later => earlier.rule.place ≤ later.rule.place) ∧
      (∀ entry ∈ (graph.repair options).2.mutations, entry.severity = entry.code.severity) ∧
      ∀ (source : Source) (next : Position), decode source next = .ok graph →
        ∀ entry ∈ (graph.repair options).2.mutations, entry.before ≠ entry.after := by
  have audited := graph.audited_repair options
  exact ⟨replays_repair distinct options, audited.order, audited.severity,
    fun _ _ read => audited.changed (canonical_of_decode read)⟩

end Graph

/-- A type and a direction outside their vocabularies, and a factor without data that an option
sets. -/
def Sample.misspelt : Graph := .ofLists
  [⟨"opt_a", "Premium price", .option none⟩, Node.bareFactor "fac_price" "Unit price",
    (Node.bareFactor "fac_demand" "Demand").withData
      { FactorData.empty with factorType := some (.foreign "volume") }]
  [.bare "opt_a" "fac_price" 1,
    { Edge.bare "fac_price" "fac_demand" (-0.5) with direction := some (.foreign "inverse") }]

/-- The one direction is written twice, first as a word and then by its sign. -/
theorem Graph.repair_audited_misspelt :
    (Sample.misspelt.nodes.map Node.id).Nodup ∧
      decode (.ofJson Sample.misspelt.json) .start = .ok Sample.misspelt ∧
      (Sample.misspelt.repair .standard).2.mutations.map Mutation.field =
        ["category", "data.factor_type", "data.uncertainty_drivers", "category",
          "data.factor_type", "effect_direction", "effect_direction"] ∧
      Replays Redoes ((Sample.misspelt.repair .standard).2.mutations.filter Mutation.isOfGraph)
        Sample.misspelt (Sample.misspelt.repair .standard).1 ∧
      ∀ entry ∈ (Sample.misspelt.repair .standard).2.mutations, entry.before ≠ entry.after := by
  have distinct : (Sample.misspelt.nodes.map Node.id).Nodup := by decide
  have read : decode (.ofJson Sample.misspelt.json) .start = .ok Sample.misspelt := rfl
  obtain ⟨replays, _, _, changed⟩ := repair_audited Sample.misspelt .standard distinct
  exact ⟨distinct, read, rfl, replays, changed _ _ read⟩

end DecisionGraph
