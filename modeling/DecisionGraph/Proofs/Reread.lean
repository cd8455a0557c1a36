import DecisionGraph.Proofs.Layout

/-!
A graph is read back as it was from its own text: its records field by field, and then the whole.
-/

namespace DecisionGraph

open Json

namespace Reading

variable {α β : Type} {reading : Reading α} {value : α}

theorem map_ok {f : α → β} (read : reading = .ok value) : f <$> reading = .ok (f value) :=
  map_eq_ok.mpr ⟨value, read, rfl⟩

theorem seq_ok {functions : Reading (α → β)} {f : α → β} (first : functions = .ok f)
    (second : reading = .ok value) : functions <*> reading = .ok (f value) :=
  seq_eq_ok.mpr ⟨f, value, first, second, rfl⟩

theorem along_ok {other : Reading Unit} (read : reading = .ok value) (sound : other = .ok ()) :
    reading.along other = .ok value :=
  join_eq_ok.mpr ⟨value, (), read, sound, rfl⟩

end Reading

section Fields

variable {fields : List String} {table : List (String × Option Json)}

/-- A field that is not asked for is in the way only if it is a second spelling of another. -/
theorem Source.Shows.slots_spelt {source : Source} {other : Source → Reading Unit}
    {spellings : List (String × String)} (shows : source.Shows (.object (present table)))
    (fine : ∀ (source : Source) json, source.Shows json → other source = .ok ())
    (distinct : (table.map (·.1)).Nodup)
    (plain : ∀ key ∈ table.map (·.1), key ∉ fields → spellings.find? (·.1 = key) = none) :
    (source.slots other fields spellings).Shows fields table := by
  cases shows with
  | object position each =>
      refine Slots.shows_ofMembers fine (fun key listed => ?_) distinct each [] nofun
      split
      · rfl
      · next unasked => rw [plain key listed unasked, Option.map_none]

theorem Source.Shows.slots {source : Source} {other : Source → Reading Unit}
    (shows : source.Shows (.object (present table)))
    (fine : ∀ (source : Source) json, source.Shows json → other source = .ok ())
    (distinct : (table.map (·.1)).Nodup) : (source.slots other fields []).Shows fields table :=
  shows.slots_spelt fine distinct fun _ _ _ => rfl

theorem Decoder.reads_record {α : Type} {build : Slots → Reading α} {value : α}
    (distinct : (table.map (·.1)).Nodup)
    (built : ∀ slots : Slots, slots.Shows fields table → build slots = .ok value) :
    Decoder.Reads (fun source _ => source.record fields build) (.object (present table)) value := by
  intro source next shows
  have slots : (source.slots Source.wellFormed fields []).Shows fields table :=
    shows.slots (fun _ _ => Source.Shows.wellFormed) distinct
  exact Reading.along_ok (built _ slots) slots.sound

/-! Words. -/

namespace Vocabulary

theorem ofWord?_word_nodeKind (kind : NodeKind) : ofWord? (word kind) = some kind := by
  cases kind <;> decide

theorem ofWord?_word_category (category : Category) : ofWord? (word category) = some category := by
  cases category <;> decide

theorem reads {α : Type} [Vocabulary α] (keptForLater : Bool) {value : α}
    (known : ofWord? (word value) = some value) :
    Decoder.Reads (decodeAs keptForLater) (json value) value := by
  rintro _ next ⟨⟩
  simp only [decodeAs, named?, known]

end Vocabulary

theorem Term.reads {α : Type} [Vocabulary α]
    (known : ∀ value : α, Vocabulary.ofWord? (Vocabulary.word value) = some value) {term : Term α}
    (canonical : term.Canonical) : Decoder.Reads Term.decode term.json term := by
  rintro _ next ⟨⟩
  cases term with
  | word value =>
      simp only [decode, Vocabulary.named?, text, known]
  | foreign text =>
      simp only [decode, Vocabulary.named?, Term.text, canonical text rfl]

namespace Slots

variable {slots : Slots} {field : String}

theorem Shows.optional_real (shows : slots.Shows fields table) {value : Option Float}
    (listed : (field, value.map .ofFloat) ∈ table) (asked : field ∈ fields)
    (finite : ∀ x, value = some x → x.isFinite = true) :
    slots.optional field Decode.real = .ok value := by
  refine shows.optional_eq listed asked fun x given => ⟨Decode.reads_real (finite x given), ?_⟩
  rw [ofFloat, if_pos (finite x given)]
  intro same
  cases same

theorem Shows.optional_term {α : Type} [Vocabulary α]
    (known : ∀ value : α, Vocabulary.ofWord? (Vocabulary.word value) = some value)
    (shows : slots.Shows fields table) {value : Option (Term α)}
    (listed : (field, value.map Term.json) ∈ table) (asked : field ∈ fields)
    (canonical : ∀ term, value = some term → term.Canonical) :
    slots.optional field Term.decode = .ok value :=
  shows.optional_eq listed asked fun term given => ⟨Term.reads known (canonical term given), nofun⟩

end Slots

end Fields

theorem Decode.reads_texts (texts : List String) :
    Decoder.Reads (Decode.list Decode.text) (.ofStrings texts) texts :=
  reads_list fun text _ => reads_text text

/-! Records. -/

theorem Edge.json_eq (edge : Edge) : edge.json = .object (present [
    ("from", some (.string edge.source)),
    ("to", some (.string edge.target)),
    ("strength_mean", some (.ofFloat edge.mean)),
    ("strength_std", edge.deviation.map .ofFloat),
    ("belief_exists", edge.beliefExists.map .ofFloat),
    ("belief", edge.belief.map .ofFloat),
    ("effect_direction", edge.direction.map Term.json)]) := by
  simp only [present_some, present_map]
  rfl

theorem Edge.reads {edge : Edge} (finite : ∀ x ∈ edge.numbers, x.isFinite = true)
    (canonical : edge.Canonical) : Decoder.Reads Edge.decode edge.json edge := by
  rw [json_eq]
  obtain ⟨source, target, mean, deviation, beliefExists, belief, direction⟩ := edge
  simp only [numbers, List.forall_mem_cons, List.forall_mem_append, Option.mem_toList] at finite
  obtain ⟨meanFinite, ⟨deviationFinite, existsFinite⟩, beliefFinite⟩ := finite
  refine Decoder.reads_record (by simp) fun slots shows => ?_
  refine Reading.seq_ok (Reading.seq_ok (Reading.seq_ok (Reading.seq_ok (Reading.seq_ok
    (Reading.seq_ok (Reading.map_ok ?_) ?_) ?_) ?_) ?_) ?_) ?_
  · exact shows.required_eq (by simp) (by decide) (Decode.reads_text source)
  · exact shows.required_eq (by simp) (by decide) (Decode.reads_text target)
  · exact shows.required_eq (by simp) (by decide) (Decode.reads_real meanFinite)
  · exact shows.optional_real (by simp) (by decide) deviationFinite
  · exact shows.optional_real (by simp) (by decide) existsFinite
  · exact shows.optional_real (by simp) (by decide) beliefFinite
  · exact shows.optional_term (fun value => by cases value <;> decide) (by simp) (by decide)
      canonical

theorem FactorData.json_eq (data : FactorData) : data.json = .object (present [
    ("value", data.value.map .ofFloat),
    ("baseline", data.baseline.map .ofFloat),
    ("extractionType", data.extraction.map Term.json),
    ("factor_type", data.factorType.map Term.json),
    ("uncertainty_drivers", data.drivers.map .ofStrings)]) := by
  simp only [present_map]
  rfl

theorem FactorData.reads {data : FactorData}
    (finite : ∀ x ∈ data.value.toList ++ data.baseline.toList, x.isFinite = true)
    (canonical : data.Canonical) : Decoder.Reads FactorData.decode data.json data := by
  rw [json_eq]
  obtain ⟨value, baseline, extraction, factorType, drivers⟩ := data
  simp only [List.forall_mem_append, Option.mem_toList] at finite
  obtain ⟨valueFinite, baselineFinite⟩ := finite
  refine Decoder.reads_record (by simp) fun slots shows => ?_
  refine Reading.seq_ok (Reading.seq_ok (Reading.seq_ok (Reading.seq_ok
    (Reading.map_ok ?_) ?_) ?_) ?_) ?_
  · exact shows.optional_real (by simp) (by decide) valueFinite
  · exact shows.optional_real (by simp) (by decide) baselineFinite
  · exact shows.optional_term (fun value => by cases value <;> decide) (by simp) (by decide)
      canonical.extraction
  · exact shows.optional_term (fun value => by cases value <;> decide) (by simp) (by decide)
      canonical.factorType
  · exact shows.optional_eq (by simp) (by decide) fun drivers _ =>
      ⟨Decode.reads_texts drivers, nofun⟩

namespace NodeBody

theorem dataOfSettings_eq (settings : SortedMap Double) :
    dataOfSettings settings = .object (present [("interventions", some (settingsJson settings))]) :=
  rfl

theorem reads_setting {value : Double} (finite : value.toFloat.isFinite = true) :
    Decoder.Reads decodeSetting (.ofFloat value.toFloat) value := by
  intro source next shows
  rw [decodeSetting, Decode.reads_real finite source next shows]
  exact congrArg Reading.ok (Double.ofFloat_toFloat_of_isFinite finite)

theorem reads_settings {settings : SortedMap Double}
    (finite : ∀ x ∈ settings.entries.map (·.2.toFloat), x.isFinite = true) :
    Decoder.Reads decodeSettings (dataOfSettings settings) settings := by
  rw [dataOfSettings_eq]
  refine Decoder.reads_record (by simp) fun slots shows => ?_
  exact shows.withDefault_given (List.mem_singleton_self _) (by decide)
    (Decode.reads_map (fun value : Double => .ofFloat value.toFloat) fun entry listed =>
      reads_setting (finite _ (List.mem_map_of_mem listed)))

/-- What its kind adds to a node. -/
def table : NodeBody → List (String × Option Json)
  | option settings => [("data", settings.map dataOfSettings)]
  | factor category data =>
    [("category", category.map Vocabulary.json), ("data", data.map FactorData.json)]
  | decision | outcome | risk | goal => []

end NodeBody

namespace Node

/-- The fields of a node, those of its kind behind those that all nodes have. -/
def table (node : Node) : List (String × Option Json) :=
  ("id", some (.string node.id)) :: ("label", some (.string node.label)) ::
    ("kind", some (Vocabulary.json node.kind)) :: node.body.table

theorem json_eq (node : Node) : node.json = .object (present node.table) := by
  obtain ⟨id, label, body⟩ := node
  unfold table
  cases body <;> simp only [NodeBody.table, present_some, present_map] <;> rfl

theorem distinct_table (node : Node) : (node.table.map (·.1)).Nodup := by
  obtain ⟨id, label, body⟩ := node
  unfold table
  cases body <;> simp [NodeBody.table]

variable {node : Node} {members : Members}

theorem slotsOf_shows (shows : members.Shows (present node.table)) (names : List String) :
    (NodeBody.slotsOf members names).Shows names node.table :=
  (Source.Shows.object .start shows).slots (fun _ _ => Source.Shows.wellFormed) node.distinct_table

theorem kind_read (shows : members.Shows (present node.table)) :
    (NodeBody.slotsOf members ["kind"]).required "kind" Vocabulary.decodeTagOrPlace =
      .ok node.kind := by
  have listed : ("kind", some (Vocabulary.json node.kind)) ∈ node.table := by simp [table]
  refine (slotsOf_shows shows ["kind"]).required_eq listed (by decide) ?_
  rintro _ next ⟨⟩
  simp only [Vocabulary.decodeTagOrPlace, Vocabulary.decodeTag, Vocabulary.ofWord?_word_nodeKind]
  rfl

theorem body_read (finite : ∀ x ∈ node.numbers, x.isFinite = true) (canonical : node.Canonical)
    (shows : members.Shows (present node.table)) : NodeBody.decode members = .ok node.body := by
  -- The kind is read first; what else is asked of the members depends on it.
  refine Reading.andThen_eq_ok.mpr
    ⟨node.kind, Reading.along_ok (kind_read shows) (slotsOf_shows shows ["kind"]).sound, ?_⟩
  obtain ⟨id, label, body⟩ := node
  cases body with
  | option settings =>
      have slots := slotsOf_shows shows ["data"]
      have listed : ("data", settings.map NodeBody.dataOfSettings) ∈
          table ⟨id, label, .option settings⟩ := by simp [table, NodeBody.table]
      refine Reading.along_ok (Reading.map_ok (slots.optional_eq listed (by decide) ?_)) slots.sound
      rintro given rfl
      exact ⟨NodeBody.reads_settings finite, nofun⟩
  | factor category data =>
      have slots := slotsOf_shows shows ["category", "data"]
      have categoryListed : ("category", category.map Vocabulary.json) ∈
          table ⟨id, label, .factor category data⟩ := by simp [table, NodeBody.table]
      have dataListed : ("data", data.map FactorData.json) ∈
          table ⟨id, label, .factor category data⟩ := by simp [table, NodeBody.table]
      refine Reading.along_ok (Reading.seq_ok (Reading.map_ok
        (slots.optional_eq categoryListed (by decide) fun given _ =>
          ⟨Vocabulary.reads true (Vocabulary.ofWord?_word_category given), nofun⟩))
        (slots.optional_eq dataListed (by decide) ?_)) slots.sound
      rintro given rfl
      exact ⟨FactorData.reads finite (canonical given rfl), nofun⟩
  | _ => rfl

theorem reads (finite : ∀ x ∈ node.numbers, x.isFinite = true) (canonical : node.Canonical) :
    Decoder.Reads Node.decode node.json node := by
  rw [json_eq]
  intro source next shows
  have slots : (source.slots Source.readable ["id", "label"] []).Shows ["id", "label"] node.table :=
    shows.slots (fun _ _ => Source.Shows.readable) node.distinct_table
  obtain ⟨close, closed⟩ := slots.close
  have idListed : ("id", some (.string node.id)) ∈ node.table := by simp [table]
  have labelListed : ("label", some (.string node.label)) ∈ node.table := by simp [table]
  cases shows with
  | object position each =>
      refine Reading.along_ok
        (Reading.seq_ok (Reading.seq_ok (Reading.map_ok ?_) ?_) ?_) slots.sound
      · exact slots.required_eq idListed (by decide) (Decode.reads_text node.id)
      · exact slots.withDefault_given labelListed (by decide) (Decode.reads_text node.label)
      · exact Reading.andThen_eq_ok.mpr
          ⟨close, closed, Reading.noticedAt_eq_ok.mpr (body_read finite canonical each)⟩

end Node

namespace Graph

theorem json_eq (graph : Graph) : graph.json = .object (present [
    ("nodes", some (.array (graph.nodes.map Node.json))),
    ("edges", some (.array (graph.edges.map Edge.json))),
    ("meta",
      if graph.notes.entries.isEmpty then none else some (.object graph.notes.entries))]) := by
  unfold json record
  split <;> rfl

theorem reads {graph : Graph} (held : graph.Held) :
    Decoder.Reads Graph.decode graph.json graph := by
  rw [json_eq]
  refine Decoder.reads_record (by simp) fun slots shows => ?_
  refine Reading.seq_ok (Reading.seq_ok (Reading.map_ok ?_) ?_) ?_
  · exact shows.withDefault_given List.mem_cons_self (by decide)
      (Decode.reads_list fun node listed =>
        Node.reads (held.nodes node listed) (held.words.nodes node listed))
  · exact shows.withDefault_given (.tail _ (.head _)) (by decide)
      (Decode.reads_list fun edge listed =>
        Edge.reads (held.edges edge listed) (held.words.edges edge listed))
  · refine shows.withDefault_eq (.tail _ (.tail _ (.head _))) (by decide) ?_ ?_
    · intro none
      have empty : graph.notes.entries.isEmpty = true := by simpa using none
      exact SortedMap.eq_of_entries (List.isEmpty_iff.mp empty)
    · intro json some
      cases (Option.ite_none_left_eq_some.mp some).2
      have each : ∀ entry ∈ graph.notes.entries, Decoder.Reads Decode.json (id entry.2) entry.2 :=
        fun entry listed => Decode.reads_json (held.notes entry listed)
      simpa using Decode.reads_map id each

end Graph

/-! There is room for a graph. -/

namespace Json.Fits

variable {room : Nat} {α : Type}

theorem ofFloat (room : Nat) (x : Float) : (Json.ofFloat x).Fits room := (Held.ofFloat room x).fits

theorem present {table : List (String × Option Json)}
    (each : ∀ field ∈ table, ∀ json ∈ field.2, json.Fits room) :
    (Json.object (Json.present table)).Fits (room + 1) := by
  refine .object fun member listed => ?_
  obtain ⟨field, fieldListed, given⟩ := List.mem_filterMap.mp listed
  obtain ⟨json, some, rfl⟩ := Option.map_eq_some_iff.mp given
  exact each field fieldListed json some

theorem texts (room : Nat) (texts : List String) : (Json.ofStrings texts).Fits (room + 1) :=
  (Held.texts room texts).fits

end Json.Fits

theorem Edge.fits (edge : Edge) (room : Nat) : edge.json.Fits (room + 1) := by
  rw [json_eq]
  refine .present ?_
  simp only [List.forall_mem_cons, Option.forall_mem_map, Option.mem_some_iff, forall_eq']
  exact ⟨.string room _, .string room _, .ofFloat room _, fun x _ => .ofFloat room x,
    fun x _ => .ofFloat room x, fun x _ => .ofFloat room x, fun _ _ => .string room _, nofun⟩

theorem FactorData.fits (data : FactorData) (room : Nat) : data.json.Fits (room + 2) := by
  rw [json_eq]
  refine .present ?_
  simp only [List.forall_mem_cons, Option.forall_mem_map]
  exact ⟨fun x _ => .ofFloat _ x, fun x _ => .ofFloat _ x, fun _ _ => .string _ _,
    fun _ _ => .string _ _, fun drivers _ => .texts room drivers, nofun⟩

theorem NodeBody.fits_dataOfSettings (settings : SortedMap Double) (room : Nat) :
    (dataOfSettings settings).Fits (room + 2) := by
  rw [dataOfSettings_eq]
  refine .present ?_
  simp only [List.forall_mem_cons, Option.mem_some_iff, forall_eq']
  exact ⟨.object (List.forall_mem_map.mpr fun entry _ => .ofFloat room _), nofun⟩

theorem Node.fits (node : Node) (room : Nat) : node.json.Fits (room + 3) := by
  rw [json_eq]
  refine .present ?_
  have body : ∀ field ∈ node.body.table, ∀ json ∈ field.2, json.Fits (room + 2) := by
    cases node.body with
    | option settings =>
        simp only [NodeBody.table, List.forall_mem_cons, Option.forall_mem_map]
        exact ⟨fun settings _ => NodeBody.fits_dataOfSettings settings room, nofun⟩
    | factor category data =>
        simp only [NodeBody.table, List.forall_mem_cons, Option.forall_mem_map]
        exact ⟨fun _ _ => .string _ _, fun data _ => data.fits room, nofun⟩
    | _ => exact nofun
  simp only [table, List.forall_mem_cons, Option.mem_some_iff, forall_eq']
  exact ⟨.string _ _, .string _ _, .string _ _, body⟩

namespace Graph

theorem fits {graph : Graph} (held : graph.Held) : graph.json.Fits Source.deepest := by
  rw [json_eq]
  refine .present ?_
  simp only [List.forall_mem_cons, Option.mem_some_iff, forall_eq']
  refine ⟨.array (List.forall_mem_map.mpr fun node _ => node.fits _),
    .array (List.forall_mem_map.mpr fun edge _ => edge.fits _), fun json written => ?_, nofun⟩
  cases (Option.ite_none_left_eq_some.mp written).2
  exact .object fun entry listed => (held.notes entry listed).fits

/-- A graph that was read from a text, or one that is held as if it were, is read back from its own
text, written on one line or indented. It is asked of the reals in it that they are read back. -/
theorem rereads {graph : Graph}
    (held : (∃ text, Decoder.read decode text = .ok graph) ∨ graph.Held)
    (numbers : ∀ x ∈ graph.json.reals, x.isFinite = true → (Number.real x).ReadsBack) :
    Decoder.read decode graph.json.compactText = .ok graph ∧
      Decoder.read decode graph.json.prettyText = .ok graph := by
  have held : graph.Held := held.elim (fun ⟨_, read⟩ => held_of_read read) id
  exact (reads held).of_texts (fits held) numbers

/-- Data that is there but empty, values that are not there, words that are none, and notes of many
kinds. -/
def sketch : Graph where
  nodes := [
    ⟨"raise", "Raise the price", .option (some (.ofList [("price", .ofFloat 0.5)]))⟩,
    ⟨"wait", "", .option (some .empty)⟩,
    ⟨"price", "Price", .factor (some .controllable)
      (some ⟨some 0.5, none, some (.foreign "guessed"), some (.word .price), some []⟩)⟩,
    ⟨"mood", "Mood", .factor none (some .empty)⟩,
    ⟨"profit", "Profit", .goal⟩]
  edges := [⟨"price", "profit", 0.5, none, some 0.5, some 0.5, some (.foreign "sideways")⟩]
  notes := .ofList [
    ("open", .array [.null, .bool true, .number (.integer (-7)), .number (.real 0.5)])]

theorem held_sketch : sketch.Held := by
  refine ⟨by decide +kernel, by decide +kernel, ⟨?_, ?_⟩, ?_⟩
  · simp only [sketch, List.forall_mem_cons]
    refine ⟨?_, ?_, ?_, ?_, ?_, List.forall_mem_nil _⟩
    iterate 2 rintro _ ⟨⟩
    · rintro _ ⟨⟩
      refine ⟨?_, ?_⟩
      · rintro _ ⟨⟩ _ ⟨⟩
      · rintro _ ⟨⟩ _ ⟨⟩
        decide
    · rintro _ ⟨⟩
      exact ⟨nofun, nofun⟩
    · rintro _ ⟨⟩
  · simp only [sketch, List.forall_mem_singleton]
    rintro _ ⟨⟩ _ ⟨⟩
    decide
  · have each : ∀ item ∈ [Json.null, .bool true, .number (.integer (-7)), .number (.real 0.5)],
        item.Held 124 := by
      simp only [List.forall_mem_cons]
      refine ⟨.null _, .bool _ _, .number _ ⟨by decide, by decide⟩, .number _ ?_,
        List.forall_mem_nil _⟩
      change (0.5 : Float).isFinite = true
      decide +kernel
    exact List.forall_mem_singleton.mpr (.array each)

theorem readsBack_half : (Number.real 0.5).ReadsBack := by
  refine Number.Scans.readsBack ⟨false, ['0', '.', '5'], by decide +kernel, .start, ⟨1, 3⟩, ?_⟩
  have read : Scan.numberOf? false [0] (some [5]) none = some (.real 0.5) := by
    unfold Scan.numberOf? realOfDigits?
    rw [scaleByTen?]
    decide +kernel
  change Except.ok (Scan.numberOf? false [0] (some [5]) none, _) = _
  rw [read]
  rfl

theorem rereads_sketch :
    sketch.Held ∧ (∀ x ∈ sketch.json.reals, x.isFinite = true → (Number.real x).ReadsBack) ∧
      Decoder.read decode sketch.json.compactText = .ok sketch ∧
      Decoder.read decode sketch.json.prettyText = .ok sketch := by
  have numbers : ∀ x ∈ sketch.json.reals, x.isFinite = true → (Number.real x).ReadsBack := by
    have listed : sketch.json.reals = List.replicate 6 0.5 := by decide +kernel
    rw [listed]
    intro x written _
    rw [List.eq_of_mem_replicate written]
    exact readsBack_half
  exact ⟨held_sketch, numbers, rereads (.inr held_sketch) numbers⟩

end Graph

end DecisionGraph
