import DecisionGraph.Graph

/-!
Words are kept as words: what is read from a text has no foreign term that is a word of its
vocabulary.
-/

namespace DecisionGraph

/-- A term that is foreign only when it is none of the words. -/
def Term.Canonical {α : Type} [Vocabulary α] (term : Term α) : Prop :=
  ∀ text, term = .foreign text → Vocabulary.ofWord? (α := α) text = none

structure FactorData.Canonical (data : FactorData) : Prop where
  factorType : ∀ term, data.factorType = some term → term.Canonical
  extraction : ∀ term, data.extraction = some term → term.Canonical

def Node.Canonical (node : Node) : Prop :=
  ∀ data, node.factorData? = some data → data.Canonical

def Edge.Canonical (edge : Edge) : Prop :=
  ∀ term, edge.direction = some term → term.Canonical

structure Graph.Canonical (graph : Graph) : Prop where
  nodes : ∀ node ∈ graph.nodes, node.Canonical
  edges : ∀ edge ∈ graph.edges, edge.Canonical

/-! When a judgement is a value, so are the judgements that it was made of. -/

namespace Reading

variable {α β : Type} {reading : Reading α}

theorem map_eq_ok {f : α → β} {value : β} :
    f <$> reading = .ok value ↔ ∃ part, reading = .ok part ∧ f part = value := by
  change reading.map f = _ ↔ _
  cases reading <;> simp [map]

theorem join_eq_ok {γ : Type} {f : α → β → γ} {other : Reading β} {value : γ} :
    join f reading other = .ok value ↔
      ∃ first second, reading = .ok first ∧ other = .ok second ∧ f first second = value := by
  cases reading <;> cases other <;> simp [join]

theorem seq_eq_ok {functions : Reading (α → β)} {value : β} :
    functions <*> reading = .ok value ↔
      ∃ f part, functions = .ok f ∧ reading = .ok part ∧ f part = value :=
  join_eq_ok

theorem of_along {other : Reading Unit} {value : α} (read : reading.along other = .ok value) :
    reading = .ok value := by
  obtain ⟨_, _, own, _, rfl⟩ := join_eq_ok.mp read
  exact own

theorem andThen_eq_ok {next : α → Reading β} {value : β} :
    reading.andThen next = .ok value ↔ ∃ part, reading = .ok part ∧ next part = .ok value := by
  cases reading <;> simp [andThen]

theorem noticedAt_eq_ok {position : Position} {value : α} :
    reading.noticedAt position = .ok value ↔ reading = .ok value := by
  cases reading <;> simp [noticedAt]

end Reading

namespace Slots

variable {α : Type} {slots : Slots} {field : String} {decode : Decoder α}

theorem mem_fields_of_find? {source : Source} {next : Position}
    (found : slots.find? field = some (source, next)) : (field, source, next) ∈ slots.fields := by
  obtain ⟨⟨name, given⟩, first, rfl⟩ := Option.map_eq_some_iff.mp found
  have same : name = field := by simpa using List.find?_some first
  exact same ▸ List.mem_of_find?_eq_some first

theorem given_of_required {value : α} (read : slots.required field decode = .ok value) :
    ∃ entry ∈ slots.fields, decode entry.2.1 entry.2.2 = .ok value := by
  unfold required at read
  split at read
  · next found => exact ⟨_, mem_fields_of_find? found, read⟩
  · obtain ⟨_, _, refused⟩ := Reading.andThen_eq_ok.mp read
    cases refused

theorem given_of_withDefault {value default : α}
    (read : slots.withDefault field default decode = .ok value) :
    value = default ∨ ∃ entry ∈ slots.fields, decode entry.2.1 entry.2.2 = .ok value := by
  unfold withDefault at read
  split at read
  · next found => exact .inr ⟨_, mem_fields_of_find? found, read⟩
  · cases read
    exact .inl rfl

theorem given_of_optional {value : α} (read : slots.optional field decode = .ok (some value)) :
    ∃ entry ∈ slots.fields, decode entry.2.1 entry.2.2 = .ok value := by
  obtain missing | ⟨entry, listed, nullable⟩ := given_of_withDefault read
  · cases missing
  · unfold Decode.nullable at nullable
    split at nullable
    · cases nullable
    · obtain ⟨part, decoded, same⟩ := Reading.map_eq_ok.mp nullable
      cases same
      exact ⟨entry, listed, decoded⟩

end Slots

/-- An item of the array, with the place behind it. -/
inductive Items.Has (item : Source) (next : Position) : Items → Prop
  | here (rest : Items) : Has item next (.more item next rest)
  | later (other : Source) (after : Position) {rest : Items} :
    rest.Has item next → Has item next (.more other after rest)

namespace Decode

variable {α : Type} {decode : Decoder α} {values : List α}

theorem refuse_ne_ok {expected : String} {source : Source} {value : α} :
    refuse expected source ≠ .ok value := by
  unfold refuse
  split <;> exact nofun

theorem given_of_mem_items {content : Items} (read : items decode content = .ok values) {value : α}
    (listed : value ∈ values) :
    ∃ source next, content.Has source next ∧ decode source next = .ok value := by
  induction values generalizing content with
  | nil => cases listed
  | cons first others ih =>
      unfold items at read
      split at read
      · cases read
      · obtain ⟨_, _, decoded, rest, same⟩ := Reading.join_eq_ok.mp read
        cases same
        rcases List.mem_cons.mp listed with rfl | later
        · exact ⟨_, _, .here _, decoded⟩
        · obtain ⟨source, next, has, decoded⟩ := ih rest later
          exact ⟨source, next, .later _ _ has, decoded⟩
      · cases read

theorem given_of_mem_list {source : Source} {next : Position}
    (read : list decode source next = .ok values) {value : α} (listed : value ∈ values) :
    ∃ position content item after, source = .array position content ∧ content.Has item after ∧
      decode item after = .ok value := by
  unfold list at read
  split at read
  · obtain ⟨item, after, has, decoded⟩ := given_of_mem_items read listed
    exact ⟨_, _, item, after, rfl, has, decoded⟩
  · exact absurd read refuse_ne_ok

end Decode

/-! So it goes from the terms up to the graph. -/

variable {source : Source} {next : Position}

theorem Term.canonical_of_decode {α : Type} [Vocabulary α] {term : Term α}
    (read : decode source next = .ok term) : term.Canonical := by
  rintro text rfl
  unfold decode at read
  split at read
  · cases read
  · rename_i unnamed
    cases read
    exact unnamed
  · obtain ⟨_, _, refused⟩ := Reading.andThen_eq_ok.mp read
    cases refused

theorem FactorData.canonical_of_decode {data : FactorData}
    (read : decode source next = .ok data) : data.Canonical := by
  have built := Reading.of_along read
  simp only [Reading.seq_eq_ok, Reading.map_eq_ok] at built
  obtain ⟨_, drivers, ⟨_, type, ⟨_, extraction, ⟨_, baseline, ⟨value, _, rfl⟩, _, rfl⟩, extracted,
    rfl⟩, typed, rfl⟩, _, rfl⟩ := built
  refine ⟨?_, ?_⟩
  · rintro term rfl
    obtain ⟨_, _, decoded⟩ := Slots.given_of_optional typed
    exact Term.canonical_of_decode decoded
  · rintro term rfl
    obtain ⟨_, _, decoded⟩ := Slots.given_of_optional extracted
    exact Term.canonical_of_decode decoded

theorem Edge.canonical_of_decode {edge : Edge} (read : decode source next = .ok edge) :
    edge.Canonical := by
  have built := Reading.of_along read
  simp only [Reading.seq_eq_ok, Reading.map_eq_ok] at built
  obtain ⟨_, direction, ⟨_, _, ⟨_, _, ⟨_, _, ⟨_, _, ⟨_, _, ⟨_, _, rfl⟩, _, rfl⟩, _, rfl⟩, _, rfl⟩,
    _, rfl⟩, _, rfl⟩, stated, rfl⟩ := built
  rintro term rfl
  obtain ⟨_, _, decoded⟩ := Slots.given_of_optional stated
  exact Term.canonical_of_decode decoded

theorem NodeBody.canonical_of_decode {members : Members} {category : Option Category}
    {data : FactorData} (read : decode members = .ok (.factor category (some data))) :
    data.Canonical := by
  obtain ⟨kind, _, body⟩ := Reading.andThen_eq_ok.mp read
  cases kind with
  | factor =>
      have built := Reading.of_along body
      simp only [Reading.seq_eq_ok, Reading.map_eq_ok] at built
      obtain ⟨_, given, ⟨_, _, rfl⟩, dataRead, same⟩ := built
      cases same
      obtain ⟨_, _, decoded⟩ := Slots.given_of_optional dataRead
      exact FactorData.canonical_of_decode decoded
  | option =>
      obtain ⟨_, _, same⟩ := Reading.map_eq_ok.mp (Reading.of_along body)
      cases same
  | _ => cases body

theorem Node.canonical_of_decode {node : Node} (read : decode source next = .ok node) :
    node.Canonical := by
  unfold decode at read
  split at read
  · have built := Reading.of_along read
    simp only [Reading.seq_eq_ok, Reading.map_eq_ok, Reading.andThen_eq_ok,
      Reading.noticedAt_eq_ok] at built
    obtain ⟨_, body, ⟨_, label, ⟨id, _, rfl⟩, _, rfl⟩, ⟨_, _, bodyRead⟩, rfl⟩ := built
    intro data given
    cases body with
    | factor category stated =>
        cases given
        exact NodeBody.canonical_of_decode bodyRead
    | _ => cases given
  · exact absurd read Decode.refuse_ne_ok

theorem Graph.canonical_of_decode {graph : Graph} (read : decode source next = .ok graph) :
    graph.Canonical := by
  have built := Reading.of_along read
  simp only [Reading.seq_eq_ok, Reading.map_eq_ok] at built
  obtain ⟨_, notes, ⟨_, edges, ⟨nodes, nodesRead, rfl⟩, edgesRead, rfl⟩, _, rfl⟩ := built
  refine ⟨fun node listed => ?_, fun edge listed => ?_⟩
  · obtain rfl | ⟨_, _, decoded⟩ := Slots.given_of_withDefault nodesRead
    · cases listed
    · obtain ⟨_, _, _, _, _, _, decoded⟩ := Decode.given_of_mem_list decoded listed
      exact Node.canonical_of_decode decoded
  · obtain rfl | ⟨_, _, decoded⟩ := Slots.given_of_withDefault edgesRead
    · cases listed
    · obtain ⟨_, _, _, _, _, _, decoded⟩ := Decode.given_of_mem_list decoded listed
      exact Edge.canonical_of_decode decoded

end DecisionGraph
