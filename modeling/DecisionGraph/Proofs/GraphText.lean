import DecisionGraph.Proofs.Reread
import DecisionGraph.Proofs.Unambiguous
import DecisionGraph.Proofs.UnfiniteAdvice

/-!
The text of a graph tells the graph. What is lost on the way is which of the numbers that are not
finite stands where one stands, and nothing else.
-/

namespace DecisionGraph

/-- The number, or one and the same where it is not finite. -/
def blurred (x : Float) : Float := if x.isFinite then x else 0 / 0

theorem ne_of_isFinite {x y : Float} (finite : x.isFinite = true) (unfinite : y.isFinite = false) :
    x ≠ y := by
  rintro rfl
  cases finite.symm.trans unfinite

theorem blurred_eq_iff {x y : Float} :
    blurred x = blurred y ↔ x = y ∨ x.isFinite = false ∧ y.isFinite = false := by
  have nothing : (0 / 0 : Float).isFinite = false := by decide +kernel
  unfold blurred
  cases finite : x.isFinite with
  | true =>
      cases also : y.isFinite with
      | true => simp
      | false => simp [ne_of_isFinite finite also, ne_of_isFinite finite nothing]
  | false =>
      cases also : y.isFinite with
      | true => simp [(ne_of_isFinite also finite).symm, (ne_of_isFinite also nothing).symm]
      | false => simp

/-- The number as it is encoded, or one encoding where it is not finite. -/
def Double.blurred (number : Double) : Double :=
  if number.toFloat.isFinite then number else .ofFloat (0 / 0)

namespace Double

variable {number other : Double}

theorem blurred_eq_ofFloat (number : Double) :
    number.blurred = ofFloat (DecisionGraph.blurred number.toFloat) := by
  unfold blurred DecisionGraph.blurred
  split
  · next finite => exact (ofFloat_toFloat_of_isFinite finite).symm
  · rfl

theorem blurred_eq_iff_toFloat :
    number.blurred = other.blurred ↔
      DecisionGraph.blurred number.toFloat = DecisionGraph.blurred other.toFloat := by
  rw [blurred_eq_ofFloat, blurred_eq_ofFloat, ofFloat_inj]

theorem blurred_eq_iff :
    number.blurred = other.blurred ↔
      number = other ∨ number.toFloat.isFinite = false ∧ other.toFloat.isFinite = false := by
  rw [blurred_eq_iff_toFloat, DecisionGraph.blurred_eq_iff]
  constructor
  · intro alike
    rcases alike with same | unfinite
    · cases finite : number.toFloat.isFinite with
      | true =>
          refine .inl ?_
          rw [← ofFloat_toFloat_of_isFinite finite, same,
            ofFloat_toFloat_of_isFinite (same ▸ finite)]
      | false => exact .inr ⟨rfl, same ▸ finite⟩
    · exact .inr unfinite
  · intro alike
    exact alike.imp_left (congrArg toFloat)

end Double

namespace SortedMap

variable {α β : Type}

def mapValues (change : α → β) (map : SortedMap α) : SortedMap β where
  entries := map.entries.map fun entry => (entry.1, change entry.2)
  sorted := List.pairwise_map.mpr map.sorted

end SortedMap

def FactorData.blurred (data : FactorData) : FactorData :=
  { data with
    value := data.value.map DecisionGraph.blurred
    baseline := data.baseline.map DecisionGraph.blurred }

def NodeBody.blurred : NodeBody → NodeBody
  | option settings => option (settings.map (SortedMap.mapValues Double.blurred))
  | factor category data => factor category (data.map FactorData.blurred)
  | other => other

def Node.blurred (node : Node) : Node := { node with body := node.body.blurred }

def Edge.blurred (edge : Edge) : Edge :=
  { edge with
    mean := DecisionGraph.blurred edge.mean
    deviation := edge.deviation.map DecisionGraph.blurred
    beliefExists := edge.beliefExists.map DecisionGraph.blurred
    belief := edge.belief.map DecisionGraph.blurred }

/-- The graph with one number in place of all those that are not finite. There are none in notes. -/
def Graph.blurred (graph : Graph) : Graph where
  nodes := graph.nodes.map Node.blurred
  edges := graph.edges.map Edge.blurred
  notes := graph.notes

/-! Two maps that tell apart the same items. -/

section Maps

variable {α β γ : Type} {f : α → β} {g : α → γ}

theorem optionMap_eq_iff {item other : Option α}
    (alike : ∀ first ∈ item, ∀ second ∈ other, f first = f second ↔ g first = g second) :
    item.map f = other.map f ↔ item.map g = other.map g := by
  cases item with
  | none => cases other <;> simp
  | some first =>
      cases other with
      | none => simp
      | some second => simpa using alike first rfl second rfl

theorem listMap_eq_iff {items others : List α}
    (alike : ∀ first ∈ items, ∀ second ∈ others, f first = f second ↔ g first = g second) :
    items.map f = others.map f ↔ items.map g = others.map g := by
  induction items generalizing others with
  | nil => cases others <;> simp
  | cons first items ih =>
      cases others with
      | nil => simp
      | cons second others =>
          have head := alike first List.mem_cons_self second List.mem_cons_self
          have tail := ih fun first listed second also =>
            alike first (List.mem_cons_of_mem _ listed) second (List.mem_cons_of_mem _ also)
          simp only [List.map_cons, List.cons.injEq, head, tail]

end Maps

namespace Json

theorem ofFloat_eq_iff {x y : Float} : ofFloat x = ofFloat y ↔ blurred x = blurred y := by
  rw [blurred_eq_iff]
  unfold ofFloat
  cases finite : x.isFinite with
  | true =>
      cases also : y.isFinite with
      | true => simp
      | false => simp [ne_of_isFinite finite also]
  | false =>
      cases also : y.isFinite with
      | true => simp [(ne_of_isFinite also finite).symm]
      | false => simp

theorem name_of_mem_present {table : List (String × Option Json)} {member : String × Json}
    (listed : member ∈ present table) : member.1 ∈ table.map (·.1) := by
  obtain ⟨field, given, made⟩ := List.mem_filterMap.mp listed
  obtain ⟨json, _, rfl⟩ := Option.map_eq_some_iff.mp made
  exact List.mem_map_of_mem given

/-- Where the names are the same, a field that is left out differs from one that is there. -/
theorem present_inj {table other : List (String × Option Json)}
    (names : table.map (·.1) = other.map (·.1)) (distinct : (table.map (·.1)).Nodup)
    (same : present table = present other) : table = other := by
  induction table generalizing other with
  | nil => exact (List.map_eq_nil_iff.mp names.symm).symm
  | cons field table ih =>
      obtain ⟨name, value⟩ := field
      cases other with
      | nil => cases names
      | cons second other =>
          obtain ⟨secondName, given⟩ := second
          simp only [List.map_cons, List.cons.injEq] at names
          obtain ⟨rfl, names⟩ := names
          rw [List.map_cons, List.nodup_cons] at distinct
          obtain ⟨alone, distinct⟩ := distinct
          cases value with
          | none =>
              cases given with
              | none => rw [ih names distinct same]
              | some json =>
                  have listed : (name, json) ∈ present table := by
                    rw [show present table = (name, json) :: present other from same]
                    exact List.mem_cons_self
                  exact absurd (name_of_mem_present listed) alone
          | some json =>
              cases given with
              | none =>
                  have listed : (name, json) ∈ present other := by
                    rw [← show (name, json) :: present table = present other from same]
                    exact List.mem_cons_self
                  rw [names] at alone
                  exact absurd (name_of_mem_present listed) alone
              | some second =>
                  obtain ⟨head, tail⟩ := List.cons.inj same
                  cases head
                  rw [ih names distinct tail]

theorem present_eq_iff {table other : List (String × Option Json)}
    (names : table.map (·.1) = other.map (·.1)) (distinct : (table.map (·.1)).Nodup) :
    Json.object (present table) = .object (present other) ↔ table = other := by
  rw [object.injEq]
  exact ⟨present_inj names distinct, fun same => same ▸ rfl⟩

end Json

open Json

theorem map_ofFloat_eq_iff {value other : Option Float} :
    value.map ofFloat = other.map ofFloat ↔ value.map blurred = other.map blurred :=
  optionMap_eq_iff fun _ _ _ _ => ofFloat_eq_iff

namespace Term

variable {α : Type} [Vocabulary α]

/-- A text that is no word of the vocabulary differs from all its words. -/
theorem json_inj (known : ∀ value : α, Vocabulary.ofWord? (Vocabulary.word value) = some value)
    {term other : Term α} (canonical : term.Canonical) (also : other.Canonical) :
    term.json = other.json ↔ term = other := by
  have apart {value : α} {text : String} (canonical : (foreign text : Term α).Canonical) :
      Vocabulary.word value ≠ text := by
    rintro rfl
    cases (known value).symm.trans (canonical _ rfl)
  cases term with
  | word value =>
      cases other with
      | word other =>
          simp only [json, text, Json.string.injEq, word.injEq]
          refine ⟨fun same => ?_, fun same => same ▸ rfl⟩
          have found := known value
          rw [same, known other] at found
          exact (Option.some.inj found).symm
      | foreign text => simp [json, Term.text, apart also]
  | foreign text =>
      cases other with
      | word other => simp [json, Term.text, (apart canonical).symm]
      | foreign other => simp [json, Term.text]

theorem map_json_eq_iff
    (known : ∀ value : α, Vocabulary.ofWord? (Vocabulary.word value) = some value)
    {term other : Option (Term α)} (canonical : ∀ given, term = some given → given.Canonical)
    (also : ∀ given, other = some given → given.Canonical) :
    term.map json = other.map json ↔ term = other := by
  have same : term.map json = other.map json ↔ term.map id = other.map id :=
    optionMap_eq_iff fun first given second found =>
      json_inj known (canonical first given) (also second found)
  rwa [Option.map_id, id, id] at same

end Term

theorem FactorData.json_eq_iff {data other : FactorData} (canonical : data.Canonical)
    (also : other.Canonical) : data.json = other.json ↔ data.blurred = other.blurred := by
  have extraction := Term.map_json_eq_iff (fun value => by cases value <;> decide)
    canonical.extraction also.extraction
  have factorType := Term.map_json_eq_iff (fun value => by cases value <;> decide)
    canonical.factorType also.factorType
  have drivers : data.drivers.map ofStrings = other.drivers.map ofStrings ↔
      data.drivers = other.drivers :=
    (Option.map_injective fun _ _ => ofStrings_inj.mp).eq_iff
  rw [json_eq, json_eq]
  refine (present_eq_iff (by rfl) (by simp)).trans ?_
  simp only [List.cons.injEq, Prod.mk.injEq, true_and, and_true, map_ofFloat_eq_iff, extraction,
    factorType, drivers, blurred, FactorData.mk.injEq]

theorem Edge.json_eq_iff {edge other : Edge} (canonical : edge.Canonical)
    (also : other.Canonical) : edge.json = other.json ↔ edge.blurred = other.blurred := by
  have direction := Term.map_json_eq_iff (fun value => by cases value <;> decide) canonical also
  rw [json_eq, json_eq]
  refine (present_eq_iff (by rfl) (by simp)).trans ?_
  simp only [List.cons.injEq, Prod.mk.injEq, true_and, and_true, Option.some.injEq,
    Json.string.injEq, ofFloat_eq_iff, map_ofFloat_eq_iff, direction, blurred, Edge.mk.injEq]

theorem NodeBody.dataOfSettings_eq_iff {settings other : SortedMap Double} :
    dataOfSettings settings = dataOfSettings other ↔
      settings.mapValues Double.blurred = other.mapValues Double.blurred := by
  have entries : (settings.entries.map fun entry => (entry.1, ofFloat entry.2.toFloat)) =
      (other.entries.map fun entry => (entry.1, ofFloat entry.2.toFloat)) ↔
      (settings.entries.map fun entry => (entry.1, entry.2.blurred)) =
        other.entries.map fun entry => (entry.1, entry.2.blurred) :=
    listMap_eq_iff fun first _ second _ => by
      simp only [Prod.mk.injEq, ofFloat_eq_iff, Double.blurred_eq_iff_toFloat]
  rw [dataOfSettings_eq, dataOfSettings_eq]
  refine (present_eq_iff (by rfl) (by simp)).trans ?_
  simp only [List.cons.injEq, Prod.mk.injEq, true_and, and_true, Option.some.injEq, settingsJson,
    Json.object.injEq, entries, SortedMap.mapValues, SortedMap.mk.injEq]

theorem Vocabulary.json_injective {α : Type} [Vocabulary α]
    (known : ∀ value : α, ofWord? (word value) = some value) :
    Function.Injective (json : α → Json) := by
  intro value other same
  have found := known value
  rw [Json.string.inj same, known other] at found
  exact (Option.some.inj found).symm

namespace NodeBody

variable {body other : NodeBody}

theorem kind_blurred (body : NodeBody) : body.blurred.kind = body.kind := by
  cases body <;> rfl

theorem names_table (kind : body.kind = other.kind) :
    body.table.map (·.1) = other.table.map (·.1) := by
  cases body <;> cases other <;> first | rfl | cases kind

theorem distinct_table (body : NodeBody) : (body.table.map (·.1)).Nodup := by
  cases body <;> simp [table]

theorem table_eq_iff (kind : body.kind = other.kind)
    (canonical : ∀ category data, body = .factor category (some data) → data.Canonical)
    (also : ∀ category data, other = .factor category (some data) → data.Canonical) :
    body.table = other.table ↔ body.blurred = other.blurred := by
  cases body with
  | option settings =>
      cases other <;> try cases kind
      next others =>
        have data : settings.map dataOfSettings = others.map dataOfSettings ↔
            settings.map (SortedMap.mapValues Double.blurred) =
              others.map (SortedMap.mapValues Double.blurred) :=
          optionMap_eq_iff fun _ _ _ _ => dataOfSettings_eq_iff
        simp [table, blurred, data]
  | factor category data =>
      cases other <;> try cases kind
      next declared others =>
        have claims : category.map Vocabulary.json = declared.map Vocabulary.json ↔
            category = declared :=
          (Option.map_injective
            (Vocabulary.json_injective Vocabulary.ofWord?_word_category)).eq_iff
        have data : data.map FactorData.json = others.map FactorData.json ↔
            data.map FactorData.blurred = others.map FactorData.blurred := by
          refine optionMap_eq_iff fun first given second found => ?_
          exact FactorData.json_eq_iff (canonical category first (by rw [given]))
            (also declared second (by rw [found]))
        simp [table, blurred, claims, data]
  | _ =>
      cases other <;> try cases kind
      simp [table, blurred]

end NodeBody

theorem Node.json_eq_iff {node other : Node} (canonical : node.Canonical)
    (also : other.Canonical) : node.json = other.json ↔ node.blurred = other.blurred := by
  obtain ⟨id, label, body⟩ := node
  obtain ⟨otherId, otherLabel, otherBody⟩ := other
  have kinds : Vocabulary.json body.kind = Vocabulary.json otherBody.kind ↔
      body.kind = otherBody.kind :=
    (Vocabulary.json_injective Vocabulary.ofWord?_word_nodeKind).eq_iff
  have bodies (kind : body.kind = otherBody.kind) :
      present body.table = present otherBody.table ↔ body.blurred = otherBody.blurred := by
    have tables := NodeBody.table_eq_iff kind
      (fun category data same => canonical data (by rw [factorData?, same]))
      (fun category data same => also data (by rw [factorData?, same]))
    rw [← tables]
    exact ⟨present_inj (NodeBody.names_table kind) body.distinct_table, fun same => same ▸ rfl⟩
  rw [json_eq, json_eq]
  simp only [table, present_some, always, List.cons_append, List.nil_append, Json.object.injEq,
    List.cons.injEq, Prod.mk.injEq, true_and, Json.string.injEq, Node.kind, kinds, blurred,
    Node.mk.injEq]
  refine and_congr_right fun _ => and_congr_right fun _ => ?_
  constructor
  · intro same
    exact (bodies same.1).mp same.2
  · intro same
    have kind : body.kind = otherBody.kind := by
      rw [← body.kind_blurred, same, otherBody.kind_blurred]
    exact ⟨kind, (bodies kind).mpr same⟩

namespace Graph

/-- Empty notes are left out, and no others are. -/
theorem notes_eq_iff {notes other : SortedMap Json} :
    ((if notes.entries.isEmpty then none else some (Json.object notes.entries)) =
      if other.entries.isEmpty then none else some (Json.object other.entries)) ↔
      notes = other := by
  constructor
  · intro same
    refine SortedMap.eq_of_entries ?_
    split at same
    · next empty =>
      split at same
      · next alsoEmpty => rw [List.isEmpty_iff.mp empty, List.isEmpty_iff.mp alsoEmpty]
      · cases same
    · split at same
      · cases same
      · exact Json.object.inj (Option.some.inj same)
  · rintro rfl
    rfl

theorem json_eq_iff {graph other : Graph} (canonical : graph.Canonical)
    (also : other.Canonical) : graph.json = other.json ↔ graph.blurred = other.blurred := by
  have nodes : graph.nodes.map Node.json = other.nodes.map Node.json ↔
      graph.nodes.map Node.blurred = other.nodes.map Node.blurred :=
    listMap_eq_iff fun first listed second found =>
      Node.json_eq_iff (canonical.nodes first listed) (also.nodes second found)
  have edges : graph.edges.map Edge.json = other.edges.map Edge.json ↔
      graph.edges.map Edge.blurred = other.edges.map Edge.blurred :=
    listMap_eq_iff fun first listed second found =>
      Edge.json_eq_iff (canonical.edges first listed) (also.edges second found)
  rw [json_eq, json_eq]
  refine (present_eq_iff (by rfl) (by simp)).trans ?_
  simp only [List.cons.injEq, Prod.mk.injEq, true_and, and_true, Option.some.injEq,
    Json.array.injEq, nodes, edges, notes_eq_iff, blurred, Graph.mk.injEq]

theorem text_eq_text_iff {graph other : Graph} :
    graph.text = other.text ↔ graph.json = other.json := compactText_injective.eq_iff

/-- Two graphs have one text, and so one text to be hashed, just when they are equal field for
field up to the choice among numbers that are not finite. A number that is not there differs from
them all, and the two zeros differ. -/
theorem text_eq_iff_blurred_eq {graph other : Graph} (canonical : graph.Canonical)
    (also : other.Canonical) :
    (graph.text = other.text ↔ graph.blurred = other.blurred) ∧
      (∀ x y : Float, DecisionGraph.blurred x = DecisionGraph.blurred y ↔
        x = y ∨ x.isFinite = false ∧ y.isFinite = false) ∧
      (∀ x y : Double, x.blurred = y.blurred ↔
        x = y ∨ x.toFloat.isFinite = false ∧ y.toFloat.isFinite = false) ∧
      (∀ x : Float, none ≠ (some x).map DecisionGraph.blurred) ∧
      DecisionGraph.blurred 0 ≠ DecisionGraph.blurred (-0) := by
  refine ⟨text_eq_text_iff.trans (json_eq_iff canonical also), fun x y => blurred_eq_iff,
    fun x y => Double.blurred_eq_iff, fun x => (Option.some_ne_none _).symm, ?_⟩
  decide +kernel

end Graph

namespace Sample

/-- An edge by itself. -/
def lone (mean : Float) : Graph := .ofLists [] [.bare "price" "profit" mean]

theorem canonical_lone (mean : Float) : (lone mean).Canonical := by
  refine ⟨List.forall_mem_nil _, ?_⟩
  simp only [lone, Graph.ofLists, List.forall_mem_singleton]
  rintro _ ⟨⟩

theorem blurred_lone (mean : Float) : (lone mean).blurred = lone (blurred mean) := rfl

end Sample

open Sample in
theorem Graph.text_eq_iff_blurred_eq_lone :
    (lone (1 / 0)).Canonical ∧ (lone (-1 / 0)).Canonical ∧ (lone 0).Canonical ∧
      (lone (1 / 0)).text = (lone (-1 / 0)).text ∧ (lone (1 / 0)).text ≠ (lone 0).text := by
  have infinite : (1 / 0 : Float).isFinite = false := by decide +kernel
  have negative : (-1 / 0 : Float).isFinite = false := by decide +kernel
  obtain ⟨alike, same, _⟩ :=
    text_eq_iff_blurred_eq (canonical_lone (1 / 0)) (canonical_lone (-1 / 0))
  obtain ⟨apart, _⟩ := text_eq_iff_blurred_eq (canonical_lone (1 / 0)) (canonical_lone 0)
  refine ⟨canonical_lone _, canonical_lone _, canonical_lone _, ?_, ?_⟩
  · rw [alike, blurred_lone, blurred_lone, (same _ _).mpr (.inr ⟨infinite, negative⟩)]
  · intro equal
    have means : [DecisionGraph.blurred (1 / 0)] = [DecisionGraph.blurred 0] :=
      congrArg (fun graph => graph.edges.map Edge.mean) (apart.mp equal)
    exact absurd means (by decide +kernel)

/-! Nothing is lost of numbers that are finite. -/

theorem blurred_of_isFinite {x : Float} (finite : x.isFinite = true) : blurred x = x :=
  if_pos finite

theorem map_blurred_of_isFinite {value : Option Float}
    (finite : ∀ x ∈ value.toList, x.isFinite = true) : value.map blurred = value := by
  cases value with
  | none => rfl
  | some x => exact congrArg some (blurred_of_isFinite (finite x List.mem_cons_self))

theorem SortedMap.mapValues_blurred {map : SortedMap Double}
    (finite : ∀ entry ∈ map.entries, entry.2.toFloat.isFinite = true) :
    map.mapValues Double.blurred = map :=
  eq_of_entries <| (List.map_congr_left fun entry listed =>
    congrArg (Prod.mk entry.1) (if_pos (finite entry listed))).trans (List.map_id _)

theorem Node.blurred_of_isFinite {node : Node}
    (finite : ∀ x ∈ node.numbers, x.isFinite = true) : node.blurred = node := by
  obtain ⟨id, label, body⟩ := node
  refine congrArg (Node.mk id label) ?_
  cases body with
  | option settings =>
      cases settings with
      | none => rfl
      | some settings =>
          have same := SortedMap.mapValues_blurred fun entry listed =>
            finite entry.2.toFloat (List.mem_map_of_mem listed)
          simp only [NodeBody.blurred, Option.map_some, same]
  | factor category data =>
      cases data with
      | none => rfl
      | some data =>
          obtain ⟨value, baseline⟩ := List.forall_mem_append.mp finite
          simp only [NodeBody.blurred, Option.map_some, FactorData.blurred,
            map_blurred_of_isFinite value, map_blurred_of_isFinite baseline]
  | _ => rfl

theorem Edge.blurred_of_isFinite {edge : Edge}
    (finite : ∀ x ∈ edge.numbers, x.isFinite = true) : edge.blurred = edge := by
  simp only [numbers, List.forall_mem_cons, List.forall_mem_append] at finite
  obtain ⟨mean, ⟨deviation, beliefExists⟩, belief⟩ := finite
  rw [blurred, DecisionGraph.blurred_of_isFinite mean, map_blurred_of_isFinite deviation,
    map_blurred_of_isFinite beliefExists, map_blurred_of_isFinite belief]

namespace Graph

variable {graph other : Graph}

theorem Held.blurred_eq (held : graph.Held) : graph.blurred = graph := by
  have nodes : graph.nodes.map Node.blurred = graph.nodes.map id :=
    List.map_congr_left fun node listed => Node.blurred_of_isFinite (held.nodes node listed)
  have edges : graph.edges.map Edge.blurred = graph.edges.map id :=
    List.map_congr_left fun edge listed => Edge.blurred_of_isFinite (held.edges edge listed)
  rw [blurred, nodes, edges, List.map_id, List.map_id]

/-- The text of a graph that was read tells all of it. -/
theorem Held.text_eq_iff (held : graph.Held) (also : other.Held) :
    graph.text = other.text ↔ graph = other := by
  rw [text_eq_text_iff, json_eq_iff held.words also.words, held.blurred_eq, also.blurred_eq]

end Graph

end DecisionGraph
