import DecisionGraph.Graph.Edit
import DecisionGraph.Proofs.Distinct

/-!
Replaying the log of a repair. An entry can be done again from what it says: it names a place, a
field and two values, the one that the field has before and the one that it has afterwards.
-/

namespace DecisionGraph

open Repair

/-! What a field has, and how it is given a value. -/

namespace Json

/-- The value under a name; `null` when there is none. -/
def member (json : Json) (name : String) : Json :=
  match json with
  | .object members => ((members.find? (·.1 = name)).map (·.2)).getD .null
  | _ => .null

/-- The names along which a field is found. -/
def pathOf (field : String) : List String := (field.toList.splitOn '.').map String.ofList

def field (json : Json) (field : String) : Json := (pathOf field).foldl member json

/-- What a decoder makes of a value; `null` stands for nothing. -/
def read? {α : Type} (decode : Decoder α) (value : Json) : Option (Option α) :=
  (Decode.nullable decode (.ofJson value) .start).toOption

end Json

def FactorData.write? (data : FactorData) (name : String) (value : Json) : Option FactorData :=
  match name with
  | "factor_type" => (value.read? Term.decode).map fun factorType => { data with factorType }
  | "extractionType" => (value.read? Term.decode).map fun extraction => { data with extraction }
  | "uncertainty_drivers" =>
    (value.read? (Decode.list Decode.text)).map fun drivers => { data with drivers }
  | _ => none

namespace Node

/-- Gives a field of a factor a value; data that are absent are empty at first. -/
def write? (node : Node) (field : String) (value : Json) : Option Node :=
  match node.body, Json.pathOf field with
  | .factor _ data, ["category"] =>
    (value.read? (Vocabulary.decodeAs true)).map fun category =>
      { node with body := .factor category data }
  | .factor category data, ["data", name] =>
    ((data.getD .empty).write? name value).map fun data =>
      { node with body := .factor category (some data) }
  | _, _ => none

/-- What an entry says of a node: the field has one value and is given the other. -/
structure Redoes (entry : Mutation) (node next : Node) : Prop where
  target : entry.target = .node node.id
  before : node.json.field entry.field = entry.before
  after : node.write? entry.field entry.after = some next

end Node

namespace Edge

def write? (edge : Edge) (field : String) (value : Json) : Option Edge :=
  match Json.pathOf field with
  | ["effect_direction"] =>
    (value.read? Term.decode).map fun direction => { edge with direction }
  | _ => none

structure Redoes (position : Nat) (entry : Mutation) (edge next : Edge) : Prop where
  target : entry.target = .edge position edge.source edge.target
  before : edge.json.field entry.field = entry.before
  after : edge.write? entry.field entry.after = some next

end Edge

namespace Graph

/-- What a field of a target has: of the node with an id, or of the edge at a position, if it has
the ends that it is said to have. -/
def wire? (graph : Graph) (field : String) : Target → Option Json
  | .node id => do
    let position ← graph.position? id
    let node ← graph.nodes[position]?
    return node.json.field field
  | .edge position source target => do
    let edge ← graph.edges[position]?
    if edge.source = source ∧ edge.target = target then return edge.json.field field else none
  | .constraint _ => none

def write? (graph : Graph) (field : String) (value : Json) : Target → Option Graph
  | .node id => do
    let position ← graph.position? id
    let node ← graph.nodes[position]?
    let next ← node.write? field value
    graph.setNode? position next
  | .edge position source target => do
    let edge ← graph.edges[position]?
    if edge.source = source ∧ edge.target = target then
      let next ← edge.write? field value
      graph.setEdge? position next
    else none
  | .constraint _ => none

structure Redoes (entry : Mutation) (graph next : Graph) : Prop where
  before : graph.wire? entry.field entry.target = some entry.before
  after : graph.write? entry.field entry.after entry.target = some next

end Graph

/-- A log leads from one state to another, entry by entry. -/
inductive Replays {σ : Type} (redoes : Mutation → σ → σ → Prop) : List Mutation → σ → σ → Prop
  | done (state : σ) : Replays redoes [] state state
  | step {entry : Mutation} {rest : List Mutation} {before between after : σ} :
    redoes entry before between → Replays redoes rest between after →
    Replays redoes (entry :: rest) before after

namespace Replays

variable {σ : Type} {redoes : Mutation → σ → σ → Prop}

theorem one {entry : Mutation} {before after : σ} (redone : redoes entry before after) :
    Replays redoes [entry] before after := step redone (done after)

theorem append {first second : List Mutation} {before between after : σ}
    (earlier : Replays redoes first before between) (later : Replays redoes second between after) :
    Replays redoes (first ++ second) before after := by
  induction earlier with
  | done state => exact later
  | step redone _ ih => exact step redone (ih later)

/-- What every entry keeps, the log keeps. -/
theorem keeps {τ : Type} (part : σ → τ)
    (kept : ∀ entry before after, redoes entry before after → part after = part before)
    {log : List Mutation} {before after : σ} (replays : Replays redoes log before after) :
    part after = part before := by
  induction replays with
  | done state => rfl
  | step redone _ ih => exact ih.trans (kept _ _ _ redone)

/-- The changes of the items follow each other, if each can be replayed in its place among items
that are sound: `state` is the state with a list of items, of which some are changed already. -/
theorem each {α β : Type} (initial : α → β) (change : α → Logged β) (state : List β → σ)
    (sound : List β → Prop) (items : List α) (ready : List β)
    (run : ∀ (index : Nat) (item : α), items[index]? = some item → ∀ before rest : List β,
      before.length = ready.length + index → sound (before ++ initial item :: rest) →
      sound (before ++ (change item).value :: rest) ∧
        Replays redoes (change item).log (state (before ++ initial item :: rest))
          (state (before ++ (change item).value :: rest)))
    (start : sound (ready ++ items.map initial)) :
    Replays redoes (Logged.each change items).log (state (ready ++ items.map initial))
      (state (ready ++ (Logged.each change items).value)) := by
  induction items generalizing ready with
  | nil => exact done _
  | cons item rest ih =>
      obtain ⟨kept, first⟩ := run 0 item rfl ready (rest.map initial) rfl start
      have later := ih (ready ++ [(change item).value])
        (fun index other listed before after length =>
          run (index + 1) other listed before after (by simp at length; omega))
        (by simpa using kept)
      simp only [List.append_assoc, List.singleton_append] at later
      exact first.append later

end Replays

/-! Single fields. -/

namespace Json

variable {α : Type} (name sought : String) (encode : α → Json) (value : Option α)

@[simp] theorem find?_always (value : Json) :
    (always name value).find? (·.1 = sought) =
      if name = sought then some (name, value) else none := by
  by_cases same : name = sought <;> simp [always, same]

@[simp] theorem find?_whenSome :
    (whenSome name encode value).find? (·.1 = sought) =
      if name = sought then value.map fun value => (name, encode value) else none := by
  cases value with
  | none => simp [whenSome]
  | some value => by_cases same : name = sought <;> simp [whenSome, same]

theorem ofOption_eq_getD : ofOption encode value = (value.map encode).getD .null := by
  cases value <;> rfl

end Json

namespace FactorData

variable (data : FactorData)

theorem member_factorType :
    data.json.member "factor_type" = .ofOption Term.json data.factorType := by
  simp [json, Json.record, Json.member, Json.ofOption_eq_getD, Function.comp_def]

theorem member_extraction :
    data.json.member "extractionType" = .ofOption Term.json data.extraction := by
  simp [json, Json.record, Json.member, Json.ofOption_eq_getD, Function.comp_def]

theorem member_drivers :
    data.json.member "uncertainty_drivers" = .ofOption .ofStrings data.drivers := by
  simp [json, Json.record, Json.member, Json.ofOption_eq_getD, Function.comp_def]

end FactorData

namespace Node

variable (rule : RepairRule) (code : IssueCode) (id label : String) (category : Option Category)

theorem redoes_category (inferred : Category) (data : Option FactorData) :
    Redoes (entry rule code id "category" (.ofOption Vocabulary.json category)
        (Vocabulary.json inferred))
      ⟨id, label, .factor category data⟩ ⟨id, label, .factor (some inferred) data⟩ := by
  have path : Json.pathOf "category" = ["category"] := by decide
  refine ⟨rfl, ?_, ?_⟩
  · simp only [Json.field, entry, Mutation.ofCode, path]
    cases category <;> cases data <;> rfl
  · simp only [write?, entry, Mutation.ofCode, path]
    cases inferred <;> rfl

theorem redoes_data {field name : String} (path : Json.pathOf field = ["data", name])
    {data : Option FactorData} {next : FactorData} {before after : Json}
    (given : (data.getD .empty).json.member name = before)
    (written : (data.getD .empty).write? name after = some next) :
    Redoes (entry rule code id field before after)
      ⟨id, label, .factor category data⟩ ⟨id, label, .factor category (some next)⟩ := by
  refine ⟨rfl, ?_, ?_⟩
  · simp only [Json.field, entry, Mutation.ofCode, path]
    rw [← given]
    cases category <;> cases data <;> rfl
  · simp only [write?, entry, Mutation.ofCode, path, written, Option.map_some]

end Node

theorem Edge.redoes_direction (rule : RepairRule) (code : IssueCode) (edge : Edge) (position : Nat)
    (implied : Direction) :
    edge.Redoes position
      (.ofCode rule code (edgeTarget edge position) "effect_direction"
        (.ofOption Term.json edge.direction) (Vocabulary.json implied))
      { edge with direction := some (.word implied) } := by
  have path : Json.pathOf "effect_direction" = ["effect_direction"] := by decide
  refine ⟨rfl, ?_, ?_⟩
  · simp [Json.field, path, json, Mutation.ofCode, Json.record, Json.member, Json.ofOption_eq_getD,
      Function.comp_def]
  · simp only [write?, Mutation.ofCode, path]
    cases implied <;> rfl

end DecisionGraph
