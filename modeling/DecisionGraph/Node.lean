import DecisionGraph.Double
import DecisionGraph.Factor

/-!
Nodes of a decision graph. What a node carries depends on its kind: only options set factors, and
only factors have a category and data. What an option sets is compared with what others set by its
encoding, so it is kept as it is encoded.
-/

namespace DecisionGraph

inductive NodeBody
  | decision
  /-- The values that the option sets, by factor. -/
  | option (settings : Option (SortedMap Double))
  | factor (category : Option Category) (data : Option FactorData)
  | outcome
  | risk
  | goal
  deriving DecidableEq

structure Node where
  id : String
  label : String
  body : NodeBody
  deriving DecidableEq

namespace NodeBody

def kind : NodeBody → NodeKind
  | decision => .decision
  | option _ => .option
  | factor _ _ => .factor
  | outcome => .outcome
  | risk => .risk
  | goal => .goal

/-- The values that an option sets, as an object. -/
def settingsJson (settings : SortedMap Double) : Json :=
  .object (settings.entries.map fun entry => (entry.1, .ofFloat entry.2.toFloat))

def dataOfSettings (settings : SortedMap Double) : Json :=
  .record [Json.always "interventions" (settingsJson settings)]

def fields : NodeBody → List (List (String × Json))
  | option settings => [Json.whenSome "data" dataOfSettings settings]
  | factor category data => [
    Json.whenSome "category" Vocabulary.json category,
    Json.whenSome "data" FactorData.json data]
  | decision | outcome | risk | goal => []

def decodeSetting : Decoder Double := fun source next =>
  (Decode.real source next).map Double.ofFloat

def decodeSettings : Decoder (SortedMap Double) := fun source _ =>
  source.record ["interventions"] fun slots =>
    slots.withDefault "interventions" .empty (Decode.map decodeSetting)

/-- Members of a node read as fields with the given names; all of them are known to be values. -/
def slotsOf (members : Members) (names : List String) : Slots :=
  (Source.object .start members).slots Source.wellFormed names []

def decode (members : Members) : Reading NodeBody :=
  let tagged := slotsOf members ["kind"]
  let kind : Reading NodeKind := tagged.required "kind" Vocabulary.decodeTagOrPlace
  (kind.along tagged.sound).andThen fun
    | .decision => .ok decision
    | .outcome => .ok outcome
    | .risk => .ok risk
    | .goal => .ok goal
    | .option =>
      let slots := slotsOf members ["data"]
      (option <$> slots.optional "data" decodeSettings).along slots.sound
    | .factor =>
      let slots := slotsOf members ["category", "data"]
      (factor
        <$> slots.optional "category" (Vocabulary.decodeAs true)
        <*> slots.optional "data" FactorData.decode).along slots.sound

end NodeBody

namespace Node

def kind (node : Node) : NodeKind := node.body.kind

def isFactor (node : Node) : Bool := node.kind = .factor

/-- The category that a factor claims for itself. -/
def declaredCategory? (node : Node) : Option Category :=
  match node.body with
  | .factor category _ => category
  | _ => none

def factorData? (node : Node) : Option FactorData :=
  match node.body with
  | .factor _ data => data
  | _ => none

/-- The values that an option with data sets. -/
def settings? (node : Node) : Option (SortedMap Double) :=
  match node.body with
  | .option settings => settings
  | _ => none

/-- The values that an option sets; none when it has no data. -/
def settings (node : Node) : List (String × Double) :=
  match node.settings? with
  | some map => map.entries
  | none => []

def withCategory (node : Node) (category : Category) : Node :=
  match node.body with
  | .factor _ data => { node with body := .factor (some category) data }
  | _ => node

def withData (node : Node) (data : FactorData) : Node :=
  match node.body with
  | .factor category _ => { node with body := .factor category (some data) }
  | _ => node

def bareFactor (id label : String) : Node := ⟨id, label, .factor none none⟩

def optionSetting (id label : String) (values : List (String × Float)) : Node :=
  ⟨id, label, .option (some (.ofList (values.map fun entry => (entry.1, .ofFloat entry.2))))⟩

def json (node : Node) : Json := .record (
  [Json.always "id" (.string node.id),
    Json.always "label" (.string node.label),
    Json.always "kind" (Vocabulary.json node.kind)] ++ node.body.fields)

/-- Reads a node from an object. What its kind adds is judged when all members have been passed,
so all of them have to be values. -/
def decode : Decoder Node := fun source _ =>
  match source with
  | .object _ members =>
    let slots := source.slots Source.readable ["id", "label"] []
    let body := slots.close.andThen fun close => (NodeBody.decode members).noticedAt close
    (Node.mk
      <$> slots.required "id" Decode.text
      <*> slots.withDefault "label" "" Decode.text
      <*> body).along slots.sound
  | other => Decode.refuse "a node" other

end Node

end DecisionGraph
