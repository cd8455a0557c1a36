import DecisionGraph.Json.Reading

/-!
Constraints on goals. They come with a graph and name one of its nodes.
-/

namespace DecisionGraph

structure Constraint where
  id : String
  node : String
  operator : String
  value : Float
  label : Option String
  deriving DecidableEq

namespace Constraint

def json (constraint : Constraint) : Json := .record [
  Json.always "constraint_id" (.string constraint.id),
  Json.always "node_id" (.string constraint.node),
  Json.always "operator" (.string constraint.operator),
  Json.always "value" (.ofFloat constraint.value),
  Json.whenSome "label" .string constraint.label]

def fieldNames : List String := ["constraint_id", "node_id", "operator", "value", "label"]

/-- Both ids have a second spelling. -/
def decode : Decoder Constraint := fun source _ =>
  let slots := source.slots Source.wellFormed fieldNames
    [("constraintId", "constraint_id"), ("nodeId", "node_id")]
  (Constraint.mk
    <$> slots.required "constraint_id" Decode.text
    <*> slots.required "node_id" Decode.text
    <*> slots.required "operator" Decode.text
    <*> slots.required "value" Decode.real
    <*> slots.optional "label" Decode.text).along slots.sound

end Constraint

end DecisionGraph
