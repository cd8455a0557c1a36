import DecisionGraph.Issue
import DecisionGraph.Json.Printer

/-!
Mutations: the audit log of a repair, one entry for each field that was changed.
-/

namespace DecisionGraph

/-- The rules of a repair, in the order in which they run. -/
inductive RepairRule
  | categoryOverride | enumValidation | constraintTargetRemap | signReconciliation
  | controllableDataCompletion
  deriving DecidableEq, Repr

instance : Vocabulary RepairRule where
  noun := "repair rule"
  all := [.categoryOverride, .enumValidation, .constraintTargetRemap, .signReconciliation,
    .controllableDataCompletion]
  word
    | .categoryOverride => "category_override"
    | .enumValidation => "enum_validation"
    | .constraintTargetRemap => "constraint_target_remap"
    | .signReconciliation => "sign_reconciliation"
    | .controllableDataCompletion => "controllable_data_completion"

inductive Target
  | node (id : String)
  | edge (position : Nat) (source target : String)
  | constraint (id : String)
  deriving DecidableEq, Repr

namespace Target

def text : Target → String
  | node id => s!"node {id}"
  | edge position source target => s!"edge[{position}] {source}->{target}"
  | constraint id => s!"constraint {id}"

def json : Target → Json
  | node id => .record [Json.always "type" (.string "node"), Json.always "node_id" (.string id)]
  | edge position source target => .record [
    Json.always "type" (.string "edge"),
    Json.always "index" (.ofNat position),
    Json.always "from" (.string source),
    Json.always "to" (.string target)]
  | constraint id =>
    .record [Json.always "type" (.string "constraint"), Json.always "constraint_id" (.string id)]

inductive Kind
  | node | edge | constraint
  deriving DecidableEq, Repr

instance : Vocabulary Kind where
  noun := "target type"
  all := [.node, .edge, .constraint]
  word
    | .node => "node"
    | .edge => "edge"
    | .constraint => "constraint"

def Kind.fields : Kind → List String
  | .node => ["node_id"]
  | .edge => ["index", "from", "to"]
  | .constraint => ["constraint_id"]

def decodeFields (kind : Kind) (slots : Slots) : Reading Target :=
  match kind with
  | .node => node <$> slots.required "node_id" Decode.text
  | .edge =>
    edge
      <$> slots.required "index" Decode.count
      <*> slots.required "from" Decode.text
      <*> slots.required "to" Decode.text
  | .constraint => constraint <$> slots.required "constraint_id" Decode.text

/-- Reads a target from an object that names its type or from an array that starts with it. What
the type does not tell is kept until the type is known, so all of it has to be values. -/
def decode : Decoder Target := fun source _ =>
  match source with
  | .object _ _ =>
    let tagged := source.slots Source.readable ["type"] []
    ((tagged.required "type" (Vocabulary.decodeTag (α := Kind))).along
      tagged.sound).andThen fun kind =>
        let slots := source.slots Source.wellFormed kind.fields []
        (decodeFields kind slots).along slots.sound
  | .array _ (.more tag next rest) =>
    (Vocabulary.decodeTag (α := Kind) tag next).andThen fun kind =>
      let slots := Slots.ofItems kind.fields next rest
      (decodeFields kind slots).along slots.sound
  | other => Decode.refuse "a target" other

end Target

structure Mutation where
  rule : RepairRule
  code : IssueCode
  target : Target
  /-- The field, seen from the target. -/
  field : String
  before : Json
  after : Json
  severity : Severity

namespace Mutation

/-- An entry as grave as its code. -/
def ofCode (rule : RepairRule) (code : IssueCode) (target : Target) (field : String)
    (before after : Json) : Mutation :=
  ⟨rule, code, target, field, before, after, code.severity⟩

/-- The line that tells a person about the change. -/
def text (mutation : Mutation) : String :=
  let severity := Vocabulary.word mutation.severity
  let code := Vocabulary.word mutation.code
  let before := mutation.before.compactText
  let after := mutation.after.compactText
  s!"[{severity}] {code} {mutation.target.text}.{mutation.field}: {before} -> {after}"

def json (mutation : Mutation) : Json := .record [
  Json.always "rule" (Vocabulary.json mutation.rule),
  Json.always "code" (Vocabulary.json mutation.code),
  Json.always "target" mutation.target.json,
  Json.always "field" (.string mutation.field),
  Json.always "before" mutation.before,
  Json.always "after" mutation.after,
  Json.always "severity" (Vocabulary.json mutation.severity)]

def fieldNames : List String := ["rule", "code", "target", "field", "before", "after", "severity"]

def decode : Decoder Mutation := fun source _ =>
  source.record fieldNames fun slots =>
    Mutation.mk
      <$> slots.required "rule" Vocabulary.decode
      <*> slots.required "code" Vocabulary.decode
      <*> slots.required "target" Target.decode
      <*> slots.required "field" Decode.text
      <*> slots.required "before" Decode.json
      <*> slots.required "after" Decode.json
      <*> slots.required "severity" Vocabulary.decode

end Mutation

end DecisionGraph
