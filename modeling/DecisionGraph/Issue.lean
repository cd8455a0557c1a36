import DecisionGraph.Issue.Code

/-!
Issues: what a check reports, where, and with which facts.
-/

namespace DecisionGraph

structure Issue where
  code : IssueCode
  /-- Where in the graph, such as `edges[3].strength_mean`. -/
  path : String
  message : String
  /-- The facts that a repair needs. -/
  context : Json
  severity : Severity

namespace Issue

def ofCode (code : IssueCode) (path message : String) (facts : List (String × Json)) : Issue :=
  ⟨code, path, message, .free facts, code.severity⟩

/-- Facts are an object; anything else becomes the one fact `value`. -/
def withContext (issue : Issue) (context : Json) : Issue :=
  match context with
  | .object _ => { issue with context }
  | other => { issue with context := .object [("value", other)] }

def isBlocking (issue : Issue) : Bool := issue.severity = .error

/-- The line that tells a person about the issue. -/
def text (issue : Issue) : String :=
  let severity := Vocabulary.word issue.severity
  let code := Vocabulary.word issue.code
  s!"[{severity}] {code} at {issue.path}: {issue.message}"

def json (issue : Issue) : Json := .record [
  Json.always "code" (Vocabulary.json issue.code),
  Json.always "path" (.string issue.path),
  Json.always "message" (.string issue.message),
  Json.always "context" issue.context,
  Json.always "severity" (Vocabulary.json issue.severity)]

def decode : Decoder Issue := fun source _ =>
  source.record ["code", "path", "message", "context", "severity"] fun slots =>
    Issue.mk
      <$> slots.required "code" Vocabulary.decode
      <*> slots.required "path" Decode.text
      <*> slots.required "message" Decode.text
      <*> slots.required "context" Decode.json
      <*> slots.required "severity" Vocabulary.decode

end Issue

end DecisionGraph
