import DecisionGraph.Failure
import DecisionGraph.Json.Reader
import DecisionGraph.Text.Blank
import DecisionGraph.Toml.Document

/-!
Limits on the size of a graph, and where they are read from.
-/

namespace DecisionGraph

structure Limits where
  nodes : Nat
  edges : Nat
  minOptions : Nat
  maxOptions : Nat
  deriving DecidableEq, Repr

namespace Limits

def standard : Limits := ⟨50, 200, 2, 6⟩

def positive (field : String) (value : Nat) : Except ConfigFailure Unit :=
  if value = 0 then
    .error (.invalidValue field (toString value) s!"{field} must be greater than 0")
  else .ok ()

/-- Limits that no graph can meet are refused. -/
def check (limits : Limits) : Except ConfigFailure Unit := do
  positive "node_limit" limits.nodes
  positive "edge_limit" limits.edges
  positive "min_options" limits.minOptions
  if limits.maxOptions < limits.minOptions then
    .error (.incompatible
      s!"min_options={limits.minOptions}" s!"max_options={limits.maxOptions}")

/-- The limits themselves, if they pass the check. -/
def checked (limits : Limits) : Except ConfigFailure Limits :=
  limits.check.map fun _ => limits

def json (limits : Limits) : Json := .record [
  Json.always "node_limit" (.ofNat limits.nodes),
  Json.always "edge_limit" (.ofNat limits.edges),
  Json.always "min_options" (.ofNat limits.minOptions),
  Json.always "max_options" (.ofNat limits.maxOptions)]

def fieldNames : List String := ["node_limit", "edge_limit", "min_options", "max_options"]

/-- Fields that are not given keep their standard values. -/
def decode : Decoder Limits := fun source _ =>
  source.record fieldNames fun slots =>
    Limits.mk
      <$> slots.withDefault "node_limit" standard.nodes Decode.count
      <*> slots.withDefault "edge_limit" standard.edges Decode.count
      <*> slots.withDefault "min_options" standard.minOptions Decode.count
      <*> slots.withDefault "max_options" standard.maxOptions Decode.count

def appendDigits? : Nat → List Char → Option Nat
  | number, [] => some number
  | number, c :: rest =>
    if c.isDigit then appendDigits? (number * 10 + (c.toNat - '0'.toNat)) rest else none

/-- A count as it is written in a setting: decimal digits after an optional plus sign, with blanks
around, below 2⁶⁴. -/
def count? (text : String) : Option Nat :=
  let digits :=
    match trimBlank text.toList with
    | '+' :: rest => rest
    | other => other
  if digits = [] then none
  else (appendDigits? 0 digits).filter (· < Nat.pow 2 64)

/-- The limits that settings give by name; what they leave out or garble keeps its standard
value. -/
def ofSettings (setting : String → Option String) : Limits where
  nodes := ((setting "CAUSEWAY_NODE_LIMIT").bind count?).getD standard.nodes
  edges := ((setting "CAUSEWAY_EDGE_LIMIT").bind count?).getD standard.edges
  minOptions := ((setting "CAUSEWAY_MIN_OPTIONS").bind count?).getD standard.minOptions
  maxOptions := ((setting "CAUSEWAY_MAX_OPTIONS").bind count?).getD standard.maxOptions

/-- A limit in a settings document: a count, or its standard value when it is not given. -/
def limitIn? (entries : Toml.Entries) (field : String) (standard : Nat) : Option Nat :=
  match entries.find? field with
  | none => some standard
  | some (.value (.integer value)) => if 0 ≤ value then some value.toNat else none
  | some _ => none

/-- The limits that a settings document gives, if they pass the check. -/
def ofDocument (text : String) : Except ConfigFailure Limits :=
  let limits : Option Limits := do
    let entries ← Toml.entriesOf? text
    return {
      nodes := ← limitIn? entries "node_limit" standard.nodes
      edges := ← limitIn? entries "edge_limit" standard.edges
      minOptions := ← limitIn? entries "min_options" standard.minOptions
      maxOptions := ← limitIn? entries "max_options" standard.maxOptions }
  match limits with
  | some limits => limits.checked
  | none => .error (.unreadable "not a settings document with counts as limits")

end Limits

end DecisionGraph
