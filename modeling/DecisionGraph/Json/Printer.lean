import DecisionGraph.Json.Basic
import DecisionGraph.Decimal.Layout

/-!
Writing values: on one line without blanks, or indented.
-/

namespace DecisionGraph

namespace Json

/-- One character of a string. Quotes, backslashes and control characters are escaped, the last
with a short name where there is one; everything else stands for itself. -/
def escape (c : Char) : List Char :=
  match c with
  | '"' => ['\\', '"']
  | '\\' => ['\\', '\\']
  | '\x08' => ['\\', 'b']
  | '\t' => ['\\', 't']
  | '\n' => ['\\', 'n']
  | '\x0c' => ['\\', 'f']
  | '\r' => ['\\', 'r']
  | _ =>
    if c.toNat < 0x20 then
      ['\\', 'u', '0', '0', Nat.digitChar (c.toNat / 16), Nat.digitChar (c.toNat % 16)]
    else [c]

def stringText (text : String) : List Char := '"' :: text.toList.flatMap escape ++ ['"']

def integerText (n : Int) : List Char :=
  if n < 0 then '-' :: decimalText n.natAbs else decimalText n.natAbs

def numberText : Number → List Char
  | .integer value => integerText value
  | .real value => RealStyle.data.finite value

def boolText : Bool → List Char
  | true => "true".toList
  | false => "false".toList

mutual

/-- The text of a value without blanks. -/
def compact : Json → List Char
  | .null => "null".toList
  | .bool value => boolText value
  | .number value => numberText value
  | .string value => stringText value
  | .array [] => ['[', ']']
  | .array (first :: rest) => '[' :: (compact first ++ compactItems rest)
  | .object [] => ['\x7b', '\x7d']
  | .object ((key, value) :: rest) =>
    '\x7b' :: (stringText key ++ ':' :: (compact value ++ compactMembers rest))

def compactItems : List Json → List Char
  | [] => [']']
  | item :: rest => ',' :: (compact item ++ compactItems rest)

def compactMembers : List (String × Json) → List Char
  | [] => ['\x7d']
  | (key, value) :: rest =>
    ',' :: (stringText key ++ ':' :: (compact value ++ compactMembers rest))

end

/-- A new line at the given depth, two blanks a level. -/
def newLine (depth : Nat) : List Char := '\n' :: List.replicate (2 * depth) ' '

mutual

def pretty (depth : Nat) : Json → List Char
  | .null => "null".toList
  | .bool value => boolText value
  | .number value => numberText value
  | .string value => stringText value
  | .array [] => ['[', ']']
  | .array (first :: rest) =>
    '[' :: (newLine (depth + 1) ++ pretty (depth + 1) first ++ prettyItems depth rest)
  | .object [] => ['\x7b', '\x7d']
  | .object ((key, value) :: rest) =>
    '\x7b' :: (newLine (depth + 1) ++ stringText key ++ ':' :: ' ' ::
      (pretty (depth + 1) value ++ prettyMembers depth rest))

def prettyItems (depth : Nat) : List Json → List Char
  | [] => newLine depth ++ [']']
  | item :: rest =>
    ',' :: (newLine (depth + 1) ++ pretty (depth + 1) item ++ prettyItems depth rest)

def prettyMembers (depth : Nat) : List (String × Json) → List Char
  | [] => newLine depth ++ ['\x7d']
  | (key, value) :: rest =>
    ',' :: (newLine (depth + 1) ++ stringText key ++ ':' :: ' ' ::
      (pretty (depth + 1) value ++ prettyMembers depth rest))

end

def compactText (value : Json) : String := String.ofList value.compact

def prettyText (value : Json) : String := String.ofList (value.pretty 0)

end Json

end DecisionGraph
