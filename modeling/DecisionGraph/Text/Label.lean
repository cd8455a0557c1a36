import DecisionGraph.Text.Alphanumeric
import DecisionGraph.Text.LowerCase

/-!
Names in ids and labels: the family and the stem of an id, and labels in the form of a stem.
-/

namespace DecisionGraph

/-- Splits an id such as `fac_price` at its first underscore into family and stem, if neither is
empty. -/
def familyAndStem? (id : String) : Option (String × String) :=
  let family := id.toList.takeWhile (· ≠ '_')
  let stem := (id.toList.dropWhile (· ≠ '_')).drop 1
  if family.isEmpty || stem.isEmpty then none
  else some (String.ofList family, String.ofList stem)

/-- Writes a label as a stem. `started` says whether anything has been written yet, `apart` whether
a separator was passed since the last letter or number. -/
def stemFrom (started apart : Bool) : List Char → List Char
  | [] => []
  | c :: rest =>
    if CharSet.alphanumeric.contains c then
      (if started && apart then ['_'] else []) ++ lowerChar c ++ stemFrom true false rest
    else stemFrom started true rest

/-- A label in lower case, with one underscore for every run of characters that are neither letters
nor numbers, and none at the ends. -/
def stemOfLabel (label : List Char) : List Char := stemFrom false false label

/-- Whether one text stands somewhere in another. -/
def isWithin (part : List Char) : List Char → Bool
  | [] => part.isEmpty
  | c :: rest => part.isPrefixOf (c :: rest) || isWithin part rest

end DecisionGraph
