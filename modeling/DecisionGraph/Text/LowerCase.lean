import DecisionGraph.Text.CaseTable

/-!
Lower-casing, of one character and of a whole text. They differ in one letter: a capital sigma at
the end of a word becomes the final form only where the neighbours are known.
-/

namespace DecisionGraph

/-- The lower-case form of a letter of the table, by the first run that reaches it. -/
def CaseRun.lower? (point : Nat) : List CaseRun → Option Nat
  | [] => none
  | run :: later =>
    if run.last < point then lower? point later
    else if run.first ≤ point ∧ (point - run.first) % run.step = 0 then
      some ((point : Int) + run.shift).toNat
    else none

/-- The lower-case form of one character: itself, another one, or for dotted capital I the letter
with a combining dot. -/
def lowerChar (c : Char) : List Char :=
  if c.toNat < 0x80 then [c.toLower]
  else if c = '\u0130' then ['i', '\u0307']
  else match CaseRun.lower? c.toNat CaseRun.table with
    | some point => [Char.ofNat point]
    | none => [c]

/-- Whether the first character that case mapping does not ignore is a cased one. -/
def casedNext (text : List Char) : Bool :=
  match text.dropWhile CharSet.caseIgnorable.contains with
  | [] => false
  | c :: _ => CharSet.cased.contains c

/-- Lower-cases `text`, given in reverse what stands before it: a capital sigma that follows a
cased character and precedes none is written in its final form. -/
def lowerAfter (before : List Char) : List Char → List Char
  | [] => []
  | c :: rest =>
    let lowered :=
      if c = 'Σ' then if casedNext before && !casedNext rest then ['ς'] else ['σ']
      else lowerChar c
    lowered ++ lowerAfter (c :: before) rest

def lowerText (text : List Char) : List Char := lowerAfter [] text

end DecisionGraph
