import DecisionGraph.Toml.Lexeme

/-!
Dates and times in a settings document. Only their form is checked, and that the date exists.
-/

namespace DecisionGraph.Toml

def decimals : Nat → Nat → Reader Nat
  | 0, number, text => some (number, text)
  | count + 1, number, c :: rest =>
    if c.isDigit then decimals count (number * 10 + (c.toNat - '0'.toNat)) rest else none
  | _ + 1, _, [] => none

def twoDigits (least most : Nat) : Reader Nat := fun text =>
  (decimals 2 0 text).filter fun (number, _) => least ≤ number && number ≤ most

def isLeapYear (year : Nat) : Bool :=
  year % 4 = 0 && (year % 100 ≠ 0 || year % 400 = 0)

def daysOfMonth (year month : Nat) : Nat :=
  if month = 2 then (if isLeapYear year then 29 else 28)
  else if month ∈ [4, 6, 9, 11] then 30
  else 31

def date : Reader Unit := fun text => do
  let (year, text) ← decimals 4 0 text
  let text ← literally "-" text
  let (month, text) ← twoDigits 1 12 text
  let text ← literally "-" text
  let (_, text) ← twoDigits 1 (daysOfMonth year month) text
  return ((), text)

def skipFraction : List Char → List Char
  | '.' :: c :: rest => if c.isDigit then rest.dropWhile Char.isDigit else '.' :: c :: rest
  | text => text

def time : Reader Unit := fun text => do
  let (_, text) ← twoDigits 0 23 text
  let text ← literally ":" text
  let (_, text) ← twoDigits 0 59 text
  let text ← literally ":" text
  let (_, text) ← twoDigits 0 60 text
  return ((), skipFraction text)

/-- How far the time is from the zero meridian's. -/
def offset : Reader Unit
  | [] => none
  | c :: rest =>
    if c = 'Z' ∨ c = 'z' then some ((), rest)
    else if c = '+' ∨ c = '-' then do
      let (_, text) ← twoDigits 0 23 rest
      let text ← literally ":" text
      let (_, text) ← twoDigits 0 59 text
      return ((), text)
    else none

def timeOfDay : Reader Unit
  | [] => none
  | c :: rest =>
    if c = 'T' ∨ c = 't' ∨ c = ' ' then
      (time rest).map fun (_, rest) => ((offset rest).getD ((), rest))
    else none

def moment : Reader Unit :=
  Reader.orElse (fun text => (date text).map fun (_, rest) => (timeOfDay rest).getD ((), rest)) time

end DecisionGraph.Toml
