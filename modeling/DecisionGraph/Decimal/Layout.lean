import DecisionGraph.Decimal.Shortest

/-!
How a real number is written down: its shortest digits in a given style.
-/

namespace DecisionGraph

structure RealStyle where
  /-- Decimal exponents from the first to the last are written without an exponent; `none` means
  all. -/
  positional : Option (Int × Int)
  pointZero : Bool
  /-- Which of two equally near shortest decimals is written. -/
  tie : Tie

def decimalText (n : Nat) : List Char := Nat.toDigits 10 n

namespace RealStyle

/-- Data files: exponents from -5 to 15 are written out, other numbers carry a signed exponent, and
a tie goes to the even digit. -/
def data : RealStyle := ⟨some (-5, 15), true, .even⟩

/-- Messages never use an exponent, and a tie goes away from zero. -/
def message : RealStyle := ⟨none, false, .upper⟩

def isPositional (style : RealStyle) (exponent : Int) : Bool :=
  match style.positional with
  | some (first, last) => first ≤ exponent ∧ exponent ≤ last
  | none => true

/-- `digits` with the decimal point `places` places from their end. -/
def withPoint (digits : List Char) (places : Nat) : List Char :=
  if places < digits.length then
    digits.take (digits.length - places) ++ '.' :: digits.drop (digits.length - places)
  else ['0', '.'] ++ List.replicate (places - digits.length) '0' ++ digits

def positionalText (style : RealStyle) (d : Decimal) : List Char :=
  let digits := decimalText d.digits
  if 0 ≤ d.exponent then
    digits ++ List.replicate d.exponent.toNat '0' ++ if style.pointZero then ['.', '0'] else []
  else withPoint digits (-d.exponent).toNat

def scientificText (digits : List Char) (exponent : Int) : List Char :=
  let mantissa := match digits with
    | first :: second :: rest => first :: '.' :: second :: rest
    | short => short
  mantissa ++ ['e', if exponent < 0 then '-' else '+'] ++ decimalText exponent.natAbs

def decimal (style : RealStyle) (d : Decimal) : List Char :=
  let digits := decimalText d.digits
  let exponent := d.exponent + digits.length - 1
  if style.isPositional exponent then style.positionalText d
  else scientificText digits exponent

def finite (style : RealStyle) (x : Float) : List Char :=
  let magnitude := style.decimal (Decimal.ofFloat style.tie x)
  if Nat.pow 2 63 ≤ x.toBits.toNat then '-' :: magnitude else magnitude

end RealStyle

def realMessage (x : Float) : String :=
  if x.isNaN then "NaN"
  else if x.isFinite then String.ofList (RealStyle.message.finite x)
  else if Nat.pow 2 63 ≤ x.toBits.toNat then "-inf"
  else "inf"

end DecisionGraph
