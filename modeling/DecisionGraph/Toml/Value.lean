import DecisionGraph.Toml.Moment

/-!
Values in a settings document.
-/

namespace DecisionGraph.Toml

/-- Settings are integers; of any other value it is only known that it is well formed. -/
inductive Value
  | integer (value : Int)
  | other
  deriving DecidableEq, Repr

section Numbers

/-- A further digit, with an underscore before it or not. -/
def furtherDigit (isDigit : Char → Bool) : Reader Char
  | '_' :: c :: rest => if isDigit c then some (c, rest) else none
  | c :: rest => if isDigit c then some (c, rest) else none
  | [] => none

def digits (isDigit : Char → Bool) : Reader (List Char)
  | [] => none
  | c :: rest =>
    if isDigit c then
      let (others, rest) := Reader.many (furtherDigit isDigit) rest
      some (c :: others, rest)
    else none

/-- Decimal digits of a whole number; only zero itself starts with a zero. -/
def wholeDigits : Reader (List Char)
  | '0' :: rest => some (['0'], rest)
  | text => digits Char.isDigit text

def numberOf (base : Nat) (chars : List Char) : Nat :=
  chars.foldl (fun number c => number * base + (hexDigit? c).getD 0) 0

/-- Integers have 64 bits. -/
def integerOf? (value : Int) : Option Value :=
  let bound : Int := Nat.pow 2 63
  if -bound ≤ value ∧ value < bound then some (.integer value) else none

def sign : List Char → Bool × List Char
  | '+' :: rest => (false, rest)
  | '-' :: rest => (true, rest)
  | text => (false, text)

def decimalInteger : Reader Value := fun text =>
  let (isNegative, text) := sign text
  (wholeDigits text).bind fun (chars, rest) =>
    let size : Int := numberOf 10 chars
    (integerOf? (if isNegative then -size else size)).map (·, rest)

def basedInteger (base : Nat) (isDigit : Char → Bool) : Reader Value := fun text =>
  (digits isDigit text).bind fun (chars, rest) =>
    (integerOf? (numberOf base chars)).map (·, rest)

def integer : Reader Value
  | '0' :: 'x' :: rest => basedInteger 16 (fun c => (hexDigit? c).isSome) rest
  | '0' :: 'o' :: rest => basedInteger 8 (fun c => '0' ≤ c && c ≤ '7') rest
  | '0' :: 'b' :: rest => basedInteger 2 (fun c => c = '0' || c = '1') rest
  | text => decimalInteger text

def fraction : Reader (List Char)
  | '.' :: rest => digits Char.isDigit rest
  | _ => none

def exponent : Reader Int
  | [] => none
  | c :: rest =>
    if c = 'e' ∨ c = 'E' then
      let (isNegative, rest) := sign rest
      (digits Char.isDigit rest).map fun (chars, rest) =>
        let size : Int := numberOf 10 chars
        (if isNegative then -size else size, rest)
    else none

/-- Whether a positive decimal rounds to infinity: it reaches the middle between the greatest
double and 2¹⁰²⁴. -/
def isTooGreat (chars : List Char) (scale : Int) : Bool :=
  let significand := numberOf 10 chars
  let bound := Nat.pow 2 1024 - Nat.pow 2 970
  let magnitude := scale + (chars.dropWhile (· = '0')).length
  if significand = 0 then false
  else if magnitude < 300 then false
  else if 320 < magnitude then true
  else if 0 ≤ scale then bound ≤ significand * Nat.pow 10 scale.toNat
  else bound * Nat.pow 10 (-scale).toNat ≤ significand

/-- A real has a fraction, an exponent or both; positive ones have to be in the range of doubles. -/
def real : Reader Value := fun text => do
  let (isNegative, text) := sign text
  let (whole, text) ← wholeDigits text
  let (places, afterPlaces) := (fraction text).getD ([], text)
  let (scale, rest) := (exponent afterPlaces).getD (0, afterPlaces)
  if places = [] ∧ rest.length = afterPlaces.length then none
  else if !isNegative && isTooGreat (whole ++ places) (scale - places.length) then none
  else some (.other, rest)

/-- Infinities and the like. -/
def specialReal : Reader Value := fun text =>
  let (_, text) := sign text
  ((literally "inf" text).or (literally "nan" text)).map (.other, ·)

end Numbers

def boolean : Reader Value := fun text =>
  ((literally "true" text).or (literally "false" text)).map (.other, ·)

def scalar : Reader Value :=
  (string.map fun _ => Value.other).orElse
    ((moment.map fun _ => Value.other).orElse
      (real.orElse (specialReal.orElse (integer.orElse boolean))))

end DecisionGraph.Toml
