/-!
Reading a decimal as a floating-point number in one multiplication or division: the digits make a
64-bit significand, which is rounded once and then scaled by a power of ten. Up to 15 digits and
exponents up to 22 this is exact rounding; beyond that it is the best effort of the format.
-/

namespace DecisionGraph

/-- Digits gathered so far: their value, and how many further ones were passed over. -/
structure Significand where
  value : Nat
  passedOver : Nat
  deriving DecidableEq, Repr

namespace Significand

def fits (value digit : Nat) : Bool := value * 10 + digit < Nat.pow 2 64

def append (value : Nat) : List Nat → Significand
  | [] => ⟨value, 0⟩
  | digit :: rest =>
    if fits value digit then append (value * 10 + digit) rest else ⟨value, rest.length + 1⟩

end Significand

def tenTo (exponent : Nat) : Float := Float.ofScientific 1 false exponent

/-- `x · 10 ^ exponent`, where an exponent below the range is taken in steps of 308. There is none
when the result is beyond the range. -/
def scaleByTen? (x : Float) (exponent : Int) : Option Float :=
  if exponent.natAbs ≤ 308 then
    if 0 ≤ exponent then
      let product := x * tenTo exponent.toNat
      if product.isFinite then some product else none
    else some (x / tenTo exponent.natAbs)
  else if x == 0 then some x
  else if below : exponent < 0 then scaleByTen? (x / tenTo 308) (exponent + 308)
  else none
termination_by exponent.natAbs
decreasing_by omega

/-- The number with the given digits before and after the point and the given exponent. -/
def realOfDigits? (whole fraction : List Nat) (exponent : Int) : Option Float :=
  let front := Significand.append 0 whole
  let all := Significand.append front.value fraction
  let used : Int := (fraction.length : Int) - all.passedOver
  scaleByTen? (UInt64.ofNat all.value).toFloat (exponent + front.passedOver - used)

end DecisionGraph
