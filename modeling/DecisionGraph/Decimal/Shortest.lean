/-!
The shortest decimal that stands for a floating-point number: of all decimals that round to it,
one on the coarsest grid of powers of ten, and of those the nearest. Where two are equally near, the
format decides.
-/

namespace DecisionGraph

inductive Tie
  | even | upper
  deriving DecidableEq, Repr

def Tie.choose : Tie → Nat → Nat
  | even, below => below + below % 2
  | upper, below => below + 1

structure Decimal where
  digits : Nat
  exponent : Int
  deriving DecidableEq, Repr

structure Binary where
  coefficient : Nat
  exponent : Int
  /-- The neighbour below is only half as far away as the one above. -/
  narrowBelow : Bool
  deriving DecidableEq, Repr

namespace Binary

/-- The magnitude of a finite number, by the fields of its bit pattern. -/
def ofFloat (x : Float) : Binary :=
  let bits := x.toBits.toNat
  let fraction : Nat := bits % Nat.pow 2 52
  let field : Nat := bits / Nat.pow 2 52 % Nat.pow 2 11
  if field = 0 then ⟨fraction, -1074, false⟩
  else ⟨Nat.pow 2 52 + fraction, (field : Int) - 1075, fraction = 0 ∧ 1 < field⟩

/-- Factors that bring quarter units of the last binary place and steps of the grid `10 ^ grid`
to one scale. -/
def unitScale (b : Binary) (grid : Int) : Nat :=
  Nat.pow 2 (b.exponent - 2).toNat * Nat.pow 10 (-grid).toNat

def gridScale (b : Binary) (grid : Int) : Nat :=
  Nat.pow 2 (2 - b.exponent).toNat * Nat.pow 10 grid.toNat

/-- Whether the number `steps · 10 ^ grid` rounds to `b`. The ends of the interval belong to it
when the coefficient is even, since a tie goes to the even neighbour. -/
def roundsTo (b : Binary) (grid : Int) (steps : Nat) : Bool :=
  let low := (4 * b.coefficient - if b.narrowBelow then 1 else 2) * b.unitScale grid
  let high := (4 * b.coefficient + 2) * b.unitScale grid
  let point := steps * b.gridScale grid
  if b.coefficient % 2 = 0 then low ≤ point ∧ point ≤ high else low < point ∧ point < high

/-- The point of the grid nearest to `b` among the two around it that round to `b`. -/
def onGrid? (tie : Tie) (b : Binary) (grid : Int) : Option Nat :=
  let value := 4 * b.coefficient * b.unitScale grid
  let below := value / b.gridScale grid
  match b.roundsTo grid below, b.roundsTo grid (below + 1) with
  | true, false => some below
  | false, true => some (below + 1)
  | false, false => none
  | true, true =>
    let middle := (2 * below + 1) * b.gridScale grid
    if 2 * value < middle then some below
    else if middle < 2 * value then some (below + 1)
    else some (tie.choose below)

/-- The finest grid that is needed: `b` itself lies on it. -/
def finestGrid (b : Binary) : Int := min b.exponent 0

def exact (b : Binary) : Decimal :=
  ⟨b.coefficient * Nat.pow 2 b.exponent.toNat * Nat.pow 5 (-b.exponent).toNat, b.finestGrid⟩

/-- A power of ten above `b`, from the number of its binary digits and log₁₀ 2 < 0.30103. -/
def coarsestGrid (b : Binary) : Int :=
  ((Nat.log2 b.coefficient + 1 : Int) + b.exponent) * 30103 / 100000 + 2

/-- Tries the grids from `finer` steps above the finest one downwards. -/
def shortestWithin (tie : Tie) (b : Binary) : Nat → Decimal
  | 0 => b.exact
  | finer + 1 =>
    let grid := b.finestGrid + (finer + 1)
    match b.onGrid? tie grid with
    | some steps => ⟨steps, grid⟩
    | none => shortestWithin tie b finer

def shortest (tie : Tie) (b : Binary) : Decimal :=
  b.shortestWithin tie (b.coarsestGrid - b.finestGrid).toNat

end Binary

def Decimal.ofFloat (tie : Tie) (x : Float) : Decimal :=
  let b := Binary.ofFloat x
  if b.coefficient = 0 then ⟨0, 0⟩ else b.shortest tie

end DecisionGraph
