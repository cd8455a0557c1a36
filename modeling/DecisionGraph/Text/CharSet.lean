/-!
Sets of characters, given by the code points at which membership changes. The tables of the
standard's character properties are such sets.
-/

namespace DecisionGraph

/-- The code points at which membership changes, in increasing order; code point 0 starts
outside. -/
structure CharSet where
  changes : List Nat

namespace CharSet

/-- Walks the changes up to `point`, flipping membership at each one passed. -/
def insideAt (point : Nat) : List Nat → Bool → Bool
  | [], inside => inside
  | change :: later, inside => if point < change then inside else insideAt point later !inside

def contains (set : CharSet) (c : Char) : Bool := insideAt c.toNat set.changes false

end CharSet

end DecisionGraph
