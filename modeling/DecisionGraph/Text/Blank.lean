import DecisionGraph.Text.CharSet

/-!
White space, as the standard's property `White_Space` has it.
-/

namespace DecisionGraph

/-- The characters with the property `White_Space`. -/
def CharSet.blank : CharSet where
  changes := [
    0x9, 0xE, 0x20, 0x21, 0x85, 0x86, 0xA0, 0xA1, 0x1680, 0x1681, 0x2000, 0x200B, 0x2028,
    0x202A, 0x202F, 0x2030, 0x205F, 0x2060, 0x3000, 0x3001]

/-- Without the blanks at both ends. -/
def trimBlank (text : List Char) : List Char :=
  let front := text.dropWhile CharSet.blank.contains
  (front.reverse.dropWhile CharSet.blank.contains).reverse

end DecisionGraph
