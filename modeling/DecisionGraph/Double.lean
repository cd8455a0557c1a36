/-!
Numbers in double precision as they are encoded. What is no number has many encodings, all of them
one and the same `Float`; here they stay apart.
-/

namespace DecisionGraph

structure Double where
  bits : UInt64
  deriving DecidableEq

namespace Double

def ofFloat (value : Float) : Double := ⟨value.toBits⟩

def toFloat (number : Double) : Float := .ofBits number.bits

end Double

end DecisionGraph
