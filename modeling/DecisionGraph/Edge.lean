import DecisionGraph.Words

/-!
Directed, weighted edges. Edges from the decision to options and from options to factors are
scaffolding and carry fixed numbers.
-/

namespace DecisionGraph

structure Edge where
  source : String
  target : String
  /-- Sign and size of the effect. -/
  mean : Float
  deviation : Option Float
  beliefExists : Option Float
  /-- An older name for the same confidence. -/
  belief : Option Float
  direction : Option (Term Direction)
  deriving DecidableEq

namespace Edge

def scaffoldMean : Float := 1.0

def scaffoldDeviation : Float := 0.01

def scaffoldBelief : Float := 1.0

def bare (source target : String) (mean : Float) : Edge :=
  ⟨source, target, mean, none, none, none, none⟩

def causal (source target : String) (mean deviation belief : Float) : Edge :=
  ⟨source, target, mean, some deviation, some belief, none,
    (Direction.ofMean? mean).map Term.word⟩

def scaffold (source target : String) : Edge :=
  ⟨source, target, scaffoldMean, some scaffoldDeviation, some scaffoldBelief, none,
    some (.word .positive)⟩

/-- The confidence under either name, the newer one first. -/
def effectiveBelief? (edge : Edge) : Option Float := edge.beliefExists.or edge.belief

/-- Whether a number is the expected one up to rounding noise. -/
def isNear (value expected : Float) : Bool := (value - expected).abs ≤ 1e-9

/-- Whether the edge carries the numbers of scaffolding, none of them left out. -/
def isScaffold (edge : Edge) : Bool :=
  isNear edge.mean scaffoldMean
    && edge.deviation.any (isNear · scaffoldDeviation)
    && edge.effectiveBelief?.any (isNear · scaffoldBelief)
    && edge.direction = some (.word .positive)

def json (edge : Edge) : Json := .record [
  Json.always "from" (.string edge.source),
  Json.always "to" (.string edge.target),
  Json.always "strength_mean" (.ofFloat edge.mean),
  Json.whenSome "strength_std" .ofFloat edge.deviation,
  Json.whenSome "belief_exists" .ofFloat edge.beliefExists,
  Json.whenSome "belief" .ofFloat edge.belief,
  Json.whenSome "effect_direction" Term.json edge.direction]

def fieldNames : List String :=
  ["from", "to", "strength_mean", "strength_std", "belief_exists", "belief", "effect_direction"]

def decode : Decoder Edge := fun source _ =>
  source.record fieldNames fun slots =>
    Edge.mk
      <$> slots.required "from" Decode.text
      <*> slots.required "to" Decode.text
      <*> slots.required "strength_mean" Decode.real
      <*> slots.optional "strength_std" Decode.real
      <*> slots.optional "belief_exists" Decode.real
      <*> slots.optional "belief" Decode.real
      <*> slots.optional "effect_direction" Term.decode

end Edge

end DecisionGraph
