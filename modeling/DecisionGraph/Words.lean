import DecisionGraph.Vocabulary

/-!
The vocabularies of decision graphs.
-/

namespace DecisionGraph

inductive NodeKind
  | decision | option | factor | outcome | risk | goal
  deriving DecidableEq, Repr

instance : Vocabulary NodeKind where
  noun := "node kind"
  all := [.decision, .option, .factor, .outcome, .risk, .goal]
  word
    | .decision => "decision"
    | .option => "option"
    | .factor => "factor"
    | .outcome => "outcome"
    | .risk => "risk"
    | .goal => "goal"

/-- Outcomes and risks link factors to the goal. -/
def NodeKind.isBridge : NodeKind → Bool
  | .outcome | .risk => true
  | .decision | .option | .factor | .goal => false

/-- What a factor is to the decision: set by options, not set but known, or neither. -/
inductive Category
  | controllable | observable | external
  deriving DecidableEq, Repr

instance : Vocabulary Category where
  noun := "factor category"
  all := [.controllable, .observable, .external]
  word
    | .controllable => "controllable"
    | .observable => "observable"
    | .external => "external"

/-- What a controllable factor measures. -/
inductive FactorType
  | cost | price | time | probability | revenue | demand | quality | other
  deriving DecidableEq, Repr

instance : Vocabulary FactorType where
  noun := "factor type"
  all := [.cost, .price, .time, .probability, .revenue, .demand, .quality, .other]
  word
    | .cost => "cost"
    | .price => "price"
    | .time => "time"
    | .probability => "probability"
    | .revenue => "revenue"
    | .demand => "demand"
    | .quality => "quality"
    | .other => "other"

/-- How a factor's value was found: stated, estimated, or taken from a range. -/
inductive Extraction
  | explicit | inferred | range
  deriving DecidableEq, Repr

instance : Vocabulary Extraction where
  noun := "extraction type"
  all := [.explicit, .inferred, .range]
  word
    | .explicit => "explicit"
    | .inferred => "inferred"
    | .range => "range"

/-- Whether an effect raises or lowers its target. -/
inductive Direction
  | positive | negative
  deriving DecidableEq, Repr

instance : Vocabulary Direction where
  noun := "effect direction"
  all := [.positive, .negative]
  word
    | .positive => "positive"
    | .negative => "negative"

/-- The direction that the sign of a mean gives; zero and what is not finite give none. -/
def Direction.ofMean? (mean : Float) : Option Direction :=
  if !mean.isFinite then none
  else if 0 < mean then some .positive
  else if mean < 0 then some .negative
  else none

end DecisionGraph
