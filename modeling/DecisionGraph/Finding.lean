import DecisionGraph.Decimal.Layout
import DecisionGraph.Edge
import DecisionGraph.Issue
import DecisionGraph.Payload
import DecisionGraph.Text.Quoted

/-!
Findings: everything that a check can say about a graph, one kind of finding for each rule. A
finding knows its code, its place, its wording and its facts.
-/

namespace DecisionGraph

/-- A place in a graph: all its nodes or edges, one of them, or a field of one. -/
inductive Place
  | nodes
  | edges
  | node (position : Nat)
  | nodeField (position : Nat) (field : String)
  | edge (position : Nat)
  | edgeField (position : Nat) (field : String)
  deriving DecidableEq, Repr

def Place.text : Place → String
  | nodes => "nodes"
  | edges => "edges"
  | node position => s!"nodes[{position}]"
  | nodeField position field => s!"nodes[{position}].{field}"
  | edge position => s!"edges[{position}]"
  | edgeField position field => s!"edges[{position}].{field}"

/-- What an end of an edge is, as far as connections go: factors differ by category. -/
inductive Role
  | decision | option | factor (category : Category) | outcome | risk | goal
  deriving DecidableEq, Repr

def Role.text : Role → String
  | decision => "decision"
  | option => "option"
  | factor category => s!"{Vocabulary.word category} factor"
  | outcome => "outcome"
  | risk => "risk"
  | goal => "goal"

inductive Side
  | source | target
  deriving DecidableEq, Repr

namespace Side

def field : Side → String
  | source => "from"
  | target => "to"

def idOf (edge : Edge) : Side → String
  | source => edge.source
  | target => edge.target

end Side

/-- Below this, the confidence in an edge is low. -/
def lowConfidence : Float := 0.3

/-- Below this, the deviation of an effect is as small as that of scaffolding. -/
def lowDeviation : Float := 0.05

inductive Finding
  | goalCount (count : Nat)
  | decisionCount (count : Nat)
  | optionCount (count least most : Nat)
  | noBridge
  | tooManyNodes (count limit : Nat)
  | tooManyEdges (count limit : Nat)
  | repeatedId (position : Nat) (id : String) (first : Option Nat)
  | undeclaredEnd (position : Nat) (edge : Edge) (side : Side)
  | goalLeft (position : Nat) (id : String) (targets : List String)
  | decisionEntered (position : Nat) (id : String) (sources : List String)
  | misplacedEdge (position : Nat) (source : String) (sourceRole : Role) (target : String)
      (targetRole : Role)
  | cycle (position : Nat) (ids : List String)
  | unreached (position : Nat) (id : String) (kind : NodeKind)
  | stranded (position : Nat) (id : String) (kind : NodeKind)
  | dataDefect (position : Nat) (id : String) (category : Category) (defect : DataDefect)
  | categoryClaim (position : Nat) (id : String) (declared inferred : Category)
  | straySetting (position : Nat) (id factor : String) (found : Option NodeKind)
  | noEffect (position : Nat) (id : String) (factors : List String)
  | identicalOptions (position : Nat) (ids : List String)
  | goalNumber (position : Nat) (id label : String)
  | looseOptionScaffold (position : Nat) (edge : Edge)
  | looseDecisionScaffold (position : Nat) (edge : Edge)
  | notFinite (place : Place) (owner : String) (value : Float)
  | strongEffect (position : Nat) (edge : Edge)
  | improbable (position : Nat) (field : String) (edge : Edge) (belief : Float)
  | lowBelief (position : Nat) (field : String) (edge : Edge) (belief : Float)
  | loweringOutcome (position : Nat) (edge : Edge)
  | raisingRisk (position : Nat) (edge : Edge)
  | narrowEffect (position : Nat) (edge : Edge) (deviation : Float)
  | noDrivers (position : Nat) (id : String)
  | signMismatch (position : Nat) (edge : Edge) (declared : Term Direction) (implied : Direction)

namespace Finding

def code : Finding → IssueCode
  | goalCount _ => .missingGoal
  | decisionCount _ => .missingDecision
  | optionCount _ _ _ => .insufficientOptions
  | noBridge => .missingBridge
  | tooManyNodes _ _ => .nodeLimitExceeded
  | tooManyEdges _ _ => .edgeLimitExceeded
  | repeatedId _ _ _ => .duplicateNodeId
  | undeclaredEnd _ _ _ => .invalidEdgeRef
  | goalLeft _ _ _ => .goalHasOutgoing
  | decisionEntered _ _ _ => .decisionHasIncoming
  | misplacedEdge _ _ _ _ _ => .invalidEdgeType
  | cycle _ _ => .cycleDetected
  | unreached _ _ _ => .unreachableFromDecision
  | stranded _ _ _ => .noPathToGoal
  | dataDefect _ _ .controllable (.missing _) => .controllableMissingData
  | dataDefect _ _ _ (.missing _) => .observableMissingData
  | dataDefect _ _ _ (.extra _) => .observableExtraData
  | dataDefect _ _ _ .unexpected => .externalHasData
  | categoryClaim _ _ _ _ => .categoryMismatch
  | straySetting _ _ _ _ => .invalidInterventionRef
  | noEffect _ _ _ => .noEffectPath
  | identicalOptions _ _ => .optionsIdentical
  | goalNumber _ _ _ => .goalNumberAsFactor
  | looseOptionScaffold _ _ => .structuralEdgeNotCanonicalError
  | looseDecisionScaffold _ _ => .structuralEdgeNotCanonical
  | notFinite _ _ _ => .nanValue
  | strongEffect _ _ => .strengthOutOfRange
  | improbable _ _ _ _ => .probabilityOutOfRange
  | lowBelief _ _ _ _ => .lowEdgeConfidence
  | loweringOutcome _ _ => .outcomeNegativePolarity
  | raisingRisk _ _ => .riskPositivePolarity
  | narrowEffect _ _ _ => .lowStdNonStructural
  | noDrivers _ _ => .emptyUncertaintyDrivers
  | signMismatch _ _ _ _ => .signMismatch

def place : Finding → Place
  | goalCount _ | decisionCount _ | optionCount _ _ _ | noBridge | tooManyNodes _ _ => .nodes
  | tooManyEdges _ _ => .edges
  | repeatedId position _ _ => .nodeField position "id"
  | undeclaredEnd position _ side => .edgeField position side.field
  | goalLeft position _ _ | decisionEntered position _ _ | unreached position _ _
  | stranded position _ _ | noEffect position _ _ | identicalOptions position _ => .node position
  | misplacedEdge position _ _ _ _ | cycle position _ | looseOptionScaffold position _
  | looseDecisionScaffold position _ => .edge position
  | dataDefect position _ _ _ => .nodeField position "data"
  | categoryClaim position _ _ _ => .nodeField position "category"
  | straySetting position _ factor _ => .nodeField position s!"data.interventions.{factor}"
  | goalNumber position _ _ => .nodeField position "label"
  | notFinite place _ _ => place
  | strongEffect position _ | loweringOutcome position _ | raisingRisk position _ =>
    .edgeField position "strength_mean"
  | improbable position field _ _ | lowBelief position field _ _ => .edgeField position field
  | narrowEffect position _ _ => .edgeField position "strength_std"
  | noDrivers position _ => .nodeField position "data.uncertainty_drivers"
  | signMismatch position _ _ _ => .edgeField position "effect_direction"

def listed (keys : List DataKey) : String := String.intercalate ", " (keys.map DataKey.name)

def message : Finding → String
  | goalCount count => s!"expected exactly one goal node, found {count}"
  | decisionCount count => s!"expected exactly one decision node, found {count}"
  | optionCount count least most =>
    s!"expected between {least} and {most} options, found {count}"
  | noBridge => "graph has no outcome or risk node linking factors to the goal"
  | tooManyNodes count limit => s!"graph has {count} nodes, limit is {limit}"
  | tooManyEdges count limit => s!"graph has {count} edges, limit is {limit}"
  | repeatedId _ id _ => s!"node id '{id}' is already declared"
  | undeclaredEnd _ edge side =>
    s!"edge {side.field} references unknown node '{side.idOf edge}'"
  | goalLeft _ id targets =>
    s!"goal '{id}' must be a sink but has {targets.length} outgoing edge(s)"
  | decisionEntered _ id sources =>
    s!"decision '{id}' must be a source but has {sources.length} incoming edge(s)"
  | misplacedEdge _ source sourceRole target targetRole =>
    s!"edge {source} ({sourceRole.text}) -> {target} ({targetRole.text}) is not an allowed "
      ++ "connection"
  | cycle _ ids =>
    let path := String.intercalate " -> " ids
    s!"cycle detected: {path}"
  | unreached _ id kind => s!"{Vocabulary.word kind} '{id}' is not reachable from the decision"
  | stranded _ id kind => s!"{Vocabulary.word kind} '{id}' has no path to the goal"
  | dataDefect _ id category (.missing keys) =>
    s!"{Vocabulary.word category} factor '{id}' is missing {listed keys}"
  | dataDefect _ id category (.extra keys) =>
    s!"{Vocabulary.word category} factor '{id}' must not carry {listed keys}"
  | dataDefect _ id _ .unexpected => s!"external factor '{id}' must not carry a data object"
  | categoryClaim _ id declared inferred =>
    let claim := Vocabulary.word declared
    let inference := Vocabulary.word inferred
    s!"factor '{id}' is declared {claim} but its structure makes it {inference}"
  | straySetting _ id factor (some kind) =>
    s!"option '{id}' intervenes on '{factor}', which is a {Vocabulary.word kind} node, not a factor"
  | straySetting _ id factor none =>
    s!"option '{id}' intervenes on '{factor}', which does not exist"
  | noEffect _ id _ => s!"option '{id}' sets no factor with a path to the goal"
  | identicalOptions _ ids =>
    let options := String.intercalate ", " ids
    s!"options {options} set identical interventions"
  | goalNumber _ id label =>
    s!"factor '{id}' ({label}) looks like a goal target, model it as a goal constraint"
  | looseOptionScaffold _ edge | looseDecisionScaffold _ edge =>
    s!"structural edge {edge.source} -> {edge.target} must use mean=1, std=0.01, belief_exists=1, "
      ++ "direction=positive"
  | notFinite place _ value =>
    s!"{place.text} holds a non-finite number ({realMessage value})"
  | strongEffect _ edge =>
    s!"edge {edge.source} -> {edge.target} has |strength_mean| {realMessage edge.mean} above 1"
  | improbable _ _ edge belief =>
    s!"edge {edge.source} -> {edge.target} has belief {realMessage belief} outside [0, 1]"
  | lowBelief _ _ edge belief =>
    let bound := realMessage lowConfidence
    s!"edge {edge.source} -> {edge.target} has belief {realMessage belief} below {bound}"
  | loweringOutcome _ edge =>
    s!"{edge.source} -> {edge.target}: outcome lowers the goal; outcomes are expected to raise it"
  | raisingRisk _ edge =>
    s!"{edge.source} -> {edge.target}: risk raises the goal; risks are expected to lower it"
  | narrowEffect _ edge deviation =>
    let bound := realMessage lowDeviation
    s!"causal edge {edge.source} -> {edge.target} has std {realMessage deviation} below {bound}"
  | noDrivers _ id => s!"controllable factor '{id}' lists no uncertainty drivers"
  | signMismatch _ edge declared implied =>
    let marked := match declared with
      | .word direction => Vocabulary.word direction
      | .foreign text => quoted text
    let mean := realMessage edge.mean
    let sign := Vocabulary.word implied
    s!"edge {edge.source} -> {edge.target} is marked {marked} but strength_mean {mean} is {sign}"

def ends (edge : Edge) : List (String × Json) :=
  [("from", .string edge.source), ("to", .string edge.target)]

def scaffoldFacts (edge : Edge) : List (String × Json) :=
  ends edge ++ [
    ("strength_mean", .ofFloat edge.mean),
    ("strength_std", .ofOption .ofFloat edge.deviation),
    ("belief_exists", .ofOption .ofFloat edge.effectiveBelief?),
    ("effect_direction", .ofOption Term.json edge.direction)]

def facts : Finding → List (String × Json)
  | goalCount count => [("kind", .string "goal"), ("count", .ofNat count)]
  | decisionCount count => [("kind", .string "decision"), ("count", .ofNat count)]
  | optionCount count least most =>
    [("count", .ofNat count), ("min", .ofNat least), ("max", .ofNat most)]
  | noBridge => []
  | tooManyNodes count limit | tooManyEdges count limit =>
    [("count", .ofNat count), ("limit", .ofNat limit)]
  | repeatedId _ id first => [("node_id", .string id), ("first_index", .ofOption .ofNat first)]
  | undeclaredEnd position edge side =>
    [("edge_index", .ofNat position)] ++ ends edge ++ [("missing", .string (side.idOf edge))]
  | goalLeft _ id targets => [("node_id", .string id), ("targets", .ofStrings targets)]
  | decisionEntered _ id sources => [("node_id", .string id), ("sources", .ofStrings sources)]
  | misplacedEdge _ source sourceRole target targetRole =>
    [("from", .string source), ("to", .string target),
      ("from_kind", .string sourceRole.text), ("to_kind", .string targetRole.text)]
  | cycle position ids => [("cycle", .ofStrings ids), ("edge_index", .ofNat position)]
  | unreached _ id kind | stranded _ id kind =>
    [("node_id", .string id), ("kind", Vocabulary.json kind)]
  | dataDefect _ id _ (.missing keys) =>
    [("node_id", .string id), ("missing", .ofStrings (keys.map DataKey.name))]
  | dataDefect _ id _ (.extra keys) =>
    [("node_id", .string id), ("extra", .ofStrings (keys.map DataKey.name))]
  | dataDefect _ id _ .unexpected => [("node_id", .string id)]
  | categoryClaim _ id declared inferred =>
    [("node_id", .string id), ("declared", Vocabulary.json declared),
      ("inferred", Vocabulary.json inferred)]
  | straySetting _ id factor _ => [("option_id", .string id), ("factor_id", .string factor)]
  | noEffect _ id factors => [("option_id", .string id), ("factors", .ofStrings factors)]
  | identicalOptions _ ids => [("option_ids", .ofStrings ids)]
  | goalNumber _ id label => [("node_id", .string id), ("label", .string label)]
  | looseOptionScaffold _ edge | looseDecisionScaffold _ edge => scaffoldFacts edge
  | notFinite _ owner value =>
    [("owner", .string owner), ("value", .string (realMessage value))]
  | strongEffect _ edge | loweringOutcome _ edge | raisingRisk _ edge =>
    ends edge ++ [("strength_mean", .ofFloat edge.mean)]
  | improbable _ _ edge belief | lowBelief _ _ edge belief =>
    ends edge ++ [("belief", .ofFloat belief)]
  | narrowEffect _ edge deviation => ends edge ++ [("std", .ofFloat deviation)]
  | noDrivers _ id => [("node_id", .string id)]
  | signMismatch _ edge declared _ =>
    ends edge ++ [("effect_direction", declared.json), ("strength_mean", .ofFloat edge.mean)]

def issue (finding : Finding) : Issue :=
  .ofCode finding.code finding.place.text finding.message finding.facts

end Finding

end DecisionGraph
