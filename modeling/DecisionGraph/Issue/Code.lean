import DecisionGraph.Vocabulary

/-!
The table of rule codes: for each code its word, how grave it is, and which pass reports it.
-/

namespace DecisionGraph

/-- How grave an issue is; only errors block a graph. -/
inductive Severity
  | info | warn | error
  deriving DecidableEq, Repr

instance : Vocabulary Severity where
  noun := "severity"
  all := [.info, .warn, .error]
  word
    | .info => "info"
    | .warn => "warn"
    | .error => "error"

/-- The pass that reports an issue, in the order in which the passes run. -/
inductive Origin
  | structural | topology | reachability | factorData | semantic | numeric | advisory
  | postNormalisation | reconciliation
  deriving DecidableEq, Repr

instance : Vocabulary Origin where
  noun := "origin"
  all := [.structural, .topology, .reachability, .factorData, .semantic, .numeric, .advisory,
    .postNormalisation, .reconciliation]
  word
    | .structural => "structural"
    | .topology => "topology"
    | .reachability => "reachability"
    | .factorData => "factor_data"
    | .semantic => "semantic"
    | .numeric => "numeric"
    | .advisory => "advisory"
    | .postNormalisation => "post_normalisation"
    | .reconciliation => "reconciliation"

/-- What an issue or a mutation is about. -/
inductive IssueCode
  | missingGoal | missingDecision | insufficientOptions | missingBridge
  | nodeLimitExceeded | edgeLimitExceeded | invalidEdgeRef | duplicateNodeId
  | goalHasOutgoing | decisionHasIncoming | invalidEdgeType | cycleDetected
  | unreachableFromDecision | noPathToGoal
  | controllableMissingData | observableMissingData | observableExtraData | externalHasData
  | categoryMismatch
  | noEffectPath | optionsIdentical | invalidInterventionRef | goalNumberAsFactor
  | structuralEdgeNotCanonicalError
  | nanValue
  | strengthOutOfRange | probabilityOutOfRange | outcomeNegativePolarity | riskPositivePolarity
  | lowEdgeConfidence | emptyUncertaintyDrivers | structuralEdgeNotCanonical | lowStdNonStructural
  | signMismatch
  | categoryOverride | enumValueCorrected | constraintRemapped | constraintDropped
  | signCorrected | controllableDataFilled
  deriving DecidableEq, Repr

structure CodeEntry where
  word : String
  severity : Severity
  origin : Origin
  deriving DecidableEq, Repr

namespace IssueCode

def entry : IssueCode → CodeEntry
  | missingGoal => ⟨"MISSING_GOAL", .error, .structural⟩
  | missingDecision => ⟨"MISSING_DECISION", .error, .structural⟩
  | insufficientOptions => ⟨"INSUFFICIENT_OPTIONS", .error, .structural⟩
  | missingBridge => ⟨"MISSING_BRIDGE", .error, .structural⟩
  | nodeLimitExceeded => ⟨"NODE_LIMIT_EXCEEDED", .error, .structural⟩
  | edgeLimitExceeded => ⟨"EDGE_LIMIT_EXCEEDED", .error, .structural⟩
  | invalidEdgeRef => ⟨"INVALID_EDGE_REF", .error, .structural⟩
  | duplicateNodeId => ⟨"DUPLICATE_NODE_ID", .error, .structural⟩
  | goalHasOutgoing => ⟨"GOAL_HAS_OUTGOING", .error, .topology⟩
  | decisionHasIncoming => ⟨"DECISION_HAS_INCOMING", .error, .topology⟩
  | invalidEdgeType => ⟨"INVALID_EDGE_TYPE", .error, .topology⟩
  | cycleDetected => ⟨"CYCLE_DETECTED", .error, .topology⟩
  | unreachableFromDecision => ⟨"UNREACHABLE_FROM_DECISION", .error, .reachability⟩
  | noPathToGoal => ⟨"NO_PATH_TO_GOAL", .error, .reachability⟩
  | controllableMissingData => ⟨"CONTROLLABLE_MISSING_DATA", .error, .factorData⟩
  | observableMissingData => ⟨"OBSERVABLE_MISSING_DATA", .error, .factorData⟩
  | observableExtraData => ⟨"OBSERVABLE_EXTRA_DATA", .error, .factorData⟩
  | externalHasData => ⟨"EXTERNAL_HAS_DATA", .error, .factorData⟩
  | categoryMismatch => ⟨"CATEGORY_MISMATCH", .error, .factorData⟩
  | noEffectPath => ⟨"NO_EFFECT_PATH", .error, .semantic⟩
  | optionsIdentical => ⟨"OPTIONS_IDENTICAL", .error, .semantic⟩
  | invalidInterventionRef => ⟨"INVALID_INTERVENTION_REF", .error, .semantic⟩
  | goalNumberAsFactor => ⟨"GOAL_NUMBER_AS_FACTOR", .error, .semantic⟩
  | structuralEdgeNotCanonicalError =>
    ⟨"STRUCTURAL_EDGE_NOT_CANONICAL_ERROR", .error, .semantic⟩
  | nanValue => ⟨"NAN_VALUE", .error, .numeric⟩
  | strengthOutOfRange => ⟨"STRENGTH_OUT_OF_RANGE", .warn, .advisory⟩
  | probabilityOutOfRange => ⟨"PROBABILITY_OUT_OF_RANGE", .warn, .advisory⟩
  | outcomeNegativePolarity => ⟨"OUTCOME_NEGATIVE_POLARITY", .warn, .advisory⟩
  | riskPositivePolarity => ⟨"RISK_POSITIVE_POLARITY", .warn, .advisory⟩
  | lowEdgeConfidence => ⟨"LOW_EDGE_CONFIDENCE", .warn, .advisory⟩
  | emptyUncertaintyDrivers => ⟨"EMPTY_UNCERTAINTY_DRIVERS", .warn, .advisory⟩
  | structuralEdgeNotCanonical => ⟨"STRUCTURAL_EDGE_NOT_CANONICAL", .warn, .advisory⟩
  | lowStdNonStructural => ⟨"LOW_STD_NON_STRUCTURAL", .warn, .advisory⟩
  | signMismatch => ⟨"SIGN_MISMATCH", .error, .postNormalisation⟩
  | categoryOverride => ⟨"CATEGORY_OVERRIDE", .info, .reconciliation⟩
  | enumValueCorrected => ⟨"ENUM_VALUE_CORRECTED", .warn, .reconciliation⟩
  | constraintRemapped => ⟨"CONSTRAINT_REMAPPED", .info, .reconciliation⟩
  | constraintDropped => ⟨"CONSTRAINT_DROPPED", .warn, .reconciliation⟩
  | signCorrected => ⟨"SIGN_CORRECTED", .warn, .reconciliation⟩
  | controllableDataFilled => ⟨"CONTROLLABLE_DATA_FILLED", .info, .reconciliation⟩

def severity (code : IssueCode) : Severity := code.entry.severity

def origin (code : IssueCode) : Origin := code.entry.origin

instance : Vocabulary IssueCode where
  noun := "issue code"
  all := [missingGoal, missingDecision, insufficientOptions, missingBridge, nodeLimitExceeded,
    edgeLimitExceeded, invalidEdgeRef, duplicateNodeId, goalHasOutgoing, decisionHasIncoming,
    invalidEdgeType, cycleDetected, unreachableFromDecision, noPathToGoal,
    controllableMissingData, observableMissingData, observableExtraData, externalHasData,
    categoryMismatch, noEffectPath, optionsIdentical, invalidInterventionRef, goalNumberAsFactor,
    structuralEdgeNotCanonicalError, nanValue, strengthOutOfRange, probabilityOutOfRange,
    outcomeNegativePolarity, riskPositivePolarity, lowEdgeConfidence, emptyUncertaintyDrivers,
    structuralEdgeNotCanonical, lowStdNonStructural, signMismatch, categoryOverride,
    enumValueCorrected, constraintRemapped, constraintDropped, signCorrected,
    controllableDataFilled]
  word := fun code => code.entry.word

end IssueCode

namespace CodeEntry

def json (entry : CodeEntry) : Json := .record [
  Json.always "code" (.string entry.word),
  Json.always "severity" (Vocabulary.json entry.severity),
  Json.always "origin" (Vocabulary.json entry.origin)]

end CodeEntry

end DecisionGraph
