/-!
Why work cannot start or its result cannot be delivered. Defects of a graph are no failures: they
are reported as issues.
-/

namespace DecisionGraph

inductive ConfigFailure
  | invalidValue (field value reason : String)
  | incompatible (first second : String)
  | unreadable (reason : String)
  deriving DecidableEq, Repr

inductive LoadFailure
  | noFile (path reason : String)
  | malformed (line column : Nat) (reason : String)
  deriving DecidableEq, Repr

inductive Failure
  | config (failure : ConfigFailure)
  | load (failure : LoadFailure)
  | output (reason : String)
  deriving DecidableEq, Repr

def ConfigFailure.message : ConfigFailure → String
  | invalidValue field value reason => s!"Invalid value for {field}: {value} - {reason}"
  | incompatible first second => s!"Incompatible options: {first} and {second}"
  | unreadable reason => s!"Failed to parse configuration: {reason}"

def LoadFailure.message : LoadFailure → String
  | noFile path reason => s!"Failed to read {path}: {reason}"
  | malformed line column reason =>
    s!"Malformed graph JSON at line {line}, column {column}: {reason}"

namespace Failure

def message : Failure → String
  | config failure => s!"Config error: {failure.message}"
  | load failure => s!"Load error: {failure.message}"
  | output reason => s!"Output error: {reason}"

def detail : Failure → String
  | config failure => failure.message
  | load failure => failure.message
  | output reason => reason

end Failure

end DecisionGraph
