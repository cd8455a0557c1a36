import DecisionGraph.CommandLine.Arguments
import DecisionGraph.CommandLine.Folder
import DecisionGraph.Readiness

/-!
The command line: what a command reads, what it prints, and what it writes. Nothing here touches a
file; reading and writing are left to the caller.
-/

namespace DecisionGraph.CommandLine

structure Reply where
  printed : String
  told : List String
  save : Option (String × String)
  failure : Option Failure
  exit : Nat

namespace Reply

/-- Ready, invalid, or not to be had at all. -/
def exitReady : Nat := 0
def exitInvalid : Nat := 1
def exitFailed : Nat := 2

def failed (failure : Failure) : Reply := ⟨"", [], none, some failure, exitFailed⟩

def complaint (reply : Reply) : String :=
  let lines := reply.told ++ match reply.failure with
    | some failure => [s!"error: {failure.message}"]
    | none => []
  String.join (lines.map fun line => line ++ "\n")

/-- The reply after the text that was to be written could be written or not. -/
def saved (reply : Reply) (result : Except String Unit) : Reply :=
  match reply.save, result with
  | some (path, _), .error reason =>
    { reply with
      failure := some (.output s!"failed to write {path}: {reason}")
      exit := exitFailed }
  | _, _ => reply

end Reply

abbrev Files := String → Except String String

def readFile (files : Files) (path : String) : Except Failure String :=
  match files path with
  | .ok text => .ok text
  | .error reason => .error (.load (.noFile path reason))

def load {α : Type} (files : Files) (decode : Decoder α) (path : String) : Except Failure α :=
  match readFile files path with
  | .error failure => .error failure
  | .ok text =>
    match decode.read text with
    | .ok value => .ok value
    | .fault first =>
      .error (.load (.malformed first.position.line first.position.column first.cause.message))

def loadLimits (files : Files) (setting : String → Option String) (path : Option String) :
    Except Failure Limits :=
  let limits : Except Failure (Except ConfigFailure Limits) :=
    match path with
    | some path => (readFile files path).map Limits.ofDocument
    | none => .ok (Limits.ofSettings setting).checked
  match limits with
  | .error failure => .error failure
  | .ok (.error failure) => .error (.config failure)
  | .ok (.ok limits) => .ok limits

def shortened (fingerprint : String) : String := String.ofList (fingerprint.toList.take 12)

def summary (readiness : Readiness) (fingerprint : String) : List String :=
  let repaired :=
    if readiness.fingerprint = fingerprint then []
    else
      let after := shortened readiness.fingerprint
      [s!"repaired  {after} ({readiness.mutations.length} mutation(s))"]
  let constraints := match readiness.constraints with
    | some constraints => [s!"constraints kept: {constraints.length}"]
    | none => []
  let status := if readiness.isReady then "ready" else "invalid"
  [s!"graph     {shortened fingerprint}"]
    ++ repaired
    ++ (readiness.lines.map fun line => "  " ++ line)
    ++ constraints
    ++ [s!"status    {status}"]

/-- Checks a graph, after a repair unless that is to be skipped. -/
def runCheck (files : Files) (setting : String → Option String) (arguments : CheckArguments) :
    Except Failure Reply := do
  let limits ← loadLimits files setting arguments.config
  let graph ← load files Graph.decode arguments.graph
  let constraints ← match arguments.constraints with
    | some path => (load files (Decode.list Constraint.decode) path).map some
    | none => .ok none
  let options : Repair.Options :=
    { Repair.Options.standard with fill := !arguments.skipFill, constraints }
  let (_, readiness) :=
    graph.prepare (if arguments.skipRepair then none else some options) limits
  let printed :=
    if arguments.asJson then readiness.json.prettyText ++ "\n"
    else String.join ((summary readiness graph.fingerprint).map fun line => line ++ "\n")
  return {
    printed
    told := []
    save := none
    failure := none
    exit := if readiness.isReady then Reply.exitReady else Reply.exitInvalid }

def runRepair (files : Files) (arguments : RepairArguments) : Except Failure Reply := do
  let graph ← load files Graph.decode arguments.graph
  let (repaired, outcome) :=
    graph.repair { Repair.Options.standard with fill := !arguments.skipFill }
  let text := repaired.json.prettyText
  return {
    printed := if arguments.output.isSome then "" else text ++ "\n"
    told := outcome.mutations.map Mutation.text
    save := arguments.output.map (·, text)
    failure := none
    exit := Reply.exitReady }

def usage : String := String.join ([
  "Validate and repair causal decision graphs",
  "",
  "Usage: causeway [--log-json] check GRAPH [--no-reconcile] [--no-fill] [--constraints FILE]",
  "                [--config FILE] [--json] [--request-id ID]",
  "       causeway [--log-json] reconcile GRAPH [--no-fill] [-o FILE | --output FILE]"].map
    fun line => line ++ "\n")

def run (files : Files) (setting : String → Option String) : Command → Reply
  | .check arguments =>
    match runCheck files setting arguments with
    | .ok reply => reply
    | .error failure => .failed failure
  | .repair arguments =>
    match runRepair files arguments with
    | .ok reply => reply
    | .error failure => .failed failure
  | .version => ⟨"causeway 0.4.0\n", [], none, none, Reply.exitReady⟩
  | .help => ⟨usage, [], none, none, Reply.exitReady⟩

/-- The files that a command may read, in the order in which it needs them. -/
def paths : Command → List String
  | .check arguments =>
    arguments.config.toList ++ [arguments.graph] ++ arguments.constraints.toList
  | .repair arguments => [arguments.graph]
  | .version | .help => []

/-- Runs a command on a folder in memory. -/
def runIn (folder : Folder) (setting : String → Option String) (command : Command) :
    Reply × Folder :=
  let files : Files := fun path => (folder.read path).mapError PathFault.message
  let reply := run files setting command
  match reply.save with
  | none => (reply, folder)
  | some (path, text) =>
    match folder.write path text with
    | .ok folder => (reply, folder)
    | .error fault => (reply.saved (.error fault.message), folder)

end DecisionGraph.CommandLine
