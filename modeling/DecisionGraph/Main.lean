import DecisionGraph.CommandLine

/-!
The program: arguments, environment and files come from the system, everything else is decided by
the command line.
-/

open DecisionGraph DecisionGraph.CommandLine

/-- What is said of a fault that the system numbers, with its own words for an unknown number. -/
def numbered (code : UInt32) (details : String) : String :=
  match PathFault.ofCode? code.toNat with
  | some fault => fault.message
  | none => s!"{details} (os error {code})"

/-- What the system says about a file that could not be read or written. -/
def reasonOf : IO.Error → String
  | .noFileOrDirectory _ _ _ | .noSuchThing _ _ _ => PathFault.missing.message
  | .inappropriateType _ code details | .invalidArgument _ code details
  | .resourceExhausted _ code details => numbered code details
  | .permissionDenied _ code _ => s!"Permission denied (os error {code})"
  | other => toString other

def readText (path : String) : IO (Except String String) :=
  try return .ok (← IO.FS.readFile path) catch error => return .error (reasonOf error)

def writeText (path text : String) : IO (Except String Unit) :=
  try
    IO.FS.writeFile path text
    return .ok ()
  catch error => return .error (reasonOf error)

def settingNames : List String :=
  ["CAUSEWAY_LOG_JSON", "CAUSEWAY_NODE_LIMIT", "CAUSEWAY_EDGE_LIMIT", "CAUSEWAY_MIN_OPTIONS",
    "CAUSEWAY_MAX_OPTIONS"]

/-- What is known under a name, or else what is said of names that are not known. -/
def lookUp {α : Type} (known : List (String × α)) (name : String) : Option α :=
  (known.find? (·.1 = name)).map (·.2)

def main (arguments : List String) : IO UInt32 := do
  let environment ← settingNames.filterMapM fun name =>
    return (← IO.getEnv name).map (name, ·)
  let setting := lookUp environment
  match Command.parse? setting arguments with
  | none =>
    (← IO.getStderr).putStr usage
    return 2
  | some command =>
    let texts ← (paths command).mapM fun path => return (path, ← readText path)
    let files : Files := fun path => (lookUp texts path).getD (.error PathFault.missing.message)
    let reply := run files setting command
    let reply ← match reply.save with
      | none => pure reply
      | some (path, text) => pure (reply.saved (← writeText path text))
    (← IO.getStdout).putStr reply.printed
    (← IO.getStderr).putStr reply.complaint
    return reply.exit.toUInt32
