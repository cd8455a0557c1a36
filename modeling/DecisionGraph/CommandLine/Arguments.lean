/-!
The arguments of the command line.
-/

namespace DecisionGraph.CommandLine

structure CheckArguments where
  graph : String
  skipRepair : Bool
  skipFill : Bool
  constraints : Option String
  config : Option String
  asJson : Bool
  deriving DecidableEq, Repr

structure RepairArguments where
  graph : String
  skipFill : Bool
  output : Option String
  deriving DecidableEq, Repr

inductive Command
  | check (arguments : CheckArguments)
  | repair (arguments : RepairArguments)
  | version
  | help
  deriving DecidableEq, Repr

/-- A subcommand as it is read: the flags and options that it takes, and those given so far. -/
structure Grammar where
  flags : List String
  options : List String
  /-- One-letter names of options. -/
  letters : List (Char × String)

structure Given where
  flags : List String
  options : List (String × String)
  positional : List String
  deriving DecidableEq, Repr

namespace Given

def none : Given := ⟨[], [], []⟩

def hasFlag (given : Given) (name : String) : Bool := name ∈ given.flags

def option? (given : Given) (name : String) : Option String :=
  (given.options.find? (·.1 = name)).map (·.2)

def addFlag (given : Given) (name : String) : Option Given :=
  if name ∈ given.flags then Option.none else some { given with flags := name :: given.flags }

/-- An option may be given once; all but `request-id` name files, which have names. -/
def addOption (given : Given) (name value : String) : Option Given :=
  if (given.option? name).isSome || (value.isEmpty && name ≠ "request-id") then Option.none
  else some { given with options := (name, value) :: given.options }

/-- There is one positional argument, which names a file. -/
def addPositional (given : Given) (value : String) : Option Given :=
  if given.positional.isEmpty && !value.isEmpty then some { given with positional := [value] }
  else Option.none

end Given

/-- What an argument is, before anything is known about it. -/
inductive Shape
  /-- Everything behind it is positional. -/
  | escape
  | long (name : String) (value : Option String)
  | short (letter : Char) (rest : String)
  | plain
  deriving DecidableEq, Repr

/-- A lone hyphen is an argument like any other. -/
def shape (argument : String) : Shape :=
  match argument.toList with
  | ['-', '-'] => .escape
  | '-' :: '-' :: rest =>
    match rest.dropWhile (· ≠ '=') with
    | [] => .long (String.ofList rest) Option.none
    | _ :: value =>
      .long (String.ofList (rest.takeWhile (· ≠ '='))) (some (String.ofList value))
  | '-' :: letter :: rest => .short letter (String.ofList rest)
  | _ => .plain

inductive Parsed
  | given (given : Given)
  | help
  | usage
  deriving DecidableEq, Repr

/-- What is attached to the letter of an option; an equals sign between them does not count. -/
def attached (rest : String) : Option String :=
  match rest.toList with
  | [] => Option.none
  | '=' :: value => some (String.ofList value)
  | value => some (String.ofList value)

def Given.addAll (given : Given) : List String → Option Given
  | [] => some given
  | value :: rest => (given.addPositional value).bind fun given => given.addAll rest

mutual

def Grammar.read (grammar : Grammar) (given : Given) : List String → Parsed
  | [] => .given given
  | argument :: rest =>
    match shape argument with
    | .escape =>
      match given.addAll rest with
      | some given => .given given
      | none => .usage
    | .long "help" none => .help
    | .long name value =>
      if name ∈ grammar.flags then
        match value, given.addFlag name with
        | none, some given => grammar.read given rest
        | _, _ => .usage
      else if name ∈ grammar.options then grammar.readValue given name value rest
      else .usage
    | .short 'h' _ => .help
    | .short letter tail =>
      match grammar.letters.find? (·.1 = letter) with
      | some (_, name) => grammar.readValue given name (attached tail) rest
      | none => .usage
    | .plain =>
      match given.addPositional argument with
      | some given => grammar.read given rest
      | none => .usage

def Grammar.readValue (grammar : Grammar) (given : Given) (name : String)
    (value : Option String) (rest : List String) : Parsed :=
  match value, rest with
  | some value, rest =>
    match given.addOption name value with
    | some given => grammar.read given rest
    | none => .usage
  | none, value :: rest =>
    match shape value, given.addOption name value with
    | .plain, some given => grammar.read given rest
    | _, _ => .usage
  | none, [] => .usage

end

def checkGrammar : Grammar where
  flags := ["log-json", "no-reconcile", "no-fill", "json"]
  options := ["constraints", "config", "request-id"]
  letters := []

def repairGrammar : Grammar where
  flags := ["log-json", "no-fill"]
  options := ["output"]
  letters := [('o', "output")]

def Command.ofCheck? (given : Given) : Option Command :=
  match given.positional with
  | [graph] => some (.check {
      graph
      skipRepair := given.hasFlag "no-reconcile"
      skipFill := given.hasFlag "no-fill"
      constraints := given.option? "constraints"
      config := given.option? "config"
      asJson := given.hasFlag "json" })
  | _ => none

def Command.ofRepair? (given : Given) : Option Command :=
  match given.positional with
  | [graph] => some (.repair {
      graph
      skipFill := given.hasFlag "no-fill"
      output := given.option? "output" })
  | _ => none

/-- A subcommand with its arguments. The flag for logs may stand before the subcommand and behind
it; wherever it does not stand, the setting has to make sense. -/
def Command.ofParsed? (logging settingIsFine : Bool) (build : Given → Option Command) :
    Parsed → Option Command
  | .given given =>
    if settingIsFine || logging && given.hasFlag "log-json" then build given else none
  | .help => some .help
  | .usage => none

/-- The command that arguments ask for; `none` when they ask for nothing that there is. -/
def Command.parseAfter? (logging settingIsFine : Bool) : List String → Option Command
  | [] => none
  | argument :: rest =>
    match argument with
    | "check" =>
      ofParsed? logging settingIsFine ofCheck? (checkGrammar.read .none rest)
    | "reconcile" =>
      ofParsed? logging settingIsFine ofRepair? (repairGrammar.read .none rest)
    | "--log-json" => if logging then none else parseAfter? true settingIsFine rest
    | "help" =>
      match rest with
      | [] | ["check"] | ["reconcile"] | ["help"] => some .help
      | _ => none
    | "--help" => some .help
    | "--version" => some .version
    | _ =>
      match shape argument with
      | .short 'h' _ => some .help
      | .short 'V' _ => some .version
      | _ => none

def Command.parse? (setting : String → Option String) (arguments : List String) :
    Option Command :=
  let settingIsFine := (setting "CAUSEWAY_LOG_JSON").all fun value =>
    value = "true" || value = "false"
  parseAfter? false settingIsFine arguments

end DecisionGraph.CommandLine
