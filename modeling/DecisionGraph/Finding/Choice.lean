import DecisionGraph.Survey

/-!
Options: what they set exists and matters, and no two of them set the same.
-/

namespace DecisionGraph

/-- Options that set the same. -/
structure OptionGroup where
  set : List (String × UInt64)
  members : List (Node × Nat)

namespace Survey

variable (survey : Survey)

def factorsOf (option : Node) (position : Nat) : List Nat :=
  (survey.graph.liveOfKind .factor).filter fun factor =>
    survey.graph.idAt factor ∈ option.settings.map (·.1)
      || (Link.leaving survey.links position).any fun link => link.target = factor

def straySettings (option : Node) (position : Nat) : List Finding :=
  option.settings.filterMap fun (factor, _) =>
    let found := (survey.graph.position? factor).bind survey.graph.kindAt?
    if found = some .factor then none
    else some (.straySetting position option.id factor found)

/-- An option has to set a factor that reaches the goal. -/
def missingEffect (option : Node) (position : Nat) : List Finding :=
  match survey.reaching with
  | none => []
  | some reaching =>
    let factors := survey.factorsOf option position
    Finding.unless (factors.any fun factor => factor ∈ reaching)
      (.noEffect position option.id (factors.map survey.graph.idAt))

def options : List (Node × Nat) := survey.graph.live.filter fun entry => entry.1.kind = .option

def effects : List Finding :=
  survey.options.flatMap fun (option, position) =>
    survey.straySettings option position ++ survey.missingEffect option position

/-- What an option sets, with values as bits; zero has no sign here. -/
def signature (option : Node) : List (String × UInt64) :=
  option.settings.map fun (factor, value) =>
    (factor, if value.toFloat == 0 then (0 : Float).toBits else value.bits)

/-- Puts an option into the first group that sets the same, or behind all groups into its own. -/
def gather (option : Node × Nat) : List OptionGroup → List OptionGroup
  | [] => [⟨signature option.1, [option]⟩]
  | group :: groups =>
    if group.set = signature option.1 then
      { group with members := group.members ++ [option] } :: groups
    else group :: gather option groups

def gathered (options : List (Node × Nat)) : List OptionGroup :=
  options.foldl (fun groups option => gather option groups) []

/-- Options that set the same, in groups ordered by their first members. -/
def equalOptions : List (List (Node × Nat)) := (gathered survey.options).map OptionGroup.members

def identicalChoices : List Finding :=
  survey.equalOptions.filterMap fun
    | (first, position) :: second :: others =>
      some (.identicalOptions position (((first, position) :: second :: others).map (·.1.id)))
    | _ => none

def choice : List Finding := survey.effects ++ survey.identicalChoices

end Survey

end DecisionGraph
