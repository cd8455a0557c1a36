import DecisionGraph.Constraint
import DecisionGraph.Graph.Link
import DecisionGraph.Repair.Logged
import DecisionGraph.Text.Label

/-!
Constraints that name no node of the graph. Such a constraint is aimed at the one node of the same
family whose stem or label fits, or dropped when there is no such node or more than one.
-/

namespace DecisionGraph.Repair

/-- Shorter stems fit too much to be looked for. -/
def shortestStem : Nat := 4

/-- A node that a constraint may have meant. -/
structure Candidate where
  id : String
  stem : List Char
  label : String
  deriving DecidableEq

/-- The live nodes of a family; given labels replace their own. -/
def candidates (graph : Graph) (labels : SortedMap String) (family : String) : List Candidate :=
  graph.live.filterMap fun (node, _) =>
    match familyAndStem? node.id with
    | some (other, stem) =>
      if other = family then
        some ⟨node.id, lowerText stem.toList, (labels.get? node.id).getD node.label⟩
      else none
    | none => none

/-- One of the stems is part of the other. -/
def Candidate.fitsStem (stem : List Char) (candidate : Candidate) : Bool :=
  isWithin stem candidate.stem
    || shortestStem ≤ candidate.stem.length && isWithin candidate.stem stem

/-- The stem is part of the label. -/
def Candidate.fitsLabel (stem : List Char) (candidate : Candidate) : Bool :=
  isWithin stem (stemOfLabel candidate.label.toList)

/-- The one candidate that fits by its stem, or if none does the one that fits by its label. -/
def choose (stem : List Char) (candidates : List Candidate) : Option String :=
  match candidates.filter (Candidate.fitsStem stem) with
  | [only] => some only.id
  | _ :: _ :: _ => none
  | [] =>
    match candidates.filter (Candidate.fitsLabel stem) with
    | [only] => some only.id
    | _ => none

/-- The node that is meant by an id: the one with that id, or else a node that fits. -/
def aim (graph : Graph) (labels : SortedMap String) (id : String) : Option String :=
  if (graph.position? id).isSome then some id
  else
    match familyAndStem? id with
    | none => none
    | some (family, stem) =>
      let stem := lowerText stem.toList
      if stem.length < shortestStem then none
      else choose stem (candidates graph labels family)

/-- Aims a constraint; one that cannot be aimed is dropped. -/
def aimConstraint (graph : Graph) (labels : SortedMap String) (constraint : Constraint) :
    Logged (Option Constraint) :=
  let change (code : IssueCode) (after : Json) : Mutation :=
    .ofCode .constraintTargetRemap code (.constraint constraint.id) "node_id"
      (.string constraint.node) after
  match aim graph labels constraint.node with
  | none => ⟨none, [change .constraintDropped .null]⟩
  | some node =>
    if node = constraint.node then .unchanged (some constraint)
    else ⟨some { constraint with node }, [change .constraintRemapped (.string node)]⟩

def aimConstraints (graph : Graph) (labels : SortedMap String) (constraints : List Constraint) :
    Logged (List Constraint) :=
  (Logged.each (aimConstraint graph labels) constraints).map fun aimed => aimed.filterMap id

end DecisionGraph.Repair
