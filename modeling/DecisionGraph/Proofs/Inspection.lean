import DecisionGraph.Check
import DecisionGraph.Proofs.MovedFindings
import DecisionGraph.Proofs.Sweep
import DecisionGraph.Proofs.Tracing
import Mathlib.Data.Finset.Sort

/-!
The checks over a table and over marks, with every access tested.
-/

namespace DecisionGraph

open Access

/-- What the checks share: a table, categories, and marks in place of lists of positions. -/
structure Inspection where
  table : Table
  categories : List (Option Category)
  reached : Option (List Bool)
  reaching : Option (List Bool)

namespace Inspection

def ofGraph (graph : Graph) : Access Inspection := do
  let table ← Table.build graph
  let categories ← table.categories
  let decision ← table.uniqueOfKind? .decision
  let goal ← table.uniqueOfKind? .goal
  let reached ← decision.mapM (Table.sweep table.leaving graph.nodes.length)
  let reaching ← goal.mapM (Table.sweep table.entering graph.nodes.length)
  return ⟨table, categories, reached, reaching⟩

variable (inspection : Inspection)

def category? (position : Nat) : Option Category := inspection.categories[position]?.join

/-! The census. -/

def repeatedIds : List Finding :=
  inspection.table.graph.nodes.zipIdx.filterMap fun (node, position) =>
    if inspection.table.isShadowed position then
      some (.repeatedId position node.id (inspection.table.position? node.id))
    else none

def undeclaredEnds : List Finding :=
  inspection.table.graph.edges.zipIdx.flatMap fun (edge, position) =>
    [Side.source, Side.target].filterMap fun side =>
      if (inspection.table.position? (side.idOf edge)).isNone then
        some (.undeclaredEnd position edge side)
      else none

/-- The counts are read off the graph alone. -/
def census (limits : Limits) : List Finding :=
  Survey.counts ⟨inspection.table.graph, [], [], none, none⟩ limits
    ++ inspection.repeatedIds ++ inspection.undeclaredEnds

/-! The wiring. -/

/-- What is found when hops lead to ids. -/
def naming (finding : String → List String → Finding) (position : Nat) (hops : List Hop) :
    Access (List Finding) := do
  let ids ← hops.mapM fun hop => inspection.table.idAt hop.node
  return (Finding.naming (finding (← inspection.table.idAt position)) ids).toList

def leftGoals : Access (List Finding) := do
  collect (fun position => do
    inspection.naming (.goalLeft position) position (← inspection.table.leaving position))
    (← inspection.table.ofKind .goal)

def enteredDecisions : Access (List Finding) := do
  collect (fun position => do
    inspection.naming (.decisionEntered position) position (← inspection.table.entering position))
    (← inspection.table.ofKind .decision)

def role (position : Nat) : Access Role := do
  match ← inspection.table.kindAt position with
  | .decision => return .decision
  | .option => return .option
  | .factor => return .factor ((inspection.category? position).getD .external)
  | .outcome => return .outcome
  | .risk => return .risk
  | .goal => return .goal

def misplacedEdge (link : Link) : Access (List Finding) := do
  let source ← inspection.role link.source
  let target ← inspection.role link.target
  if source.allows target then return []
  else return [.misplacedEdge link.edge (← inspection.table.idAt link.source) source
    (← inspection.table.idAt link.target) target]

def wiring : Access (List Finding) := do
  return (← inspection.leftGoals) ++ (← inspection.enteredDecisions)
    ++ (← collect inspection.misplacedEdge inspection.table.links) ++ (← inspection.table.cycles)

/-! The connection with the decision and the goal. -/

def isExogenous (position : Nat) : Access Bool :=
  match inspection.category? position with
  | some .observable | some .external => not <$> inspection.table.hasOptionParent position
  | _ => return false

def drives (position : Nat) : Access Bool :=
  match inspection.reaching with
  | some marks => fetch marks position
  | none => return true

def isDriver (position : Nat) : Access Bool := do
  let exogenous ← inspection.isExogenous position
  let drives ← inspection.drives position
  return exogenous && drives

def unreached (marks : List Bool) (entry : Node × Nat) : Access (List Finding) := do
  if ← fetch marks entry.2 then return []
  else if ← inspection.isDriver entry.2 then return []
  else return [.unreached entry.2 entry.1.id entry.1.kind]

def stranded (marks : List Bool) (entry : Node × Nat) : Access (List Finding) := do
  if ← fetch marks entry.2 then return []
  else if entry.1.kind = .decision then return []
  else return [.stranded entry.2 entry.1.id entry.1.kind]

def unreachedNodes : Access (List Finding) := do
  match inspection.reached with
  | none => return []
  | some marks => collect (inspection.unreached marks) (← inspection.table.live)

def strandedNodes : Access (List Finding) := do
  match inspection.reaching with
  | none => return []
  | some marks => collect (stranded marks) (← inspection.table.live)

def connection : Access (List Finding) := do
  return (← inspection.unreachedNodes) ++ (← inspection.strandedNodes)

/-! The data of factors. -/

def dataAt (entry : Node × Nat) : List Finding :=
  match inspection.category? entry.2 with
  | some category => Survey.dataOf entry.1 entry.2 category
  | none => []

def data : Access (List Finding) := do
  return (← inspection.table.live).flatMap inspection.dataAt

/-! Options. -/

/-- The live nodes of a kind, read at their positions. -/
def nodesOfKind (kind : NodeKind) : Access (List (Node × Nat)) := do
  (← inspection.table.ofKind kind).mapM fun position =>
    return (← inspection.table.nodeAt position, position)

/-- Where an id leads, and what is there. -/
def target? (id : String) : Access (Option (Nat × NodeKind)) :=
  match inspection.table.position? id with
  | some position => do return some (position, ← inspection.table.kindAt position)
  | none => return none

def straySetting (option : Node) (position : Nat) (factor : String) : Access (List Finding) := do
  let found := (← inspection.target? factor).map (·.2)
  if found = some .factor then return []
  else return [.straySetting position option.id factor found]

def factorNamed (id : String) : Access (List Nat) := do
  match ← inspection.target? id with
  | some (position, .factor) => return [position]
  | _ => return []

def factorAt (position : Nat) : Access (List Nat) := do
  if (← inspection.table.kindAt position) = .factor then return [position] else return []

/-- The factors that an option sets or points at, in order. -/
def factorsOf (option : Node) (position : Nat) : Access (List Nat) := do
  let set ← collect (fun setting => inspection.factorNamed setting.1) option.settings
  let hops ← inspection.table.leaving position
  let linked ← collect (fun hop => inspection.factorAt hop.node) hops
  return (set ++ linked).toFinset.sort

def missingEffect (option : Node) (position : Nat) : Access (List Finding) := do
  let factors ← inspection.factorsOf option position
  match inspection.reaching with
  | none => return []
  | some marks =>
    if ← factors.anyM (fetch marks) then return []
    else return [.noEffect position option.id (← factors.mapM inspection.table.idAt)]

def effectsAt (entry : Node × Nat) : Access (List Finding) := do
  let stray ← collect (fun setting => inspection.straySetting entry.1 entry.2 setting.1)
    entry.1.settings
  return stray ++ (← inspection.missingEffect entry.1 entry.2)

def identical (group : List (Node × Nat)) : Access (List Finding) := do
  if 1 < group.length then
    let ids ← group.mapM fun member => inspection.table.idAt member.2
    return [.identicalOptions (← fetch group 0).2 ids]
  else return []

def choice : Access (List Finding) := do
  let options ← inspection.nodesOfKind .option
  return (← collect inspection.effectsAt options)
    ++ (← collect inspection.identical ((Survey.gathered options).map OptionGroup.members))

/-! Goals in disguise, and the numbers of edges. -/

def goalNumber? (entry : Node × Nat) : Option Finding :=
  if inspection.category? entry.2 = some .controllable
      || entry.1.declaredCategory? = some .controllable then none
  else if GoalNumber.isGoalNumber entry.1.label then
    some (.goalNumber entry.2 entry.1.id entry.1.label)
  else none

def goalNumbers : Access (List Finding) := do
  return (← inspection.nodesOfKind .factor).filterMap inspection.goalNumber?

def looseScaffold (link : Link) : Access (List Finding) := do
  match ← inspection.table.kindAt link.source, ← inspection.table.kindAt link.target with
  | .option, .factor =>
    let edge ← inspection.table.edgeAt link.edge
    return Finding.unless edge.isScaffold (.looseOptionScaffold link.edge edge)
  | .decision, .option =>
    let edge ← inspection.table.edgeAt link.edge
    return Finding.unless edge.isScaffold (.looseDecisionScaffold link.edge edge)
  | _, _ => return []

def unfiniteNumbers : List Finding :=
  (inspection.table.graph.nodes.zipIdx.flatMap fun (node, position) =>
      Survey.nodeNumbers node position)
    ++ inspection.table.graph.edges.zipIdx.flatMap fun (edge, position) =>
      Survey.edgeNumbers edge position

def polarityAdvice (link : Link) (edge : Edge) : Access (List Finding) := do
  if (← inspection.table.kindAt link.target) ≠ .goal then return []
  else
    match ← inspection.table.kindAt link.source with
    | .outcome => return Finding.unless (!(edge.mean < 0)) (.loweringOutcome link.edge edge)
    | .risk => return Finding.unless (!(0 < edge.mean)) (.raisingRisk link.edge edge)
    | _ => return []

def isScaffold (link : Link) : Access Bool := do
  match ← inspection.table.kindAt link.source, ← inspection.table.kindAt link.target with
  | .decision, .option | .option, .factor => return true
  | _, _ => return false

def deviationAdvice (link : Link) (edge : Edge) : Access (List Finding) := do
  if ← inspection.isScaffold link then return []
  else
    match edge.deviation.filter Float.isFinite with
    | some deviation =>
      return Finding.unless (!(deviation < lowDeviation)) (.narrowEffect link.edge edge deviation)
    | none => return []

def linkAdvice (link : Link) : Access (List Finding) := do
  let edge ← inspection.table.edgeAt link.edge
  return (← inspection.polarityAdvice link edge) ++ (← inspection.deviationAdvice link edge)

def driverAdvice (entry : Node × Nat) : List Finding :=
  if inspection.category? entry.2 = some .controllable
      && (entry.1.factorData?.bind FactorData.drivers) = some [] then
    [.noDrivers entry.2 entry.1.id]
  else []

def advice : Access (List Finding) := do
  let ranges := inspection.table.graph.edges.zipIdx.flatMap fun (edge, position) =>
    Survey.rangeAdvice edge position
  return ranges ++ (← collect inspection.linkAdvice inspection.table.links)
    ++ (← inspection.table.live).flatMap inspection.driverAdvice

def findings (limits : Limits) : Access (List Finding) := do
  let wiring ← inspection.wiring
  let connection ← inspection.connection
  let data ← inspection.data
  let choice ← inspection.choice
  let goalNumbers ← inspection.goalNumbers
  let looseScaffold ← collect inspection.looseScaffold inspection.table.links
  let advice ← inspection.advice
  return inspection.census limits ++ wiring ++ connection ++ data
    ++ (choice ++ goalNumbers ++ looseScaffold) ++ inspection.unfiniteNumbers ++ advice

def check (graph : Graph) (limits : Limits) : Access Report := do
  let inspection ← ofGraph graph
  return .ofIssues ((← inspection.findings limits).map Finding.issue)

end Inspection

end DecisionGraph
