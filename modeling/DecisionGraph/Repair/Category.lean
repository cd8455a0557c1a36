import DecisionGraph.Node
import DecisionGraph.Repair.Logged

/-!
The category of a factor is the one that the structure of the graph gives; its data follow.
-/

namespace DecisionGraph.Repair

def defaultFactorType : FactorType := .other

def defaultDriver : String := "Estimation uncertainty"

def defaultDrivers : List String := [defaultDriver]

def entry (rule : RepairRule) (code : IssueCode) (id field : String) (before after : Json) :
    Mutation :=
  .ofCode rule code (.node id) field before after

def fillType (rule : RepairRule) (code : IssueCode) (id : String) (data : FactorData) :
    Logged FactorData :=
  match data.factorType with
  | some _ => .unchanged data
  | none =>
    ⟨{ data with factorType := some (.word defaultFactorType) },
      [entry rule code id "data.factor_type" .null (Vocabulary.json defaultFactorType)]⟩

def fillDrivers (rule : RepairRule) (code : IssueCode) (id : String) (data : FactorData) :
    Logged FactorData :=
  match data.drivers with
  | some _ => .unchanged data
  | none =>
    ⟨{ data with drivers := some defaultDrivers },
      [entry rule code id "data.uncertainty_drivers" .null (.ofStrings defaultDrivers)]⟩

/-- Adds what a controllable factor lacks, and leaves what it has. -/
def fill (rule : RepairRule) (code : IssueCode) (id : String) (data : Option FactorData) :
    Logged (Option FactorData) :=
  ((fillType rule code id (data.getD .empty)).andThen (fillDrivers rule code id)).map some

def stripType (id : String) (data : FactorData) : Logged FactorData :=
  match data.factorType with
  | none => .unchanged data
  | some factorType =>
    ⟨{ data with factorType := none },
      [entry .categoryOverride .categoryOverride id "data.factor_type" factorType.json .null]⟩

def stripDrivers (id : String) (data : FactorData) : Logged FactorData :=
  match data.drivers with
  | none => .unchanged data
  | some drivers =>
    ⟨{ data with drivers := none },
      [entry .categoryOverride .categoryOverride id "data.uncertainty_drivers"
        (.ofStrings drivers) .null]⟩

/-- Takes away what only a controllable factor has. -/
def strip (id : String) : Option FactorData → Logged (Option FactorData)
  | none => .unchanged none
  | some data => ((stripType id data).andThen (stripDrivers id)).map some

/-- Brings data in line with a new category. -/
def adapt (id : String) (category : Category) (data : Option FactorData) :
    Logged (Option FactorData) :=
  match category with
  | .controllable => fill .categoryOverride .categoryOverride id data
  | .observable => strip id data
  | .external => .unchanged data

/-- Lets the structure decide the category of a node. -/
def overrideCategory (inferred : Option Category) (node : Node) : Logged Node :=
  match inferred, node.body with
  | some inferred, .factor declared data =>
    if declared = some inferred then .unchanged node
    else
      let change := entry .categoryOverride .categoryOverride node.id "category"
        (.ofOption Vocabulary.json declared) (Vocabulary.json inferred)
      let adapted := adapt node.id inferred data
      ⟨{ node with body := .factor (some inferred) adapted.value }, change :: adapted.log⟩
  | _, _ => .unchanged node

def completeData (inferred : Option Category) (node : Node) : Logged Node :=
  match inferred, node.body with
  | some .controllable, .factor declared data =>
    (fill .controllableDataCompletion .controllableDataFilled node.id data).map fun data =>
      { node with body := .factor declared data }
  | _, _ => .unchanged node

end DecisionGraph.Repair
