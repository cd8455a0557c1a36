import DecisionGraph.Issue

/-!
Reports: the issues of a check, and whether any of them blocks the graph.
-/

namespace DecisionGraph

/-- Issues that block a graph, and issues that do not. -/
structure Report where
  valid : Bool
  errors : List Issue
  warnings : List Issue

namespace Report

/-- Sorts issues by whether they block; a report is valid when none does. -/
def ofIssues (issues : List Issue) : Report :=
  let errors := issues.filter Issue.isBlocking
  ⟨errors.isEmpty, errors, issues.filter fun issue => !issue.isBlocking⟩

def issues (report : Report) : List Issue := report.errors ++ report.warnings

def withCode (report : Report) (code : IssueCode) : List Issue :=
  report.issues.filter fun issue => issue.code = code

def hasCode (report : Report) (code : IssueCode) : Bool :=
  report.issues.any fun issue => issue.code = code

/-- The codes of the errors, each where it first occurs. -/
def errorCodes (report : Report) : List IssueCode :=
  (report.errors.map Issue.code).eraseDups

def json (report : Report) : Json := .record [
  Json.always "valid" (.bool report.valid),
  Json.always "errors" (.array (report.errors.map Issue.json)),
  Json.always "warnings" (.array (report.warnings.map Issue.json))]

def decode : Decoder Report := fun source _ =>
  source.record ["valid", "errors", "warnings"] fun slots =>
    Report.mk
      <$> slots.required "valid" Decode.bool
      <*> slots.required "errors" (Decode.list Issue.decode)
      <*> slots.required "warnings" (Decode.list Issue.decode)

end Report

/-- What the last check before a simulation reports. -/
structure GateReport where
  valid : Bool
  errors : List Issue

namespace GateReport

def ofErrors (errors : List Issue) : GateReport := ⟨errors.isEmpty, errors⟩

def json (report : GateReport) : Json := .record [
  Json.always "valid" (.bool report.valid),
  Json.always "errors" (.array (report.errors.map Issue.json))]

def decode : Decoder GateReport := fun source _ =>
  source.record ["valid", "errors"] fun slots =>
    GateReport.mk
      <$> slots.required "valid" Decode.bool
      <*> slots.required "errors" (Decode.list Issue.decode)

end GateReport

end DecisionGraph
