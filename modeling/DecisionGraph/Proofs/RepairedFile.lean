import DecisionGraph.CommandLine
import DecisionGraph.Proofs.Reread
import DecisionGraph.Proofs.Settled

/-!
A graph may be repaired on the way to its check, or be repaired into a file that is then checked as
it is. Both ways come to the same reports, the same fingerprint and the same exit code.
-/

namespace DecisionGraph

/-! A repaired graph is held as well as the graph it was made from. -/

theorem Node.numbers_outline (node : Node) : node.outline.numbers = node.numbers := by
  unfold numbers outline
  cases node.body with
  | factor category data => cases data <;> rfl
  | _ => rfl

theorem Node.numbers_mended (wanted : Bool) (inferred : Option Category) (node : Node) :
    (node.mended wanted inferred).numbers = node.numbers := by
  rw [← numbers_outline, outline_mended, numbers_outline]

theorem Node.Settled.canonical {filled : Bool} {inferred : Option Category} {node : Node}
    (settled : node.Settled filled inferred) : node.Canonical := by
  intro data carried
  obtain ⟨factorType, extraction⟩ := settled.words data carried
  refine ⟨?_, ?_⟩
  · rintro _ stated text rfl
    exact absurd stated (factorType text)
  · rintro _ stated text rfl
    exact absurd stated (extraction text)

theorem Edge.Settled.canonical {edge : Edge} (settled : edge.Settled) : edge.Canonical := by
  rintro _ stated text rfl
  exact absurd stated (settled.word text)

namespace Graph

variable {graph : Graph}

theorem Settled.canonical {filled : Bool} (settled : graph.Settled filled) : graph.Canonical := by
  refine ⟨fun node listed => ?_, fun edge listed => (settled.edges edge listed).canonical⟩
  obtain ⟨position, found⟩ := List.mem_iff_getElem?.mp listed
  exact (settled.nodes position node found).canonical

theorem held_mended (held : graph.Held) (wanted : Bool) : (graph.mended wanted).Held where
  nodes node listed number := by
    obtain ⟨⟨before, inferred⟩, zipped, rfl⟩ := List.mem_map.mp listed
    rw [Node.numbers_mended]
    exact held.nodes before (List.of_mem_zip zipped).1 number
  edges edge listed := by
    obtain ⟨before, among, rfl⟩ := List.mem_map.mp listed
    exact held.edges before among
  words := (graph.settled_mended wanted).canonical
  notes := held.notes

/-- A graph that was read is, once it is repaired, read back from its own text. -/
theorem read_repair {text : String} (read : Decoder.read decode text = .ok graph)
    (options : Repair.Options)
    (numbers : ∀ x ∈ (graph.repair options).1.json.reals, x.isFinite = true →
      (Number.real x).ReadsBack) :
    Decoder.read decode (graph.repair options).1.json.prettyText =
      .ok (graph.repair options).1 := by
  have held : (graph.repair options).1.Held := by
    rw [value_repair]
    exact held_mended (held_of_read read) options.fill
  exact ((reads held).of_texts (fits held) numbers).2

end Graph

namespace Readiness

variable {readiness : Readiness}

theorem isReady_iff_blocking {graph : Graph} {limits : Limits} {outcome : Repair.Outcome} :
    (ofGraph graph limits outcome).isReady = true ↔
      (ofGraph graph limits outcome).blocking = [] := by
  simp [isReady, blocking, ofGraph, Graph.check, Graph.gate, Report.ofIssues, GateReport.ofErrors]

end Readiness

namespace CommandLine

section Ways

variable {files : Files} {setting : String → Option String}

/-- What a check of a file comes to: the graph that was read and whether it is ready. -/
def judged (files : Files) (setting : String → Option String) (arguments : CheckArguments) :
    Except Failure (Graph × Readiness) := do
  let limits ← loadLimits files setting arguments.config
  let graph ← load files Graph.decode arguments.graph
  let constraints ← match arguments.constraints with
    | some path => (load files (Decode.list Constraint.decode) path).map some
    | none => .ok none
  let options : Repair.Options :=
    { Repair.Options.standard with fill := !arguments.skipFill, constraints }
  return (graph, (graph.prepare (if arguments.skipRepair then none else some options) limits).2)

/-- The reply that tells of a graph whether it is ready. -/
def Reply.ofReadiness (asJson : Bool) (graph : Graph) (readiness : Readiness) : Reply where
  printed :=
    if asJson then readiness.json.prettyText ++ "\n"
    else String.join ((summary readiness graph.fingerprint).map fun line => line ++ "\n")
  told := []
  save := none
  failure := none
  exit := if readiness.isReady then exitReady else exitInvalid

theorem run_check (arguments : CheckArguments) :
    run files setting (.check arguments) =
      match judged files setting arguments with
      | .ok (graph, readiness) => .ofReadiness arguments.asJson graph readiness
      | .error failure => .failed failure := by
  rw [run, runCheck, judged]
  cases loadLimits files setting arguments.config with
  | error failure => rfl
  | ok limits =>
      cases load files Graph.decode arguments.graph with
      | error failure => rfl
      | ok graph =>
          cases arguments.constraints with
          | none => rfl
          | some path =>
              dsimp only
              cases load files (Decode.list Constraint.decode) path <;> rfl

theorem load_eq_ok {α : Type} {decode : Decoder α} {path : String} {value : α} :
    load files decode path = .ok value ↔
      ∃ text, files path = .ok text ∧ decode.read text = .ok value := by
  unfold load readFile
  cases files path with
  | error reason => simp
  | ok text =>
      simp only [Except.ok.injEq, exists_eq_left']
      cases decode.read text <;> simp

/-- A command repairs with no constraints and no labels of its own. -/
def repairOptions (skipFill : Bool) : Repair.Options :=
  { Repair.Options.standard with fill := !skipFill }

variable {path : String} {config : Option String} {limits : Limits} {graph : Graph}

theorem judged_repairing (skipFill asJson : Bool)
    (limited : loadLimits files setting config = .ok limits)
    (loaded : load files Graph.decode path = .ok graph) :
    judged files setting ⟨path, false, skipFill, none, config, asJson⟩ =
      .ok (graph, (graph.prepare (some (repairOptions skipFill)) limits).2) := by
  simp only [judged, limited, loaded]
  rfl

theorem judged_as_is (skipFill asJson : Bool)
    (limited : loadLimits files setting config = .ok limits)
    (loaded : load files Graph.decode path = .ok graph) :
    judged files setting ⟨path, true, skipFill, none, config, asJson⟩ =
      .ok (graph, (graph.prepare none limits).2) := by
  simp only [judged, limited, loaded]
  rfl

theorem save_repair {output : String} (skipFill : Bool)
    (loaded : load files Graph.decode path = .ok graph) :
    (run files setting (.repair ⟨path, skipFill, some output⟩)).save =
      some (output, (graph.repair (repairOptions skipFill)).1.json.prettyText) := by
  rw [run, runRepair]
  simp only [loaded]
  rfl

theorem exit_check {arguments : CheckArguments} {readiness : Readiness}
    (comes : judged files setting arguments = .ok (graph, readiness)) :
    (run files setting (.check arguments)).exit = if readiness.isReady then 0 else 1 := by
  rw [run_check, comes]
  rfl

end Ways

/-- A graph that is repaired on the way to its check and one that is repaired into a file and then
checked as it is come to the same reports, the same fingerprint and the same exit code, which is 0
when nothing blocks the graph and else 1. The file and the settings have to be readable by then, and
the numbers in the file have to be read as they were written. -/
theorem repaired_file_checks_alike {files later : Files} {setting : String → Option String}
    {input output : String} {config : Option String} {graph : Graph} {limits : Limits}
    (skipFill asJson : Bool)
    (loaded : load files Graph.decode input = .ok graph)
    (limited : loadLimits files setting config = .ok limits)
    (unmoved : loadLimits later setting config = .ok limits)
    (saved : ∀ save ∈ (run files setting (.repair ⟨input, skipFill, some output⟩)).save,
      later save.1 = .ok save.2)
    (numbers : ∀ x ∈ (graph.repair (repairOptions skipFill)).1.json.reals, x.isFinite = true →
      (Number.real x).ReadsBack) :
    let straight : CheckArguments := ⟨input, false, skipFill, none, config, asJson⟩
    let resumed : CheckArguments := ⟨output, true, skipFill, none, config, asJson⟩
    ∃ (repaired : Graph) (first second : Readiness),
      judged files setting straight = .ok (graph, first) ∧
      judged later setting resumed = .ok (repaired, second) ∧
      first.report = second.report ∧ first.gate = second.gate ∧
      first.fingerprint = second.fingerprint ∧
      (run files setting (.check straight)).exit = (run later setting (.check resumed)).exit ∧
      (run files setting (.check straight)).exit = if first.blocking.isEmpty then 0 else 1 := by
  intro straight resumed
  obtain ⟨text, _, read⟩ := load_eq_ok.mp loaded
  have stored : later output = .ok (graph.repair (repairOptions skipFill)).1.json.prettyText :=
    saved _ (save_repair skipFill loaded)
  have reloaded := load_eq_ok.mpr ⟨_, stored, graph.read_repair read _ numbers⟩
  have first := judged_repairing skipFill asJson limited loaded
  have second := judged_as_is skipFill asJson unmoved reloaded
  refine ⟨_, _, _, first, second, rfl, rfl, rfl, ?_, ?_⟩
  · rw [exit_check first, exit_check second]
    rfl
  · rw [exit_check first]
    refine if_congr ?_ rfl rfl
    rw [List.isEmpty_iff]
    exact Readiness.isReady_iff_blocking

/-! The sketch as a file, and the files after it was repaired into another one. -/

namespace Draft

open DecisionGraph.Graph (sketch)

def files : Files := fun path =>
  if path = "draft.json" then .ok sketch.json.compactText
  else .error PathFault.missing.message

def later : Files := fun path =>
  if path = "repaired.json" then .ok (sketch.repair (repairOptions false)).1.json.prettyText
  else files path

def setting : String → Option String := fun _ => none

theorem load_draft : load files Graph.decode "draft.json" = .ok sketch := by
  have listed : sketch.json.reals = List.replicate 6 0.5 := by decide +kernel
  refine load_eq_ok.mpr ⟨_, rfl, ?_⟩
  refine ((Graph.reads Graph.held_sketch).of_texts (Graph.fits Graph.held_sketch) ?_).1
  intro x written _
  rw [listed] at written
  rw [List.eq_of_mem_replicate written]
  exact Graph.readsBack_half

theorem repaired_file_checks_alike_draft :
    load files Graph.decode "draft.json" = .ok sketch ∧
    loadLimits files setting none = .ok .standard ∧
    (run files setting (.repair ⟨"draft.json", false, some "repaired.json"⟩)).save =
      some ("repaired.json", (sketch.repair (repairOptions false)).1.json.prettyText) ∧
    ∃ (repaired : Graph) (first second : Readiness),
      judged files setting ⟨"draft.json", false, false, none, none, true⟩ = .ok (sketch, first) ∧
      judged later setting ⟨"repaired.json", true, false, none, none, true⟩ =
        .ok (repaired, second) ∧
      first.report = second.report ∧ first.gate = second.gate ∧
      first.fingerprint = second.fingerprint := by
  have saved : (run files setting (.repair ⟨"draft.json", false, some "repaired.json"⟩)).save =
      some ("repaired.json", (sketch.repair (repairOptions false)).1.json.prettyText) :=
    save_repair false load_draft
  have limited : loadLimits files setting none = .ok .standard := rfl
  have unmoved : loadLimits later setting none = .ok .standard := rfl
  have readable : ∀ save ∈ (run files setting
      (.repair ⟨"draft.json", false, some "repaired.json"⟩)).save, later save.1 = .ok save.2 := by
    rw [saved]
    rintro _ ⟨⟩
    rfl
  have listed : (sketch.repair (repairOptions false)).1.json.reals = List.replicate 6 0.5 := by
    decide +kernel
  have numbers : ∀ x ∈ (sketch.repair (repairOptions false)).1.json.reals, x.isFinite = true →
      (Number.real x).ReadsBack := by
    rw [listed]
    intro x written _
    rw [List.eq_of_mem_replicate written]
    exact Graph.readsBack_half
  obtain ⟨repaired, first, second, before, after, report, gate, fingerprint, _⟩ :=
    repaired_file_checks_alike false true load_draft limited unmoved readable numbers
  exact ⟨load_draft, limited, saved, repaired, first, second, before, after, report, gate,
    fingerprint⟩

end Draft

end CommandLine

end DecisionGraph
