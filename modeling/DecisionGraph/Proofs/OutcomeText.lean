import DecisionGraph.Proofs.Entries
import DecisionGraph.Proofs.Reread
import DecisionGraph.Readiness

/-!
What one pass over a graph gives is read back as it was from its own text, as long as it holds what
the format can write.
-/

namespace DecisionGraph

open Json

/-! What can be held. -/

/-- The facts of an issue are a free-form value, with room for it inside of a report. -/
def Issue.Held (issue : Issue) : Prop := issue.context.Held (Source.deepest - 4)

structure Mutation.Held (mutation : Mutation) : Prop where
  before : mutation.before.Held (Source.deepest - 3)
  after : mutation.after.Held (Source.deepest - 3)
  position : ∀ position ∈ mutation.target.edgePosition?, position < 2 ^ 64

structure Readiness.Held (readiness : Readiness) : Prop where
  mutations : ∀ mutation ∈ readiness.mutations, mutation.Held
  constraints : ∀ constraints ∈ readiness.constraints, ∀ constraint ∈ constraints,
    constraint.value.isFinite = true
  errors : ∀ issue ∈ readiness.report.errors, issue.Held
  warnings : ∀ issue ∈ readiness.report.warnings, issue.Held
  gate : ∀ issue ∈ readiness.gate.errors, issue.Held

/-! Words. -/

namespace Vocabulary

theorem ofWord?_word_issueCode (code : IssueCode) : ofWord? (word code) = some code := by
  cases code <;> decide

theorem ofWord?_word_severity (severity : Severity) : ofWord? (word severity) = some severity := by
  cases severity <;> decide

theorem ofWord?_word_rule (rule : RepairRule) : ofWord? (word rule) = some rule := by
  cases rule <;> decide

theorem ofWord?_word_targetKind (kind : Target.Kind) : ofWord? (word kind) = some kind := by
  cases kind <;> decide

theorem reads_tag {α : Type} [Vocabulary α] {value : α}
    (known : ofWord? (word value) = some value) :
    Decoder.Reads decodeTag (json value) value := by
  rintro _ next ⟨⟩
  simp only [decodeTag, known]
  rfl

end Vocabulary

/-! Targets: the type that is written first tells which fields follow. -/

namespace Target

def kind : Target → Kind
  | node _ => .node
  | edge _ _ _ => .edge
  | constraint _ => .constraint

def table (target : Target) : List (String × Option Json) :=
  ("type", some (Vocabulary.json target.kind)) ::
    match target with
    | node id => [("node_id", some (.string id))]
    | edge position source target =>
      [("index", some (.ofNat position)), ("from", some (.string source)),
        ("to", some (.string target))]
    | constraint id => [("constraint_id", some (.string id))]

theorem json_eq (target : Target) : target.json = .object (present target.table) := by
  cases target <;> rfl

theorem distinct_table (target : Target) : (target.table.map (·.1)).Nodup := by
  cases target <;> simp [table]

theorem fields_read {target : Target} {slots : Slots}
    (small : ∀ position ∈ target.edgePosition?, position < 2 ^ 64)
    (shows : slots.Shows target.kind.fields target.table) :
    decodeFields target.kind slots = .ok target := by
  cases target with
  | node id =>
      exact Reading.map_ok (shows.required_eq (.tail _ (.head _)) (.head _) (Decode.reads_text id))
  | edge position source stop =>
      refine Reading.seq_ok (Reading.seq_ok (Reading.map_ok ?_) ?_) ?_
      · exact shows.required_eq (.tail _ (.head _)) (.head _)
          (Decode.reads_count (small position rfl))
      · exact shows.required_eq (.tail _ (.tail _ (.head _))) (.tail _ (.head _))
          (Decode.reads_text source)
      · exact shows.required_eq (by simp [table]) (by simp [kind, Kind.fields])
          (Decode.reads_text stop)
  | constraint id =>
      exact Reading.map_ok (shows.required_eq (.tail _ (.head _)) (.head _) (Decode.reads_text id))

theorem reads {target : Target} (small : ∀ position ∈ target.edgePosition?, position < 2 ^ 64) :
    Decoder.Reads decode target.json target := by
  rw [json_eq]
  intro source next shows
  have tagged : (source.slots Source.readable ["type"] []).Shows ["type"] target.table :=
    shows.slots (fun _ _ => Source.Shows.readable) target.distinct_table
  have slots : (source.slots Source.wellFormed target.kind.fields []).Shows target.kind.fields
      target.table := shows.slots (fun _ _ => Source.Shows.wellFormed) target.distinct_table
  have kind := tagged.required_eq List.mem_cons_self (by decide)
    (Vocabulary.reads_tag (Vocabulary.ofWord?_word_targetKind target.kind))
  cases shows with
  | object position each =>
      exact Reading.andThen_eq_ok.mpr
        ⟨target.kind, Reading.along_ok kind tagged.sound,
          Reading.along_ok (fields_read small slots) slots.sound⟩

end Target

/-! Records. -/

theorem Mutation.json_eq (mutation : Mutation) : mutation.json = .object (present [
    ("rule", some (Vocabulary.json mutation.rule)),
    ("code", some (Vocabulary.json mutation.code)),
    ("target", some mutation.target.json),
    ("field", some (.string mutation.field)),
    ("before", some mutation.before),
    ("after", some mutation.after),
    ("severity", some (Vocabulary.json mutation.severity))]) := rfl

theorem Mutation.reads {mutation : Mutation} (held : mutation.Held) :
    Decoder.Reads Mutation.decode mutation.json mutation := by
  rw [json_eq]
  obtain ⟨rule, code, target, field, before, after, severity⟩ := mutation
  refine Decoder.reads_record (by simp) fun slots shows => ?_
  refine Reading.seq_ok (Reading.seq_ok (Reading.seq_ok (Reading.seq_ok (Reading.seq_ok
    (Reading.seq_ok (Reading.map_ok ?_) ?_) ?_) ?_) ?_) ?_) ?_
  · exact shows.required_eq (by simp) (by decide)
      (Vocabulary.reads false (Vocabulary.ofWord?_word_rule rule))
  · exact shows.required_eq (by simp) (by decide)
      (Vocabulary.reads false (Vocabulary.ofWord?_word_issueCode code))
  · exact shows.required_eq (by simp) (by decide) (Target.reads held.position)
  · exact shows.required_eq (by simp) (by decide) (Decode.reads_text field)
  · exact shows.required_eq (by simp) (by decide) (Decode.reads_json held.before)
  · exact shows.required_eq (by simp) (by decide) (Decode.reads_json held.after)
  · exact shows.required_eq (by simp) (by decide)
      (Vocabulary.reads false (Vocabulary.ofWord?_word_severity severity))

theorem Issue.json_eq (issue : Issue) : issue.json = .object (present [
    ("code", some (Vocabulary.json issue.code)),
    ("path", some (.string issue.path)),
    ("message", some (.string issue.message)),
    ("context", some issue.context),
    ("severity", some (Vocabulary.json issue.severity))]) := rfl

theorem Issue.reads {issue : Issue} (held : issue.Held) :
    Decoder.Reads Issue.decode issue.json issue := by
  rw [json_eq]
  obtain ⟨code, path, message, context, severity⟩ := issue
  refine Decoder.reads_record (by simp) fun slots shows => ?_
  refine Reading.seq_ok (Reading.seq_ok (Reading.seq_ok (Reading.seq_ok
    (Reading.map_ok ?_) ?_) ?_) ?_) ?_
  · exact shows.required_eq (by simp) (by decide)
      (Vocabulary.reads false (Vocabulary.ofWord?_word_issueCode code))
  · exact shows.required_eq (by simp) (by decide) (Decode.reads_text path)
  · exact shows.required_eq (by simp) (by decide) (Decode.reads_text message)
  · exact shows.required_eq (by simp) (by decide) (Decode.reads_json held)
  · exact shows.required_eq (by simp) (by decide)
      (Vocabulary.reads false (Vocabulary.ofWord?_word_severity severity))

theorem Constraint.json_eq (constraint : Constraint) : constraint.json = .object (present [
    ("constraint_id", some (.string constraint.id)),
    ("node_id", some (.string constraint.node)),
    ("operator", some (.string constraint.operator)),
    ("value", some (.ofFloat constraint.value)),
    ("label", constraint.label.map .string)]) := by
  simp only [present_some, present_map]
  rfl

theorem Constraint.reads {constraint : Constraint} (finite : constraint.value.isFinite = true) :
    Decoder.Reads Constraint.decode constraint.json constraint := by
  rw [json_eq]
  obtain ⟨id, node, operator, value, label⟩ := constraint
  intro source next shows
  have slots : (source.slots Source.wellFormed fieldNames
      [("constraintId", "constraint_id"), ("nodeId", "node_id")]).Shows fieldNames _ :=
    shows.slots_spelt (fun _ _ => Source.Shows.wellFormed) (by simp) (by simp [fieldNames])
  refine Reading.along_ok (Reading.seq_ok (Reading.seq_ok (Reading.seq_ok (Reading.seq_ok
    (Reading.map_ok ?_) ?_) ?_) ?_) ?_) slots.sound
  · exact slots.required_eq (by simp) (by decide) (Decode.reads_text id)
  · exact slots.required_eq (by simp) (by decide) (Decode.reads_text node)
  · exact slots.required_eq (by simp) (by decide) (Decode.reads_text operator)
  · exact slots.required_eq (by simp) (by decide) (Decode.reads_real finite)
  · exact slots.optional_eq (by simp) (by decide) fun label _ => ⟨Decode.reads_text label, nofun⟩

theorem Report.json_eq (report : Report) : report.json = .object (present [
    ("valid", some (.bool report.valid)),
    ("errors", some (.array (report.errors.map Issue.json))),
    ("warnings", some (.array (report.warnings.map Issue.json)))]) := rfl

theorem Report.reads {report : Report} (errors : ∀ issue ∈ report.errors, issue.Held)
    (warnings : ∀ issue ∈ report.warnings, issue.Held) :
    Decoder.Reads Report.decode report.json report := by
  rw [json_eq]
  refine Decoder.reads_record (by simp) fun slots shows => ?_
  refine Reading.seq_ok (Reading.seq_ok (Reading.map_ok ?_) ?_) ?_
  · exact shows.required_eq (by simp) (by decide) (Decode.reads_bool report.valid)
  · exact shows.required_eq (.tail _ (.head _)) (by decide)
      (Decode.reads_list fun issue listed => Issue.reads (errors issue listed))
  · exact shows.required_eq (.tail _ (.tail _ (.head _))) (by decide)
      (Decode.reads_list fun issue listed => Issue.reads (warnings issue listed))

theorem GateReport.json_eq (report : GateReport) : report.json = .object (present [
    ("valid", some (.bool report.valid)),
    ("errors", some (.array (report.errors.map Issue.json)))]) := rfl

theorem GateReport.reads {report : GateReport} (errors : ∀ issue ∈ report.errors, issue.Held) :
    Decoder.Reads GateReport.decode report.json report := by
  rw [json_eq]
  refine Decoder.reads_record (by simp) fun slots shows => ?_
  refine Reading.seq_ok (Reading.map_ok ?_) ?_
  · exact shows.required_eq (by simp) (by decide) (Decode.reads_bool report.valid)
  · exact shows.required_eq (.tail _ (.head _)) (by decide)
      (Decode.reads_list fun issue listed => Issue.reads (errors issue listed))

namespace Readiness

theorem json_eq (readiness : Readiness) : readiness.json = .object (present [
    ("mutations", some (.array (readiness.mutations.map Mutation.json))),
    ("goal_constraints",
      readiness.constraints.map fun constraints => .array (constraints.map Constraint.json)),
    ("report", some readiness.report.json),
    ("post", some readiness.gate.json),
    ("fingerprint", some (.string readiness.fingerprint))]) := by
  simp only [present_some, present_map]
  rfl

theorem reads {readiness : Readiness} (held : readiness.Held) :
    Decoder.Reads Readiness.decode readiness.json readiness := by
  rw [json_eq]
  refine Decoder.reads_record (by simp) fun slots shows => ?_
  refine Reading.seq_ok (Reading.seq_ok (Reading.seq_ok (Reading.seq_ok
    (Reading.map_ok ?_) ?_) ?_) ?_) ?_
  · exact shows.required_eq (.head _) (by decide)
      (Decode.reads_list fun mutation listed => Mutation.reads (held.mutations mutation listed))
  · exact shows.optional_eq (.tail _ (.head _)) (by decide) fun constraints given =>
      ⟨Decode.reads_list fun constraint listed =>
        Constraint.reads (held.constraints constraints given constraint listed), nofun⟩
  · exact shows.required_eq (.tail _ (.tail _ (.head _))) (by decide)
      (Report.reads held.errors held.warnings)
  · exact shows.required_eq (.tail _ (.tail _ (.tail _ (.head _)))) (by decide)
      (GateReport.reads held.gate)
  · exact shows.required_eq (by simp) (by decide) (Decode.reads_text readiness.fingerprint)

end Readiness

/-! There is room. -/

theorem Target.fits {target : Target} (small : ∀ position ∈ target.edgePosition?, position < 2 ^ 64)
    (room : Nat) : target.json.Fits (room + 1) := by
  rw [json_eq]
  refine .present ?_
  cases target with
  | edge position source stop =>
      simp only [table, List.forall_mem_cons, Option.mem_some_iff, forall_eq']
      exact ⟨.string room _, (Held.ofNat (small position rfl)).fits, .string room _,
        .string room _, nofun⟩
  | _ =>
      simp only [table, List.forall_mem_cons, Option.mem_some_iff, forall_eq']
      exact ⟨.string room _, .string room _, nofun⟩

theorem Mutation.fits {mutation : Mutation} (held : mutation.Held) :
    mutation.json.Fits (Source.deepest - 2) := by
  rw [json_eq]
  refine .present ?_
  simp only [List.forall_mem_cons, Option.mem_some_iff, forall_eq']
  exact ⟨.string _ _, .string _ _, Target.fits held.position _, .string _ _, held.before.fits,
    held.after.fits, .string _ _, nofun⟩

theorem Issue.fits {issue : Issue} (held : issue.Held) :
    issue.json.Fits (Source.deepest - 3) := by
  rw [json_eq]
  refine .present ?_
  simp only [List.forall_mem_cons, Option.mem_some_iff, forall_eq']
  exact ⟨.string _ _, .string _ _, .string _ _, Json.Held.fits held, .string _ _, nofun⟩

theorem Constraint.fits (constraint : Constraint) (room : Nat) :
    constraint.json.Fits (room + 1) := by
  rw [json_eq]
  refine .present ?_
  simp only [List.forall_mem_cons, Option.mem_some_iff, forall_eq', Option.forall_mem_map]
  exact ⟨.string _ _, .string _ _, .string _ _, .ofFloat _ _, fun _ _ => .string _ _, nofun⟩

theorem Report.fits {report : Report} (errors : ∀ issue ∈ report.errors, issue.Held)
    (warnings : ∀ issue ∈ report.warnings, issue.Held) :
    report.json.Fits (Source.deepest - 1) := by
  rw [json_eq]
  refine .present ?_
  simp only [List.forall_mem_cons, Option.mem_some_iff, forall_eq']
  exact ⟨.bool _ _,
    .array (List.forall_mem_map.mpr fun issue listed => Issue.fits (errors issue listed)),
    .array (List.forall_mem_map.mpr fun issue listed => Issue.fits (warnings issue listed)), nofun⟩

theorem GateReport.fits {report : GateReport} (errors : ∀ issue ∈ report.errors, issue.Held) :
    report.json.Fits (Source.deepest - 1) := by
  rw [json_eq]
  refine .present ?_
  simp only [List.forall_mem_cons, Option.mem_some_iff, forall_eq']
  exact ⟨.bool _ _,
    .array (List.forall_mem_map.mpr fun issue listed => Issue.fits (errors issue listed)), nofun⟩

namespace Readiness

theorem fits {readiness : Readiness} (held : readiness.Held) :
    readiness.json.Fits Source.deepest := by
  rw [json_eq]
  refine .present ?_
  simp only [List.forall_mem_cons, Option.mem_some_iff, forall_eq', Option.forall_mem_map]
  refine ⟨.array (List.forall_mem_map.mpr fun mutation listed =>
      Mutation.fits (held.mutations mutation listed)), fun constraints _ => ?_,
    Report.fits held.errors held.warnings, GateReport.fits held.gate, .string _ _, nofun⟩
  exact .array (List.forall_mem_map.mpr fun constraint _ => constraint.fits _)

/-- What is held is read back from its own text, written on one line or indented, also from the
lines that a command prints. -/
theorem read_texts {readiness : Readiness} (held : readiness.Held)
    (numbers : ∀ x ∈ readiness.json.reals, x.isFinite = true → (Number.real x).ReadsBack) :
    Decoder.read decode readiness.json.compactText = .ok readiness ∧
      Decoder.read decode readiness.json.prettyText = .ok readiness ∧
      Decoder.read decode (readiness.json.prettyText ++ "\n") = .ok readiness := by
  have reads := reads held
  have fits := fits held
  have line : ∀ c ∈ "\n".toList, Cursor.Blank c := List.forall_mem_singleton.mpr (.inr (.inl rfl))
  obtain ⟨compact, pretty⟩ := reads.of_texts fits numbers
  exact ⟨compact, pretty, (reads.of_printed fits numbers line).2⟩

end Readiness

end DecisionGraph
