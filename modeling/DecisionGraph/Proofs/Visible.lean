import DecisionGraph.Proofs.Audit
import DecisionGraph.Proofs.GraphText
import DecisionGraph.Proofs.Renewal
import DecisionGraph.Proofs.RepairedFile

/-!
What a repair logs can be seen in what it leaves. A rule without an entry changes nothing, and a
graph that comes out as it went in is settled, so that no rule had an entry to make. It is the same
with constraints, and a person is told of a repair when the text of the graph is another.
-/

namespace DecisionGraph

open Repair

/-! Entries that can be replayed are about the graph, and without entries there is no change. -/

namespace Replays

variable {σ : Type} {redoes : Mutation → σ → σ → Prop} {before after : σ}

theorem eq_of_nil (replays : Replays redoes [] before after) : after = before := by
  cases replays
  rfl

theorem forall_entry {property : Mutation → Prop}
    (holds : ∀ entry before after, redoes entry before after → property entry)
    {log : List Mutation} (replays : Replays redoes log before after) :
    ∀ entry ∈ log, property entry := by
  induction replays with
  | done state => exact List.forall_mem_nil _
  | step redone _ ih => exact List.forall_mem_cons.mpr ⟨holds _ _ _ redone, ih⟩

end Replays

theorem Mutation.isOfGraph_eq_false_iff {entry : Mutation} :
    entry.isOfGraph = false ↔ ∃ id, entry.target = .constraint id := by
  unfold isOfGraph
  cases entry.target <;> simp

theorem Node.isOfGraph_of_replays {log : List Mutation} {node next : Node}
    (replays : Replays Redoes log node next) : ∀ entry ∈ log, entry.isOfGraph = true :=
  replays.forall_entry fun entry _ _ redone => by rw [Mutation.isOfGraph, redone.target]

theorem Edge.isOfGraph_of_replays {position : Nat} {log : List Mutation} {edge next : Edge}
    (replays : Replays (Redoes position) log edge next) : ∀ entry ∈ log, entry.isOfGraph = true :=
  replays.forall_entry fun entry _ _ redone => by rw [Mutation.isOfGraph, redone.target]

theorem Logged.value_each_of_log {α β : Type} (initial : α → β) {change : α → Logged β}
    {items : List α} (redoes : α → Mutation → β → β → Prop)
    (replays : ∀ item ∈ items,
      Replays (redoes item) (change item).log (initial item) (change item).value)
    (nothing : (each change items).log = []) : (each change items).value = items.map initial := by
  refine List.map_congr_left fun item listed => ?_
  have quiet : (change item).log = [] := List.flatMap_eq_nil_iff.mp nothing item listed
  have replays := replays item listed
  rw [quiet] at replays
  exact replays.eq_of_nil

/-- A rule on the graph has entries about nothing else and changes nothing without one. -/
structure Logged.Accounts (graph : Graph) (logged : Logged Graph) : Prop where
  about : logged.All fun entry => entry.isOfGraph = true
  still : logged.log = [] → logged.value = graph

theorem Logged.Accounts.value_of_quiet {graph : Graph} {logged : Logged Graph}
    (accounts : logged.Accounts graph) (quiet : ∀ entry ∈ logged.log, entry.isOfGraph = false) :
    logged.value = graph := by
  refine accounts.still (List.eq_nil_iff_forall_not_mem.mpr fun entry listed => ?_)
  cases (accounts.about entry listed).symm.trans (quiet entry listed)

namespace Graph

variable {graph : Graph}

theorem accounts_eachNode {change : Option Category → Node → Logged Node}
    {categories : List (Option Category)} (fits : graph.nodes.length ≤ categories.length)
    (replays : ∀ inferred node,
      Replays Node.Redoes (change inferred node).log node (change inferred node).value) :
    (eachNode change categories graph).Accounts graph where
  about := all_eachNode graph categories fun inferred node _ =>
    Node.isOfGraph_of_replays (replays inferred node)
  still nothing := by
    have nodes := Logged.value_each_of_log Prod.fst (fun _ => Node.Redoes)
      (fun (entry : Node × Option Category) _ => replays entry.2 entry.1) nothing
    rw [List.map_fst_zip fits] at nodes
    exact congrArg (fun nodes => { graph with nodes }) nodes

theorem accounts_eachEdge {change : Edge → Nat → Logged Edge}
    (replays : ∀ edge position,
      Replays (Edge.Redoes position) (change edge position).log edge
        (change edge position).value) :
    (eachEdge change graph).Accounts graph where
  about := all_eachEdge graph fun edge position _ =>
    Edge.isOfGraph_of_replays (replays edge position)
  still nothing := by
    have edges := Logged.value_each_of_log Prod.fst (fun entry : Edge × Nat => Edge.Redoes entry.2)
      (fun entry _ => replays entry.1 entry.2) nothing
    rw [List.zipIdx_map_fst] at edges
    exact congrArg (fun edges => { graph with edges }) edges

theorem accounts_overrideCategories (graph : Graph) :
    (overrideCategories graph.categories graph).Accounts graph :=
  accounts_eachNode graph.length_categories.ge Node.replays_overrideCategory

theorem accounts_correctWords (graph : Graph) : (correctWords graph).Accounts graph where
  about := by
    have nodes : (Logged.each correctNode graph.nodes).All fun entry => entry.isOfGraph = true :=
      Logged.all_each fun node _ => Node.isOfGraph_of_replays node.replays_correctNode
    exact nodes.andThen (accounts_eachEdge Edge.replays_correctEdge).about
  still nothing := by
    obtain ⟨first, second⟩ := List.append_eq_nil_iff.mp nothing
    have nodes := Logged.value_each_of_log id (fun _ => Node.Redoes)
      (fun node _ => Node.replays_correctNode node) first
    rw [List.map_id] at nodes
    rw [nodes] at second
    rw [correctWords, Logged.value_andThen, nodes]
    exact (accounts_eachEdge Edge.replays_correctEdge).still second

theorem accounts_correctSigns (graph : Graph) : (correctSigns graph).Accounts graph :=
  accounts_eachEdge Edge.replays_correctSign

theorem accounts_completeAll (wanted : Bool) {categories : List (Option Category)}
    (fits : graph.nodes.length ≤ categories.length) :
    (completeAll wanted categories graph).Accounts graph := by
  cases wanted with
  | false => exact ⟨Logged.all_unchanged graph, fun _ => rfl⟩
  | true => exact accounts_eachNode fits Node.replays_completeData

theorem isOfGraph_aimAll {options : Repair.Options} {entry : Mutation}
    (listed : entry ∈ (aimAll options graph).log) : entry.isOfGraph = false := by
  obtain ⟨constraint, code, after, _, rfl⟩ := mem_log_aimAll listed
  rfl

/-- A repair leaves the graph as it is just when no entry is about the graph: what it leaves is
settled, so that a graph that stays gives no rule anything to do, and no later rule can take back
what an earlier one did. -/
theorem value_repair_eq_self_iff (options : Repair.Options) :
    (graph.repair options).1 = graph ↔
      ∀ entry ∈ (graph.repair options).2.mutations, entry.isOfGraph = false := by
  constructor
  · intro same
    have settled := graph.settled_mended options.fill
    rw [← value_repair, same] at settled
    have log : (graph.repair options).2.mutations = (aimAll options graph).log := by
      simp [repair, overrideCategories_of_settled settled, correctWords_of_settled settled,
        correctSigns_of_settled settled, completeAll_of_settled settled]
    rw [log]
    exact fun entry => isOfGraph_aimAll
  · intro quiet
    simp only [repair, List.mem_append, or_imp, forall_and] at quiet ⊢
    obtain ⟨⟨⟨⟨overridden, corrected⟩, _⟩, signed⟩, completed⟩ := quiet
    have first := graph.accounts_overrideCategories.value_of_quiet overridden
    rw [first] at corrected signed completed ⊢
    have second := graph.accounts_correctWords.value_of_quiet corrected
    rw [second] at signed completed ⊢
    have third := graph.accounts_correctSigns.value_of_quiet signed
    rw [third] at completed ⊢
    exact (accounts_completeAll options.fill graph.length_categories.ge).value_of_quiet completed

end Graph

/-! Constraints. -/

namespace Repair

variable {graph : Graph} {options : Options}

theorem aimConstraint_of_log {labels : SortedMap String} {constraint : Constraint}
    (nothing : (aimConstraint graph labels constraint).log = []) :
    aimConstraint graph labels constraint = .unchanged (some constraint) := by
  unfold aimConstraint at nothing ⊢
  split at nothing
  · cases nothing
  · split at nothing
    · next same => simp only [if_pos same]
    · cases nothing

theorem value_aimAll_eq_iff :
    (aimAll options graph).value = options.constraints ↔ (aimAll options graph).log = [] := by
  cases given : options.constraints with
  | none => simp [aimAll, given]
  | some constraints =>
      constructor
      · intro same
        have aimed : Aimed graph options.constraints := by
          intro list stated constraint member
          cases given.symm.trans stated
          have kept : (aimConstraints graph options.labels constraints).value = constraints := by
            simpa [aimAll, given] using same
          rw [← kept] at member
          exact aimConstraints_declared member
        rw [aimAll_of_aimed aimed, Logged.log_unchanged]
      · intro nothing
        have each := Logged.each_unchanged (aimConstraint graph options.labels) some constraints
          fun constraint listed => aimConstraint_of_log <| by
            simp only [aimAll, given] at nothing
            exact List.flatMap_eq_nil_iff.mp nothing constraint listed
        simp [aimAll, given, aimConstraints, each]

end Repair

namespace Graph

variable {graph : Graph}

/-- The entries about constraints are those of the one rule on constraints, which looks at the graph
as two rules have left it. -/
theorem mem_mutations_and_aims_iff {options : Repair.Options} {entry : Mutation} :
    entry ∈ (graph.repair options).2.mutations ∧ entry.isOfGraph = false ↔
      entry ∈ (aimAll options
        (correctWords (overrideCategories graph.categories graph).value).value).log := by
  have overridden := graph.accounts_overrideCategories.about
  have fits : (overrideCategories graph.categories graph).value.nodes.length ≤
      graph.categories.length := by
    simp [overrideCategories, eachNode]
  generalize first : overrideCategories graph.categories graph = overriding at overridden fits
  have corrected := overriding.value.accounts_correctWords.about
  have words : (correctWords overriding.value).value.nodes.length ≤ graph.categories.length := by
    simpa [correctWords, eachEdge] using fits
  generalize second : correctWords overriding.value = correcting at corrected words
  have signed := correcting.value.accounts_correctSigns.about
  have signs : (correctSigns correcting.value).value.nodes.length ≤ graph.categories.length := words
  have completed := (accounts_completeAll options.fill signs).about
  simp only [repair, first, second, List.mem_append]
  constructor
  · rintro ⟨(((listed | listed) | listed) | listed) | listed, aims⟩
    · cases (overridden entry listed).symm.trans aims
    · cases (corrected entry listed).symm.trans aims
    · exact listed
    · cases (signed entry listed).symm.trans aims
    · cases (completed entry listed).symm.trans aims
  · intro listed
    exact ⟨.inl (.inl (.inr listed)), isOfGraph_aimAll listed⟩

theorem constraints_ne_repair_iff (options : Repair.Options) :
    options.constraints ≠ (options.after (graph.repair options).2).constraints ↔
      ∃ entry ∈ (graph.repair options).2.mutations, ∃ id, entry.target = .constraint id := by
  simp only [← Mutation.isOfGraph_eq_false_iff, mem_mutations_and_aims_iff]
  have kept : (options.after (graph.repair options).2).constraints = (aimAll options
      (correctWords (overrideCategories graph.categories graph).value).value).value := rfl
  rw [kept, ne_comm, Ne, value_aimAll_eq_iff, List.eq_nil_iff_forall_not_mem]
  simp only [not_forall, not_not]

end Graph

namespace CommandLine

variable {readiness : Readiness} {fingerprint : String}

/-- The one line that tells of a repair is there when the fingerprints differ. -/
theorem exists_repaired_line_iff :
    (∃ line ∈ summary readiness fingerprint, "repaired".toList <+: line.toList) ↔
      readiness.fingerprint ≠ fingerprint := by
  have plain (text : String) : toString text = text := rfl
  constructor
  · rintro ⟨line, listed, starts⟩ same
    simp only [summary, if_pos same, List.mem_append, List.mem_singleton, List.not_mem_nil,
      or_false, List.mem_map] at listed
    rcases listed with ((rfl | ⟨told, _, rfl⟩) | kept) | rfl
    · simp [String.toList_append, plain] at starts
    · simp [String.toList_append] at starts
    · split at kept
      · rw [List.mem_singleton.mp kept] at starts
        simp [String.toList_append, plain] at starts
      · cases kept
    · simp [String.toList_append, plain] at starts
  · intro differ
    let after := shortened readiness.fingerprint
    refine ⟨s!"repaired  {after} ({readiness.mutations.length} mutation(s))", ?_, ?_⟩
    · simp [summary, differ, after]
    · simp [String.toList_append, plain]

end CommandLine

namespace Graph

variable {graph : Graph}

/-- Two texts with one digest. -/
def Collides (graph other : Graph) : Prop :=
  graph.text ≠ other.text ∧ graph.fingerprint = other.fingerprint

theorem fingerprint_ne_iff {other : Graph} (apart : ¬ graph.Collides other) :
    other.fingerprint ≠ graph.fingerprint ↔ graph.text ≠ other.text := by
  refine ⟨fun differ same => differ ?_, fun differ same => apart ⟨differ, same.symm⟩⟩
  rw [fingerprint, fingerprint, same]

theorem text_ne_repair_iff (held : graph.Held) (options : Repair.Options) :
    graph.text ≠ (graph.repair options).1.text ↔
      ∃ entry ∈ (graph.repair options).2.mutations, entry.isOfGraph = true := by
  have also : (graph.repair options).1.Held := by
    rw [value_repair]
    exact held_mended held options.fill
  rw [Ne, held.text_eq_iff also, eq_comm, value_repair_eq_self_iff]
  simp only [not_forall, Bool.not_eq_false, exists_prop]

open CommandLine in
/-- No repair is taken back or kept quiet. The text of a graph that was read is another after a
repair just when an entry of the log is about a node or an edge, and the constraints are others just
when an entry is about a constraint. A check that is told to a person, with a repair before it or
without one, has a line about the repair just when a node or an edge was changed, but for two texts
that have one digest. -/
theorem repair_seen {source : String} (read : Decoder.read decode source = .ok graph) :
    (∀ options : Repair.Options,
      (graph.text ≠ (graph.repair options).1.text ↔
        ∃ entry ∈ (graph.repair options).2.mutations, entry.isOfGraph = true) ∧
      (options.constraints ≠ (options.after (graph.repair options).2).constraints ↔
        ∃ entry ∈ (graph.repair options).2.mutations, ∃ id, entry.target = .constraint id)) ∧
    ∀ (files : Files) (setting : String → Option String) (arguments : CheckArguments)
      (options : Option Repair.Options) (limits : Limits),
      let checked := (graph.prepare options limits).1
      let readiness := (graph.prepare options limits).2
      let lines := summary readiness graph.fingerprint
      judged files setting arguments = .ok (graph, readiness) → arguments.asJson = false →
      ¬ graph.Collides checked →
        (run files setting (.check arguments)).printed =
          String.join (lines.map fun line => line ++ "\n") ∧
        ((∃ line ∈ lines, "repaired".toList <+: line.toList) ↔
          ∃ entry ∈ readiness.mutations, entry.isOfGraph = true) := by
  have held := held_of_read read
  refine ⟨fun options => ⟨text_ne_repair_iff held options, constraints_ne_repair_iff options⟩, ?_⟩
  intro files setting arguments options limits checked readiness lines comes told apart
  refine ⟨?_, exists_repaired_line_iff.trans ?_⟩
  · rw [run_check, comes]
    simp only [Reply.ofReadiness, told]
    rfl
  cases options with
  | none => exact iff_of_false (fun differ => differ rfl) fun ⟨_, listed, _⟩ => nomatch listed
  | some options => exact (fingerprint_ne_iff apart).trans (text_ne_repair_iff held options)

end Graph

/-! A factor without a category, in a file that comes with a constraint on another node. -/

namespace Sample

def moody : Graph := .ofLists [Node.bareFactor "mood" "Mood"] []

def astray : Repair.Options :=
  { Repair.Options.standard with constraints := some [⟨"budget", "cost", "<=", 0.5, none⟩] }

theorem held_moody : moody.Held where
  nodes := by simp [moody, Graph.ofLists, Node.bareFactor, Node.numbers]
  edges := List.forall_mem_nil _
  words := by
    refine ⟨?_, List.forall_mem_nil _⟩
    simp only [moody, Graph.ofLists, List.forall_mem_singleton]
    rintro _ ⟨⟩
  notes := List.forall_mem_nil _

theorem read_moody : Decoder.read Graph.decode moody.text = .ok moody := by
  refine ((Graph.reads held_moody).of_texts (Graph.fits held_moody) ?_).1
  have none : moody.json.reals = [] := by decide
  rw [none]
  exact List.forall_mem_nil _

theorem moody_repaired :
    ∃ entry ∈ (moody.repair .standard).2.mutations, entry.isOfGraph = true := by
  decide

theorem moody_aimed :
    ∃ entry ∈ (moody.repair astray).2.mutations, entry.target = .constraint "budget" := by
  decide

open CommandLine in
theorem judged_moody :
    judged (fun _ => .ok moody.text) (fun _ => none)
        ⟨"mood.json", false, false, none, none, false⟩ =
      .ok (moody, (moody.prepare (some .standard) .standard).2) :=
  judged_repairing false false rfl (load_eq_ok.mpr ⟨_, rfl, read_moody⟩)

end Sample

open CommandLine Sample in
theorem Graph.repair_seen_moody :
    Decoder.read decode moody.text = .ok moody ∧
      moody.text ≠ (moody.repair .standard).1.text ∧
      astray.constraints ≠ (astray.after (moody.repair astray).2).constraints ∧
      ∃ line ∈ summary (moody.prepare (some .standard) .standard).2 moody.fingerprint,
        "repaired".toList <+: line.toList := by
  obtain ⟨seen, told⟩ := repair_seen read_moody
  have apart : ¬ moody.Collides (moody.repair .standard).1 := by
    have differ : moody.fingerprint ≠ (moody.repair .standard).1.fingerprint := by decide +kernel
    exact fun collides => differ collides.2
  refine ⟨read_moody, (seen .standard).1.mpr moody_repaired, ?_, ?_⟩
  · obtain ⟨entry, listed, target⟩ := moody_aimed
    exact (seen astray).2.mpr ⟨entry, listed, "budget", target⟩
  · exact (told _ _ _ (some .standard) .standard judged_moody rfl apart).2.mpr moody_repaired

end DecisionGraph
