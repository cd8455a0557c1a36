import Mathlib.Data.List.Forall2
import Mathlib.Data.List.ReduceOption
import DecisionGraph.Proofs.Audit
import DecisionGraph.Proofs.Renewal

/-!
What becomes of constraints during a session. However the graph is edited between repairs, a
constraint keeps all but its node, its node stays within its family, and whatever moves or drops it
says so in the log.
-/

namespace DecisionGraph

open Repair

/-! Families of ids. -/

/-- The family stands before the first underscore of the id, and something stands after it. -/
def InFamily (family id : String) : Prop :=
  family ≠ "" ∧ '_' ∉ family.toList ∧ ∃ stem, stem ≠ "" ∧ id = family ++ "_" ++ stem

def SameFamily (first second : String) : Prop :=
  ∃ family, InFamily family first ∧ InFamily family second

theorem toList_family (family stem : String) :
    (family ++ "_" ++ stem).toList = family.toList ++ '_' :: stem.toList := by
  have mark : "_".toList = ['_'] := rfl
  rw [String.toList_append, String.toList_append, mark, List.append_assoc, List.singleton_append]

/-- The id is a family and a stem with the first underscore between them. -/
def Splits (id family stem : String) : Prop :=
  family ≠ "" ∧ '_' ∉ family.toList ∧ stem ≠ "" ∧ id = family ++ "_" ++ stem

theorem inFamily_iff {family id : String} : InFamily family id ↔ ∃ stem, Splits id family stem := by
  simp only [InFamily, Splits, exists_and_left]

theorem takeWhile_family {family : List Char} (free : '_' ∉ family) (stem : List Char) :
    (family ++ '_' :: stem).takeWhile (· ≠ '_') = family := by
  have kept : ∀ c ∈ family, decide (c ≠ '_') = true := by
    intro c inside
    exact decide_eq_true fun mark => free (mark ▸ inside)
  rw [List.takeWhile_append_of_pos kept, List.takeWhile_cons_of_neg (by simp), List.append_nil]

theorem dropWhile_family {family : List Char} (free : '_' ∉ family) (stem : List Char) :
    (family ++ '_' :: stem).dropWhile (· ≠ '_') = '_' :: stem := by
  have kept : ∀ c ∈ family, decide (c ≠ '_') = true := by
    intro c inside
    exact decide_eq_true fun mark => free (mark ▸ inside)
  rw [List.dropWhile_append_of_pos kept, List.dropWhile_cons_of_neg (by simp)]

theorem splits_of_familyAndStem? {id family stem : String}
    (parts : familyAndStem? id = some (family, stem)) : Splits id family stem := by
  unfold familyAndStem? at parts
  simp only at parts
  split at parts
  · cases parts
  · next full =>
    cases parts
    rw [Bool.or_eq_true, List.isEmpty_iff, List.isEmpty_iff, not_or] at full
    have whole : id.toList.takeWhile (· ≠ '_') ++ id.toList.dropWhile (· ≠ '_') = id.toList :=
      List.takeWhile_append_dropWhile
    have stops := List.head?_dropWhile_not (fun c => decide (c ≠ '_')) id.toList
    have free : '_' ∉ id.toList.takeWhile (· ≠ '_') := by
      intro inside
      have kept := List.all_eq_true.mp List.all_takeWhile _ inside
      simp at kept
    generalize id.toList.takeWhile (· ≠ '_') = family at full whole free
    cases rest : id.toList.dropWhile (· ≠ '_') with
    | nil =>
        rw [rest] at full
        exact absurd rfl full.2
    | cons first stem =>
        rw [rest] at full whole stops
        have mark : first = '_' := by simpa using stops
        refine ⟨by simpa using full.1, by simpa using free, by simpa using full.2,
          String.toList_injective ?_⟩
        rw [toList_family, String.toList_ofList, String.toList_ofList, List.drop_one,
          List.tail_cons, ← mark, whole]

theorem familyAndStem?_eq_some_iff {id family stem : String} :
    familyAndStem? id = some (family, stem) ↔ Splits id family stem := by
  constructor
  · exact splits_of_familyAndStem?
  · rintro ⟨family_ne, free, stem_ne, rfl⟩
    unfold familyAndStem?
    rw [toList_family, takeWhile_family free, dropWhile_family free]
    simp [family_ne, stem_ne]

theorem inFamily_of_familyAndStem? {id family stem : String}
    (parts : familyAndStem? id = some (family, stem)) : InFamily family id :=
  inFamily_iff.mpr ⟨stem, splits_of_familyAndStem? parts⟩

theorem InFamily.family_eq {first second id : String} (one : InFamily first id)
    (other : InFamily second id) : first = second := by
  obtain ⟨_, free, stem, _, rfl⟩ := one
  obtain ⟨_, alsoFree, otherStem, _, same⟩ := other
  have lists := congrArg String.toList same
  rw [toList_family, toList_family] at lists
  apply String.toList_injective
  rw [← takeWhile_family free stem.toList, lists, takeWhile_family alsoFree]

theorem SameFamily.trans {first second third : String} (near : SameFamily first second)
    (next : SameFamily second third) : SameFamily first third := by
  obtain ⟨family, starts, meets⟩ := near
  obtain ⟨other, meetsAlso, ends⟩ := next
  exact ⟨family, starts, (meets.family_eq meetsAlso) ▸ ends⟩

/-! Where constraints are aimed. -/

namespace Repair

variable {graph : Graph} {labels : SortedMap String}

theorem inFamily_of_candidate {family : String} {candidate : Candidate}
    (member : candidate ∈ candidates graph labels family) : InFamily family candidate.id := by
  obtain ⟨node, _, stem, _, parts, rfl⟩ := exists_live_of_candidate member
  exact inFamily_of_familyAndStem? parts

theorem aim_sameFamily {id target : String} (aimed : aim graph labels id = some target)
    (moved : target ≠ id) : SameFamily id target := by
  unfold aim at aimed
  split at aimed
  · cases aimed
    exact absurd rfl moved
  · split at aimed
    · cases aimed
    · next family stem parts =>
      simp only at aimed
      split at aimed
      · cases aimed
      · obtain ⟨candidate, member, rfl⟩ := choose_mem aimed
        exact ⟨family, inFamily_of_familyAndStem? parts, inFamily_of_candidate member⟩

end Repair

/-- What is left of a constraint: all but its node, which stays within its family. -/
structure Constraint.Follows (constraint original : Constraint) : Prop where
  rest : constraint = { original with node := constraint.node }
  family : constraint.node ≠ original.node → SameFamily original.node constraint.node

/-- The entries that tell what became of a constraint. -/
def Constraint.told (constraint : Constraint) : Option Constraint → List Mutation
  | none => [.ofCode .constraintTargetRemap .constraintDropped (.constraint constraint.id) "node_id"
      (.string constraint.node) .null]
  | some aimed =>
    if aimed.node = constraint.node then []
    else [.ofCode .constraintTargetRemap .constraintRemapped (.constraint constraint.id) "node_id"
      (.string constraint.node) (.string aimed.node)]

namespace Constraint

variable {constraint between original : Constraint}

theorem Follows.refl (constraint : Constraint) : constraint.Follows constraint :=
  ⟨rfl, fun moved => absurd rfl moved⟩

theorem Follows.trans (later : constraint.Follows between) (earlier : between.Follows original) :
    constraint.Follows original := by
  refine ⟨?_, fun moved => ?_⟩
  · rw [later.rest, earlier.rest]
  · by_cases kept : between.node = original.node
    · exact kept ▸ later.family (kept ▸ moved)
    · by_cases still : constraint.node = between.node
      · exact still ▸ earlier.family kept
      · exact (earlier.family kept).trans (later.family still)

theorem follows_of_aimed {graph : Graph} {labels : SortedMap String}
    (aimed : (aimConstraint graph labels original).value = some constraint) :
    constraint.Follows original := by
  unfold aimConstraint at aimed
  simp only at aimed
  split at aimed
  · cases aimed
  · next node found =>
    split at aimed
    · cases aimed
      exact .refl _
    · cases aimed
      exact ⟨rfl, aim_sameFamily found⟩

theorem log_aimConstraint (graph : Graph) (labels : SortedMap String) (constraint : Constraint) :
    (aimConstraint graph labels constraint).log =
      constraint.told (aimConstraint graph labels constraint).value := by
  unfold aimConstraint
  cases aim graph labels constraint.node with
  | none => rfl
  | some node =>
      by_cases same : node = constraint.node
      · simp [same, told, Logged.unchanged]
      · simp [same, told]

end Constraint

/-! Fates: for every constraint of a list what is left of it, if anything. -/

/-- An entry that tells what became of a constraint. -/
def Mutation.tellsFate (entry : Mutation) : Bool :=
  entry.code = .constraintRemapped || entry.code = .constraintDropped

theorem Mutation.tellsFate_told {constraint : Constraint} {fate : Option Constraint}
    {entry : Mutation} (listed : entry ∈ constraint.told fate) : entry.tellsFate = true := by
  unfold Constraint.told at listed
  split at listed
  · rw [List.mem_singleton.mp listed]
    rfl
  · split at listed
    · cases listed
    · rw [List.mem_singleton.mp listed]
      rfl

namespace Fates

/-- Every fate follows the constraint in its place. -/
def Follow (initial : List Constraint) (fates : List (Option Constraint)) : Prop :=
  List.Forall₂ (fun original fate => ∀ constraint ∈ fate, constraint.Follows original) initial fates

/-- What the log tells of constraints whose fates change. -/
def told (before after : List (Option Constraint)) : List Mutation :=
  (before.zip after).flatMap fun (earlier, later) =>
    match earlier with
    | none => []
    | some constraint => constraint.told later

def aimed (graph : Graph) (labels : SortedMap String) (fates : List (Option Constraint)) :
    List (Option Constraint) :=
  fates.map fun fate => fate.bind fun constraint => (aimConstraint graph labels constraint).value

theorem follow_initial (initial : List Constraint) : Follow initial (initial.map some) := by
  refine List.forall₂_map_right_iff.mpr (List.forall₂_same.mpr fun original _ => ?_)
  rintro _ ⟨⟩
  exact .refl original

section Aimed

variable (graph : Graph) (labels : SortedMap String) (fates : List (Option Constraint))

theorem value_aimConstraints :
    (aimConstraints graph labels fates.reduceOption).value =
      (aimed graph labels fates).reduceOption := by
  induction fates with
  | nil => rfl
  | cons fate fates ih =>
      cases fate with
      | none => exact ih
      | some constraint =>
          have head : (aimConstraints graph labels (some constraint :: fates).reduceOption).value =
              ((aimConstraint graph labels constraint).value ::
                fates.reduceOption.map fun constraint =>
                  (aimConstraint graph labels constraint).value).reduceOption := rfl
          have tail : (aimed graph labels (some constraint :: fates)).reduceOption =
              ((aimConstraint graph labels constraint).value ::
                aimed graph labels fates).reduceOption := rfl
          rw [head, tail]
          cases (aimConstraint graph labels constraint).value with
          | none => exact ih
          | some aimed => exact congrArg (aimed :: ·) ih

theorem log_aimConstraints :
    (aimConstraints graph labels fates.reduceOption).log =
      told fates (aimed graph labels fates) := by
  induction fates with
  | nil => rfl
  | cons fate fates ih =>
      cases fate with
      | none => exact ih
      | some constraint =>
          have first := Constraint.log_aimConstraint graph labels constraint
          exact congrArg₂ (· ++ ·) first ih

theorem filter_aimConstraints (constraints : List Constraint) :
    (aimConstraints graph labels constraints).log.filter Mutation.tellsFate =
      (aimConstraints graph labels constraints).log := by
  refine List.filter_eq_self.mpr fun entry listed => ?_
  obtain ⟨constraint, _, entered⟩ := List.mem_flatMap.mp listed
  exact Mutation.tellsFate_told (Constraint.log_aimConstraint graph labels constraint ▸ entered)

theorem gone_aimed :
    List.Forall₂ (fun earlier later => earlier = none → later = none) fates
      (aimed graph labels fates) := by
  refine List.forall₂_map_right_iff.mpr (List.forall₂_same.mpr fun fate _ gone => ?_)
  rw [gone, Option.bind_none]

theorem Follow.aimed {initial : List Constraint} {fates : List (Option Constraint)}
    (follow : Follow initial fates) : Follow initial (aimed graph labels fates) := by
  refine List.forall₂_map_right_iff.mpr (List.Forall₂.imp ?_ follow)
  intro original fate follows constraint left
  obtain ⟨between, kept, aimed⟩ := Option.bind_eq_some_iff.mp left
  exact (Constraint.follows_of_aimed aimed).trans (follows between kept)

end Aimed

end Fates

/-! The log of a repair tells of constraints in the order of the list. -/

theorem filter_tellsFate_of_made {rule : RepairRule} {code : IssueCode} {log : List Mutation}
    (made : ∀ entry ∈ log, entry.Made rule code False)
    (other : code ≠ .constraintRemapped ∧ code ≠ .constraintDropped) :
    log.filter Mutation.tellsFate = [] := by
  refine List.filter_eq_nil_iff.mpr fun entry listed => ?_
  simp [Mutation.tellsFate, (made entry listed).code_eq, other.1, other.2]

namespace Graph

variable (graph : Graph)

/-- The graph at which a repair aims constraints. -/
def worded : Graph := (correctWords (overrideCategories graph.categories graph).value).value

theorem filter_tellsFate_repair (options : Repair.Options) :
    (graph.repair options).2.mutations.filter Mutation.tellsFate =
      (aimAll options graph.worded).log.filter Mutation.tellsFate := by
  have overridden : (overrideCategories graph.categories graph).log.filter Mutation.tellsFate = [] :=
    filter_tellsFate_of_made (all_overrideCategories graph graph.categories) (by decide)
  have corrected : (correctWords (overrideCategories graph.categories graph).value).log.filter
      Mutation.tellsFate = [] :=
    filter_tellsFate_of_made (all_correctWords _ False.elim) (by decide)
  have signed : (correctSigns graph.worded).log.filter Mutation.tellsFate = [] :=
    filter_tellsFate_of_made (all_correctSigns graph.worded) (by decide)
  have completed : (completeAll options.fill graph.categories
      (correctSigns graph.worded).value).log.filter Mutation.tellsFate = [] :=
    filter_tellsFate_of_made (all_completeAll _ options.fill graph.categories) (by decide)
  rw [worded] at signed completed
  simp only [repair, worded, List.filter_append, overridden, corrected, signed, completed,
    List.nil_append, List.append_nil]

end Graph

namespace Session

/-- The session after some steps. -/
def after (session : Session) (steps : List Step) : Session := (session.run steps).2

def Step.setsOptions : Step → Bool
  | .setOptions _ => true
  | _ => false

def Answer.mutations : Answer → List Mutation
  | .repaired outcome => outcome.mutations
  | .readiness found => found.mutations
  | _ => []

def Answer.constraints? : Answer → Option (List Constraint)
  | .repaired outcome => outcome.constraints
  | .readiness found => found.constraints
  | _ => none

/-- What a renewal does to constraints, seen from its answer and the session that it leaves. -/
structure Renews (before after : List (Option Constraint)) (answer : Answer) (next : Session) :
    Prop where
  declared : ∀ constraint, some constraint ∈ after →
    ∃ node ∈ next.graph.nodes, node.id = constraint.node
  /-- What is gone stays gone. -/
  gone : List.Forall₂ (fun earlier later => earlier = none → later = none) before after
  log : answer.mutations.filter Mutation.tellsFate = Fates.told before after
  left : answer.constraints? = some after.reduceOption

variable {session : Session} {fates : List (Option Constraint)}

theorem after_of_take {step : Step} {answer : Answer} {next : Session}
    (taken : session.take step = .ok (answer, next)) : session.after [step] = next := by
  simp [after, run, taken]

theorem after_of_refused {step : Step} {refusal : Refusal}
    (refused : session.take step = .error refusal) : session.after [step] = session := by
  simp [after, run, refused]

theorem after_cons (step : Step) (steps : List Step) :
    session.after (step :: steps) = (session.after [step]).after steps := by
  cases taken : session.take step with
  | error refusal => simp [after, run, taken]
  | ok result => simp [after, run, taken]

theorem options_of_edited {answer given : Answer} {graph : Option Graph} {next : Session}
    (done : session.edited answer graph = .ok (given, next)) : next.options = session.options := by
  cases graph <;> cases done
  rfl

/-- Only renewals change the options. -/
theorem options_after {step : Step} (own : step.setsOptions = false)
    (quiet : ∀ call : Renewal, step ≠ call.step) :
    (session.after [step]).options = session.options := by
  cases taken : session.take step with
  | error refusal => rw [after_of_refused taken]
  | ok result =>
      obtain ⟨answer, next⟩ := result
      rw [after_of_take taken]
      cases step with
      | repair => exact absurd rfl (quiet .repair)
      | prepare repairFirst =>
          cases repairFirst with
          | true => exact absurd rfl (quiet .prepare)
          | false =>
              cases taken
              rfl
      | setOptions options => cases own
      | pushNode | pushEdge | setNode | setEdge | patch =>
          rw [take] at taken
          exact options_of_edited taken
      | removeNode position =>
          rw [take] at taken
          split at taken
          · cases taken
            rfl
          · cases taken
      | removeEdge position =>
          rw [take] at taken
          split at taken
          · cases taken
            rfl
          · cases taken
      | setLimits limits =>
          rw [take] at taken
          split at taken
          · cases taken
            rfl
          · cases taken
      | repairCopy | check | gate | showGraph | showConstraints =>
          cases taken
          rfl

theorem take_renewal (session : Session) (call : Renewal) :
    ∃ answer, session.take call.step = .ok (answer, session.renewed) ∧
      answer.mutations = (session.graph.repair session.options).2.mutations ∧
      answer.constraints? = (session.graph.repair session.options).2.constraints := by
  cases call with
  | repair => exact ⟨_, session.take_repair, rfl, rfl⟩
  | prepare => exact ⟨_, session.take_prepare, rfl, rfl⟩

theorem constraints_renewed (given : session.options.constraints = some fates.reduceOption) :
    session.renewed.options.constraints =
      some (Fates.aimed session.graph.worded session.options.labels fates).reduceOption := by
  rw [← Fates.value_aimConstraints]
  change (aimAll session.options session.graph.worded).value = _
  rw [aimAll, given]
  rfl

theorem after_renewal (session : Session) (call : Renewal) :
    session.after [call.step] = session.renewed := by
  obtain ⟨_, taken, _⟩ := session.take_renewal call
  exact after_of_take taken

theorem renews_of_take (given : session.options.constraints = some fates.reduceOption)
    (call : Renewal) :
    ∃ answer, session.take call.step = .ok (answer, session.after [call.step]) ∧
      Renews fates (Fates.aimed session.graph.worded session.options.labels fates) answer
        (session.after [call.step]) := by
  obtain ⟨answer, taken, mutations, constraints⟩ := session.take_renewal call
  have left := constraints_renewed given
  rw [after_renewal]
  refine ⟨answer, taken, ?_, Fates.gone_aimed _ _ _, ?_, ?_⟩
  · intro constraint kept
    have declared := session.graph.aimed_repair session.options _ left constraint
      (List.reduceOption_mem_iff.mpr kept)
    exact Graph.position?_isSome_iff.mp declared
  · rw [mutations, Graph.filter_tellsFate_repair, aimAll, given, ← Fates.log_aimConstraints]
    exact Fates.filter_aimConstraints _ _ _
  · rw [constraints]
    exact left

/-- After any number of steps, `fates` has what is left of each constraint: renewals change it and
say so, and no other step does. -/
structure History (session : Session) (initial : List Constraint) (steps : List Step)
    (fates : Nat → List (Option Constraint)) : Prop where
  follow : ∀ taken, Fates.Follow initial (fates taken)
  left : ∀ taken,
    (session.after (steps.take taken)).options.constraints = some (fates taken).reduceOption
  renews : ∀ taken (call : Renewal), steps[taken]? = some call.step →
    ∃ answer, (session.after (steps.take taken)).take call.step =
        .ok (answer, session.after (steps.take (taken + 1))) ∧
      Renews (fates taken) (fates (taken + 1)) answer (session.after (steps.take (taken + 1)))
  quiet : ∀ taken step, steps[taken]? = some step → (∀ call : Renewal, step ≠ call.step) →
    fates (taken + 1) = fates taken

/-- The fates with one more step before them. -/
def shifted (start : List (Option Constraint)) (fates : Nat → List (Option Constraint)) :
    Nat → List (Option Constraint)
  | 0 => start
  | taken + 1 => fates taken

theorem History.cons {initial : List Constraint} {step : Step} {steps : List Step}
    {later : Nat → List (Option Constraint)} (follow : Fates.Follow initial fates)
    (given : session.options.constraints = some fates.reduceOption)
    (first : ∀ call : Renewal, step = call.step → ∃ answer,
      session.take call.step = .ok (answer, session.after [call.step]) ∧
        Renews fates (later 0) answer (session.after [call.step]))
    (still : (∀ call : Renewal, step ≠ call.step) → later 0 = fates)
    (rest : (session.after [step]).History initial steps later) :
    session.History initial (step :: steps) (shifted fates later) := by
  refine ⟨fun taken => ?_, fun taken => ?_, fun taken call listed => ?_, fun taken other listed => ?_⟩
  · cases taken with
    | zero => exact follow
    | succ taken => exact rest.follow taken
  · cases taken with
    | zero => exact given
    | succ taken =>
        rw [List.take_succ_cons, after_cons]
        exact rest.left taken
  · cases taken with
    | zero =>
        cases listed
        exact first call rfl
    | succ taken =>
        rw [List.take_succ_cons, List.take_succ_cons, after_cons step (steps.take taken),
          after_cons step (steps.take (taken + 1))]
        exact rest.renews taken call listed
  · cases taken with
    | zero =>
        cases listed
        exact still
    | succ taken => exact rest.quiet taken other listed

/-- What one step leaves of the constraints. -/
theorem exists_fates_after {initial : List Constraint} {step : Step}
    (own : step.setsOptions = false) (follow : Fates.Follow initial fates)
    (given : session.options.constraints = some fates.reduceOption) :
    ∃ after, Fates.Follow initial after ∧
      (session.after [step]).options.constraints = some after.reduceOption ∧
      (∀ call : Renewal, step = call.step → ∃ answer,
        session.take call.step = .ok (answer, session.after [call.step]) ∧
          Renews fates after answer (session.after [call.step])) ∧
      ((∀ call : Renewal, step ≠ call.step) → after = fates) := by
  by_cases renewal : ∃ call : Renewal, step = call.step
  · obtain ⟨call, rfl⟩ := renewal
    refine ⟨Fates.aimed session.graph.worded session.options.labels fates, follow.aimed _ _, ?_,
      fun other _ => renews_of_take given other, fun quiet => absurd rfl (quiet call)⟩
    rw [after_renewal]
    exact constraints_renewed given
  · have quiet : ∀ call : Renewal, step ≠ call.step := fun call same => renewal ⟨call, same⟩
    refine ⟨fates, follow, ?_, fun call same => absurd same (quiet call), fun _ => rfl⟩
    rw [options_after own quiet]
    exact given

theorem exists_history {initial : List Constraint} (steps : List Step)
    (own : ∀ step ∈ steps, step.setsOptions = false) (follow : Fates.Follow initial fates)
    (given : session.options.constraints = some fates.reduceOption) :
    ∃ history, history 0 = fates ∧ session.History initial steps history := by
  induction steps generalizing session fates with
  | nil =>
      have none_left {taken : Nat} {step : Step} : ([] : List Step)[taken]? ≠ some step := by simp
      refine ⟨fun _ => fates, rfl, fun _ => follow, fun taken => ?_,
        fun _ _ listed => absurd listed none_left, fun _ _ listed => absurd listed none_left⟩
      rw [List.take_nil]
      exact given
  | cons step steps ih =>
      obtain ⟨ours, others⟩ := List.forall_mem_cons.mp own
      obtain ⟨after, followed, left, renews, quiet⟩ := exists_fates_after ours follow given
      obtain ⟨later, starts, history⟩ := ih others followed left
      refine ⟨shifted fates later, rfl, .cons follow given ?_ ?_ history⟩
      · exact starts ▸ renews
      · exact starts ▸ quiet

/-- Constraints survive a session, however its graph is edited between repairs. -/
theorem constraints_survive (session : Session) (initial : List Constraint) (steps : List Step)
    (given : session.options.constraints = some initial)
    (own : ∀ step ∈ steps, step.setsOptions = false) :
    ∃ fates, fates 0 = initial.map some ∧ session.History initial steps fates := by
  have whole : (initial.map some).reduceOption = initial := by
    simp [List.reduceOption, List.filterMap_map]
  exact exists_history steps own (Fates.follow_initial initial) (whole.symm ▸ given)

end Session

/-- One constraint names the outcome by an older id, the other a node that is there. -/
def Sample.targets : List Constraint :=
  [⟨"c1", "out_total_revenue", ">=", 100.0, none⟩, ⟨"c2", "fac_price", "<=", 120.0, none⟩]

def Sample.targeted : Session :=
  ⟨scaffold, { Options.standard with constraints := some targets }, .standard⟩

/-- The outcome is removed after the first repair, so the constraint that was aimed at it goes with
the second. -/
theorem Session.constraints_survive_targeted :
    let steps := [Step.repair, .removeNode 2, .prepare true]
    Sample.targeted.options.constraints = some Sample.targets ∧
      (∀ step ∈ steps, step.setsOptions = false) ∧
      (Sample.targeted.after (steps.take 1)).options.constraints.map (List.map Constraint.node) =
        some ["out_revenue", "fac_price"] ∧
      (Sample.targeted.after steps).options.constraints.map (List.map Constraint.node) =
        some ["fac_price"] ∧
      ∃ fates, fates 0 = Sample.targets.map some ∧
        Sample.targeted.History Sample.targets steps fates := by
  have own : ∀ step ∈ [Step.repair, .removeNode 2, .prepare true], step.setsOptions = false := by
    simp [Step.setsOptions]
  exact ⟨rfl, own, rfl, rfl, constraints_survive Sample.targeted Sample.targets _ rfl own⟩

end DecisionGraph
