import DecisionGraph.Finding.Choice
import DecisionGraph.Proofs.Position
import Mathlib.Data.List.Induction

/-!
Groups of options that set the same. One pass over the options finds a group for each thing that is
set: the first option that sets it leads the group, and all options that set it are in there.
-/

namespace DecisionGraph

def OptionGroup.map (move : Node × Nat → Node × Nat) (group : OptionGroup) : OptionGroup :=
  ⟨group.set, group.members.map move⟩

namespace Survey

/-! The pass takes the same steps on options that are moved, but set the same. -/

section Move

variable {move : Node × Nat → Node × Nat}
  (same : ∀ option, signature (move option).1 = signature option.1)

include same

theorem gather_map (option : Node × Nat) (groups : List OptionGroup) :
    gather (move option) (groups.map (OptionGroup.map move)) =
      (gather option groups).map (OptionGroup.map move) := by
  induction groups with
  | nil => simp [gather, OptionGroup.map, same]
  | cons group groups ih =>
      have set : (group.map move).set = group.set := rfl
      rw [List.map_cons, gather, gather, set, same]
      by_cases alike : group.set = signature option.1
      · rw [if_pos alike, if_pos alike, List.map_cons]
        simp [OptionGroup.map]
      · rw [if_neg alike, if_neg alike, List.map_cons, ih]

theorem gathered_map (options : List (Node × Nat)) :
    gathered (options.map move) = (gathered options).map (OptionGroup.map move) := by
  have passes (groups : List OptionGroup) :
      (options.map move).foldl (fun groups option => gather option groups)
          (groups.map (OptionGroup.map move)) =
        (options.foldl (fun groups option => gather option groups) groups).map
          (OptionGroup.map move) := by
    induction options generalizing groups with
    | nil => rfl
    | cons option options ih =>
        rw [List.map_cons, List.foldl_cons, List.foldl_cons, gather_map same, ih]
  exact passes []

end Move

/-! The first options of what they set. -/

def leadersOf (options : List (Node × Nat)) : List (Node × Nat) :=
  options.filter fun option =>
    ((options.find? fun second => signature option.1 = signature second.1).map (·.2)) =
      some option.2

theorem nodup_leadersOf {options : List (Node × Nat)} (once : (options.map (·.2)).Nodup) :
    ((leadersOf options).map fun leader => signature leader.1).Nodup := by
  refine (once.of_map.filter _).map_on fun first leads second alsoLeads same => ?_
  obtain ⟨listed, leads⟩ := List.mem_filter.mp leads
  obtain ⟨alsoListed, alsoLeads⟩ := List.mem_filter.mp alsoLeads
  have places : first.2 = second.2 := by
    have leads := of_decide_eq_true leads
    have alsoLeads := of_decide_eq_true alsoLeads
    rw [same, alsoLeads] at leads
    exact (Option.some.inj leads).symm
  exact List.inj_on_of_nodup_map once listed alsoListed places

theorem exists_first {options : List (Node × Nat)} {set : List (String × UInt64)}
    (shown : set ∈ options.map fun option => signature option.1) :
    ∃ first ∈ options, options.find? (fun second => set = signature second.1) = some first ∧
      set = signature first.1 := by
  obtain ⟨option, listed, same⟩ := List.mem_map.mp shown
  obtain ⟨first, found⟩ := Option.isSome_iff_exists.mp
    (List.find?_isSome (p := fun second => decide (set = signature second.1)).mpr
      ⟨option, listed, by simp [same]⟩)
  exact ⟨first, List.mem_of_find?_eq_some found, found, by simpa using List.find?_some found⟩

theorem mem_map_leadersOf {options : List (Node × Nat)} {set : List (String × UInt64)} :
    set ∈ (leadersOf options).map (fun leader => signature leader.1) ↔
      set ∈ options.map fun option => signature option.1 := by
  constructor
  · intro led
    obtain ⟨leader, leads, rfl⟩ := List.mem_map.mp led
    exact List.mem_map.mpr ⟨leader, (List.mem_filter.mp leads).1, rfl⟩
  · intro shown
    obtain ⟨first, listed, found, rfl⟩ := exists_first shown
    refine List.mem_map.mpr ⟨first, List.mem_filter.mpr ⟨listed, ?_⟩, rfl⟩
    simp [found]

theorem leadersOf_append {seen : List (Node × Nat)} {option : Node × Nat}
    (fresh : option.2 ∉ seen.map (·.2)) :
    leadersOf (seen ++ [option]) =
      leadersOf seen ++ if signature option.1 ∈ seen.map fun other => signature other.1 then []
        else [option] := by
  simp only [leadersOf, List.filter_append, List.find?_append]
  refine congrArg₂ (· ++ ·) (List.filter_congr fun other listed => ?_) ?_
  · obtain ⟨first, _, found, _⟩ := exists_first (List.mem_map_of_mem listed)
    rw [found]
    rfl
  · rw [List.filter_singleton]
    by_cases known : signature option.1 ∈ seen.map fun other => signature other.1
    · obtain ⟨first, listed, found, _⟩ := exists_first known
      have apart : first.2 ≠ option.2 := fun places =>
        fresh (List.mem_map.mpr ⟨first, listed, places⟩)
      rw [if_pos known]
      simp [found, apart]
    · have unseen : seen.find? (fun second => signature option.1 = signature second.1) = none := by
        rw [List.find?_eq_none]
        intro second listed same
        exact known (List.mem_map.mpr ⟨second, listed, (of_decide_eq_true same).symm⟩)
      rw [if_neg known]
      simp [unseen]

/-! Each leader has a group, and the pass finds these groups. -/

/-- The groups of a list of options, by their leaders. -/
def groupsOf (options : List (Node × Nat)) : List OptionGroup :=
  (leadersOf options).map fun leader =>
    ⟨signature leader.1, options.filter fun other => signature leader.1 = signature other.1⟩

theorem sets_groupsOf (options : List (Node × Nat)) :
    (groupsOf options).map OptionGroup.set =
      (leadersOf options).map fun leader => signature leader.1 := by
  rw [groupsOf, List.map_map]
  rfl

/-- At most one group takes the option, so all of them can be looked at. -/
theorem gather_eq {groups : List OptionGroup} (once : (groups.map OptionGroup.set).Nodup)
    (option : Node × Nat) :
    gather option groups =
      groups.map (fun group =>
          if group.set = signature option.1 then ⟨group.set, group.members ++ [option]⟩ else group)
        ++ if signature option.1 ∈ groups.map OptionGroup.set then []
          else [⟨signature option.1, [option]⟩] := by
  induction groups with
  | nil => rfl
  | cons group groups ih =>
      rw [List.map_cons, List.nodup_cons] at once
      by_cases same : group.set = signature option.1
      · have others : groups.map (fun group => if group.set = signature option.1 then
            ⟨group.set, group.members ++ [option]⟩ else group) = groups := by
          refine (List.map_congr_left fun group listed => ?_).trans (List.map_id groups)
          have apart : group.set ≠ signature option.1 := fun also =>
            once.1 (List.mem_map.mpr ⟨group, listed, also.trans same.symm⟩)
          exact if_neg apart
        simp [gather, same, others]
      · have apart : ¬ signature option.1 = group.set := fun also => same also.symm
        simp only [gather, if_neg same, ih once.2, List.map_cons, List.mem_cons, apart, false_or,
          List.cons_append]

/-- One more option changes the groups as the pass does. -/
theorem gather_groupsOf {seen : List (Node × Nat)} {option : Node × Nat}
    (once : ((seen ++ [option]).map (·.2)).Nodup) :
    gather option (groupsOf seen) = groupsOf (seen ++ [option]) := by
  rw [List.map_append, List.nodup_append'] at once
  obtain ⟨before, -, apart⟩ := once
  have fresh : option.2 ∉ seen.map (·.2) := fun listed => apart listed (by simp)
  have sets : ((groupsOf seen).map OptionGroup.set).Nodup := by
    rw [sets_groupsOf]
    exact nodup_leadersOf before
  rw [gather_eq sets, sets_groupsOf]
  simp only [mem_map_leadersOf, groupsOf, leadersOf_append fresh, List.map_append, List.map_map]
  refine congrArg₂ (· ++ ·) (List.map_congr_left fun leader _ => ?_) ?_
  · by_cases same : signature leader.1 = signature option.1
    · simp [same, List.filter_append]
    · simp [same, List.filter_append]
  · by_cases known : signature option.1 ∈ seen.map fun other => signature other.1
    · rw [if_pos known, if_pos known]
      rfl
    · have unseen : seen.filter (fun other => signature option.1 = signature other.1) = [] := by
        refine List.filter_eq_nil_iff.mpr fun other listed same => ?_
        exact known (List.mem_map.mpr ⟨other, listed, (of_decide_eq_true same).symm⟩)
      rw [if_neg known, if_neg known]
      simp [unseen]

theorem gathered_eq {options : List (Node × Nat)} (once : (options.map (·.2)).Nodup) :
    gathered options = groupsOf options := by
  induction options using List.reverseRecOn with
  | nil => rfl
  | append_singleton seen option ih =>
      have before : (seen.map (·.2)).Nodup := once.sublist ((List.sublist_append_left _ _).map _)
      rw [gathered] at ih ⊢
      rw [List.foldl_append, ih before]
      exact gather_groupsOf once

variable (survey : Survey)

def leaders : List (Node × Nat) := leadersOf survey.options

theorem nodup_options : (survey.options.map (·.2)).Nodup :=
  survey.graph.nodup_live.sublist (List.filter_sublist.map _)

theorem equalOptions_eq :
    survey.equalOptions = survey.leaders.map fun leader =>
      survey.options.filter fun other => signature leader.1 = signature other.1 := by
  rw [equalOptions, gathered_eq survey.nodup_options, groupsOf, List.map_map]
  rfl

end Survey

end DecisionGraph
