import DecisionGraph.Proofs.EffectReport
import DecisionGraph.Proofs.Encoding
import DecisionGraph.Proofs.Tally

/-!
What a report says about options that set the same. Such options are listed together, none of them
twice, as they are declared. Zero has no sign here, and an option without data sets nothing.
-/

namespace DecisionGraph

/-- A number, but zero without its sign. -/
def plainZero (value : Double) : Double := if value = .ofFloat (-0) then .ofFloat 0 else value

theorem bits_plainZero (value : Double) :
    (plainZero value).bits = if value.toFloat == 0 then (0 : Float).toBits else value.bits := by
  unfold plainZero
  by_cases isZero : (value.toFloat == 0) = true
  · rw [if_pos isZero]
    rcases Double.toFloat_beq_zero_iff.mp isZero with rfl | rfl
    · exact congrArg Double.bits (ite_self _)
    · rw [if_pos rfl]
      rfl
  · rw [if_neg isZero, if_neg fun same => isZero (Double.toFloat_beq_zero_iff.mpr (.inr same))]

/-! Options that set the same. -/

namespace Node

/-- Two options set the same factors, and each of them to the same bits. -/
structure SetsAlike (first second : Node) : Prop where
  factors : ∀ factor, (first.setting? factor).isSome = (second.setting? factor).isSome
  values : ∀ factor value other, first.setting? factor = some value →
    second.setting? factor = some other → (plainZero value).bits = (plainZero other).bits

theorem SetsAlike.symm {first second : Node} (alike : first.SetsAlike second) :
    second.SetsAlike first where
  factors factor := (alike.factors factor).symm
  values factor value other set also := (alike.values factor other value also set).symm

end Node

namespace Survey

theorem mem_signature_iff {option : Node} {factor : String} {bits : UInt64} :
    (factor, bits) ∈ signature option ↔
      ∃ value, option.setting? factor = some value ∧ (plainZero value).bits = bits := by
  simp only [signature, List.mem_map, Prod.exists, Prod.mk.injEq, ← bits_plainZero,
    Node.setting?_eq_some_iff]
  constructor
  · intro listed
    obtain ⟨other, value, listed, rfl, same⟩ := listed
    exact ⟨value, listed, same⟩
  · intro set
    obtain ⟨value, listed, same⟩ := set
    exact ⟨factor, value, listed, rfl, same⟩

theorem pairwise_signature (option : Node) :
    (signature option).Pairwise fun first second => first.1 < second.1 :=
  List.pairwise_map.mpr option.pairwise_settings

theorem mem_signature_of_alike {first second : Node} (alike : first.SetsAlike second)
    {set : String × UInt64} (listed : set ∈ signature first) : set ∈ signature second := by
  obtain ⟨value, known, same⟩ := mem_signature_iff.mp listed
  have alsoSet := alike.factors set.1
  rw [known, Option.isSome_some] at alsoSet
  obtain ⟨other, also⟩ := Option.isSome_iff_exists.mp alsoSet.symm
  exact mem_signature_iff.mpr ⟨other, also, (alike.values _ _ _ known also).symm.trans same⟩

/-- A signature is sorted, so what is in it decides what it is. -/
theorem signature_eq_iff_alike {first second : Node} :
    signature first = signature second ↔ first.SetsAlike second := by
  have set {option : Node} {factor : String} : (option.setting? factor).isSome = true ↔
      ∃ bits, (factor, bits) ∈ signature option := by
    simp [mem_signature_iff, Option.isSome_iff_exists]
  constructor
  · intro same
    constructor
    · intro factor
      rw [Bool.eq_iff_iff, set, set, same]
    · intro factor value other known also
      have listed : (factor, (plainZero value).bits) ∈ signature second := by
        rw [← same]
        exact mem_signature_iff.mpr ⟨value, known, rfl⟩
      obtain ⟨again, alsoKnown, bits⟩ := mem_signature_iff.mp listed
      cases also.symm.trans alsoKnown
      exact bits.symm
  · intro alike
    refine List.Perm.eq_of_pairwise ?_ (pairwise_signature first) (pairwise_signature second) ?_
    · intro one other _ _ before after
      exact absurd (String.lt_trans before after) (String.lt_irrefl _)
    · have once (option : Node) : (signature option).Nodup :=
        (pairwise_signature option).imp fun before same => String.ne_of_lt before (congrArg _ same)
      refine (List.perm_ext_iff_of_nodup (once first) (once second)).mpr fun set => ?_
      exact ⟨mem_signature_of_alike alike, mem_signature_of_alike alike.symm⟩

/-- What is no number is told apart by its encoding. -/
example :
    signature (.optionSetting "keep" "" [("price", .nan)]) ≠
      signature ⟨"drop", "", .option (some (.ofList [("price", ⟨0xfff8000000000000⟩)]))⟩ := by
  decide

end Survey

theorem Node.SetsAlike.trans {first second third : Node} (alike : first.SetsAlike second)
    (also : second.SetsAlike third) : first.SetsAlike third :=
  Survey.signature_eq_iff_alike.mp
    ((Survey.signature_eq_iff_alike.mpr alike).trans (Survey.signature_eq_iff_alike.mpr also))

/-! Groups of options. -/

namespace Survey

variable {graph : Graph}

/-- The options that set the same as the given one. -/
def peers (survey : Survey) (option : Node × Nat) : List (Node × Nat) :=
  survey.options.filter fun other => signature option.1 = signature other.1

theorem mem_peers_iff {survey : Survey} {option other : Node × Nat} :
    other ∈ survey.peers option ↔ other ∈ survey.options ∧ option.1.SetsAlike other.1 := by
  rw [peers, List.mem_filter, decide_eq_true_eq, signature_eq_iff_alike]

theorem mem_leaders_iff {survey : Survey} {leader : Node × Nat} :
    leader ∈ survey.leaders ↔ leader ∈ survey.options ∧
      (survey.peers leader).head?.map (·.2) = some leader.2 := by
  rw [leaders, leadersOf, List.mem_filter, decide_eq_true_eq, peers, List.head?_filter]

/-- A leader is the first of its peers. -/
theorem exists_peers_eq {leader : Node × Nat} (leads : leader ∈ (ofGraph graph).leaders) :
    ∃ others, (ofGraph graph).peers leader = leader :: others := by
  obtain ⟨listed, head⟩ := mem_leaders_iff.mp leads
  cases group : (ofGraph graph).peers leader with
  | nil =>
      rw [group] at head
      cases head
  | cons first others =>
      rw [group] at head
      have peer : first ∈ (ofGraph graph).peers leader := by simp [group]
      have same := List.inj_on_of_nodup_map (ofGraph graph).nodup_options
        (mem_peers_iff.mp peer).1 listed (Option.some.inj head)
      exact ⟨others, by rw [same]⟩

theorem identicalChoices_eq_peers (survey : Survey) :
    survey.identicalChoices =
      survey.leaders.filterMap fun leader => identical? (survey.peers leader) := by
  rw [identicalChoices_eq, equalOptions_eq, List.filterMap_map]
  rfl

theorem identical?_peers_eq_some_iff {leader : Node × Nat} {finding : Finding}
    (leads : leader ∈ (ofGraph graph).leaders) :
    identical? ((ofGraph graph).peers leader) = some finding ↔
      ∃ second others, (ofGraph graph).peers leader = leader :: second :: others ∧
        finding = .identicalOptions leader.2
          (((ofGraph graph).peers leader).map (·.1.id)) := by
  obtain ⟨others, group⟩ := exists_peers_eq leads
  rw [group]
  cases others with
  | nil => simp [identical?]
  | cons second others =>
      constructor
      · intro found
        exact ⟨second, others, rfl, (Option.some.inj found).symm⟩
      · intro found
        obtain ⟨_, _, _, same⟩ := found
        exact congrArg some same.symm

theorem eq_of_id_options {first second : Node × Nat} (listed : first ∈ (ofGraph graph).options)
    (also : second ∈ (ofGraph graph).options) (same : first.1.id = second.1.id) :
    first = second :=
  List.inj_on_of_nodup_map graph.nodup_id_live (List.mem_filter.mp listed).1
    (List.mem_filter.mp also).1 same

theorem mem_ids_peers_iff {leader : Node × Nat} {option : Node} {position : Nat}
    (listed : (option, position) ∈ (ofGraph graph).options) :
    option.id ∈ ((ofGraph graph).peers leader).map (·.1.id) ↔ leader.1.SetsAlike option := by
  rw [List.mem_map]
  constructor
  · intro named
    obtain ⟨other, peer, same⟩ := named
    obtain ⟨also, alike⟩ := mem_peers_iff.mp peer
    cases eq_of_id_options also listed same
    exact alike
  · intro alike
    exact ⟨_, mem_peers_iff.mpr ⟨listed, alike⟩, rfl⟩

theorem exists_leader {option : Node × Nat} (listed : option ∈ (ofGraph graph).options) :
    ∃ leader ∈ (ofGraph graph).leaders, leader.1.SetsAlike option.1 := by
  have shown : signature option.1 ∈ (ofGraph graph).signatures := List.mem_map_of_mem listed
  obtain ⟨leader, leads, same⟩ := List.mem_map.mp ((mem_map_leaders _).mpr shown)
  exact ⟨leader, leads, signature_eq_iff_alike.mp same⟩

end Survey

theorem Finding.context_issue_identicalOptions (position : Nat) (ids : List String) :
    (Finding.identicalOptions position ids).issue.context =
      .object [("option_ids", .ofStrings ids)] := rfl

/-- The issue lists options by their ids. -/
def Issue.ListsOptions (issue : Issue) (ids : List String) : Prop :=
  issue.context = .object [("option_ids", .ofStrings ids)]

theorem Issue.listsOptions_iff {position : Nat} {ids others : List String} :
    (Finding.identicalOptions position ids).issue.ListsOptions others ↔ ids = others := by
  simp [ListsOptions, Finding.context_issue_identicalOptions, Json.ofStrings_inj]

/-- The ids of the options of a graph, as declared. -/
def Graph.optionIds (graph : Graph) : List String :=
  (graph.live.filter fun entry => entry.1.kind = .option).map fun entry => entry.1.id

/-- The issues of a report put those options together that set the same. -/
structure Report.GroupsOptions (report : Report) (graph : Graph) : Prop where
  /-- An issue lists at least two options, as declared, and stands at the first of them. -/
  listed : ∀ issue ∈ report.withCode .optionsIdentical, ∃ first second others position,
    issue.ListsOptions (first :: second :: others) ∧
      (first :: second :: others).Sublist graph.optionIds ∧
      graph.position? first = some position ∧ issue.path = (Place.node position).text
  together : ∀ first start second stop, (first, start) ∈ graph.live → (second, stop) ∈ graph.live →
    first.kind = .option → second.kind = .option → start ≠ stop →
    ((∃ issue ∈ report.withCode .optionsIdentical, ∃ ids, issue.ListsOptions ids ∧
      first.id ∈ ids ∧ second.id ∈ ids) ↔ first.SetsAlike second)
  once : (report.withCode .optionsIdentical).Pairwise fun issue other =>
    ∀ ids others, issue.ListsOptions ids → other.ListsOptions others → ids.Disjoint others
  ordered : (report.withCode .optionsIdentical).Pairwise fun issue other =>
    ∀ position place, issue.path = (Place.node position).text →
      other.path = (Place.node place).text → position < place

namespace Graph

variable {graph : Graph} {limits : Limits}

theorem withCode_optionsIdentical (graph : Graph) (limits : Limits) :
    (graph.check limits).withCode .optionsIdentical =
      ((Survey.ofGraph graph).leaders.filterMap fun leader =>
        Survey.identical? ((Survey.ofGraph graph).peers leader)).map Finding.issue := by
  rw [withCode_check, Survey.findings_optionsIdentical, Survey.identicalChoices_eq_peers]

theorem mem_optionsIdentical_iff {issue : Issue} :
    issue ∈ (graph.check limits).withCode .optionsIdentical ↔
      ∃ leader ∈ (Survey.ofGraph graph).leaders, ∃ second others,
        (Survey.ofGraph graph).peers leader = leader :: second :: others ∧
        issue = (Finding.identicalOptions leader.2
          (((Survey.ofGraph graph).peers leader).map (·.1.id))).issue := by
  rw [withCode_optionsIdentical, List.mem_map]
  constructor
  · intro reported
    obtain ⟨finding, found, rfl⟩ := reported
    obtain ⟨leader, leads, found⟩ := List.mem_filterMap.mp found
    obtain ⟨second, others, group, rfl⟩ := (Survey.identical?_peers_eq_some_iff leads).mp found
    exact ⟨leader, leads, second, others, group, rfl⟩
  · intro grouped
    obtain ⟨leader, leads, second, others, group, rfl⟩ := grouped
    have found := (Survey.identical?_peers_eq_some_iff leads).mpr ⟨second, others, group, rfl⟩
    refine ⟨_, List.mem_filterMap.mpr ⟨leader, leads, ?_⟩, rfl⟩
    exact found

theorem options_listed {issue : Issue}
    (reported : issue ∈ (graph.check limits).withCode .optionsIdentical) :
    ∃ first second others position, issue.ListsOptions (first :: second :: others) ∧
      (first :: second :: others).Sublist graph.optionIds ∧
      graph.position? first = some position ∧ issue.path = (Place.node position).text := by
  obtain ⟨leader, leads, second, others, group, rfl⟩ := mem_optionsIdentical_iff.mp reported
  have live := (List.mem_filter.mp (Survey.mem_leaders_iff.mp leads).1).1
  have within : (((Survey.ofGraph graph).peers leader).map (·.1.id)).Sublist graph.optionIds :=
    List.filter_sublist.map _
  rw [group] at within ⊢
  refine ⟨leader.1.id, second.1.id, others.map fun other => other.1.id, leader.2,
    Issue.listsOptions_iff.mpr rfl, ?_, (mem_live_iff.mp live).2, rfl⟩
  exact within

theorem together_iff {first second : Node} {start stop : Nat}
    (live : (first, start) ∈ (Survey.ofGraph graph).options)
    (also : (second, stop) ∈ (Survey.ofGraph graph).options) (apart : start ≠ stop) :
    (∃ issue ∈ (graph.check limits).withCode .optionsIdentical, ∃ ids,
      issue.ListsOptions ids ∧ first.id ∈ ids ∧ second.id ∈ ids) ↔ first.SetsAlike second := by
  constructor
  · intro together
    obtain ⟨issue, reported, ids, lists, here, there⟩ := together
    obtain ⟨leader, leads, one, others, group, rfl⟩ := mem_optionsIdentical_iff.mp reported
    cases Issue.listsOptions_iff.mp lists
    exact ((Survey.mem_ids_peers_iff live).mp here).symm.trans
      ((Survey.mem_ids_peers_iff also).mp there)
  · intro alike
    obtain ⟨leader, leads, same⟩ := Survey.exists_leader live
    have here := (Survey.mem_ids_peers_iff live).mpr same
    have there := (Survey.mem_ids_peers_iff also).mpr (same.trans alike)
    obtain ⟨others, group⟩ := Survey.exists_peers_eq leads
    cases others with
    | nil =>
        have alone := Survey.mem_peers_iff.mpr ⟨live, same⟩
        have alsoAlone := Survey.mem_peers_iff.mpr ⟨also, same.trans alike⟩
        rw [group, List.mem_singleton] at alone alsoAlone
        exact absurd (congrArg Prod.snd (alone.trans alsoAlone.symm)) apart
    | cons another others =>
        refine ⟨_, mem_optionsIdentical_iff.mpr ⟨leader, leads, another, others, group, rfl⟩, _,
          Issue.listsOptions_iff.mpr rfl, here, there⟩

/-- What holds of the groups of any two leaders in order holds of the issues about them. -/
theorem pairwise_withCode_optionsIdentical {relates : Issue → Issue → Prop}
    (each : (Survey.ofGraph graph).leaders.Pairwise fun leader other =>
      relates (Finding.identicalOptions leader.2
          (((Survey.ofGraph graph).peers leader).map (·.1.id))).issue
        (Finding.identicalOptions other.2
          (((Survey.ofGraph graph).peers other).map (·.1.id))).issue) :
    ((graph.check limits).withCode .optionsIdentical).Pairwise relates := by
  rw [withCode_optionsIdentical, List.pairwise_map, List.pairwise_filterMap]
  refine each.imp_of_mem fun {leader other} leads alsoLeads related => ?_
  intro finding found again alsoFound
  obtain ⟨_, _, _, rfl⟩ := (Survey.identical?_peers_eq_some_iff leads).mp found
  obtain ⟨_, _, _, rfl⟩ := (Survey.identical?_peers_eq_some_iff alsoLeads).mp alsoFound
  exact related

theorem options_once (graph : Graph) (limits : Limits) :
    ((graph.check limits).withCode .optionsIdentical).Pairwise fun issue other =>
      ∀ ids others, issue.ListsOptions ids → other.ListsOptions others → ids.Disjoint others := by
  apply pairwise_withCode_optionsIdentical
  have signatures := Survey.nodup_leaders graph
  rw [List.nodup_iff_pairwise_ne, List.pairwise_map] at signatures
  refine signatures.imp fun {leader other} apart => ?_
  intro ids others lists alsoLists id here there
  cases Issue.listsOptions_iff.mp lists
  cases Issue.listsOptions_iff.mp alsoLists
  obtain ⟨option, peer, rfl⟩ := List.mem_map.mp here
  have listed := (Survey.mem_peers_iff.mp peer).1
  have alike := (Survey.mem_ids_peers_iff listed).mp here
  have also := (Survey.mem_ids_peers_iff listed).mp there
  exact apart (Survey.signature_eq_iff_alike.mpr (alike.trans also.symm))

theorem options_ordered (graph : Graph) (limits : Limits) :
    ((graph.check limits).withCode .optionsIdentical).Pairwise fun issue other =>
      ∀ position place, issue.path = (Place.node position).text →
        other.path = (Place.node place).text → position < place := by
  apply pairwise_withCode_optionsIdentical
  have positions : ((Survey.ofGraph graph).leaders.map (·.2)).Pairwise (· < ·) :=
    graph.pairwise_live.sublist ((List.filter_sublist.trans List.filter_sublist).map _)
  refine (List.pairwise_map.mp positions).imp fun {leader other} before => ?_
  intro position place path alsoPath
  cases Place.text_node_injective path
  cases Place.text_node_injective alsoPath
  exact before

/-- Options that set the same are put together, each of them once, wherever they are declared. -/
theorem options_grouped (graph : Graph) (limits : Limits) :
    (graph.check limits).GroupsOptions graph where
  listed _ := options_listed
  together _ _ _ _ live also option other apart :=
    together_iff (Survey.mem_options_iff_live.mpr ⟨live, option⟩)
      (Survey.mem_options_iff_live.mpr ⟨also, other⟩) apart
  once := options_once graph limits
  ordered := options_ordered graph limits

end Graph

end DecisionGraph
