import DecisionGraph.Proofs.OptionGroups
import DecisionGraph.Proofs.Shape

/-!
The passes over the content of a graph - data, options, labels, scaffolding, numbers - find nothing
just when the content is in order.
-/

namespace DecisionGraph

open Relation

namespace Survey

variable {survey : Survey} (links : survey.links = survey.graph.links)
  (categories : survey.categories = survey.graph.categories) (sound : survey.graph.Sound)

/-! Data and claims. -/

include categories sound in
theorem data_eq_nil_iff :
    survey.data = [] ↔
      (∀ node ∈ survey.graph.nodes, ∀ category, survey.graph.Infers node category →
        Payload.Fits node.factorData? category) ∧
      ∀ node ∈ survey.graph.nodes, ∀ category, node.declaredCategory? = some category →
        survey.graph.Infers node category := by
  have silent : survey.data = [] ↔ ∀ node position, survey.graph.nodes[position]? = some node →
      ∀ category, survey.graph.Infers node category → dataOf node position category = [] := by
    simp only [List.eq_nil_iff_forall_not_mem, mem_data, category?_eq categories,
      Graph.mem_live_of_distinct sound.distinct]
    constructor
    · intro silent node position listed category inferred finding found
      exact silent finding ⟨node, position, category, listed,
        (Graph.category?_eq_some_iff sound listed).mpr inferred, found⟩
    · rintro silent finding ⟨node, position, category, listed, inferred, found⟩
      exact silent node position listed category
        ((Graph.category?_eq_some_iff sound listed).mp inferred) finding found
  rw [silent]
  constructor
  · intro quiet
    refine ⟨fun node member category inferred => ?_, fun node member declared claim => ?_⟩
    · obtain ⟨position, listed⟩ := List.mem_iff_getElem?.mp member
      exact (dataOf_eq_nil_iff.mp (quiet node position listed category inferred)).1
    · obtain ⟨position, listed⟩ := List.mem_iff_getElem?.mp member
      obtain ⟨category, known⟩ := Option.isSome_iff_exists.mp
        ((Graph.category?_isSome_iff listed).mpr (node.isFactor_of_declared claim))
      have inferred := (Graph.category?_eq_some_iff sound listed).mp known
      rw [(dataOf_eq_nil_iff.mp (quiet node position listed category inferred)).2 declared claim]
      exact inferred
  · rintro ⟨fitting, claims⟩ node position listed category inferred
    have member := List.mem_of_getElem? listed
    refine dataOf_eq_nil_iff.mpr ⟨fitting node member category inferred, fun declared claim => ?_⟩
    have known := (Graph.category?_eq_some_iff sound listed).mpr inferred
    have claimed :=
      (Graph.category?_eq_some_iff sound listed).mpr (claims node member declared claim)
    exact Option.some.inj (claimed.symm.trans known)

/-! What options set. -/

include sound in
theorem straySettings_eq_nil_iff {option : Node} {position : Nat} :
    survey.straySettings option position = [] ↔ ∀ setting ∈ option.settings,
      ∃ factor ∈ survey.graph.nodes, factor.kind = .factor ∧ factor.id = setting.1 := by
  have factor (id : String) : (survey.graph.position? id).bind survey.graph.kindAt? = some .factor ↔
      ∃ factor ∈ survey.graph.nodes, factor.kind = .factor ∧ factor.id = id := by
    simp only [Option.bind_eq_some_iff, Graph.kindAt?_eq_some_iff]
    constructor
    · rintro ⟨position, found, factor, listed, kind⟩
      obtain ⟨node, also, same⟩ := Graph.getElem?_of_position? found
      cases listed.symm.trans also
      exact ⟨factor, List.mem_of_getElem? listed, kind, same⟩
    · rintro ⟨factor, member, kind, rfl⟩
      obtain ⟨position, listed⟩ := List.mem_iff_getElem?.mp member
      exact ⟨position, Graph.position?_of_getElem? sound.distinct listed, factor, listed, kind⟩
  simp only [straySettings, List.filterMap_eq_nil_iff, Prod.forall, ite_eq_left_iff, reduceCtorEq,
    imp_false, Classical.not_not, factor]

include links sound in
theorem mem_factorsOf_iff {option factor : Node} {position place : Nat}
    (listed : survey.graph.nodes[position]? = some option)
    (found : survey.graph.nodes[place]? = some factor) :
    place ∈ survey.factorsOf option position ↔ factor.kind = .factor ∧
      (factor.id ∈ option.settings.map (·.1) ∨ survey.graph.Joins option.id factor.id) := by
  have pointed : ((Link.leaving survey.links position).any fun link => link.target = place) = true ↔
      survey.graph.Joins option.id factor.id := by
    rw [← Graph.leads_iff sound listed found, links]
    simp [Link.leaving, Link.Leads]
  simp only [factorsOf, List.mem_filter, Bool.or_eq_true, decide_eq_true_eq, pointed,
    Graph.idAt_of_getElem? found, Graph.mem_liveOfKind sound.distinct, found, Option.some.injEq,
    exists_eq_left']

include links sound in
theorem missingEffect_eq_nil_iff {option goal : Node} {position last : Nat}
    (reaching : survey.reaching =
      some (Reach.backward survey.graph.links survey.graph.nodes.length last))
    (ends : survey.graph.nodes[last]? = some goal)
    (listed : survey.graph.nodes[position]? = some option) :
    survey.missingEffect option position = [] ↔
      ∃ factor ∈ survey.graph.nodes, factor.kind = .factor ∧
        (factor.id ∈ option.settings.map (·.1) ∨ survey.graph.Joins option.id factor.id) ∧
        ReflTransGen survey.graph.Joins factor.id goal.id := by
  simp only [missingEffect, reaching, Finding.unless_eq_nil_iff, List.any_eq_true,
    decide_eq_true_eq]
  constructor
  · rintro ⟨place, among, walks⟩
    obtain ⟨factor, found, _⟩ :=
      (Graph.mem_liveOfKind sound.distinct).mp (List.mem_filter.mp among).1
    obtain ⟨kind, set⟩ := (mem_factorsOf_iff links sound listed found).mp among
    exact ⟨factor, List.mem_of_getElem? found, kind, set,
      (Graph.mem_backward_iff sound found ends).mp walks⟩
  · rintro ⟨factor, member, kind, set, walk⟩
    obtain ⟨place, found⟩ := List.mem_iff_getElem?.mp member
    exact ⟨place, (mem_factorsOf_iff links sound listed found).mpr ⟨kind, set⟩,
      (Graph.mem_backward_iff sound found ends).mpr walk⟩

theorem settings_of_ne_option {node : Node} (other : node.kind ≠ .option) : node.settings = [] := by
  unfold Node.kind at other
  unfold Node.settings Node.settings?
  cases body : node.body <;> simp_all [NodeBody.kind]

include sound in
theorem mem_options_iff {option : Node} {position : Nat} :
    (option, position) ∈ survey.options ↔
      survey.graph.nodes[position]? = some option ∧ option.kind = .option := by
  simp [options, Graph.mem_live_of_distinct sound.distinct]

include links sound in
theorem effects_eq_nil_iff {goal : Node} {last : Nat}
    (reaching : survey.reaching =
      some (Reach.backward survey.graph.links survey.graph.nodes.length last))
    (ends : survey.graph.nodes[last]? = some goal) :
    survey.effects = [] ↔
      (∀ option ∈ survey.graph.nodes, ∀ setting ∈ option.settings,
        ∃ factor ∈ survey.graph.nodes, factor.kind = .factor ∧ factor.id = setting.1) ∧
      ∀ option ∈ survey.graph.nodes, option.kind = .option →
        ∃ factor ∈ survey.graph.nodes, factor.kind = .factor ∧
          (factor.id ∈ option.settings.map (·.1) ∨ survey.graph.Joins option.id factor.id) ∧
          ReflTransGen survey.graph.Joins factor.id goal.id := by
  simp only [effects, List.flatMap_eq_nil_iff, Prod.forall, List.append_eq_nil_iff,
    mem_options_iff sound, straySettings_eq_nil_iff sound, and_imp]
  constructor
  · intro silent
    refine ⟨fun option member => ?_, fun option member kind => ?_⟩
    · obtain ⟨position, listed⟩ := List.mem_iff_getElem?.mp member
      by_cases kind : option.kind = .option
      · exact (silent option position listed kind).1
      · simp [settings_of_ne_option kind]
    · obtain ⟨position, listed⟩ := List.mem_iff_getElem?.mp member
      exact (missingEffect_eq_nil_iff links sound reaching ends listed).mp
        (silent option position listed kind).2
  · rintro ⟨settings, effects⟩ option position listed kind
    have member := List.mem_of_getElem? listed
    exact ⟨settings option member, (missingEffect_eq_nil_iff links sound reaching ends listed).mpr
      (effects option member kind)⟩

/-- Values have the same bits in a signature when they are the same or both are zero. -/
theorem signatureBits_eq_iff (first second : Double) :
    (if first.toFloat == 0 then (0 : Float).toBits else first.bits) =
        (if second.toFloat == 0 then (0 : Float).toBits else second.bits) ↔
      first.bits = second.bits ∨ ((first.toFloat == 0) = true ∧ (second.toFloat == 0) = true) := by
  have zero {value : Double} (same : value.bits = (0 : Float).toBits) :
      (value.toFloat == 0) = true := by
    rw [Double.toFloat, same]
    decide
  constructor
  · intro same
    split at same
    · next isZero =>
      split at same
      · next alsoZero => exact Or.inr ⟨isZero, alsoZero⟩
      · next notZero => exact absurd (zero same.symm) notZero
    · next notZero =>
      split at same
      · exact absurd (zero same) notZero
      · exact Or.inl same
  · rintro (same | ⟨isZero, alsoZero⟩)
    · rw [Double.toFloat, Double.toFloat, same]
    · rw [if_pos isZero, if_pos alsoZero]

theorem signature_eq_iff {first second : Node} :
    signature first = signature second ↔
      List.Forall₂ SameSetting first.settings second.settings := by
  rw [signature, signature, ← List.forall₂_eq_eq_eq, List.forall₂_map_left_iff,
    List.forall₂_map_right_iff]
  refine Iff.of_eq (congrArg (fun relation => List.Forall₂ relation _ _) ?_)
  funext one other
  simp only [Prod.mk.injEq, signatureBits_eq_iff, SameSetting]

theorem exists_group {option : Node × Nat} (member : option ∈ survey.options) :
    (survey.options.filter fun other => signature option.1 = signature other.1) ∈
      survey.equalOptions := by
  have shown : signature option.1 ∈ survey.options.map fun other => signature other.1 :=
    List.mem_map_of_mem member
  obtain ⟨leader, leads, same⟩ := List.mem_map.mp (mem_map_leadersOf.mpr shown)
  rw [equalOptions_eq, ← same]
  exact List.mem_map_of_mem leads

theorem identicalChoices_eq_nil_iff_options :
    survey.identicalChoices = [] ↔
      survey.options.Pairwise fun first second => signature first.1 ≠ signature second.1 := by
  simp only [identicalChoices, List.filterMap_eq_nil_iff]
  constructor
  · intro silent
    refine List.pairwise_iff_forall_sublist.mpr fun {first second} part same => ?_
    have member : first ∈ survey.options := part.subset (by simp)
    have pair := part.filter fun other => decide (signature first.1 = signature other.1)
    have here := silent _ (exists_group member)
    rw [List.filter_eq_self.mpr (by simp [same])] at pair
    generalize (survey.options.filter fun other => signature first.1 = signature other.1) = group
      at pair here
    cases group with
    | nil => cases pair
    | cons one more =>
        cases more with
        | nil => simpa using pair.length_le
        | cons other more => cases here
  · intro apart group member
    rw [equalOptions_eq] at member
    obtain ⟨leader, _, rfl⟩ := List.mem_map.mp member
    have within := apart.filter fun option => decide (signature leader.1 = signature option.1)
    have grouped : ∀ option ∈ survey.options.filter
        (fun option => signature leader.1 = signature option.1),
        signature leader.1 = signature option.1 := by simp
    generalize (survey.options.filter fun option => signature leader.1 = signature option.1) = group
      at within grouped
    cases group with
    | nil => rfl
    | cons first more =>
        cases more with
        | nil => rfl
        | cons second others =>
            have same := (grouped first (by simp)).symm.trans (grouped second (by simp))
            simp [same] at within

include sound in
theorem identicalChoices_eq_nil_iff :
    survey.identicalChoices = [] ↔ survey.graph.nodes.Pairwise fun first second =>
      first.kind = .option → second.kind = .option →
        ¬ List.Forall₂ SameSetting first.settings second.settings := by
  rw [identicalChoices_eq_nil_iff_options, options, Graph.live_eq_zipIdx sound.distinct,
    List.pairwise_filter]
  conv => rhs; rw [← List.zipIdx_map_fst 0 survey.graph.nodes, List.pairwise_map]
  simp only [decide_eq_true_eq, ne_eq, signature_eq_iff]

/-! Labels, scaffolding and numbers. -/

include categories sound in
theorem goalNumbers_eq_nil_iff :
    survey.goalNumbers = [] ↔ ∀ node ∈ survey.graph.nodes, node.kind = .factor →
      GoalNumber.isGoalNumber node.label = true →
        survey.graph.Infers node .controllable ∨ node.declaredCategory? = some .controllable := by
  simp only [List.eq_nil_iff_forall_not_mem, mem_goalNumbers, category?_eq categories,
    Graph.mem_live_of_distinct sound.distinct]
  constructor
  · intro silent node member kind named
    obtain ⟨position, listed⟩ := List.mem_iff_getElem?.mp member
    rw [← Graph.category?_eq_some_iff sound listed]
    refine Classical.byContradiction fun neither => ?_
    obtain ⟨notSet, notClaimed⟩ := not_or.mp neither
    have isFactor : node.isFactor = true := by simp [Node.isFactor, kind]
    exact silent _ ⟨node, position, listed, isFactor, notSet, notClaimed, named, rfl⟩
  · rintro trusted finding ⟨node, position, listed, isFactor, notSet, notClaimed, named, _⟩
    rcases trusted node (List.mem_of_getElem? listed) (by simpa [Node.isFactor] using isFactor)
      named with set | claimed
    · exact notSet ((Graph.category?_eq_some_iff sound listed).mpr set)
    · exact notClaimed claimed

include links in
theorem mem_linkedEdges_iff {link : Link} {edge : Edge} :
    (link, edge) ∈ survey.linkedEdges ↔
      link ∈ survey.graph.links ∧ survey.graph.edges[link.edge]? = some edge := by
  simp [linkedEdges, links]

include links sound in
theorem looseScaffold_advisory_iff :
    (∀ finding ∈ survey.looseScaffold, finding.code.origin = .advisory) ↔
      ∀ source ∈ survey.graph.nodes, ∀ target ∈ survey.graph.nodes, source.kind = .option →
        target.kind = .factor → ∀ edge ∈ survey.graph.edges, edge.source = source.id →
          edge.target = target.id → edge.isScaffold = true := by
  simp only [looseScaffold, List.mem_filterMap, Prod.exists, mem_linkedEdges_iff links]
  constructor
  · intro mild source sourceMember target targetMember option factor edge member sourceId targetId
    obtain ⟨place, found⟩ := List.mem_iff_getElem?.mp member
    obtain ⟨start, starts⟩ := List.mem_iff_getElem?.mp sourceMember
    obtain ⟨stop, stops⟩ := List.mem_iff_getElem?.mp targetMember
    have linked : (⟨place, start, stop⟩ : Link) ∈ survey.graph.links := by
      refine Graph.mem_links_iff.mpr ⟨edge, found, ?_, ?_⟩
      · rw [sourceId, Graph.position?_of_getElem? sound.distinct starts]
      · rw [targetId, Graph.position?_of_getElem? sound.distinct stops]
    refine Classical.byContradiction fun loose => ?_
    have grave := mild (.looseOptionScaffold place edge)
      ⟨⟨place, start, stop⟩, edge, ⟨linked, found⟩, by
        simp [loose, Graph.kindAt?, starts, stops, option, factor]⟩
    cases grave
  · rintro tight finding ⟨link, edge, ⟨linked, found⟩, reported⟩
    obtain ⟨edge', found', sourceAt, targetAt⟩ := Graph.mem_links_iff.mp linked
    cases found.symm.trans found'
    split at reported
    · cases reported
    · next loose =>
      split at reported
      · next sourceKind targetKind =>
        obtain ⟨source, starts, option⟩ := Graph.kindAt?_eq_some_iff.mp sourceKind
        obtain ⟨target, stops, factor⟩ := Graph.kindAt?_eq_some_iff.mp targetKind
        obtain ⟨first, alsoStarts, sourceId⟩ := Graph.getElem?_of_position? sourceAt
        obtain ⟨second, alsoStops, targetId⟩ := Graph.getElem?_of_position? targetAt
        cases starts.symm.trans alsoStarts
        cases stops.symm.trans alsoStops
        exact absurd (tight source (List.mem_of_getElem? starts) target (List.mem_of_getElem? stops)
          option factor edge (List.mem_of_getElem? found) sourceId.symm targetId.symm) loose
      · cases reported
        rfl
      · cases reported

theorem ofNumber_eq_nil_iff {place : Place} {owner : String} {value : Option Float} :
    Finding.ofNumber place owner value = [] ↔
      ∀ number ∈ value.toList, number.isFinite = true := by
  cases value with
  | none => simp [Finding.ofNumber]
  | some value => simp [Finding.ofNumber, Finding.unless_eq_nil_iff]

theorem nodeNumbers_eq_nil_iff {node : Node} {position : Nat} :
    nodeNumbers node position = [] ↔ ∀ number ∈ node.numbers, number.isFinite = true := by
  unfold nodeNumbers Node.numbers
  cases node.body with
  | factor declared data =>
      cases data with
      | none => simp
      | some data => simp only [List.append_eq_nil_iff, ofNumber_eq_nil_iff, List.forall_mem_append]
  | option settings =>
      cases settings with
      | none => simp
      | some settings =>
          simp only [List.flatMap_eq_nil_iff, ofNumber_eq_nil_iff, Option.toList_some,
            List.mem_singleton, forall_eq, List.forall_mem_map]
  | _ => simp

theorem edgeNumbers_eq_nil_iff {edge : Edge} {position : Nat} :
    edgeNumbers edge position = [] ↔ ∀ number ∈ edge.numbers, number.isFinite = true := by
  simp only [edgeNumbers, Edge.numbers, List.append_eq_nil_iff, ofNumber_eq_nil_iff,
    List.forall_mem_cons, List.forall_mem_append, Option.toList_some, List.not_mem_nil,
    false_implies, implies_true, and_true, and_assoc]

theorem unfiniteNumbers_eq_nil_iff :
    survey.unfiniteNumbers = [] ↔
      (∀ node ∈ survey.graph.nodes, ∀ number ∈ node.numbers, number.isFinite = true) ∧
        ∀ edge ∈ survey.graph.edges, ∀ number ∈ edge.numbers, number.isFinite = true := by
  simp only [unfiniteNumbers, List.append_eq_nil_iff, List.flatMap_eq_nil_iff, Prod.forall,
    nodeNumbers_eq_nil_iff, edgeNumbers_eq_nil_iff, List.mem_zipIdx_iff_getElem?,
    forall_getElem?_iff]

end Survey

end DecisionGraph
