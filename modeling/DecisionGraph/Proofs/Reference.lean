import DecisionGraph.Proofs.Relisted
import DecisionGraph.Sample

/-!
Which node the id of a constraint refers to. A declared id refers to its node. Another one refers to
the only relative, a live node of its family, whose stem fits, or if no stem fits to the only one
whose label does; whatever else the graph holds does not matter.
-/

namespace DecisionGraph

open Repair

theorem isWithin_iff {part text : List Char} : isWithin part text = true ↔ part <:+: text := by
  induction text with
  | nil => simp [isWithin]
  | cons c rest ih => simp [isWithin, ih, List.infix_cons_iff]

theorem Splits.stem_eq {id family stem other : String} (splits : Splits id family stem)
    (also : Splits id family other) : stem = other := by
  have parts := familyAndStem?_eq_some_iff.mpr splits
  rw [familyAndStem?_eq_some_iff.mpr also] at parts
  cases parts
  rfl

/-- One item satisfies the property, and no other does. -/
def Only {α : Type} (property : α → Prop) (item : α) : Prop :=
  property item ∧ ∀ other, property other → other = item

theorem filter_eq_singleton_iff {α : Type} {items : List α} (once : items.Nodup) {fits : α → Bool}
    {item : α} :
    items.filter fits = [item] ↔ Only (fun other => other ∈ items ∧ fits other = true) item := by
  constructor
  · intro only
    have members (other : α) : other ∈ items ∧ fits other = true ↔ other = item := by
      rw [← List.mem_filter, only, List.mem_singleton]
    exact ⟨(members item).mpr rfl, fun other => (members other).mp⟩
  · rintro ⟨fitting, alone⟩
    apply List.perm_singleton.mp
    refine (List.perm_ext_iff_of_nodup (once.filter fits) (List.nodup_singleton item)).mpr ?_
    intro other
    rw [List.mem_filter, List.mem_singleton]
    constructor
    · exact alone other
    · rintro rfl
      exact fitting

namespace Graph

variable {graph : Graph} {labels : SortedMap String}

/-- The node is the one that its id finds. -/
def Finds (graph : Graph) (node : Node) : Prop := ∃ position, (node, position) ∈ graph.live

theorem Finds.eq {node other : Node} (found : graph.Finds node) (also : graph.Finds other)
    (same : node.id = other.id) : node = other := by
  obtain ⟨position, live⟩ := found
  obtain ⟨place, alsoLive⟩ := also
  exact eq_of_live_of_id live alsoLive same

/-- A relative, and one of the two stems is part of the other; a short one counts for nothing. -/
def StemFits (graph : Graph) (family : String) (stem : List Char) (node : Node) : Prop :=
  graph.Finds node ∧ ∃ own, Splits node.id family own ∧
    (stem <:+: lowerText own.toList ∨
      shortestStem ≤ (lowerText own.toList).length ∧ lowerText own.toList <:+: stem)

/-- A relative, and the stem is part of its label; a given label stands in for its own. -/
def LabelFits (graph : Graph) (labels : SortedMap String) (family : String) (stem : List Char)
    (node : Node) : Prop :=
  graph.Finds node ∧ InFamily family node.id ∧
    stem <:+: stemOfLabel ((labels.get? node.id).getD node.label).toList

/-- What an id that is not declared may refer to. Labels are looked at only when no stem fits. -/
def Refers (graph : Graph) (labels : SortedMap String) (id : String) (node : Node) : Prop :=
  ∃ family own, Splits id family own ∧ shortestStem ≤ (lowerText own.toList).length ∧
    (Only (graph.StemFits family (lowerText own.toList)) node ∨
      (∀ other, ¬ graph.StemFits family (lowerText own.toList) other) ∧
        Only (graph.LabelFits labels family (lowerText own.toList)) node)

end Graph

namespace Repair

variable {graph : Graph} {labels : SortedMap String} {family : String}

theorem mem_candidates_iff {candidate : Candidate} :
    candidate ∈ candidates graph labels family ↔
      ∃ node own, graph.Finds node ∧ Splits node.id family own ∧
        candidate = ⟨node.id, lowerText own.toList, (labels.get? node.id).getD node.label⟩ := by
  constructor
  · intro member
    obtain ⟨node, position, own, live, parts, rfl⟩ := exists_live_of_candidate member
    exact ⟨node, own, ⟨position, live⟩, familyAndStem?_eq_some_iff.mp parts, rfl⟩
  · rintro ⟨node, own, ⟨position, live⟩, splits, rfl⟩
    refine List.mem_filterMap.mpr ⟨(node, position), live, ?_⟩
    simp [familyAndStem?_eq_some_iff.mpr splits]

theorem nodup_candidates (graph : Graph) (labels : SortedMap String) (family : String) :
    (candidates graph labels family).Nodup := by
  have ids : ((candidates graph labels family).map Candidate.id).Sublist
      (graph.live.map fun entry => entry.1.id) := by
    refine map_filterMap_sublist (fun entry candidate made => ?_) graph.live
    simp only at made
    split at made
    · split at made
      · cases made
        rfl
      · cases made
    · cases made
  exact (graph.nodup_id_live.sublist ids).of_map

theorem choose_eq_some_iff {stem : List Char} {candidates : List Candidate} {id : String} :
    choose stem candidates = some id ↔
      (∃ only, candidates.filter (Candidate.fitsStem stem) = [only] ∧ only.id = id) ∨
        candidates.filter (Candidate.fitsStem stem) = [] ∧
          ∃ only, candidates.filter (Candidate.fitsLabel stem) = [only] ∧ only.id = id := by
  unfold choose
  split
  · next only fits => simp [fits]
  · next fits => simp [fits]
  · next fits =>
    simp only [fits, reduceCtorEq, false_and, exists_false, true_and, false_or]
    split
    · next only found => simp [found]
    · next several =>
      constructor
      · rintro ⟨⟩
      · rintro ⟨only, found, -⟩
        exact absurd found (several only)

section Fitting

variable {fits : Candidate → Bool} {property : Node → Prop}
  (reads : ∀ node, property node ↔ graph.Finds node ∧ ∃ own, Splits node.id family own ∧
    fits ⟨node.id, lowerText own.toList, (labels.get? node.id).getD node.label⟩ = true)

include reads

theorem filter_candidates_eq_nil_iff :
    (candidates graph labels family).filter fits = [] ↔ ∀ node, ¬ property node := by
  rw [List.filter_eq_nil_iff]
  constructor
  · intro none node holds
    obtain ⟨found, own, splits, fitting⟩ := (reads node).mp holds
    exact none _ (mem_candidates_iff.mpr ⟨node, own, found, splits, rfl⟩) fitting
  · intro none candidate member fitting
    obtain ⟨node, own, found, splits, rfl⟩ := mem_candidates_iff.mp member
    exact none node ((reads node).mpr ⟨found, own, splits, fitting⟩)

theorem exists_only_candidate_iff {id : String} :
    (∃ only, (candidates graph labels family).filter fits = [only] ∧ only.id = id) ↔
      ∃ node, Only property node ∧ node.id = id := by
  simp only [filter_eq_singleton_iff (nodup_candidates graph labels family)]
  constructor
  · rintro ⟨only, ⟨⟨member, fitting⟩, alone⟩, rfl⟩
    obtain ⟨node, own, found, splits, rfl⟩ := mem_candidates_iff.mp member
    refine ⟨node, ⟨(reads node).mpr ⟨found, own, splits, fitting⟩, fun other holds => ?_⟩, rfl⟩
    obtain ⟨alsoFound, rest, alsoSplits, alsoFitting⟩ := (reads other).mp holds
    -- Other nodes may give an equal candidate only if they have its id, and ids find one node.
    have same := alone _ ⟨mem_candidates_iff.mpr ⟨other, rest, alsoFound, alsoSplits, rfl⟩,
      alsoFitting⟩
    exact alsoFound.eq found (congrArg Candidate.id same)
  · rintro ⟨node, ⟨holds, alone⟩, rfl⟩
    obtain ⟨found, own, splits, fitting⟩ := (reads node).mp holds
    refine ⟨_, ⟨⟨mem_candidates_iff.mpr ⟨node, own, found, splits, rfl⟩, fitting⟩, ?_⟩, rfl⟩
    rintro other ⟨member, alsoFitting⟩
    obtain ⟨another, rest, alsoFound, alsoSplits, rfl⟩ := mem_candidates_iff.mp member
    cases alone another ((reads another).mpr ⟨alsoFound, rest, alsoSplits, alsoFitting⟩)
    cases alsoSplits.stem_eq splits
    rfl

end Fitting

theorem stemFits_iff {stem : List Char} (node : Node) :
    graph.StemFits family stem node ↔ graph.Finds node ∧ ∃ own, Splits node.id family own ∧
      Candidate.fitsStem stem
        ⟨node.id, lowerText own.toList, (labels.get? node.id).getD node.label⟩ = true := by
  simp [Graph.StemFits, Candidate.fitsStem, isWithin_iff]

theorem labelFits_iff {stem : List Char} (node : Node) :
    graph.LabelFits labels family stem node ↔ graph.Finds node ∧ ∃ own, Splits node.id family own ∧
      Candidate.fitsLabel stem
        ⟨node.id, lowerText own.toList, (labels.get? node.id).getD node.label⟩ = true := by
  simp [Graph.LabelFits, Candidate.fitsLabel, isWithin_iff, inFamily_iff]

theorem choose_candidates_iff {stem : List Char} {id : String} :
    choose stem (candidates graph labels family) = some id ↔
      ∃ node, node.id = id ∧ (Only (graph.StemFits family stem) node ∨
        (∀ other, ¬ graph.StemFits family stem other) ∧
          Only (graph.LabelFits labels family stem) node) := by
  rw [choose_eq_some_iff, exists_only_candidate_iff stemFits_iff,
    filter_candidates_eq_nil_iff stemFits_iff, exists_only_candidate_iff labelFits_iff]
  constructor
  · rintro (⟨node, only, same⟩ | ⟨none, node, only, same⟩)
    · exact ⟨node, same, .inl only⟩
    · exact ⟨node, same, .inr ⟨none, only⟩⟩
  · rintro ⟨node, same, only | ⟨none, only⟩⟩
    · exact .inl ⟨node, only, same⟩
    · exact .inr ⟨none, node, only, same⟩

theorem aim_of_undeclared {id target : String} (undeclared : (graph.position? id).isSome = false) :
    aim graph labels id = some target ↔ ∃ node, graph.Refers labels id node ∧ node.id = target := by
  unfold aim
  rw [if_neg (by simp [undeclared])]
  split
  · next whole =>
    constructor
    · rintro ⟨⟩
    · rintro ⟨node, ⟨family, own, splits, -⟩, -⟩
      rw [familyAndStem?_eq_some_iff.mpr splits] at whole
      cases whole
  · next family own parts =>
    have splits := familyAndStem?_eq_some_iff.mp parts
    have unique {other rest : String} (also : Splits id other rest) :
        other = family ∧ rest = own := by
      rw [familyAndStem?_eq_some_iff.mpr also] at parts
      simpa using parts
    simp only
    by_cases short : (lowerText own.toList).length < shortestStem
    · rw [if_pos short]
      constructor
      · rintro ⟨⟩
      · rintro ⟨node, ⟨other, rest, also, long, -⟩, -⟩
        obtain ⟨rfl, rfl⟩ := unique also
        omega
    · rw [if_neg short, choose_candidates_iff]
      constructor
      · rintro ⟨node, same, fitting⟩
        exact ⟨node, ⟨family, own, splits, by omega, fitting⟩, same⟩
      · rintro ⟨node, ⟨other, rest, also, -, fitting⟩, same⟩
        obtain ⟨rfl, rfl⟩ := unique also
        exact ⟨node, same, fitting⟩

/-! Nodes that an id does not find, edges and other families do not matter. -/

theorem isSome_position?_iff {id : String} :
    (graph.position? id).isSome = true ↔ ∃ node, graph.Finds node ∧ node.id = id := by
  constructor
  · intro declared
    obtain ⟨position, found⟩ := Option.isSome_iff_exists.mp declared
    obtain ⟨node, live, same⟩ := Graph.live_of_position? found
    exact ⟨node, ⟨position, live⟩, same⟩
  · rintro ⟨node, ⟨position, live⟩, rfl⟩
    simp [(Graph.mem_live_iff.mp live).2]

section Same

variable {other : Graph} {id : String}
  (same : ∀ node, node.id = id ∨ SameFamily id node.id → (other.Finds node ↔ graph.Finds node))

include same

theorem refers_congr (node : Node) :
    other.Refers labels id node ↔ graph.Refers labels id node := by
  unfold Graph.Refers
  refine exists_congr fun family => exists_congr fun own => and_congr_right fun splits =>
    and_congr_right fun _ => ?_
  have relative (node : Node) (inFamily : InFamily family node.id) :
      other.Finds node ↔ graph.Finds node :=
    same node (.inr ⟨family, inFamily_iff.mpr ⟨own, splits⟩, inFamily⟩)
  have stems (stem : List Char) : other.StemFits family stem = graph.StemFits family stem := by
    funext node
    refine propext (and_congr_left fun ⟨rest, also, _⟩ => ?_)
    exact relative node (inFamily_iff.mpr ⟨rest, also⟩)
  have names (stem : List Char) :
      other.LabelFits labels family stem = graph.LabelFits labels family stem := by
    funext node
    exact propext (and_congr_left fun ⟨inFamily, _⟩ => relative node inFamily)
  rw [stems, names]

theorem aim_congr : aim other labels id = aim graph labels id := by
  have declared : (other.position? id).isSome = true ↔ (graph.position? id).isSome = true := by
    rw [isSome_position?_iff, isSome_position?_iff]
    exact exists_congr fun node => and_congr_left fun named => same node (.inl named)
  by_cases known : (graph.position? id).isSome = true
  · rw [aim, aim, if_pos known, if_pos (declared.mpr known)]
  · have unknown : (graph.position? id).isSome = false := by simpa using known
    have alsoUnknown : (other.position? id).isSome = false := by simpa using declared.not.mpr known
    apply Option.ext
    intro target
    rw [aim_of_undeclared unknown, aim_of_undeclared alsoUnknown]
    exact exists_congr fun node => and_congr_left fun _ => refers_congr same node

end Same

theorem value_aimConstraint_iff {constraint aimed : Constraint} :
    (aimConstraint graph labels constraint).value = some aimed ↔
      ∃ target, aim graph labels constraint.node = some target ∧
        aimed = { constraint with node := target } := by
  unfold aimConstraint
  cases found : aim graph labels constraint.node with
  | none => simp
  | some target =>
      by_cases kept : target = constraint.node
      · subst kept
        simpa using eq_comm
      · simp [kept, eq_comm]

theorem aimed_iff {constraint aimed : Constraint} :
    (aimConstraint graph labels constraint).value = some aimed ↔
      (∃ node ∈ graph.nodes, node.id = constraint.node) ∧ aimed = constraint ∨
      (¬ ∃ node ∈ graph.nodes, node.id = constraint.node) ∧
        ∃ node, graph.Refers labels constraint.node node ∧
          aimed = { constraint with node := node.id } := by
  rw [value_aimConstraint_iff, ← Graph.position?_isSome_iff]
  cases declared : (graph.position? constraint.node).isSome with
  | true => simp [aim, declared]
  | false =>
      constructor
      · rintro ⟨target, aims, rfl⟩
        obtain ⟨node, refers, rfl⟩ := (aim_of_undeclared declared).mp aims
        exact .inr ⟨Bool.false_ne_true, node, refers, rfl⟩
      · rintro (⟨⟨⟩, -⟩ | ⟨-, node, refers, rfl⟩)
        exact ⟨node.id, (aim_of_undeclared declared).mpr ⟨node, refers, rfl⟩, rfl⟩

end Repair

namespace Graph

/-- A repair keeps, moves or drops each constraint by itself. It keeps one whose id is declared, and
moves another one to the node that its id refers to, if there is one. What it does is decided by the
live nodes that have the id or are of its family, and by nothing else in the graph. -/
theorem constraints_resolved (graph : Graph) (options : Repair.Options) :
    (graph.repair options).2.constraints = options.constraints.map (List.filterMap fun constraint =>
        (aimConstraint graph options.labels constraint).value) ∧
      ∀ constraint : Constraint,
        (∀ aimed, (aimConstraint graph options.labels constraint).value = some aimed ↔
          (∃ node ∈ graph.nodes, node.id = constraint.node) ∧ aimed = constraint ∨
          (¬ ∃ node ∈ graph.nodes, node.id = constraint.node) ∧
            ∃ node, graph.Refers options.labels constraint.node node ∧
              aimed = { constraint with node := node.id }) ∧
        ∀ other : Graph,
          (∀ node, node.id = constraint.node ∨ SameFamily constraint.node node.id →
            (other.Finds node ↔ graph.Finds node)) →
          aimConstraint other options.labels constraint =
            aimConstraint graph options.labels constraint := by
  refine ⟨?_, fun constraint => ⟨fun aimed => aimed_iff, fun other same => ?_⟩⟩
  · rw [constraints_repair]
    unfold aimAll
    cases options.constraints with
    | none => rfl
    | some constraints => simp [aimConstraints, List.filterMap_map]
  · rw [aimConstraint, aimConstraint, aim_congr same]

/-- No stem of a factor fits, but the label of the rate does, whatever the edges are. The outcome
whose stem is the one that is looked for is of another family. -/
theorem constraints_resolved_retention :
    let wanted : Constraint := ⟨"gc_1", "fac_customer_retention", ">=", 0.9, none⟩
    let options : Repair.Options := { Repair.Options.standard with constraints := some [wanted] }
    (Sample.retention.repair options).2.constraints =
        some [{ wanted with node := "fac_retention_rate" }] ∧
      aimConstraint { Sample.retention with edges := [] } .empty wanted =
        aimConstraint Sample.retention .empty wanted := by
  intro wanted options
  obtain ⟨each, alone⟩ := Sample.retention.constraints_resolved options
  constructor
  · rw [each]
    decide +kernel
  · exact (alone wanted).2 { Sample.retention with edges := [] } fun node _ => Iff.rfl

end Graph

end DecisionGraph
