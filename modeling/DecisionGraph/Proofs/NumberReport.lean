import DecisionGraph.Proofs.EffectReport
import DecisionGraph.Proofs.UnfiniteAdvice

/-!
What a report says about numbers. It names each number that is not finite once, at a path of its
own, also in nodes that no id finds and in edges that link nothing.
-/

namespace DecisionGraph

/-- What may hold a number: the data of a factor, a setting of an option, or a field of an edge. -/
inductive NumberSlot
  | value (position : Nat)
  | baseline (position : Nat)
  | setting (position : Nat) (factor : String)
  | edge (position : Nat) (field : String)

namespace NumberSlot

def place : NumberSlot → Place
  | value position => .nodeField position "data.value"
  | baseline position => .nodeField position "data.baseline"
  | setting position factor => .setting position factor
  | edge position field => .edgeField position field

theorem place_injective : Function.Injective place := by
  have value (factor : String) : s!"data.interventions.{factor}" ≠ "data.value" := by
    intro same
    simpa [toString] using congrArg String.toList same
  have baseline (factor : String) : s!"data.interventions.{factor}" ≠ "data.baseline" := by
    intro same
    simpa [toString] using congrArg String.toList same
  intro slot other same
  cases slot with
  | setting position factor =>
      cases other with
      | setting place other => rw [(Place.setting_inj.mp same).1, (Place.setting_inj.mp same).2]
      | value place => exact absurd (Place.nodeField.inj same).2 (value factor)
      | baseline place => exact absurd (Place.nodeField.inj same).2 (baseline factor)
      | edge place field => cases same
  | value position =>
      cases other with
      | setting place other => exact absurd (Place.nodeField.inj same).2.symm (value other)
      | _ => simp_all [place]
  | baseline position =>
      cases other with
      | setting place other => exact absurd (Place.nodeField.inj same).2.symm (baseline other)
      | _ => simp_all [place]
  | edge position field => cases other <;> simp_all [place, Place.setting]

end NumberSlot

/-- The number in a slot, if there is one. -/
def Graph.number? (graph : Graph) : NumberSlot → Option Float
  | .value position => graph.nodes[position]?.bind fun node =>
    node.factorData?.bind FactorData.value
  | .baseline position => graph.nodes[position]?.bind fun node =>
    node.factorData?.bind FactorData.baseline
  | .setting position factor => graph.nodes[position]?.bind fun node =>
    (node.setting? factor).map Double.toFloat
  | .edge position field => graph.edges[position]?.bind fun edge => edge.number? field

def IsUnfinite (value : Option Float) : Prop :=
  ∃ number, value = some number ∧ number.isFinite = false

theorem isUnfinite_bind {α : Type} {item : Option α} {read : α → Option Float} :
    IsUnfinite (item.bind read) ↔ ∃ known, item = some known ∧ IsUnfinite (read known) := by
  cases item with
  | none => simp [IsUnfinite]
  | some known => simp

/-- Where a number that is not finite stands. -/
def Graph.Unfinite (graph : Graph) (place : Place) : Prop :=
  ∃ slot, IsUnfinite (graph.number? slot) ∧ slot.place = place

namespace Survey

variable {node : Node} {edge : Edge} {position : Nat} {place : Place}

theorem mem_places_ofNumber {there : Place} {owner : String} {value : Option Float} :
    place ∈ (Finding.ofNumber there owner value).map Finding.place ↔
      IsUnfinite value ∧ there = place := by
  simp only [List.mem_map, mem_ofNumber_iff]
  constructor
  · intro listed
    obtain ⟨finding, ⟨number, stated, unfinite, rfl⟩, same⟩ := listed
    exact ⟨⟨number, stated, unfinite⟩, same⟩
  · intro unfinite
    obtain ⟨⟨number, stated, unfinite⟩, same⟩ := unfinite
    exact ⟨_, ⟨number, stated, unfinite, rfl⟩, same⟩

theorem places_ofNumber_sublist (there : Place) (owner : String) (value : Option Float) :
    ((Finding.ofNumber there owner value).map Finding.place).Sublist [there] := by
  cases value with
  | none => exact List.nil_sublist _
  | some number =>
      cases finite : number.isFinite with
      | true => simp [Finding.ofNumber, Finding.unless, finite]
      | false => simp [Finding.ofNumber, Finding.unless, finite, Finding.place]

theorem mem_places_nodeNumbers :
    place ∈ (nodeNumbers node position).map Finding.place ↔
      (IsUnfinite (node.factorData?.bind FactorData.value) ∧
          .nodeField position "data.value" = place) ∨
        (IsUnfinite (node.factorData?.bind FactorData.baseline) ∧
          .nodeField position "data.baseline" = place) ∨
        ∃ factor, IsUnfinite ((node.setting? factor).map Double.toFloat) ∧
          .setting position factor = place := by
  have nothing : ¬ IsUnfinite none := by
    intro unfinite
    obtain ⟨number, stated, _⟩ := unfinite
    cases stated
  unfold nodeNumbers Node.factorData? Node.setting? Node.settings?
  cases node.body with
  | factor category data =>
      cases data with
      | none => simp [nothing]
      | some data => simp [nothing, mem_places_ofNumber]
  | option settings =>
      cases settings with
      | none => simp [nothing]
      | some settings =>
          simp only [List.map_flatMap, List.mem_flatMap, mem_places_ofNumber, Option.bind_none,
            Option.bind_some, nothing, false_and, false_or, Prod.exists]
          constructor
          · intro listed
            obtain ⟨factor, number, listed, unfinite, same⟩ := listed
            rw [← Option.map_some, ← SortedMap.get?_eq_some_iff.mpr listed] at unfinite
            exact ⟨factor, unfinite, same⟩
          · intro stated
            obtain ⟨factor, ⟨_, stated, unfinite⟩, same⟩ := stated
            obtain ⟨number, set, rfl⟩ := Option.map_eq_some_iff.mp stated
            exact ⟨factor, number, SortedMap.get?_eq_some_iff.mp set, ⟨_, rfl, unfinite⟩, same⟩
  | _ => simp [nothing]

theorem mem_places_edgeNumbers :
    place ∈ (edgeNumbers edge position).map Finding.place ↔
      ∃ field, IsUnfinite (edge.number? field) ∧ .edgeField position field = place := by
  simp only [List.mem_map, mem_edgeNumbers_iff]
  constructor
  · intro listed
    obtain ⟨finding, ⟨field, number, stated, unfinite, rfl⟩, same⟩ := listed
    exact ⟨field, ⟨number, stated, unfinite⟩, same⟩
  · intro stated
    obtain ⟨field, ⟨number, stated, unfinite⟩, same⟩ := stated
    exact ⟨_, ⟨field, number, stated, unfinite, rfl⟩, same⟩

theorem nodup_places_nodeNumbers (node : Node) (position : Nat) :
    ((nodeNumbers node position).map Finding.place).Nodup := by
  unfold nodeNumbers
  split
  · next data _ =>
    rw [List.map_append]
    have within := (places_ofNumber_sublist (.nodeField position "data.value") node.id
      data.value).append (places_ofNumber_sublist (.nodeField position "data.baseline") node.id
      data.baseline)
    refine List.Nodup.sublist within ?_
    simp
  · next settings _ =>
    rw [List.map_flatMap]
    refine nodup_flatMap_of_key settings.nodup_keys ?_ ?_
    · intro first second found here there
      have same := (mem_places_ofNumber.mp here).2.trans (mem_places_ofNumber.mp there).2.symm
      exact (Place.setting_inj.mp same).2
    · intro entry _
      exact (List.nodup_singleton _).sublist (places_ofNumber_sublist _ _ _)
  · exact List.nodup_nil

theorem nodup_places_edgeNumbers (edge : Edge) (position : Nat) :
    ((edgeNumbers edge position).map Finding.place).Nodup := by
  have fields : ([.edgeField position "strength_mean", .edgeField position "strength_std",
      .edgeField position "belief_exists", .edgeField position "belief"] : List Place).Nodup := by
    simp
  refine fields.sublist ?_
  simp only [edgeNumbers, List.map_append]
  exact (((places_ofNumber_sublist _ _ _).append (places_ofNumber_sublist _ _ _)).append
    (places_ofNumber_sublist _ _ _)).append (places_ofNumber_sublist _ _ _)

theorem field_of_mem_places_nodeNumbers
    (listed : place ∈ (nodeNumbers node position).map Finding.place) :
    ∃ field, place = .nodeField position field := by
  rcases mem_places_nodeNumbers.mp listed with ⟨_, same⟩ | ⟨_, same⟩ | ⟨factor, _, same⟩
  · exact ⟨_, same.symm⟩
  · exact ⟨_, same.symm⟩
  · exact ⟨_, same.symm⟩

theorem nodup_places_unfiniteNumbers (survey : Survey) :
    (survey.unfiniteNumbers.map Finding.place).Nodup := by
  rw [unfiniteNumbers, List.map_append, List.map_flatMap, List.map_flatMap, List.nodup_append']
  refine ⟨?_, ?_, ?_⟩
  · refine nodup_flatMap_of_key (nodup_zipIdx survey.graph.nodes) ?_ ?_
    · intro first second place here there
      obtain ⟨field, same⟩ := field_of_mem_places_nodeNumbers here
      obtain ⟨other, also⟩ := field_of_mem_places_nodeNumbers there
      exact (Place.nodeField.inj (same.symm.trans also)).1
    · intro entry _
      exact nodup_places_nodeNumbers entry.1 entry.2
  · refine nodup_flatMap_of_key (nodup_zipIdx survey.graph.edges) ?_ ?_
    · intro first second place here there
      obtain ⟨field, _, same⟩ := mem_places_edgeNumbers.mp here
      obtain ⟨other, _, also⟩ := mem_places_edgeNumbers.mp there
      exact (Place.edgeField.inj (same.trans also.symm)).1
    · intro entry _
      exact nodup_places_edgeNumbers entry.1 entry.2
  · intro place inNodes inEdges
    obtain ⟨first, _, here⟩ := List.mem_flatMap.mp inNodes
    obtain ⟨second, _, there⟩ := List.mem_flatMap.mp inEdges
    obtain ⟨field, rfl⟩ := field_of_mem_places_nodeNumbers here
    obtain ⟨other, _, same⟩ := mem_places_edgeNumbers.mp there
    cases same

theorem mem_places_unfiniteNumbers {graph : Graph} :
    place ∈ (ofGraph graph).unfiniteNumbers.map Finding.place ↔ graph.Unfinite place := by
  simp only [unfiniteNumbers, List.map_append, List.map_flatMap, List.mem_append,
    List.mem_flatMap, Prod.exists, List.mem_zipIdx_iff_getElem?, mem_places_nodeNumbers,
    mem_places_edgeNumbers]
  constructor
  · intro listed
    rcases listed with ⟨node, position, listed, found⟩ | ⟨edge, position, listed, found⟩
    · rcases found with ⟨unfinite, same⟩ | ⟨unfinite, same⟩ | ⟨factor, unfinite, same⟩
      · exact ⟨.value position, isUnfinite_bind.mpr ⟨node, listed, unfinite⟩, same⟩
      · exact ⟨.baseline position, isUnfinite_bind.mpr ⟨node, listed, unfinite⟩, same⟩
      · exact ⟨.setting position factor, isUnfinite_bind.mpr ⟨node, listed, unfinite⟩, same⟩
    · obtain ⟨field, unfinite, same⟩ := found
      exact ⟨.edge position field, isUnfinite_bind.mpr ⟨edge, listed, unfinite⟩, same⟩
  · intro unfinite
    obtain ⟨slot, unfinite, same⟩ := unfinite
    cases slot with
    | value position =>
        obtain ⟨node, listed, unfinite⟩ := isUnfinite_bind.mp unfinite
        exact .inl ⟨node, position, listed, .inl ⟨unfinite, same⟩⟩
    | baseline position =>
        obtain ⟨node, listed, unfinite⟩ := isUnfinite_bind.mp unfinite
        exact .inl ⟨node, position, listed, .inr (.inl ⟨unfinite, same⟩)⟩
    | setting position factor =>
        obtain ⟨node, listed, unfinite⟩ := isUnfinite_bind.mp unfinite
        exact .inl ⟨node, position, listed, .inr (.inr ⟨factor, unfinite, same⟩)⟩
    | edge position field =>
        obtain ⟨edge, listed, unfinite⟩ := isUnfinite_bind.mp unfinite
        exact .inr ⟨edge, position, listed, field, unfinite, same⟩

theorem findings_nanValue (survey : Survey) (limits : Limits) :
    ((survey.findings limits).filter fun finding => finding.code = .nanValue) =
      survey.unfiniteNumbers := by
  have passes : survey.passesOf limits IssueCode.nanValue.origin = survey.unfiniteNumbers := rfl
  rw [filter_code_findings, passes, filter_code_eq fun _ => code_of_mem_unfiniteNumbers,
    if_pos rfl]

end Survey

/-- Every number that is not finite is reported once, and no two of them at one path. -/
theorem Graph.numbers_reported (graph : Graph) (limits : Limits) :
    (graph.check limits).Pinpoints .nanValue graph.Unfinite ∧
      Function.Injective fun slot : NumberSlot => slot.place.text :=
  ⟨pinpoints_check (Survey.findings_nanValue _ limits) (Survey.nodup_places_unfiniteNumbers _)
    fun _ => Survey.mem_places_unfiniteNumbers,
    Place.text_injective.comp NumberSlot.place_injective⟩

end DecisionGraph
