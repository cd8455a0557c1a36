import DecisionGraph.Proofs.Promise
import DecisionGraph.Proofs.Rounding
import DecisionGraph.Proofs.Spot

/-!
A repair makes no graph worse: what is found after it was found before, of the same kind and at the
same place. Only a label that a wrong claim kept from being read may come to light.
-/

namespace DecisionGraph

open Finding

/-! What the rules leave of the data has no new defects. -/

namespace FactorData

variable {wanted : Bool} {declared : Option Category} {data : Option FactorData} {key : DataKey}

theorem has_corrected (data : FactorData) (key : DataKey) :
    data.corrected.has key = data.has key := by
  cases key <;> simp [has, corrected]

theorem has_map_corrected (data : Option FactorData) (key : DataKey) :
    ((data.map corrected).getD .empty).has key = (data.getD .empty).has key := by
  cases data with
  | none => rfl
  | some data => exact has_corrected data key

theorem has_filled_of_has (held : (data.getD .empty).has key = true) :
    (filled data).has key = true := by
  cases key with
  | value => exact held
  | extraction => exact held
  | factorType => simp [filled, has]
  | drivers => simp [filled, has]

theorem has_mended_of_has (held : (data.getD .empty).has key = true) :
    ((mended wanted (some .controllable) declared data).getD .empty).has key = true := by
  have overridden :
      ((overridden (some .controllable) declared data).getD .empty).has key = true := by
    unfold FactorData.overridden
    simp only
    split
    · exact held
    · exact has_filled_of_has held
  have corrected := (has_map_corrected _ key).trans overridden
  unfold mended
  split
  · exact has_filled_of_has corrected
  · exact corrected

theorem has_mended_observable (asked : key = .value ∨ key = .extraction) :
    ((mended wanted (some .observable) declared data).getD .empty).has key =
      (data.getD .empty).has key := by
  rw [mended_observable]
  split
  · exact has_map_corrected data key
  · rw [has_map_corrected]
    cases data with
    | none => rfl
    | some data => rcases asked with rfl | rfl <;> rfl

theorem has_of_has_mended_observable
    (held : ((mended wanted (some .observable) declared data).getD .empty).has key = true) :
    (data.getD .empty).has key = true := by
  rw [mended_observable] at held
  split at held
  · rwa [has_map_corrected] at held
  · rw [has_map_corrected] at held
    cases data with
    | none => exact held
    | some data =>
        cases key with
        | value => exact held
        | extraction => exact held
        | factorType => cases held
        | drivers => cases held

theorem isSome_mended_external :
    (mended wanted (some .external) declared data).isSome = data.isSome := by
  unfold mended overridden
  rw [if_neg (by simp), Option.isSome_map]
  simp only
  split <;> rfl

/-- Drivers that a repair fills in are not empty. -/
theorem drivers_of_mended
    (listed : (mended wanted (some .controllable) declared data).bind drivers = some []) :
    data.bind drivers = some [] := by
  have filled (data : Option FactorData) (empty : (filled data).drivers = some []) :
      data.bind drivers = some [] := by
    cases data with
    | none => simp [FactorData.filled, FactorData.empty, Repair.defaultDrivers] at empty
    | some data =>
        obtain ⟨_, _, _, _, list⟩ := data
        cases list with
        | none => simp [FactorData.filled, Repair.defaultDrivers] at empty
        | some list => simpa [FactorData.filled] using empty
  have corrected (data : Option FactorData) :
      (data.map corrected).bind drivers = data.bind drivers := by
    cases data <;> rfl
  have overridden (empty : (overridden (some .controllable) declared data).bind drivers = some []) :
      data.bind drivers = some [] := by
    unfold FactorData.overridden at empty
    simp only at empty
    split at empty
    · exact empty
    · exact filled data empty
  unfold mended at listed
  split at listed
  · exact overridden ((corrected _).symm.trans (filled _ listed))
  · exact overridden ((corrected _).symm.trans listed)

end FactorData

theorem Payload.defects_mended {wanted : Bool} {declared : Option Category}
    {data : Option FactorData} {category : Category} {defect : DataDefect}
    (found : defect ∈ defects (FactorData.mended wanted (some category) declared data) category)
    (position : Nat) (id : String) :
    ∃ before ∈ defects data category,
      (Finding.dataDefect position id category before).spot =
        (Finding.dataDefect position id category defect).spot := by
  cases category with
  | controllable =>
      obtain ⟨some, rfl⟩ := DataDefect.mem_absent.mp found
      refine ⟨_, DataDefect.mem_absent.mpr ⟨?_, rfl⟩, rfl⟩
      obtain ⟨key, listed⟩ := List.exists_mem_of_ne_nil _ some
      obtain ⟨asked, lacking⟩ := List.mem_filter.mp listed
      refine List.ne_nil_of_mem (a := key) (List.mem_filter.mpr ⟨asked, ?_⟩)
      cases held : (data.getD .empty).has key with
      | false => rfl
      | true => simp [FactorData.has_mended_of_has held] at lacking
  | observable =>
      rcases List.mem_append.mp found with found | found
      · obtain ⟨some, rfl⟩ := DataDefect.mem_absent.mp found
        refine ⟨_, List.mem_append_left _ (DataDefect.mem_absent.mpr ⟨?_, rfl⟩), rfl⟩
        obtain ⟨key, listed⟩ := List.exists_mem_of_ne_nil _ some
        obtain ⟨asked, lacking⟩ := List.mem_filter.mp listed
        rw [FactorData.has_mended_observable (by simpa using asked)] at lacking
        exact List.ne_nil_of_mem (List.mem_filter.mpr ⟨asked, lacking⟩)
      · obtain ⟨some, rfl⟩ := DataDefect.mem_present.mp found
        refine ⟨_, List.mem_append_right _ (DataDefect.mem_present.mpr ⟨?_, rfl⟩), rfl⟩
        obtain ⟨key, listed⟩ := List.exists_mem_of_ne_nil _ some
        obtain ⟨ruledOut, held⟩ := List.mem_filter.mp listed
        exact List.ne_nil_of_mem (List.mem_filter.mpr
          ⟨ruledOut, FactorData.has_of_has_mended_observable held⟩)
  | external =>
      refine ⟨defect, ?_, rfl⟩
      simpa only [defects, FactorData.isSome_mended_external] using found

/-! Nor do the rules loosen scaffolding. -/

/-- A mean that is as good as one is not negative. -/
theorem Direction.mended_of_isNear_one {mean : Float} (near : Edge.isNear mean 1.0 = true) :
    mended mean (.word .positive) = .word .positive := by
  have sign : ¬ mean < 0 := fun negative =>
    Bool.false_ne_true ((Rounding.not_isNear_one_of_lt_zero negative).symm.trans near)
  unfold mended ofMean?
  cases mean.isFinite with
  | false => rfl
  | true =>
      by_cases positive : 0 < mean
      · simp [positive]
      · simp [positive, sign, Term.corrected]

theorem Edge.isScaffold_mended {edge : Edge} (scaffold : edge.isScaffold = true) :
    edge.mended.isScaffold = true := by
  simp only [isScaffold, Bool.and_eq_true, decide_eq_true_eq] at scaffold ⊢
  obtain ⟨⟨⟨near, deviation⟩, belief⟩, stated⟩ := scaffold
  refine ⟨⟨⟨near, deviation⟩, belief⟩, ?_⟩
  rw [mended, stated, Option.map_some, Direction.mended_of_isNear_one near]

/-! Pass by pass, what is found after a repair was found before. -/

namespace Graph

variable {graph : Graph} {wanted : Bool} {limits : Limits}

theorem mem_live_mended {node : Node} {position : Nat}
    (live : (node, position) ∈ (graph.mended wanted).live) :
    ∃ before, (before, position) ∈ graph.live ∧
      node = before.mended wanted (graph.category? position) := by
  obtain ⟨listed, found⟩ := mem_live_iff.mp live
  rw [getElem?_nodes_mended] at listed
  obtain ⟨before, earlier, rfl⟩ := Option.map_eq_some_iff.mp listed
  refine ⟨before, mem_live_iff.mpr ⟨earlier, ?_⟩, rfl⟩
  simpa using found

end Graph

namespace Survey

variable {graph : Graph} {wanted : Bool} {limits : Limits} {finding : Finding}

theorem outline_ofGraph_mended (graph : Graph) (wanted : Bool) :
    (ofGraph (graph.mended wanted)).outline = (ofGraph graph).outline := by
  rw [outline_ofGraph, outline_ofGraph, Graph.outline_mended]

theorem category?_ofGraph_mended (position : Nat) :
    (ofGraph (graph.mended wanted)).category? position = graph.category? position :=
  Graph.category?_mended graph wanted position

theorem spot_data_mended (found : finding ∈ (ofGraph (graph.mended wanted)).data) :
    finding.spot ∈ spots (ofGraph graph).data := by
  obtain ⟨node, position, category, live, inferred, defect, listed, rfl⟩ :=
    Graph.data_of_settled (graph.settled_mended wanted) found
  obtain ⟨⟨id, label, body⟩, earlier, rfl⟩ := Graph.mem_live_mended live
  rw [Graph.category?_mended] at inferred
  rw [inferred] at listed ⊢
  have isFactor := (Graph.category?_isSome_iff (Graph.mem_live_iff.mp earlier).1).mp
    (by simp [inferred])
  cases body with
  | factor declared data =>
      obtain ⟨before, stated, same⟩ := Payload.defects_mended listed position id
      refine List.mem_map.mpr ⟨.dataDefect position id category before, ?_, same⟩
      exact mem_data.mpr ⟨_, position, category, earlier, inferred,
        mem_dataOf.mpr (Or.inl ⟨before, stated, rfl⟩)⟩
  | _ => cases isFactor

/-- A label that is found after a repair was found before, or a wrong claim hid it. -/
theorem spot_goalNumbers_mended (found : finding ∈ (ofGraph (graph.mended wanted)).goalNumbers) :
    finding.spot ∈ spots (ofGraph graph).goalNumbers ∨
      ∃ node position category, (node, position) ∈ graph.live ∧
        node.declaredCategory? = some .controllable ∧
        graph.category? position = some category ∧ category ≠ .controllable ∧
        finding.spot = (.goalNumberAsFactor, .nodeField position "label") := by
  obtain ⟨node, position, live, isFactor, inferred, _, named, rfl⟩ := mem_goalNumbers.mp found
  rw [category?_ofGraph_mended] at inferred
  obtain ⟨before, earlier, rfl⟩ := Graph.mem_live_mended live
  rw [Node.isFactor_mended] at isFactor
  rw [Node.label_mended] at named ⊢
  rw [Node.id_mended]
  by_cases claim : before.declaredCategory? = some .controllable
  · obtain ⟨category, known⟩ := Option.isSome_iff_exists.mp
      ((Graph.category?_isSome_iff (Graph.mem_live_iff.mp earlier).1).mpr isFactor)
    refine Or.inr ⟨before, position, category, earlier, claim, known, ?_, rfl⟩
    rintro rfl
    exact inferred known
  · exact Or.inl (List.mem_map_of_mem (mem_goalNumbers.mpr
      ⟨before, position, earlier, isFactor, inferred, claim, named, rfl⟩))

theorem linkedEdges_ofGraph_mended :
    (ofGraph (graph.mended wanted)).linkedEdges =
      (ofGraph graph).linkedEdges.map fun entry => (entry.1, entry.2.mended) := by
  change (graph.mended wanted).links.filterMap _ = (graph.links.filterMap _).map _
  rw [Graph.links_mended, List.map_filterMap]
  refine List.filterMap_congr fun link _ => ?_
  change Option.map _ ((graph.edges.map Edge.mended)[link.edge]?) = _
  simp [Function.comp_def, ofGraph]

theorem spot_looseScaffold_mended
    (found : finding ∈ (ofGraph (graph.mended wanted)).looseScaffold) :
    finding.spot ∈ spots (ofGraph graph).looseScaffold := by
  rw [looseScaffold, linkedEdges_ofGraph_mended, List.filterMap_map] at found
  obtain ⟨⟨link, edge⟩, listed, found⟩ := List.mem_filterMap.mp found
  rw [looseScaffold, spots_filterMap]
  refine List.mem_filterMap.mpr ⟨(link, edge), listed, ?_⟩
  have kinds (position : Nat) : (ofGraph (graph.mended wanted)).graph.kindAt? position =
      (ofGraph graph).graph.kindAt? position := graph.kindAt?_mended wanted position
  simp only [Function.comp_def, kinds] at found
  split at found
  · cases found
  · next loose =>
    have before : ¬ edge.isScaffold = true := fun scaffold =>
      loose (Edge.isScaffold_mended scaffold)
    simp only [if_neg before]
    split at found
    · cases found
      rfl
    · cases found
      rfl
    · cases found

theorem spot_driverAdvice_mended
    (found : finding ∈ (ofGraph (graph.mended wanted)).graph.live.flatMap
      fun entry => (ofGraph (graph.mended wanted)).driverAdvice entry.1 entry.2) :
    finding.spot ∈ spots ((ofGraph graph).graph.live.flatMap
      fun entry => (ofGraph graph).driverAdvice entry.1 entry.2) := by
  obtain ⟨⟨node, position⟩, live, found⟩ := List.mem_flatMap.mp found
  obtain ⟨⟨id, label, body⟩, earlier, rfl⟩ := Graph.mem_live_mended live
  rw [spots_flatMap]
  refine List.mem_flatMap.mpr ⟨_, earlier, ?_⟩
  simp only [driverAdvice, category?_ofGraph_mended] at found
  split at found
  · next inferred listed =>
    rw [inferred] at listed
    cases List.mem_singleton.mp found
    cases body with
    | factor declared data =>
        have before := FactorData.drivers_of_mended listed
        have known : (ofGraph graph).category? position = some .controllable := inferred
        simp [driverAdvice, known, Node.factorData?, before, spots]
    | _ => cases listed
  · cases found

theorem spot_findings_mended (found : finding ∈ (ofGraph (graph.mended wanted)).findings limits) :
    finding.spot ∈ spots ((ofGraph graph).findings limits) ∨
      ∃ node position category, (node, position) ∈ graph.live ∧
        node.declaredCategory? = some .controllable ∧
        graph.category? position = some category ∧ category ≠ .controllable ∧
        finding.spot = (.goalNumberAsFactor, .nodeField position "label") := by
  have same := outline_ofGraph_mended graph wanted
  have census : spots ((ofGraph (graph.mended wanted)).census limits) =
      spots ((ofGraph graph).census limits) := by
    rw [← spots_census_outline, same, spots_census_outline]
  have wiring : (ofGraph (graph.mended wanted)).wiring = (ofGraph graph).wiring := by
    rw [← wiring_outline, same, wiring_outline]
  have connection : (ofGraph (graph.mended wanted)).connection = (ofGraph graph).connection := by
    rw [← connection_outline, same, connection_outline]
  have choice : (ofGraph (graph.mended wanted)).choice = (ofGraph graph).choice := by
    rw [← choice_outline, same, choice_outline]
  have numbers : (ofGraph (graph.mended wanted)).unfiniteNumbers =
      (ofGraph graph).unfiniteNumbers := by
    rw [← unfiniteNumbers_outline, same, unfiniteNumbers_outline]
  have advice : spots (ofGraph (graph.mended wanted)).edgeAdvice =
      spots (ofGraph graph).edgeAdvice := by
    rw [← spots_edgeAdvice_outline, same, spots_edgeAdvice_outline]
  rw [mem_spots_findings]
  rcases mem_findings.mp found with h | h | h | h | h | h | h | h | h
  · have known := mem_spots h
    rw [census] at known
    simp [known]
  · simp [mem_spots (wiring ▸ h)]
  · simp [mem_spots (connection ▸ h)]
  · simp [spot_data_mended h]
  · simp [mem_spots (choice ▸ h)]
  · rcases spot_goalNumbers_mended h with known | hidden
    · simp [known]
    · exact Or.inr hidden
  · simp [spot_looseScaffold_mended h]
  · simp [mem_spots (numbers ▸ h)]
  · rw [advice_eq_append] at h
    rw [advice_eq_append, spots_append, List.mem_append]
    rcases List.mem_append.mp h with h | h
    · have known := mem_spots h
      rw [advice] at known
      simp [known]
    · simp [spot_driverAdvice_mended h]

end Survey

namespace Graph

variable (graph : Graph) (limits : Limits)

/-- The one kind of error that a repair may bring about: a label that reads like a goal, of a factor
that claims to be controllable and is not. The claim is an error of its own. -/
def Unmasked (issue : Issue) : Prop :=
  ∃ node position category, (node, position) ∈ graph.live ∧
    node.declaredCategory? = some .controllable ∧
    graph.category? position = some category ∧ category ≠ .controllable ∧
    issue.code = .goalNumberAsFactor ∧ issue.path = (Place.nodeField position "label").text ∧
    ∃ claim ∈ (graph.check limits).errors,
      claim.code = .categoryMismatch ∧ claim.path = (Place.nodeField position "category").text

variable {graph limits}

theorem categoryClaim_mem_errors {node : Node} {position : Nat} {declared category : Category}
    (live : (node, position) ∈ graph.live) (claim : node.declaredCategory? = some declared)
    (inferred : graph.category? position = some category) (wrong : declared ≠ category) :
    (Finding.categoryClaim position node.id declared category).issue ∈
      (graph.check limits).errors := by
  refine mem_errors_check.mpr ⟨_, Survey.mem_findings.mpr ?_, rfl, rfl⟩
  have wrongly : categoryClaim position node.id declared category ∈
      Survey.dataOf node position category :=
    Survey.mem_dataOf.mpr (Or.inr ⟨declared, claim, wrong, rfl⟩)
  have found : categoryClaim position node.id declared category ∈ (Survey.ofGraph graph).data :=
    Survey.mem_data.mpr ⟨node, position, category, live, inferred, wrongly⟩
  simp [found]

theorem known_of_spot {finding : Finding}
    (known : finding.spot ∈ spots ((Survey.ofGraph graph).findings limits)) :
    ∃ before ∈ (Survey.ofGraph graph).findings limits,
      before.code = finding.code ∧ before.place = finding.place := by
  obtain ⟨before, found, same⟩ := List.mem_map.mp known
  exact ⟨before, found, congrArg Prod.fst same, congrArg Prod.snd same⟩

variable {wanted : Bool} {issue : Issue}

theorem warnings_mended (reported : issue ∈ ((graph.mended wanted).check limits).warnings) :
    ∃ before ∈ (graph.check limits).warnings,
      before.code = issue.code ∧ before.path = issue.path := by
  obtain ⟨finding, found, mild, rfl⟩ := mem_warnings_check.mp reported
  rcases Survey.spot_findings_mended found with known | ⟨_, _, _, _, _, _, _, spot⟩
  · obtain ⟨before, earlier, code, place⟩ := known_of_spot known
    refine ⟨before.issue, mem_warnings_check.mpr ⟨before, earlier, ?_, rfl⟩, code, ?_⟩
    · rwa [code]
    · exact congrArg Place.text place
  · have code : finding.code = .goalNumberAsFactor := congrArg Prod.fst spot
    rw [code] at mild
    exact absurd rfl mild

theorem errors_mended (reported : issue ∈ ((graph.mended wanted).check limits).errors) :
    (∃ before ∈ (graph.check limits).errors,
      before.code = issue.code ∧ before.path = issue.path) ∨ graph.Unmasked limits issue := by
  obtain ⟨finding, found, grave, rfl⟩ := mem_errors_check.mp reported
  rcases Survey.spot_findings_mended found with
    known | ⟨node, position, category, live, claim, inferred, wrong, spot⟩
  · obtain ⟨before, earlier, code, place⟩ := known_of_spot known
    refine Or.inl ⟨before.issue, mem_errors_check.mpr ⟨before, earlier, ?_, rfl⟩, code, ?_⟩
    · rwa [code]
    · exact congrArg Place.text place
  · refine Or.inr ⟨node, position, category, live, claim, inferred, wrong,
      congrArg Prod.fst spot, congrArg (Place.text ∘ Prod.snd) spot, ?_⟩
    exact ⟨_, categoryClaim_mem_errors live claim inferred wrong.symm, rfl, rfl⟩

theorem valid_check_mended (valid : (graph.check limits).valid = true) :
    ((graph.mended wanted).check limits).valid = true := by
  have sound := valid_check_iff_errors.mp valid
  refine valid_check_iff_errors.mpr (List.eq_nil_iff_forall_not_mem.mpr fun issue reported => ?_)
  rcases errors_mended reported with ⟨before, earlier, _⟩ | unmasked
  · rw [sound] at earlier
    cases earlier
  · obtain ⟨_, _, _, _, _, _, _, _, _, claim, earlier, _⟩ := unmasked
    rw [sound] at earlier
    cases earlier

/-- Every warning and every error after a repair was there before it, but for unmasked labels; so a
valid graph stays valid. -/
theorem repair_noWorse (graph : Graph) (options : Repair.Options) (limits : Limits) :
    (∀ warning ∈ ((graph.repair options).1.check limits).warnings,
      ∃ before ∈ (graph.check limits).warnings,
        before.code = warning.code ∧ before.path = warning.path) ∧
    (∀ error ∈ ((graph.repair options).1.check limits).errors,
      (∃ before ∈ (graph.check limits).errors,
        before.code = error.code ∧ before.path = error.path) ∨ graph.Unmasked limits error) ∧
    ((graph.check limits).valid = true → ((graph.repair options).1.check limits).valid = true) ∧
    ((graph.check limits).valid = true ∧ graph.gate.valid = true →
      ((graph.repair options).1.check limits).valid = true ∧
        (graph.repair options).1.gate.valid = true) := by
  rw [value_repair]
  have gate := gate_valid_of_settled (graph.settled_mended options.fill)
  refine ⟨fun _ => warnings_mended, fun _ => errors_mended, valid_check_mended, ?_⟩
  rintro ⟨valid, _⟩
  exact ⟨valid_check_mended valid, gate⟩

end Graph

end DecisionGraph
