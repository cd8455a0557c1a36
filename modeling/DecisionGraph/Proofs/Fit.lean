import DecisionGraph.Proofs.Passes

/-!
Data that fits a category, and what the pass over factor data finds when it does not.
-/

namespace DecisionGraph

namespace DataDefect

variable {keys : List DataKey} {data : FactorData} {defect : DataDefect}

theorem absent_eq (keys : List DataKey) (data : FactorData) :
    absent keys data =
      if (keys.filter fun key => !data.has key) = [] then []
      else [missing (keys.filter fun key => !data.has key)] := by
  unfold absent
  split
  · next none => rw [if_pos none]
  · next key more some => rw [some, if_neg (List.cons_ne_nil key more)]

theorem present_eq (keys : List DataKey) (data : FactorData) :
    present keys data =
      if (keys.filter fun key => data.has key) = [] then []
      else [extra (keys.filter fun key => data.has key)] := by
  unfold present
  split
  · next none => rw [if_pos none]
  · next key more some => rw [some, if_neg (List.cons_ne_nil key more)]

theorem mem_absent :
    defect ∈ absent keys data ↔
      (keys.filter fun key => !data.has key) ≠ [] ∧
        defect = missing (keys.filter fun key => !data.has key) := by
  rw [absent_eq]
  split
  · next none => simp [none]
  · next some => simp only [List.mem_singleton, ne_eq, some, not_false_eq_true, true_and]

theorem mem_present :
    defect ∈ present keys data ↔
      (keys.filter fun key => data.has key) ≠ [] ∧
        defect = extra (keys.filter fun key => data.has key) := by
  rw [present_eq]
  split
  · next none => simp [none]
  · next some => simp only [List.mem_singleton, ne_eq, some, not_false_eq_true, true_and]

theorem absent_eq_nil_iff : absent keys data = [] ↔ ∀ key ∈ keys, data.has key = true := by
  simp [absent_eq, List.filter_eq_nil_iff]

theorem present_eq_nil_iff : present keys data = [] ↔ ∀ key ∈ keys, data.has key = false := by
  simp [present_eq, List.filter_eq_nil_iff]

end DataDefect

namespace Payload

/-- What a category asks of the data of its factors. -/
def Fits (data : Option FactorData) : Category → Prop
  | .controllable => ∃ kept, data = some kept ∧ kept.value.isSome = true ∧
      kept.extraction.isSome = true ∧ kept.factorType.isSome = true ∧ kept.drivers.isSome = true
  | .observable => ∃ kept, data = some kept ∧ kept.value.isSome = true ∧
      kept.extraction.isSome = true ∧ kept.factorType = none ∧ kept.drivers = none
  | .external => data = none

theorem defects_eq_nil_iff {data : Option FactorData} {category : Category} :
    defects data category = [] ↔ Fits data category := by
  cases category with
  | controllable =>
      cases data with
      | none => simp [defects, DataDefect.absent_eq_nil_iff, FactorData.has, Fits, FactorData.empty]
      | some kept => simp [defects, DataDefect.absent_eq_nil_iff, FactorData.has, Fits]
  | observable =>
      cases data with
      | none =>
          simp [defects, DataDefect.absent_eq_nil_iff, DataDefect.present_eq_nil_iff,
            FactorData.has, Fits, FactorData.empty]
      | some kept =>
          simp [defects, DataDefect.absent_eq_nil_iff, DataDefect.present_eq_nil_iff,
            FactorData.has, Fits, and_assoc]
  | external => cases data <;> simp [defects, Fits]

/-- Data gives a payload just when it has no defects; the payload has the category asked for. -/
theorem ofData_cases (data : Option FactorData) (category : Category) :
    (defects data category = [] ∧
        ∃ payload, ofData data category = .ok payload ∧ payload.category = category) ∨
      (defects data category ≠ [] ∧ ofData data category = .error (defects data category)) := by
  by_cases sound : defects data category = []
  · refine Or.inl ⟨sound, ?_⟩
    have fits := defects_eq_nil_iff.mp sound
    cases category with
    | controllable =>
        obtain ⟨⟨value, baseline, extraction, type, drivers⟩, rfl, hasValue, hasExtraction,
          hasType, hasDrivers⟩ := fits
        obtain ⟨value, rfl⟩ := Option.isSome_iff_exists.mp hasValue
        obtain ⟨extraction, rfl⟩ := Option.isSome_iff_exists.mp hasExtraction
        obtain ⟨type, rfl⟩ := Option.isSome_iff_exists.mp hasType
        obtain ⟨drivers, rfl⟩ := Option.isSome_iff_exists.mp hasDrivers
        exact ⟨_, rfl, rfl⟩
    | observable =>
        obtain ⟨⟨value, baseline, extraction, type, drivers⟩, rfl, hasValue, hasExtraction,
          noType, noDrivers⟩ := fits
        obtain ⟨value, rfl⟩ := Option.isSome_iff_exists.mp hasValue
        obtain ⟨extraction, rfl⟩ := Option.isSome_iff_exists.mp hasExtraction
        simp only at noType noDrivers
        subst noType noDrivers
        exact ⟨_, rfl, rfl⟩
    | external =>
        cases (fits : data = none)
        exact ⟨_, rfl, rfl⟩
  · refine Or.inr ⟨sound, ?_⟩
    unfold ofData
    split
    · exact absurd rfl sound
    · exact absurd rfl sound
    · exact absurd rfl sound
    · rfl

end Payload

namespace Survey

/-- What is found of the claim of a factor. -/
def claimsOf (node : Node) (position : Nat) (category : Category) : List Finding :=
  match node.declaredCategory? with
  | some declared =>
    Finding.unless (declared = category) (.categoryClaim position node.id declared category)
  | none => []

section DataOf

variable {node : Node} {position : Nat} {category : Category} {finding : Finding}

theorem dataOf_eq_append :
    dataOf node position category =
      (Payload.defects node.factorData? category).map (.dataDefect position node.id category)
        ++ claimsOf node position category := by
  rcases Payload.ofData_cases node.factorData? category with ⟨sound, _, same, _⟩ | ⟨_, same⟩
  · simp only [dataOf, same, sound]
    rfl
  · simp only [dataOf, same]
    rfl

theorem mem_claimsOf :
    finding ∈ claimsOf node position category ↔
      ∃ declared, node.declaredCategory? = some declared ∧ declared ≠ category ∧
        finding = .categoryClaim position node.id declared category := by
  unfold claimsOf
  cases node.declaredCategory? with
  | none => simp
  | some declared => simp [Finding.mem_unless]

theorem mem_dataOf :
    finding ∈ dataOf node position category ↔
      (∃ defect ∈ Payload.defects node.factorData? category,
        finding = .dataDefect position node.id category defect) ∨
      ∃ declared, node.declaredCategory? = some declared ∧ declared ≠ category ∧
        finding = .categoryClaim position node.id declared category := by
  rw [dataOf_eq_append, List.mem_append, mem_claimsOf, List.mem_map]
  exact or_congr_left (exists_congr fun _ => and_congr_right fun _ => eq_comm)

end DataOf

theorem dataOf_eq_nil_iff {node : Node} {position : Nat} {category : Category} :
    dataOf node position category = [] ↔ Payload.Fits node.factorData? category ∧
      ∀ declared, node.declaredCategory? = some declared → declared = category := by
  rw [← Payload.defects_eq_nil_iff]
  simp only [List.eq_nil_iff_forall_not_mem, mem_dataOf, not_or]
  constructor
  · intro silent
    refine ⟨fun defect stated => (silent _).1 ⟨defect, stated, rfl⟩, fun declared claim => ?_⟩
    exact Decidable.byContradiction fun wrong => (silent _).2 ⟨declared, claim, wrong, rfl⟩
  · rintro ⟨sound, claims⟩ finding
    refine ⟨?_, ?_⟩
    · rintro ⟨defect, stated, _⟩
      exact sound defect stated
    · rintro ⟨declared, claim, wrong, _⟩
      exact wrong (claims declared claim)

theorem mem_data {survey : Survey} {finding : Finding} :
    finding ∈ survey.data ↔
      ∃ node position category, (node, position) ∈ survey.graph.live ∧
        survey.category? position = some category ∧ finding ∈ dataOf node position category := by
  simp only [data, List.mem_flatMap, Prod.exists]
  refine exists_congr fun node => exists_congr fun position => ?_
  cases survey.category? position with
  | none => simp
  | some category => simp

end Survey

end DecisionGraph
