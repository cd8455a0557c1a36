import Mathlib.Data.List.Basic

/-!
Lists accessed by position, where every access is tested. An access behind the end of a list gives
an overrun, and what comes after it is not reached.
-/

namespace DecisionGraph

/-- An access at a position that a list of this length does not have. -/
structure Overrun where
  position : Nat
  length : Nat

/-- A computation that ends with the first overrun. -/
abbrev Access := Except Overrun

namespace Access

variable {α β : Type}

def fetch (items : List α) (position : Nat) : Access α :=
  match items[position]? with
  | some item => .ok item
  | none => .error ⟨position, items.length⟩

def store (items : List α) (position : Nat) (item : α) : Access (List α) :=
  if position < items.length then .ok (items.set position item)
  else .error ⟨position, items.length⟩

/-- The items from a position on; it may be the end. -/
def slice (items : List α) (start : Nat) : Access (List α) :=
  if start ≤ items.length then .ok (items.drop start) else .error ⟨start, items.length⟩

/-- What is found at each item, in order. -/
def collect (find : α → Access (List β)) (items : List α) : Access (List β) := do
  return (← items.mapM find).flatten

@[simp] theorem ok_bind (value : α) (next : α → Access β) : (.ok value >>= next) = next value := rfl

@[simp] theorem pure_eq_ok (value : α) : (pure value : Access α) = .ok value := rfl

@[simp] theorem map_ok (change : α → β) (value : α) :
    (change <$> (.ok value : Access α)) = .ok (change value) := rfl

theorem fetch_of_getElem? {items : List α} {position : Nat} {item : α}
    (listed : items[position]? = some item) : fetch items position = .ok item := by
  rw [fetch, listed]

theorem fetch_eq_ok_iff {items : List α} {position : Nat} {item : α} :
    fetch items position = .ok item ↔ items[position]? = some item := by
  unfold fetch
  cases items[position]? <;> simp

theorem bind_eq_ok_iff {first : Access α} {next : α → Access β} {value : β} :
    first >>= next = .ok value ↔ ∃ item, first = .ok item ∧ next item = .ok value := by
  constructor
  · intro done
    cases first with
    | error overrun => cases done
    | ok item => exact ⟨item, rfl, done⟩
  · rintro ⟨item, rfl, done⟩
    exact done

theorem fetch_map_range {row : Nat → α} {count position : Nat} (inside : position < count) :
    fetch ((List.range count).map row) position = .ok (row position) :=
  fetch_of_getElem? (by simp [inside])

theorem store_of_lt {items : List α} {position : Nat} (inside : position < items.length)
    (item : α) : store items position item = .ok (items.set position item) := if_pos inside

theorem store_eq_ok_iff {items after : List α} {position : Nat} {item : α} :
    store items position item = .ok after ↔
      position < items.length ∧ items.set position item = after := by
  unfold store
  split
  · next inside => simp [inside]
  · next outside => simp [outside]

theorem getElem?_set_eq_some_iff {items : List α} {position other : Nat} {item found : α}
    (inside : position < items.length) : (items.set position item)[other]? = some found ↔
      other = position ∧ item = found ∨ other ≠ position ∧ items[other]? = some found := by
  rw [List.getElem?_set]
  by_cases same : position = other
  · subst same
    simp [inside]
  · simp [same, Ne.symm same]

/-- A place that held an item holds another one after the store. -/
theorem count_set_of_ne [DecidableEq α] {items : List α} {position : Nat} {item other : α}
    (here : items[position]? = some item) (differs : other ≠ item) :
    (items.set position other).count item + 1 = items.count item := by
  obtain ⟨bound, found⟩ := List.getElem?_eq_some_iff.mp here
  have positive : 0 < items.count item := List.count_pos_iff.mpr (found ▸ List.getElem_mem bound)
  rw [List.count_set bound, found, if_pos (beq_self_eq_true item),
    if_neg (by simpa using differs)]
  omega

theorem count_set_le_of_ne [DecidableEq α] {items : List α} {position : Nat} {item other : α}
    (differs : other ≠ item) : (items.set position other).count item ≤ items.count item := by
  by_cases inside : position < items.length
  · rw [List.count_set inside, if_neg (by simpa using differs : ¬(other == item) = true)]
    omega
  · have same := List.set_eq_of_length_le (a := other) (Nat.le_of_not_lt inside)
    exact Nat.le_of_eq (congrArg (List.count item) same)

theorem mapM_eq_ok {find : α → Access β} {part : α → β} {items : List α}
    (each : ∀ item ∈ items, find item = .ok (part item)) :
    items.mapM find = .ok (items.map part) := by
  induction items with
  | nil => rfl
  | cons item items ih =>
      rw [List.mapM_cons, each item List.mem_cons_self,
        ih fun other member => each other (List.mem_cons_of_mem _ member)]
      rfl

theorem collect_eq_ok {find : α → Access (List β)} {part : α → List β} {items : List α}
    (each : ∀ item ∈ items, find item = .ok (part item)) :
    collect find items = .ok (items.flatMap part) := by
  rw [collect, mapM_eq_ok each]
  rfl

/-- A pass that finds at most one thing at each item. -/
theorem collect_toList {find : α → Access (List β)} {part : α → Option β} {items : List α}
    (each : ∀ item ∈ items, find item = .ok (part item).toList) :
    collect find items = .ok (items.filterMap part) := by
  rw [collect_eq_ok each, List.filterMap_eq_flatMap_toList]

/-- A pass that keeps some of the items. -/
theorem collect_filter {find : α → Access (List α)} {keeps : α → Bool} {items : List α}
    (each : ∀ item ∈ items, find item = .ok (if keeps item then [item] else [])) :
    collect find items = .ok (items.filter keeps) := by
  have kept (item : α) (listed : item ∈ items) :
      find item = .ok (Option.guard keeps item).toList := by
    rw [each item listed, Option.guard]
    cases keeps item <;> rfl
  rw [collect_toList kept, List.filterMap_eq_filter]

theorem anyM_eq_ok {test : α → Access Bool} {holds : α → Bool} {items : List α}
    (each : ∀ item ∈ items, test item = .ok (holds item)) :
    items.anyM test = .ok (items.any holds) := by
  induction items with
  | nil => rfl
  | cons item items ih =>
      rw [List.anyM, each item List.mem_cons_self, List.any_cons]
      cases holds item with
      | true => rfl
      | false => exact ih fun other member => each other (List.mem_cons_of_mem _ member)

/-- A pass in which the state after each item is known comes to the last of these states. -/
theorem foldlM_eq_ok {step : β → α → Access β} {state : Nat → β} {items : List α}
    (each : ∀ count item, items[count]? = some item →
      step (state count) item = .ok (state (count + 1))) :
    items.foldlM step (state 0) = .ok (state items.length) := by
  induction items generalizing state with
  | nil => rfl
  | cons item items ih =>
      rw [List.foldlM_cons, each 0 item rfl, ok_bind]
      exact @ih (fun count => state (count + 1)) fun count other listed =>
        each (count + 1) other listed

end Access

end DecisionGraph
