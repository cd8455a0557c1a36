/-!
Finite maps from text to values, kept in the order of their keys, so that equal maps are equal as
data and are written in one way only.
-/

namespace DecisionGraph

/-- Entries in strictly increasing order of their keys, compared code point by code point. -/
structure SortedMap (α : Type) where
  entries : List (String × α)
  sorted : entries.Pairwise (fun first second => first.1 < second.1)
  deriving DecidableEq

namespace SortedMap

variable {α β : Type}

/-- Puts `value` under `key`, in place of what was there. -/
def insertEntry (key : String) (value : α) : List (String × α) → List (String × α)
  | [] => [(key, value)]
  | (other, kept) :: rest =>
    if key < other then (key, value) :: (other, kept) :: rest
    else if key = other then (key, value) :: rest
    else (other, kept) :: insertEntry key value rest

theorem mem_insertEntry {key : String} {value : α} {entries : List (String × α)}
    {entry : String × α} (member : entry ∈ insertEntry key value entries) :
    entry = (key, value) ∨ entry ∈ entries := by
  induction entries with
  | nil => simpa [insertEntry] using member
  | cons head rest ih =>
      obtain ⟨other, kept⟩ := head
      simp only [insertEntry] at member
      split at member
      · simpa using member
      · split at member
        · rcases List.mem_cons.mp member with found | later
          · exact Or.inl found
          · exact Or.inr (List.mem_cons_of_mem _ later)
        · rcases List.mem_cons.mp member with found | later
          · exact Or.inr (by simp [found])
          · rcases ih later with found | kept
            · exact Or.inl found
            · exact Or.inr (List.mem_cons_of_mem _ kept)

theorem sorted_insertEntry (key : String) (value : α) (entries : List (String × α))
    (sorted : entries.Pairwise (fun first second => first.1 < second.1)) :
    (insertEntry key value entries).Pairwise (fun first second => first.1 < second.1) := by
  induction entries with
  | nil => simp [insertEntry]
  | cons head rest ih =>
      obtain ⟨other, kept⟩ := head
      rw [List.pairwise_cons] at sorted
      simp only [insertEntry]
      split
      · next before =>
        refine List.pairwise_cons.mpr ⟨?_, List.pairwise_cons.mpr sorted⟩
        intro entry member
        rcases List.mem_cons.mp member with found | later
        · simpa [found] using before
        · exact String.lt_trans before (sorted.1 entry later)
      · next notBefore =>
        split
        · next same =>
          subst same
          exact List.pairwise_cons.mpr sorted
        · next different =>
          refine List.pairwise_cons.mpr ⟨?_, ih sorted.2⟩
          intro entry member
          rcases mem_insertEntry member with found | later
          · have after : other < key := by
              rcases String.le_total key other with le | le
              · exact absurd (String.le_antisymm le (String.not_lt.mp notBefore)) different
              · exact String.not_le.mp (fun le' => different (String.le_antisymm le' le))
            simpa [found] using after
          · exact sorted.1 entry later

def empty : SortedMap α := ⟨[], List.Pairwise.nil⟩

def insert (map : SortedMap α) (key : String) (value : α) : SortedMap α :=
  ⟨insertEntry key value map.entries, sorted_insertEntry key value map.entries map.sorted⟩

/-- The map of the given pairs; the last of several values under one key stays. -/
def ofList (pairs : List (String × α)) : SortedMap α :=
  pairs.foldl (fun map pair => map.insert pair.1 pair.2) empty

def keys (map : SortedMap α) : List String := map.entries.map (·.1)

def get? (map : SortedMap α) (key : String) : Option α :=
  (map.entries.find? (·.1 = key)).map (·.2)

/-- A key has one value, so what is found first is all that is there. -/
theorem get?_eq_some_iff {map : SortedMap α} {key : String} {value : α} :
    map.get? key = some value ↔ (key, value) ∈ map.entries := by
  obtain ⟨entries, sorted⟩ := map
  simp only [get?]
  induction entries with
  | nil => simp
  | cons head rest ih =>
      obtain ⟨other, kept⟩ := head
      rw [List.pairwise_cons] at sorted
      by_cases same : other = key
      · subst same
        have once : (other, value) ∉ rest := by
          intro later
          exact String.lt_irrefl other (sorted.1 _ later)
        simp [once, eq_comm]
      · have apart : key ≠ other := Ne.symm same
        simp [same, apart, ih sorted.2]

theorem nodup_keys (map : SortedMap α) : map.keys.Nodup :=
  List.pairwise_map.mpr (map.sorted.imp fun before => String.ne_of_lt before)

end SortedMap

end DecisionGraph
