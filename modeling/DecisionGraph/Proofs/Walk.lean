import DecisionGraph.Graph.Reach
import Mathlib.Data.List.Basic
import Mathlib.Logic.Function.Iterate
import Mathlib.Logic.Relation

/-!
The search for what a position reaches finds just the ends of walks.
-/

namespace DecisionGraph

open Relation

def Link.Leads (links : List Link) (source target : Nat) : Prop :=
  ∃ link ∈ links, link.source = source ∧ link.target = target

namespace Reach

variable {neighbours : Nat → List Nat}

theorem mem_divide_found {near unseen : List Nat} {position : Nat} :
    position ∈ (divide near unseen).1 ↔ position ∈ unseen ∧ position ∈ near := by
  simp [divide, List.partition_eq_filter_filter]

theorem mem_divide_left {near unseen : List Nat} {position : Nat} :
    position ∈ (divide near unseen).2 ↔ position ∈ unseen ∧ position ∉ near := by
  simp [divide, List.partition_eq_filter_filter]

theorem unreached_subset {queue unseen : List Nat} {position : Nat}
    (left : position ∈ unreached neighbours queue unseen) : position ∈ unseen := by
  fun_induction unreached neighbours queue unseen with
  | case1 unseen => exact left
  | case2 first queue unseen divided ih => exact (mem_divide_left.mp (ih left)).1

theorem reached_of_not_mem_unreached {queue unseen : List Nat} {position : Nat}
    (waiting : position ∈ unseen) (taken : position ∉ unreached neighbours queue unseen) :
    ∃ start ∈ queue, ReflTransGen (fun a b => b ∈ neighbours a) start position := by
  fun_induction unreached neighbours queue unseen with
  | case1 unseen => exact absurd waiting taken
  | case2 first queue unseen divided ih =>
      by_cases near : position ∈ neighbours first
      · exact ⟨first, List.mem_cons_self, .single near⟩
      · obtain ⟨start, queued, walk⟩ := ih (mem_divide_left.mpr ⟨waiting, near⟩) taken
        rcases List.mem_append.mp queued with queued | queued
        · exact ⟨start, List.mem_cons_of_mem _ queued, walk⟩
        · exact ⟨first, List.mem_cons_self, .head (mem_divide_found.mp queued).2 walk⟩

/-- No step leads from what was reached to what was not. The positions that have been seen and have
left the queue keep this up all along. -/
theorem unreached_closed {queue unseen : List Nat}
    (closed : ∀ a, a ∉ unseen → a ∉ queue → ∀ b ∈ neighbours a, b ∉ unseen)
    {source target : Nat} (reached : source ∉ unreached neighbours queue unseen)
    (step : target ∈ neighbours source) : target ∉ unreached neighbours queue unseen := by
  fun_induction unreached neighbours queue unseen with
  | case1 unseen => exact closed source reached (by simp) target step
  | case2 first queue unseen divided ih =>
      refine ih ?_ reached
      intro a notLeft notQueued b near left
      obtain ⟨unseenB, notNear⟩ := mem_divide_left.mp left
      by_cases same : a = first
      · subst same
        exact notNear near
      · have seen : a ∉ unseen := fun unseenA => by
          by_cases found : a ∈ neighbours first
          · exact notQueued (List.mem_append_right _ (mem_divide_found.mpr ⟨unseenA, found⟩))
          · exact notLeft (mem_divide_left.mpr ⟨unseenA, found⟩)
        have gone : a ∉ first :: queue := fun queued => by
          rcases List.mem_cons.mp queued with rfl | queued
          · exact same rfl
          · exact notQueued (List.mem_append_left _ queued)
        exact closed a seen gone b near unseenB

theorem mem_within {count start position : Nat}
    (inside : ∀ a, ∀ b ∈ neighbours a, a < count) :
    position ∈ within neighbours count start ↔
      position < count ∧ ReflTransGen (fun a b => b ∈ neighbours a) start position := by
  simp only [within, List.mem_filter, List.mem_range, decide_eq_true_eq]
  refine and_congr_right fun small => ⟨fun taken => ?_, fun walk => ?_⟩
  · by_cases same : position = start
    · rw [same]
    · obtain ⟨first, queued, walk⟩ := reached_of_not_mem_unreached (by simp [small, same]) taken
      cases List.mem_singleton.mp queued
      exact walk
  · induction walk with
    | refl =>
        intro left
        have := unreached_subset left
        simp at this
    | tail _ step ih =>
        refine unreached_closed ?_ (ih (inside _ _ step)) step
        intro a seen gone b near _
        have other : a ≠ start := by simpa using gone
        exact seen (by simp [inside a b near, other])

/-! The search ends: each round takes one position off the queue, and no position is put there
twice. -/

/-- One round of the search. -/
def advance (neighbours : Nat → List Nat) : List Nat × List Nat → List Nat × List Nat
  | ([], unseen) => ([], unseen)
  | (position :: queue, unseen) =>
    (queue ++ (divide (neighbours position) unseen).1, (divide (neighbours position) unseen).2)

theorem length_divide (near unseen : List Nat) :
    (divide near unseen).1.length + (divide near unseen).2.length = unseen.length := by
  rw [divide, List.partition_eq_filter_filter]
  exact (List.length_eq_length_filter_add _).symm

theorem advance_iterate (neighbours : Nat → List Nat) (queue unseen : List Nat) :
    ∃ rounds ≤ queue.length + unseen.length,
      (advance neighbours)^[rounds] (queue, unseen) =
        ([], unreached neighbours queue unseen) := by
  fun_induction unreached neighbours queue unseen with
  | case1 unseen => exact ⟨0, Nat.zero_le _, rfl⟩
  | case2 first queue unseen divided ih =>
      obtain ⟨rounds, bound, ends⟩ := ih
      have parts : divided.1.length + divided.2.length = unseen.length :=
        length_divide (neighbours first) unseen
      refine ⟨rounds + 1, ?_, ends⟩
      simp only [List.length_append, List.length_cons] at bound ⊢
      omega

/-- The search for what `start` reaches empties its queue within as many rounds as there are
positions, and `found` is what it has seen by then. -/
def Ends (neighbours : Nat → List Nat) (count start : Nat) (found : List Nat) : Prop :=
  ∃ rounds ≤ count, ∃ rest,
    (advance neighbours)^[rounds] ([start], (List.range count).filter (· ≠ start)) = ([], rest) ∧
      found = (List.range count).filter (· ∉ rest)

theorem ends_within {count start : Nat} (inside : start < count) :
    Ends neighbours count start (within neighbours count start) := by
  obtain ⟨rounds, bound, ends⟩ := advance_iterate neighbours [start]
    ((List.range count).filter (· ≠ start))
  refine ⟨rounds, ?_, _, ends, rfl⟩
  have others : ((List.range count).filter (· ≠ start)).length < count := by
    have fewer := List.length_filter_lt_length_iff_exists (p := fun other => decide (other ≠ start))
      |>.mpr ⟨start, List.mem_range.mpr inside, by simp⟩
    rwa [List.length_range] at fewer
  simp only [List.length_cons, List.length_nil] at bound
  omega

variable {links : List Link} {count : Nat}

theorem mem_forward (inside : ∀ link ∈ links, link.source < count) {start position : Nat} :
    position ∈ forward links count start ↔
      position < count ∧ ReflTransGen (Link.Leads links) start position := by
  have steps : (fun a b => b ∈ (Link.leaving links a).map Link.target) = Link.Leads links := by
    funext a b
    simp [Link.leaving, Link.Leads, and_assoc]
  rw [forward, mem_within, steps]
  intro a b near
  obtain ⟨link, listed, _⟩ := List.mem_map.mp near
  obtain ⟨listed, same⟩ := List.mem_filter.mp listed
  rw [← of_decide_eq_true same]
  exact inside link listed

theorem mem_backward (inside : ∀ link ∈ links, link.target < count) {goal position : Nat} :
    position ∈ backward links count goal ↔
      position < count ∧ ReflTransGen (Link.Leads links) position goal := by
  have steps : (fun a b => b ∈ (Link.entering links a).map Link.source) =
      Function.swap (Link.Leads links) := by
    funext a b
    simp [Link.entering, Link.Leads, Function.swap, and_assoc, and_comm]
  rw [backward, mem_within, steps, reflTransGen_swap]
  intro a b near
  obtain ⟨link, listed, _⟩ := List.mem_map.mp near
  obtain ⟨listed, same⟩ := List.mem_filter.mp listed
  rw [← of_decide_eq_true same]
  exact inside link listed

end Reach

end DecisionGraph
