import DecisionGraph.Graph.Link

/-!
Which positions a walk along links reaches.
-/

namespace DecisionGraph.Reach

/-- The positions that `near` holds, and those that it does not. -/
def divide (near unseen : List Nat) : List Nat × List Nat := unseen.partition (· ∈ near)

/-- Dividing either finds no position, and leaves all, or leaves fewer. -/
theorem divide_cases (near unseen : List Nat) :
    divide near unseen = ([], unseen) ∨ (divide near unseen).2.length < unseen.length := by
  induction unseen with
  | nil => exact Or.inl (by simp [divide])
  | cons position rest ih =>
      simp only [divide, List.partition_eq_filter_filter] at ih ⊢
      by_cases found : position ∈ near
      · refine Or.inr ?_
        have := List.length_filter_le (not ∘ fun other => decide (other ∈ near)) rest
        simp [found]
        simpa [Function.comp_def] using Nat.lt_succ_of_le this
      · rcases ih with same | fewer
        · refine Or.inl ?_
          simp only [Prod.mk.injEq] at same
          simp [found, same.1, same.2]
        · exact Or.inr (by simpa [found] using fewer)

/-- Takes positions from the front of the queue and puts at its end the neighbours that were not
seen before. What is left has not been reached. -/
def unreached (neighbours : Nat → List Nat) : List Nat → List Nat → List Nat
  | [], unseen => unseen
  | position :: queue, unseen =>
    let divided := divide (neighbours position) unseen
    unreached neighbours (queue ++ divided.1) divided.2
termination_by queue unseen => (unseen.length, queue.length)
decreasing_by
  rcases divide_cases (neighbours position) unseen with same | fewer
  · rw [same]
    exact Prod.Lex.right _ (by simp)
  · exact Prod.Lex.left _ _ fewer

/-- The positions below `count` that `start` reaches, itself among them. -/
def within (neighbours : Nat → List Nat) (count start : Nat) : List Nat :=
  let rest := unreached neighbours [start] ((List.range count).filter (· ≠ start))
  (List.range count).filter (· ∉ rest)

def forward (links : List Link) (count start : Nat) : List Nat :=
  within (fun position => (Link.leaving links position).map Link.target) count start

def backward (links : List Link) (count goal : Nat) : List Nat :=
  within (fun position => (Link.entering links position).map Link.source) count goal

end DecisionGraph.Reach
