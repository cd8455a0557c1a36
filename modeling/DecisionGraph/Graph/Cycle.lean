import DecisionGraph.Graph.Link

/-!
Search for directed cycles. The search keeps the path that leads to the current node; a link from
the current node back into that path closes a cycle. Nodes that were left are not entered again.
-/

namespace DecisionGraph

/-- A closed walk: distinct positions, each linked to the next, and the edge that leads from the
last one back to the first. -/
structure Cycle where
  positions : List Nat
  closingEdge : Nat
  deriving DecidableEq, Repr

namespace Cycle

/-- A node of the path with those of its links that have not been followed yet. -/
structure Frame where
  node : Nat
  pending : List Link

/-- The part of the path from `target` on; the path is given from its end. -/
def loop (target : Nat) (path : List Frame) : List Nat :=
  (target :: ((path.map Frame.node).takeWhile (· ≠ target)).reverse)

/-- What is left to do on a path. -/
def work : List Frame → Nat
  | [] => 0
  | frame :: path => frame.pending.length + 1 + work path

/-- Follows the links of the last node of `path`; `fresh` holds the nodes not entered yet. -/
def search (links : List Link) : List Nat → List Frame → List Cycle
  | [], [] => []
  | start :: fresh, [] => search links fresh [⟨start, Link.leaving links start⟩]
  | fresh, ⟨_, []⟩ :: path => search links fresh path
  | fresh, ⟨node, link :: pending⟩ :: path =>
    if link.target ∈ fresh then
      search links (fresh.erase link.target)
        (⟨link.target, Link.leaving links link.target⟩ :: ⟨node, pending⟩ :: path)
    else if link.target = node ∨ link.target ∈ path.map Frame.node then
      ⟨loop link.target (⟨node, pending⟩ :: path), link.edge⟩
        :: search links fresh (⟨node, pending⟩ :: path)
    else search links fresh (⟨node, pending⟩ :: path)
termination_by fresh path => (fresh.length, work path)
decreasing_by
  · exact Prod.Lex.left _ _ (by simp)
  · exact Prod.Lex.right _ (by simp [work])
  · next entered =>
    exact Prod.Lex.left _ _ (by
      have := List.length_pos_of_mem entered
      rw [List.length_erase_of_mem entered]; omega)
  · exact Prod.Lex.right _ (by simp [work])
  · exact Prod.Lex.right _ (by simp [work])

/-- The cycles found when every live node is entered once. -/
def find (graph : Graph) : List Cycle :=
  search graph.links (graph.live.map (·.2)) []

end Cycle

end DecisionGraph
