import DecisionGraph.Graph.Cycle
import DecisionGraph.Proofs.Position
import DecisionGraph.Proofs.Walk
import Mathlib.Data.List.Chain
import Mathlib.Data.List.Nodup

/-!
The search for cycles is right: every cycle that it finds is a closed walk, and without the links
that close them no closed walk is left.
-/

namespace DecisionGraph.Cycle

open Relation

/-- A closed walk: distinct positions, a link from each to the next, and a link of the closing edge
from the last back to the first. -/
structure Closed (links : List Link) (cycle : Cycle) : Prop where
  distinct : cycle.positions.Nodup
  walk : cycle.positions.IsChain (Link.Leads links)
  closing : ∃ link ∈ links, link.edge = cycle.closingEdge ∧
    cycle.positions.head? = some link.target ∧ cycle.positions.getLast? = some link.source

theorem Closed.transGen {links : List Link} {cycle : Cycle} (closed : cycle.Closed links) :
    ∃ position, TransGen (Link.Leads links) position position := by
  obtain ⟨link, listed, _, first, last⟩ := closed.closing
  obtain ⟨rest, same⟩ := List.head?_eq_some_iff.mp first
  have walk := closed.walk
  rw [same] at walk last
  rw [List.getLast?_eq_some_getLast (List.cons_ne_nil _ _), Option.some.injEq] at last
  have along : ReflTransGen (Link.Leads links) link.target link.source :=
    List.relationReflTransGen_of_exists_isChain_cons rest walk last
  exact ⟨link.source, .head' ⟨link, listed, rfl, rfl⟩ along⟩

/-! Every cycle that the search finds is closed. -/

theorem takeWhile_append_of_mem {target : Nat} {nodes : List Nat} (member : target ∈ nodes) :
    ∃ rest, nodes = nodes.takeWhile (· ≠ target) ++ target :: rest := by
  induction nodes with
  | nil => cases member
  | cons node nodes ih =>
      by_cases same : node = target
      · exact ⟨nodes, by simp [same]⟩
      · obtain ⟨rest, split⟩ := ih (by simpa [Ne.symm same] using member)
        refine ⟨rest, ?_⟩
        conv => lhs; rw [split]
        simp [same]

/-- The path of a search, given from its end: it enters no node twice, each node is linked to the
one that was entered from it, and what is pending leaves the node. -/
structure Trail (links : List Link) (fresh : List Nat) (path : List Frame) : Prop where
  distinct : (path.map Frame.node).Nodup
  entered : ∀ node ∈ path.map Frame.node, node ∉ fresh
  walk : (path.map Frame.node).IsChain fun child parent => Link.Leads links parent child
  pending : ∀ frame ∈ path, ∀ link ∈ frame.pending, link ∈ links ∧ link.source = frame.node

theorem closed_loop {links : List Link} {fresh : List Nat} {path : List Frame} {link : Link}
    (trail : Trail links fresh path) (listed : link ∈ links)
    (last : (path.map Frame.node).head? = some link.source)
    (back : link.target ∈ path.map Frame.node) :
    Closed links ⟨loop link.target path, link.edge⟩ := by
  obtain ⟨rest, split⟩ := takeWhile_append_of_mem back
  have reversed : loop link.target path =
      ((path.map Frame.node).takeWhile (· ≠ link.target) ++ [link.target]).reverse := by
    simp [loop]
  generalize (path.map Frame.node).takeWhile (· ≠ link.target) = part at split reversed
  have split : path.map Frame.node = (part ++ [link.target]) ++ rest := by simp [split]
  have first : (part ++ [link.target]).head? = some link.source := by
    rw [split] at last
    cases part <;> simpa using last
  refine ⟨?_, ?_, link, listed, rfl, ?_, ?_⟩
  · have distinct := trail.distinct
    rw [split] at distinct
    simpa only [reversed, List.nodup_reverse] using (List.nodup_append.mp distinct).1
  · have walk := trail.walk
    rw [split] at walk
    simp only [reversed]
    exact List.isChain_reverse.mpr walk.left_of_append
  · simp [loop]
  · simpa only [reversed, List.getLast?_reverse] using first

theorem Trail.pop {links : List Link} {fresh : List Nat} {frame : Frame} {path : List Frame}
    (trail : Trail links fresh (frame :: path)) : Trail links fresh path where
  distinct := (List.nodup_cons.mp trail.distinct).2
  entered node member := trail.entered node (List.mem_cons_of_mem _ member)
  walk := trail.walk.tail
  pending other member := trail.pending other (List.mem_cons_of_mem _ member)

theorem Trail.skip {links : List Link} {fresh : List Nat} {node : Nat} {link : Link}
    {pending : List Link} {path : List Frame}
    (trail : Trail links fresh (⟨node, link :: pending⟩ :: path)) :
    Trail links fresh (⟨node, pending⟩ :: path) where
  distinct := trail.distinct
  entered := trail.entered
  walk := trail.walk
  pending frame member := by
    rcases List.mem_cons.mp member with rfl | member
    · intro other left
      exact trail.pending _ List.mem_cons_self other (List.mem_cons_of_mem _ left)
    · exact trail.pending frame (List.mem_cons_of_mem _ member)

theorem pending_leaving (links : List Link) (node : Nat) :
    ∀ link ∈ Link.leaving links node, link ∈ links ∧ link.source = node := by
  intro link member
  simpa [Link.leaving] using member

/-- Every cycle that the search finds is closed. -/
theorem closed_of_mem_search {links : List Link} {fresh : List Nat} {path : List Frame}
    (once : fresh.Nodup) (trail : Trail links fresh path) {cycle : Cycle}
    (found : cycle ∈ search links fresh path) : cycle.Closed links := by
  fun_induction search links fresh path with
  | case1 => cases found
  | case2 start fresh ih =>
      obtain ⟨first, once⟩ := List.nodup_cons.mp once
      refine ih once ⟨by simp, by simpa using first, by simp, ?_⟩ found
      intro frame member
      cases List.mem_singleton.mp member
      exact pending_leaving links start
  | case3 fresh node path ih => exact ih once trail.pop found
  | case4 fresh node link pending path entered ih =>
      obtain ⟨listed, source⟩ := trail.pending _ List.mem_cons_self link List.mem_cons_self
      have skipped := trail.skip
      refine ih (once.erase _) ⟨?_, ?_, ?_, ?_⟩ found
      · refine List.nodup_cons.mpr ⟨fun member => trail.entered _ member entered, trail.distinct⟩
      · intro other member
        rcases List.mem_cons.mp member with rfl | member
        · exact once.not_mem_erase
        · exact fun left => trail.entered other member (List.mem_of_mem_erase left)
      · exact .cons_cons ⟨link, listed, source, rfl⟩ skipped.walk
      · intro frame member
        rcases List.mem_cons.mp member with rfl | member
        · exact pending_leaving links link.target
        · exact skipped.pending frame member
  | case5 fresh node link pending path entered back ih =>
      obtain ⟨listed, source⟩ := trail.pending _ List.mem_cons_self link List.mem_cons_self
      rcases List.mem_cons.mp found with rfl | found
      · refine closed_loop trail.skip listed (by simp [source]) ?_
        simpa using back
      · exact ih once trail.skip found
  | case6 fresh node link pending path entered finished ih => exact ih once trail.skip found

/-! Without the links that close them no closed walk is left. -/

/-- No walk along the links goes on for ever from the position. -/
def Grounded (links : List Link) : Nat → Prop :=
  Acc fun next position => Link.Leads links position next

/-- What is known about a path, given from its end: every link of a node is pending, ends where no
walk goes on for ever, or was followed to the next node of the path. -/
def Explored (links : List Link) : Option Nat → List Frame → Prop
  | _, [] => True
  | next, frame :: path =>
    (∀ link ∈ links, link.source = frame.node →
      link ∈ frame.pending ∨ Grounded links link.target ∨ next = some link.target) ∧
      Explored links (some frame.node) path

/-- A followed link is accounted for by its target. -/
theorem Explored.skip {links pending : List Link} {link : Link} {node : Nat} {path : List Frame}
    {next : Option Nat} (explored : Explored links none (⟨node, link :: pending⟩ :: path))
    (followed : link ∈ links → Grounded links link.target ∨ next = some link.target) :
    Explored links next (⟨node, pending⟩ :: path) := by
  obtain ⟨known, rest⟩ := explored
  refine ⟨fun other listed source => ?_, rest⟩
  rcases known other listed source with left | done | none
  · rcases List.mem_cons.mp left with rfl | left
    · exact Or.inr (followed listed)
    · exact Or.inl left
  · exact Or.inr (Or.inl done)
  · cases none

theorem Explored.grounded {links : List Link} {node : Nat} {path : List Frame}
    (explored : Explored links none (⟨node, []⟩ :: path)) : Grounded links node := by
  refine Acc.intro node fun next step => ?_
  obtain ⟨link, listed, source, rfl⟩ := step
  rcases explored.1 link listed source with left | done | none
  · cases left
  · exact done
  · cases none

theorem Explored.pop {links : List Link} {node : Nat} {path : List Frame}
    (explored : Explored links none (⟨node, []⟩ :: path)) : Explored links none path := by
  have grounded := explored.grounded
  obtain ⟨_, rest⟩ := explored
  cases path with
  | nil => trivial
  | cons frame path =>
      obtain ⟨known, rest⟩ := rest
      refine ⟨fun link listed source => ?_, rest⟩
      rcases known link listed source with left | done | same
      · exact Or.inl left
      · exact Or.inr (Or.inl done)
      · cases same
        exact Or.inr (Or.inl grounded)

/-- The search grounds every position, as far as the links go that close none of the cycles it
finds: what is neither fresh nor on the path is grounded all along. -/
theorem grounded_of_search {links kept : List Link} {fresh : List Nat} {path : List Frame}
    (among : kept ⊆ links)
    (cut : ∀ cycle ∈ search links fresh path, ∀ link ∈ kept, link.edge ≠ cycle.closingEdge)
    (explored : Explored kept none path)
    (done : ∀ position, position ∉ fresh → position ∉ path.map Frame.node → Grounded kept position)
    (position : Nat) : Grounded kept position := by
  have leaving (node : Nat) : ∀ link ∈ kept, link.source = node →
      link ∈ Link.leaving links node ∨ Grounded kept link.target ∨ none = some link.target := by
    intro link listed source
    exact Or.inl (by simp [Link.leaving, among listed, source])
  fun_induction search links fresh path with
  | case1 => exact done position (by simp) (by simp)
  | case2 start fresh ih =>
      refine ih cut ⟨leaving start, trivial⟩ fun other notFresh notEntered => ?_
      exact done other (by simpa [notFresh] using notEntered) (by simp)
  | case3 fresh node path ih =>
      refine ih cut explored.pop fun other notFresh notEntered => ?_
      by_cases same : other = node
      · exact same ▸ explored.grounded
      · exact done other notFresh (by simpa [same] using notEntered)
  | case4 fresh node link pending path entered ih =>
      have skipped := explored.skip fun _ => Or.inr rfl
      refine ih cut ⟨leaving link.target, skipped⟩ fun other notFresh notEntered => ?_
      have apart : other ≠ link.target := by
        rintro rfl
        simp at notEntered
      refine done other (fun left => notFresh ?_) (fun member => notEntered ?_)
      · exact (List.mem_erase_of_ne apart).mpr left
      · exact List.mem_cons_of_mem _ member
  | case5 fresh node link pending path entered back ih =>
      have notKept : link ∉ kept := fun listed => cut _ List.mem_cons_self link listed rfl
      refine ih (fun cycle found => cut cycle (List.mem_cons_of_mem _ found)) ?_ done
      exact explored.skip fun listed => absurd listed notKept
  | case6 fresh node link pending path entered finished ih =>
      have grounded : Grounded kept link.target :=
        done link.target entered (by simpa using finished)
      exact ih cut (explored.skip fun _ => Or.inl grounded) done

theorem not_transGen_of_grounded {links : List Link} {position : Nat}
    (grounded : ∀ position, Grounded links position) :
    ¬ TransGen (Link.Leads links) position position := by
  intro closed
  have founded : WellFounded (TransGen fun next position => Link.Leads links position next) :=
    WellFounded.transGen ⟨grounded⟩
  have around := transGen_swap.mpr closed
  exact founded.asymmetric _ _ around around

/-! The search over a whole graph. -/

variable {graph : Graph} {cycle : Cycle}

theorem closed_of_mem_find (found : cycle ∈ find graph) : cycle.Closed graph.links :=
  closed_of_mem_search graph.nodup_live ⟨by simp, by simp, by simp, by simp⟩ found

/-- Links that close none of the cycles found form no closed walk. -/
theorem not_transGen_of_cut {kept : List Link} (among : kept ⊆ graph.links)
    (cut : ∀ cycle ∈ find graph, ∀ link ∈ kept, link.edge ≠ cycle.closingEdge) (position : Nat) :
    ¬ TransGen (Link.Leads kept) position position := by
  refine not_transGen_of_grounded fun position => ?_
  refine grounded_of_search among cut trivial (fun other dead _ => ?_) position
  -- No link leaves a node that is not live.
  refine Acc.intro other fun next step => ?_
  obtain ⟨link, listed, rfl, _⟩ := step
  obtain ⟨edge, _, found, _⟩ := Graph.mem_links_iff.mp (among listed)
  obtain ⟨node, live, _⟩ := Graph.live_of_position? found
  exact absurd (List.mem_map.mpr ⟨_, live, rfl⟩) dead

theorem find_eq_nil_iff :
    find graph = [] ↔ ∀ position, ¬ TransGen (Link.Leads graph.links) position position := by
  constructor
  · intro none position
    exact not_transGen_of_cut (List.Subset.refl _) (by simp [none]) position
  · intro acyclic
    refine List.eq_nil_iff_forall_not_mem.mpr fun cycle found => ?_
    obtain ⟨position, around⟩ := (closed_of_mem_find found).transGen
    exact acyclic position around

end DecisionGraph.Cycle
