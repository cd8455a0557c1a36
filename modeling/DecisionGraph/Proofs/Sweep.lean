import DecisionGraph.Proofs.Table
import DecisionGraph.Proofs.Walk

/-!
The sweep over stored rows: a queue of positions and a mark for every node. No mark is read or
written behind the end, and in the end just the nodes that the start reaches are marked.
-/

namespace DecisionGraph

open Access Relation

namespace Table

/-- Marks the nodes that hops lead to, and queues those that had no mark. -/
def visit : List Hop → List Nat → List Bool → Access (List Nat × List Bool)
  | [], queue, seen => .ok (queue, seen)
  | hop :: hops, queue, seen => do
    if ← fetch seen hop.node then visit hops queue seen
    else visit hops (queue ++ [hop.node]) (← store seen hop.node true)

/-- What is still to do: unmarked nodes count twice, as they are marked and queued. -/
def toDo (queue : List Nat) (seen : List Bool) : Nat := 2 * seen.count false + queue.length

theorem toDo_visit {hops : List Hop} {queue after : List Nat} {seen marked : List Bool}
    (visited : visit hops queue seen = .ok (after, marked)) :
    toDo after marked ≤ toDo queue seen := by
  induction hops generalizing queue seen with
  | nil =>
      cases visited
      exact Nat.le_refl _
  | cons hop hops ih =>
      rw [visit] at visited
      cases flag : fetch seen hop.node with
      | error overrun =>
          rw [flag] at visited
          cases visited
      | ok known =>
          rw [flag, ok_bind] at visited
          have listed := fetch_eq_ok_iff.mp flag
          cases known with
          | true => exact ih visited
          | false =>
              have bound := (List.getElem?_eq_some_iff.mp listed).1
              rw [if_neg Bool.false_ne_true, store_of_lt bound, ok_bind] at visited
              have fewer := ih visited
              have marks := count_set_of_ne listed Bool.false_ne_true.symm
              simp only [toDo, List.length_append, List.length_singleton] at fewer ⊢
              omega

def spread (next : Nat → Access (List Hop)) : List Nat → List Bool → Access (List Bool)
  | [], seen => .ok seen
  | position :: queue, seen =>
    match next position with
    | .error overrun => .error overrun
    | .ok hops =>
      match _visited : visit hops queue seen with
      | .error overrun => .error overrun
      | .ok (queue, seen) => spread next queue seen
termination_by queue seen => toDo queue seen
decreasing_by
  have fewer := toDo_visit _visited
  simp only [toDo, List.length_cons] at fewer ⊢
  omega

/-- The marks of the nodes that `start` reaches along hops. -/
def sweep (next : Nat → Access (List Hop)) (count start : Nat) : Access (List Bool) := do
  let seen ← store (List.replicate count false) start true
  spread next [start] seen

/-! What a visit marks. -/

/-- A visit marks the nodes that the hops lead to, and queues those of them that were unmarked. -/
structure Visited (hops : List Hop) (queue : List Nat) (seen : List Bool) (after : List Nat)
    (marked : List Bool) : Prop where
  length : marked.length = seen.length
  marks : ∀ position, marked[position]? = some true ↔
    seen[position]? = some true ∨ position ∈ hops.map Hop.node
  queued : ∀ position, position ∈ after ↔
    position ∈ queue ∨ position ∈ hops.map Hop.node ∧ seen[position]? ≠ some true

section Visited

variable {hop : Hop} {hops : List Hop} {queue after : List Nat} {seen marked : List Bool}

theorem Visited.pass (visited : Visited hops queue seen after marked)
    (known : seen[hop.node]? = some true) : Visited (hop :: hops) queue seen after marked where
  length := visited.length
  marks position := by
    rw [visited.marks, List.map_cons, List.mem_cons]
    by_cases same : position = hop.node
    · simp [same, known]
    · simp [same]
  queued position := by
    rw [visited.queued, List.map_cons, List.mem_cons]
    by_cases same : position = hop.node
    · simp [same, known]
    · simp [same]

theorem Visited.mark
    (visited : Visited hops (queue ++ [hop.node]) (seen.set hop.node true) after marked)
    (fresh : seen[hop.node]? = some false) : Visited (hop :: hops) queue seen after marked := by
  have bound := (List.getElem?_eq_some_iff.mp fresh).1
  have setAt (position : Nat) : (seen.set hop.node true)[position]? = some true ↔
      position = hop.node ∨ seen[position]? = some true := by
    rw [getElem?_set_eq_some_iff bound]
    tauto
  refine ⟨visited.length.trans List.length_set, fun position => ?_, fun position => ?_⟩
  · rw [visited.marks, setAt, List.map_cons, List.mem_cons]
    tauto
  · rw [visited.queued, ne_eq, setAt, List.map_cons, List.mem_cons, List.mem_append,
      List.mem_singleton]
    by_cases same : position = hop.node
    · simp [same, fresh]
    · simp [same]

theorem visit_eq_ok {hops : List Hop} (queue : List Nat) (seen : List Bool)
    (inside : ∀ hop ∈ hops, hop.node < seen.length) :
    ∃ after marked, visit hops queue seen = .ok (after, marked) ∧
      Visited hops queue seen after marked := by
  induction hops generalizing queue seen with
  | nil => exact ⟨queue, seen, rfl, rfl, by simp, by simp⟩
  | cons hop hops ih =>
      have bound := inside hop List.mem_cons_self
      have others : ∀ other ∈ hops, other.node < seen.length := fun other listed =>
        inside other (List.mem_cons_of_mem _ listed)
      have here := List.getElem?_eq_getElem bound
      rw [visit, fetch_of_getElem? here, ok_bind]
      cases known : seen[hop.node] with
      | true =>
          obtain ⟨after, marked, done, visited⟩ := ih queue seen others
          exact ⟨after, marked, done, visited.pass (known ▸ here)⟩
      | false =>
          rw [if_neg Bool.false_ne_true, store_of_lt bound, ok_bind]
          obtain ⟨after, marked, done, visited⟩ :=
            ih (queue ++ [hop.node]) (seen.set hop.node true) (List.length_set.symm ▸ others)
          exact ⟨after, marked, done, visited.mark (known ▸ here)⟩

end Visited

/-! What a sweep marks. -/

section Spread

variable {next : Nat → Access (List Hop)} {hops : Nat → List Hop} {count start : Nat}

/-- Marked nodes are reached from the start, and so far as they are not queued, the nodes that they
lead to are marked as well. -/
structure Spread (hops : Nat → List Hop) (count start : Nat) (queue : List Nat)
    (seen : List Bool) : Prop where
  length : seen.length = count
  begun : seen[start]? = some true
  queued : ∀ position ∈ queue, seen[position]? = some true
  reached : ∀ position, seen[position]? = some true →
    ReflTransGen (fun a b => b ∈ (hops a).map Hop.node) start position
  closed : ∀ position, seen[position]? = some true → position ∉ queue →
    ∀ other ∈ (hops position).map Hop.node, seen[other]? = some true

theorem Spread.visit {position : Nat} {queue after : List Nat} {seen marked : List Bool}
    (spread : Spread hops count start (position :: queue) seen)
    (visited : Visited (hops position) queue seen after marked) :
    Spread hops count start after marked where
  length := visited.length.trans spread.length
  begun := (visited.marks start).mpr (.inl spread.begun)
  queued other listed := by
    rcases (visited.queued other).mp listed with listed | ⟨near, _⟩
    · exact (visited.marks other).mpr (.inl (spread.queued other (List.mem_cons_of_mem _ listed)))
    · exact (visited.marks other).mpr (.inr near)
  reached other marked := by
    rcases (visited.marks other).mp marked with known | near
    · exact spread.reached other known
    · exact (spread.reached position (spread.queued position List.mem_cons_self)).tail near
  closed first marked gone second near := by
    rw [visited.queued, not_or] at gone
    refine (visited.marks second).mpr ?_
    by_cases own : first = position
    · exact .inr (own ▸ near)
    · have known : seen[first]? = some true := by
        rcases (visited.marks first).mp marked with known | reachedNow
        · exact known
        · by_contra unknown
          exact gone.2 ⟨reachedNow, unknown⟩
      refine .inl (spread.closed first known ?_ second near)
      exact List.not_mem_cons_of_ne_of_not_mem own gone.1

theorem Spread.lt {position : Nat} {queue : List Nat} {seen : List Bool}
    (state : Spread hops count start (position :: queue) seen) : position < count := by
  have known := state.queued position List.mem_cons_self
  exact state.length ▸ (List.getElem?_eq_some_iff.mp known).1

theorem spread_eq_ok {queue : List Nat} {seen : List Bool}
    (rows : ∀ position < count, next position = .ok (hops position))
    (inside : ∀ position, ∀ hop ∈ hops position, hop.node < count)
    (state : Spread hops count start queue seen) :
    ∃ marked, spread next queue seen = .ok marked ∧ Spread hops count start [] marked := by
  -- What is queued is marked, so its row is there, and the marks are as many as the rows.
  fun_induction spread next queue seen with
  | case1 seen => exact ⟨seen, rfl, state⟩
  | case2 position queue seen overrun missed =>
      rw [rows position state.lt] at missed
      cases missed
  | case3 position queue seen row fetched overrun missed =>
      rw [rows position state.lt] at fetched
      cases fetched
      obtain ⟨_, _, done, _⟩ := visit_eq_ok queue seen (state.length.symm ▸ inside position)
      rw [done] at missed
      cases missed
  | case4 position queue seen row fetched after marked visited ih =>
      rw [rows position state.lt] at fetched
      cases fetched
      obtain ⟨_, _, again, round⟩ :=
        visit_eq_ok queue seen (state.length.symm ▸ inside position)
      rw [visited] at again
      cases again
      exact ih (state.visit round)

theorem Spread.first (bound : start < count) :
    Spread hops count start [start] ((List.replicate count false).set start true) where
  length := by simp
  begun := by simp [bound]
  queued position listed := by
    cases List.mem_singleton.mp listed
    simp [bound]
  reached position marked := by
    rw [List.getElem?_set] at marked
    split at marked
    · next same =>
      subst same
      exact .refl
    · simp [List.getElem?_replicate] at marked
  closed position marked gone := by
    rw [List.getElem?_set, if_neg fun same => gone (by simp [same])] at marked
    simp [List.getElem?_replicate] at marked

/-- The marks of a finished spread are those of the search over lists of positions. -/
theorem Spread.marks {marked : List Bool}
    (within : ∀ position, ∀ hop ∈ hops position, position < count ∧ hop.node < count)
    (spread : Spread hops count start [] marked) :
    marked = (List.range count).map fun position =>
      decide (position ∈ Reach.within (fun a => (hops a).map Hop.node) count start) := by
  have reaches (position : Nat) : marked[position]? = some true ↔
      ReflTransGen (fun a b => b ∈ (hops a).map Hop.node) start position := by
    refine ⟨spread.reached position, fun walk => ?_⟩
    induction walk with
    | refl => exact spread.begun
    | tail _ step ih => exact spread.closed _ ih List.not_mem_nil _ step
  have leaves (a b : Nat) (near : b ∈ (hops a).map Hop.node) : a < count := by
    obtain ⟨hop, listed, _⟩ := List.mem_map.mp near
    exact (within a hop listed).1
  refine List.ext_getElem (by simp [spread.length]) fun position here _ => ?_
  have small : position < count := spread.length ▸ here
  have same : marked[position] = true ↔
      position ∈ Reach.within (fun a => (hops a).map Hop.node) count start := by
    rw [Reach.mem_within leaves, and_iff_right small, ← reaches, List.getElem?_eq_getElem here,
      Option.some.injEq]
  rw [List.getElem_map, List.getElem_range, Bool.eq_iff_iff, same, decide_eq_true_iff]

theorem sweep_eq_ok (bound : start < count)
    (rows : ∀ position < count, next position = .ok (hops position))
    (within : ∀ position, ∀ hop ∈ hops position, position < count ∧ hop.node < count) :
    sweep next count start = .ok ((List.range count).map fun position =>
      decide (position ∈ Reach.within (fun a => (hops a).map Hop.node) count start)) := by
  have begun := store_of_lt (by simpa using bound : start < (List.replicate count false).length) true
  obtain ⟨marked, done, spread⟩ := spread_eq_ok rows
    (fun position hop listed => (within position hop listed).2) (Spread.first bound)
  rw [sweep, begun, ok_bind, done, spread.marks within]

end Spread

end Table

end DecisionGraph
