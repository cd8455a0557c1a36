import DecisionGraph.Graph.Link
import Mathlib.Data.List.Nodup

/-!
Positions: where an id is found, which nodes are live, and what links link.
-/

namespace DecisionGraph

theorem forall_getElem?_iff {α : Type} {items : List α} {holds : α → Prop} :
    (∀ item (position : Nat), items[position]? = some item → holds item) ↔
      ∀ item ∈ items, holds item := by
  simp only [List.mem_iff_getElem?, forall_exists_index]

theorem pairwise_zipIdx {α : Type} (items : List α) :
    (items.zipIdx.map (·.2)).Pairwise (· < ·) := by
  rw [List.zipIdx_map_snd]
  exact List.pairwise_lt_range'

theorem nodup_zipIdx {α : Type} (items : List α) : (items.zipIdx.map (·.2)).Nodup :=
  (pairwise_zipIdx items).imp Nat.ne_of_lt

/-- Where items differ in their keys, one of them is found by its key alone. -/
theorem flatMap_eq_of_key {α β κ : Type} {items : List α} {key : α → κ} {find : α → List β}
    (once : (items.map key).Nodup) {item : α} (member : item ∈ items)
    (others : ∀ other ∈ items, key other ≠ key item → find other = []) :
    items.flatMap find = find item := by
  obtain ⟨before, after, rfl⟩ := List.append_of_mem member
  rw [List.map_append, List.map_cons, List.nodup_middle, List.nodup_cons, List.mem_append,
    not_or] at once
  have nothing {more : List α} (apart : key item ∉ more.map key)
      (listed : ∀ other ∈ more, other ∈ before ++ item :: after) : more.flatMap find = [] := by
    refine List.flatMap_eq_nil_iff.mpr fun other member => others other (listed other member) ?_
    exact fun same => apart (same ▸ List.mem_map_of_mem member)
  rw [List.flatMap_append, List.flatMap_cons, nothing once.1.1 (by simp +contextual),
    nothing once.1.2 (by simp +contextual), List.nil_append, List.append_nil]

/-- Items with different keys find nothing in common, so together they find nothing twice. -/
theorem nodup_flatMap_of_key {α β κ : Type} {items : List α} {key : α → κ} {find : α → List β}
    (once : (items.map key).Nodup)
    (keyed : ∀ first second found, found ∈ find first → found ∈ find second →
      key first = key second)
    (each : ∀ item ∈ items, (find item).Nodup) : (items.flatMap find).Nodup := by
  refine List.nodup_flatMap.mpr ⟨each, ?_⟩
  rw [List.nodup_iff_pairwise_ne, List.pairwise_map] at once
  refine once.imp fun apart found here there => ?_
  exact apart (keyed _ _ found here there)

theorem map_filterMap_sublist {α β γ : Type} {make : α → Option β} {key : β → γ} {part : α → γ}
    (keeps : ∀ item made, make item = some made → key made = part item) (items : List α) :
    ((items.filterMap make).map key).Sublist (items.map part) := by
  induction items with
  | nil => exact List.Sublist.refl _
  | cons item rest ih =>
      cases made : make item with
      | none =>
          rw [List.filterMap_cons_none made]
          exact ih.cons _
      | some result =>
          rw [List.filterMap_cons_some made, List.map_cons, List.map_cons, keeps item result made]
          exact ih.cons_cons _

namespace Graph

variable {graph : Graph}

/-- An id belongs to the first node that has it, so only the ids decide where it is found. -/
theorem position?_congr {other : Graph}
    (same : graph.nodes.map Node.id = other.nodes.map Node.id) (id : String) :
    graph.position? id = other.position? id := by
  have byIds (listed : Graph) :
      listed.position? id = (listed.nodes.map Node.id).findIdx? fun declared => declared = id := by
    rw [List.findIdx?_map]
    rfl
  rw [byIds, byIds, same]

theorem getElem?_of_position? {id : String} {position : Nat}
    (found : graph.position? id = some position) :
    ∃ node, graph.nodes[position]? = some node ∧ node.id = id := by
  obtain ⟨bound, same, _⟩ := List.findIdx?_eq_some_iff_getElem.mp found
  exact ⟨_, List.getElem?_eq_getElem bound, by simpa using same⟩

theorem position?_isSome_iff {id : String} :
    (graph.position? id).isSome = true ↔ ∃ node ∈ graph.nodes, node.id = id := by
  simp [position?, List.findIdx?_isSome]

theorem mem_live_iff {node : Node} {position : Nat} :
    (node, position) ∈ graph.live ↔
      graph.nodes[position]? = some node ∧ graph.position? node.id = some position := by
  simp [live, List.mem_zipIdx_iff_getElem?]

theorem eq_of_live {node other : Node} {position : Nat} (live : (node, position) ∈ graph.live)
    (also : (other, position) ∈ graph.live) : node = other := by
  have listed := (mem_live_iff.mp live).1
  rw [(mem_live_iff.mp also).1, Option.some.injEq] at listed
  exact listed.symm

theorem eq_of_live_of_id {node other : Node} {position place : Nat}
    (live : (node, position) ∈ graph.live) (also : (other, place) ∈ graph.live)
    (same : node.id = other.id) : node = other := by
  have found := (mem_live_iff.mp live).2
  rw [same, (mem_live_iff.mp also).2] at found
  cases found
  exact eq_of_live live also

theorem live_of_position? {id : String} {position : Nat}
    (found : graph.position? id = some position) :
    ∃ node, (node, position) ∈ graph.live ∧ node.id = id := by
  obtain ⟨node, listed, rfl⟩ := getElem?_of_position? found
  exact ⟨node, mem_live_iff.mpr ⟨listed, found⟩, rfl⟩

theorem pairwise_live (graph : Graph) : (graph.live.map (·.2)).Pairwise (· < ·) :=
  (pairwise_zipIdx graph.nodes).sublist (List.filter_sublist.map _)

theorem nodup_live (graph : Graph) : (graph.live.map (·.2)).Nodup :=
  graph.pairwise_live.imp Nat.ne_of_lt

theorem pairwise_liveOfKind (graph : Graph) (kind : NodeKind) :
    (graph.liveOfKind kind).Pairwise (· < ·) :=
  graph.pairwise_live.sublist (List.filter_sublist.map _)

/-- Two live nodes differ in their ids. -/
theorem nodup_id_live (graph : Graph) : (graph.live.map fun entry => entry.1.id).Nodup := by
  have found : (graph.live.map fun entry => entry.1.id).map graph.position? =
      (graph.live.map (·.2)).map some := by
    simp only [List.map_map]
    exact List.map_congr_left fun entry live => (mem_live_iff.mp live).2
  have places : ((graph.live.map fun entry => entry.1.id).map graph.position?).Nodup := by
    rw [found]
    exact graph.nodup_live.map fun _ _ => Option.some.inj
  exact places.of_map

theorem mem_liveOfKind_iff {kind : NodeKind} {position : Nat} :
    position ∈ graph.liveOfKind kind ↔
      ∃ node, (node, position) ∈ graph.live ∧ node.kind = kind := by
  simp [liveOfKind]

theorem mem_links_iff {link : Link} :
    link ∈ graph.links ↔ ∃ edge, graph.edges[link.edge]? = some edge ∧
      graph.position? edge.source = some link.source ∧
      graph.position? edge.target = some link.target := by
  obtain ⟨place, source, target⟩ := link
  simp only [links, List.mem_filterMap, Prod.exists, List.mem_zipIdx_iff_getElem?]
  constructor
  · rintro ⟨edge, position, listed, linked⟩
    obtain ⟨⟨first, second⟩, ends, same⟩ := Option.map_eq_some_iff.mp linked
    cases same
    unfold endsOf? at ends
    split at ends
    · next found reached =>
      cases ends
      exact ⟨edge, listed, found, reached⟩
    · cases ends
  · rintro ⟨edge, listed, found, reached⟩
    exact ⟨edge, place, listed, by simp [endsOf?, found, reached]⟩

theorem endpoints?_eq_some_iff {edge source target : Nat} :
    graph.endpoints? edge = some (source, target) ↔ ⟨edge, source, target⟩ ∈ graph.links := by
  rw [endpoints?, Option.bind_eq_some_iff, mem_links_iff]
  refine exists_congr fun declared => and_congr_right fun _ => ?_
  unfold endsOf?
  split
  · next found reached => simp [found, reached]
  · next neither =>
    constructor
    · rintro ⟨⟩
    · intro ends
      exact absurd ends.2 (neither source target ends.1)

theorem lt_of_position? {id : String} {position : Nat}
    (found : graph.position? id = some position) : position < graph.nodes.length := by
  obtain ⟨_, listed, _⟩ := getElem?_of_position? found
  exact (List.getElem?_eq_some_iff.mp listed).1

theorem lt_of_live {node : Node} {position : Nat} (live : (node, position) ∈ graph.live) :
    position < graph.nodes.length :=
  lt_of_position? (mem_live_iff.mp live).2

theorem source_lt {link : Link} (listed : link ∈ graph.links) :
    link.source < graph.nodes.length := by
  obtain ⟨_, _, sourceAt, _⟩ := mem_links_iff.mp listed
  exact lt_of_position? sourceAt

theorem target_lt {link : Link} (listed : link ∈ graph.links) :
    link.target < graph.nodes.length := by
  obtain ⟨_, _, _, targetAt⟩ := mem_links_iff.mp listed
  exact lt_of_position? targetAt

end Graph

end DecisionGraph
