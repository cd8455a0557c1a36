import DecisionGraph.Proofs.ConnectionReport
import DecisionGraph.Proofs.Mended

/-!
Nodes and edges under new numbers. Where one graph carries the live nodes and the links of another,
whatever is said about positions is the same for the old numbers and the new ones.
-/

namespace DecisionGraph

open Relation

/-- The place of a position in a listing; positions that are not listed come behind it. -/
def rank (listing : List Nat) (position : Nat) : Nat :=
  if position ∈ listing then listing.idxOf position else listing.length + position

theorem rank_of_mem {listing : List Nat} {position : Nat} (listed : position ∈ listing) :
    rank listing position = listing.idxOf position := if_pos listed

theorem rank_injective (listing : List Nat) : Function.Injective (rank listing) := by
  intro first second same
  unfold rank at same
  split at same <;> split at same
  · next listed _ => exact (List.idxOf_inj listed).mp same
  · next listed _ =>
    have bound := List.idxOf_lt_length_iff.mpr listed
    omega
  · next listed =>
    have bound := List.idxOf_lt_length_iff.mpr listed
    omega
  · omega

/-- Numbering what is left of numbered items gives each its place among them. -/
theorem zipIdx_map_fst_of_nodup {α : Type} {entries : List (α × Nat)}
    (distinct : (entries.map (·.2)).Nodup) :
    (entries.map (·.1)).zipIdx =
      entries.map fun entry => (entry.1, rank (entries.map (·.2)) entry.2) := by
  refine List.ext_getElem (by simp) fun place bound _ => ?_
  have small : place < entries.length := by simpa using bound
  have inside : place < (entries.map (·.2)).length := by simpa using small
  have here : (entries.map (·.2))[place] = entries[place].2 := List.getElem_map _
  have numbered := distinct.idxOf_getElem place inside
  rw [here] at numbered
  have listed := List.getElem_mem inside
  rw [here] at listed
  simp [rank_of_mem listed, numbered]

/-- New numbers for the nodes and the edges of a graph. -/
structure Renumbering where
  node : Nat → Nat
  edge : Nat → Nat

namespace Renumbering

variable (moved : Renumbering)

def entry (entry : Node × Nat) : Node × Nat := (entry.1, moved.node entry.2)

def link (link : Link) : Link :=
  ⟨moved.edge link.edge, moved.node link.source, moved.node link.target⟩

def place : Place → Place
  | .nodes => .nodes
  | .edges => .edges
  | .node position => .node (moved.node position)
  | .nodeField position field => .nodeField (moved.node position) field
  | .edge position => .edge (moved.edge position)
  | .edgeField position field => .edgeField (moved.edge position) field

theorem leaving_map {links : List Link} {position : Nat}
    (apart : ∀ link ∈ links, moved.node link.source = moved.node position →
      link.source = position) :
    Link.leaving (links.map moved.link) (moved.node position) =
      (Link.leaving links position).map moved.link := by
  rw [Link.leaving, List.filter_map, Link.leaving]
  refine congrArg _ (List.filter_congr fun link listed => ?_)
  exact decide_eq_decide.mpr ⟨apart link listed, congrArg moved.node⟩

theorem entering_map {links : List Link} {position : Nat}
    (apart : ∀ link ∈ links, moved.node link.target = moved.node position →
      link.target = position) :
    Link.entering (links.map moved.link) (moved.node position) =
      (Link.entering links position).map moved.link := by
  rw [Link.entering, List.filter_map, Link.entering]
  refine congrArg _ (List.filter_congr fun link listed => ?_)
  exact decide_eq_decide.mpr ⟨apart link listed, congrArg moved.node⟩

/-- Ids are declared at the same nodes when the live nodes are the same. -/
theorem position?_of_live_perm {moved : Renumbering} {graph other : Graph}
    (live : other.live.Perm (graph.live.map moved.entry)) (id : String) :
    other.position? id = (graph.position? id).map moved.node := by
  cases found : graph.position? id with
  | some position =>
      obtain ⟨node, listed, rfl⟩ := Graph.live_of_position? found
      have moves := live.mem_iff.mpr (List.mem_map_of_mem listed)
      exact (Graph.mem_live_iff.mp moves).2
  | none =>
      refine Option.eq_none_iff_forall_ne_some.mpr fun place declared => ?_
      obtain ⟨node, listed, rfl⟩ := Graph.live_of_position? declared
      obtain ⟨⟨_, position⟩, before, same⟩ := List.mem_map.mp (live.mem_iff.mp listed)
      cases same
      rw [(Graph.mem_live_iff.mp before).2] at found
      cases found

/-- Edges under new numbers give the links under new numbers. -/
theorem filterMap_endsOf? {moved : Renumbering} {graph other : Graph}
    (declared : ∀ id, other.position? id = (graph.position? id).map moved.node)
    (entries : List (Edge × Nat)) :
    (entries.map fun entry => (entry.1, moved.edge entry.2)).filterMap (fun entry =>
        (other.endsOf? entry.1).map fun ends => (⟨entry.2, ends.1, ends.2⟩ : Link)) =
      (entries.filterMap fun entry =>
        (graph.endsOf? entry.1).map fun ends => ⟨entry.2, ends.1, ends.2⟩).map moved.link := by
  have ends (edge : Edge) : other.endsOf? edge =
      (graph.endsOf? edge).map fun ends => (moved.node ends.1, moved.node ends.2) := by
    rw [Graph.endsOf?, Graph.endsOf?, declared, declared]
    cases graph.position? edge.source <;> cases graph.position? edge.target <;> rfl
  rw [List.filterMap_map, List.map_filterMap]
  refine List.filterMap_congr fun entry _ => ?_
  simp only [Function.comp, ends, Option.map_map]
  rfl

/-- The other graph has the live nodes and the links under new numbers, listed in any order. -/
structure Carries (graph other : Graph) : Prop where
  live : other.live.Perm (graph.live.map moved.entry)
  links : other.links.Perm (graph.links.map moved.link)
  edges : ∀ link ∈ graph.links, other.edges[moved.edge link.edge]? = graph.edges[link.edge]?

end Renumbering

/-- A node stands at the position, and its id finds it there. -/
def Graph.IsLive (graph : Graph) (position : Nat) : Prop := ∃ node, (node, position) ∈ graph.live

namespace Graph

variable {graph : Graph}

theorem isLive_of_position? {id : String} {position : Nat}
    (found : graph.position? id = some position) : graph.IsLive position := by
  obtain ⟨node, live, _⟩ := live_of_position? found
  exact ⟨node, live⟩

theorem isLive_source {link : Link} (listed : link ∈ graph.links) : graph.IsLive link.source := by
  obtain ⟨_, _, sourceAt, _⟩ := mem_links_iff.mp listed
  exact isLive_of_position? sourceAt

theorem isLive_target {link : Link} (listed : link ∈ graph.links) : graph.IsLive link.target := by
  obtain ⟨_, _, _, targetAt⟩ := mem_links_iff.mp listed
  exact isLive_of_position? targetAt

theorem IsLive.lt {position : Nat} (live : graph.IsLive position) :
    position < graph.nodes.length :=
  lt_of_live live.choose_spec

end Graph

namespace Renumbering.Carries

variable {moved : Renumbering} {graph other : Graph} (carries : moved.Carries graph other)

include carries

theorem mem_live {node : Node} {position : Nat} (live : (node, position) ∈ graph.live) :
    (node, moved.node position) ∈ other.live :=
  carries.live.mem_iff.mpr (List.mem_map.mpr ⟨_, live, rfl⟩)

theorem isLive {position : Nat} (live : graph.IsLive position) :
    other.IsLive (moved.node position) :=
  ⟨_, carries.mem_live live.choose_spec⟩

theorem node_inj {first second : Nat} (live : graph.IsLive first) (also : graph.IsLive second) :
    moved.node first = moved.node second ↔ first = second := by
  obtain ⟨one, live⟩ := live
  obtain ⟨two, also⟩ := also
  have distinct : (graph.live.map fun entry => moved.node entry.2).Nodup := by
    have moves := (carries.live.map (·.2)).nodup_iff.mp other.nodup_live
    rwa [List.map_map] at moves
  refine ⟨fun same => ?_, congrArg moved.node⟩
  exact congrArg (·.2) (List.inj_on_of_nodup_map distinct live also same)

theorem position?_eq (id : String) : other.position? id = (graph.position? id).map moved.node :=
  position?_of_live_perm carries.live id

theorem kindAt?_eq {position : Nat} (live : graph.IsLive position) :
    other.kindAt? (moved.node position) = graph.kindAt? position := by
  obtain ⟨node, live⟩ := live
  rw [Graph.kindAt?, Graph.kindAt?, (Graph.mem_live_iff.mp live).1,
    (Graph.mem_live_iff.mp (carries.mem_live live)).1]

theorem idAt_eq {position : Nat} (live : graph.IsLive position) :
    other.idAt (moved.node position) = graph.idAt position := by
  obtain ⟨node, live⟩ := live
  rw [Graph.idAt_of_live live, Graph.idAt_of_live (carries.mem_live live)]

theorem liveOfKind_perm (kind : NodeKind) :
    (other.liveOfKind kind).Perm ((graph.liveOfKind kind).map moved.node) := by
  have kept := (carries.live.filter fun entry => entry.1.kind = kind).map (·.2)
  rw [List.filter_map, List.map_map] at kept
  rw [Graph.liveOfKind, Graph.liveOfKind, List.map_map]
  exact kept

theorem uniqueOfKind?_eq (kind : NodeKind) :
    other.uniqueOfKind? kind = (graph.uniqueOfKind? kind).map moved.node := by
  have perm := carries.liveOfKind_perm kind
  unfold Graph.uniqueOfKind?
  generalize graph.liveOfKind kind = before at perm
  generalize other.liveOfKind kind = after at perm
  rcases before with _ | ⟨only, _ | ⟨second, more⟩⟩
  · rw [List.perm_nil.mp perm]
    rfl
  · rw [List.perm_singleton.mp perm]
    rfl
  · rcases after with _ | ⟨first, _ | ⟨next, others⟩⟩
    · rfl
    · have counts := perm.length_eq
      simp at counts
    · rfl

/-! Links and walks. -/

theorem mem_links {link : Link} (listed : link ∈ graph.links) : moved.link link ∈ other.links :=
  carries.links.mem_iff.mpr (List.mem_map_of_mem listed)

theorem exists_link {link : Link} (listed : link ∈ other.links) :
    ∃ before ∈ graph.links, moved.link before = link :=
  List.mem_map.mp (carries.links.mem_iff.mp listed)

theorem leaving_map {position : Nat} (live : graph.IsLive position) :
    Link.leaving (graph.links.map moved.link) (moved.node position) =
      (Link.leaving graph.links position).map moved.link :=
  moved.leaving_map fun _ listed =>
    (carries.node_inj (Graph.isLive_source listed) live).mp

theorem entering_map {position : Nat} (live : graph.IsLive position) :
    Link.entering (graph.links.map moved.link) (moved.node position) =
      (Link.entering graph.links position).map moved.link :=
  moved.entering_map fun _ listed =>
    (carries.node_inj (Graph.isLive_target listed) live).mp

theorem leaving_perm {position : Nat} (live : graph.IsLive position) :
    (Link.leaving other.links (moved.node position)).Perm
      ((Link.leaving graph.links position).map moved.link) :=
  carries.leaving_map live ▸ carries.links.filter _

theorem entering_perm {position : Nat} (live : graph.IsLive position) :
    (Link.entering other.links (moved.node position)).Perm
      ((Link.entering graph.links position).map moved.link) :=
  carries.entering_map live ▸ carries.links.filter _

theorem leads {first second : Nat} (leads : Link.Leads graph.links first second) :
    Link.Leads other.links (moved.node first) (moved.node second) := by
  obtain ⟨link, listed, rfl, rfl⟩ := leads
  exact ⟨_, carries.mem_links listed, rfl, rfl⟩

theorem exists_leads {first place : Nat} (live : graph.IsLive first)
    (leads : Link.Leads other.links (moved.node first) place) :
    ∃ second, graph.IsLive second ∧ moved.node second = place ∧
      Link.Leads graph.links first second := by
  obtain ⟨_, listed, source, rfl⟩ := leads
  obtain ⟨link, before, rfl⟩ := carries.exists_link listed
  have same := (carries.node_inj (Graph.isLive_source before) live).mp source
  exact ⟨link.target, Graph.isLive_target before, rfl, link, before, same, rfl⟩

/-- Walks between live nodes are the same walks under new numbers. -/
theorem walk_iff {first second : Nat} (live : graph.IsLive first) (also : graph.IsLive second) :
    ReflTransGen (Link.Leads other.links) (moved.node first) (moved.node second) ↔
      ReflTransGen (Link.Leads graph.links) first second := by
  constructor
  · intro walk
    have back : ∀ place, ReflTransGen (Link.Leads other.links) (moved.node first) place →
        ∃ last, graph.IsLive last ∧ moved.node last = place ∧
          ReflTransGen (Link.Leads graph.links) first last := by
      intro place walk
      induction walk with
      | refl => exact ⟨first, live, rfl, .refl⟩
      | tail _ step ih =>
          obtain ⟨last, reached, rfl, walk⟩ := ih
          obtain ⟨next, also, same, leads⟩ := carries.exists_leads reached step
          exact ⟨next, also, same, walk.tail leads⟩
    obtain ⟨last, reached, same, walk⟩ := back _ walk
    rwa [(carries.node_inj reached also).mp same] at walk
  · exact ReflTransGen.lift moved.node (fun _ _ => carries.leads) _ _

end Renumbering.Carries

end DecisionGraph
