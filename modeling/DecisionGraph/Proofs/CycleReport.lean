import DecisionGraph.Proofs.Distinct
import DecisionGraph.Proofs.Passes
import DecisionGraph.Proofs.Paths
import Mathlib.Data.List.Perm.Subperm

/-!
What a report says about cycles. Each cycle that it names is a closed walk of the graph, no edge
closes two of them, and a graph without the edges that close them has no cycle left.
-/

namespace DecisionGraph

open Relation

/-! A search follows each link once, so no edge closes two of the cycles that it finds. -/

namespace Cycle

/-- The edges that a search may still follow: those pending on its path and those that leave nodes
not entered yet. -/
def ahead (links : List Link) (fresh : List Nat) (path : List Frame) : List Nat :=
  path.flatMap (fun frame => frame.pending.map Link.edge) ++
    fresh.flatMap fun node => (Link.leaving links node).map Link.edge

theorem ahead_link (links : List Link) (fresh : List Nat) (node : Nat) (link : Link)
    (pending : List Link) (path : List Frame) :
    ahead links fresh (⟨node, link :: pending⟩ :: path) =
      link.edge :: ahead links fresh (⟨node, pending⟩ :: path) := rfl

theorem ahead_perm (links : List Link) {fresh other : List Nat} (same : fresh.Perm other)
    (path : List Frame) : (ahead links fresh path).Perm (ahead links other path) :=
  (same.flatMap_right _).append_left _

/-- Entering a node moves its links from the fresh nodes to the path. -/
theorem ahead_enter (links : List Link) (fresh : List Nat) (node : Nat) (path : List Frame) :
    (ahead links fresh (⟨node, Link.leaving links node⟩ :: path)).Perm
      (ahead links (node :: fresh) path) := by
  unfold ahead
  rw [List.flatMap_cons, List.flatMap_cons, List.append_assoc]
  exact List.perm_append_comm_assoc _ _ _

theorem closingEdges_subperm (links : List Link) (fresh : List Nat) (path : List Frame) :
    ((search links fresh path).map closingEdge).Subperm (ahead links fresh path) := by
  fun_induction search links fresh path with
  | case1 => exact List.Subperm.refl _
  | case2 start fresh ih => simpa [ahead] using ih
  | case3 fresh node path ih => simpa [ahead] using ih
  | case4 fresh node link pending path entered ih =>
      have moved := (ahead_enter links (fresh.erase link.target) link.target
        (⟨node, pending⟩ :: path)).trans (ahead_perm links (List.perm_cons_erase entered).symm _)
      rw [ahead_link]
      exact (ih.trans moved.subperm).trans (List.sublist_cons_self _ _).subperm
  | case5 fresh node link pending path entered back ih =>
      rw [ahead_link, List.map_cons]
      exact (List.subperm_cons link.edge).mpr ih
  | case6 fresh node link pending path entered finished ih =>
      rw [ahead_link]
      exact ih.trans (List.sublist_cons_self _ _).subperm

end Cycle

namespace Graph

variable {graph : Graph}

theorem nodup_edge_links (graph : Graph) : (graph.links.map Link.edge).Nodup := by
  have positions := nodup_zipIdx graph.edges
  rw [List.nodup_iff_pairwise_ne, List.pairwise_map] at positions
  rw [List.nodup_iff_pairwise_ne, List.pairwise_map, links, List.pairwise_filterMap]
  refine positions.imp fun apart link found other alsoFound => ?_
  obtain ⟨_, _, rfl⟩ := Option.map_eq_some_iff.mp found
  obtain ⟨_, _, rfl⟩ := Option.map_eq_some_iff.mp alsoFound
  exact apart

theorem eq_of_edge_eq {link other : Link} (listed : link ∈ graph.links)
    (alsoListed : other ∈ graph.links) (same : link.edge = other.edge) : link = other :=
  List.inj_on_of_nodup_map graph.nodup_edge_links listed alsoListed same

end Graph

/-- At the beginning every edge that links anything is ahead, and ahead once. -/
theorem Cycle.nodup_ahead (graph : Graph) :
    (ahead graph.links (graph.live.map (·.2)) []).Nodup := by
  simp only [ahead, List.flatMap_nil, List.nil_append, List.nodup_flatMap]
  constructor
  · intro node _
    exact graph.nodup_edge_links.sublist (List.filter_sublist.map _)
  · refine (List.nodup_iff_pairwise_ne.mp graph.nodup_live).imp fun apart => ?_
    intro edge left right
    obtain ⟨link, leaves, rfl⟩ := List.mem_map.mp left
    obtain ⟨other, alsoLeaves, same⟩ := List.mem_map.mp right
    obtain ⟨listed, source⟩ := pending_leaving _ _ link leaves
    obtain ⟨alsoListed, alsoSource⟩ := pending_leaving _ _ other alsoLeaves
    have equal := Graph.eq_of_edge_eq alsoListed listed same
    exact apart (source.symm.trans (equal ▸ alsoSource))

theorem Cycle.nodup_closingEdges (graph : Graph) : ((find graph).map closingEdge).Nodup := by
  obtain ⟨part, perm, sublist⟩ := closingEdges_subperm graph.links (graph.live.map (·.2)) []
  exact perm.nodup ((nodup_ahead graph).sublist sublist)

/-! Edges between declared ids. -/

namespace Graph

variable {graph : Graph}

/-- An edge leads from the one id to the other, and both are declared. An id stands for the first
node that declares it. -/
def Resolved (graph : Graph) (source target : String) : Prop :=
  ∃ edge ∈ graph.edges, edge.source = source ∧ edge.target = target ∧
    (graph.position? source).isSome = true ∧ (graph.position? target).isSome = true

/-- A walk along edges with declared ends comes back to where it began. -/
def Cyclic (graph : Graph) : Prop := ∃ id, TransGen graph.Resolved id id

theorem resolved_of_leads {source target : Nat} (leads : Link.Leads graph.links source target) :
    graph.Resolved (graph.idAt source) (graph.idAt target) := by
  obtain ⟨link, listed, rfl, rfl⟩ := leads
  obtain ⟨edge, found, sourceAt, targetAt⟩ := mem_links_iff.mp listed
  obtain ⟨source, sourceListed, sourceId⟩ := getElem?_of_position? sourceAt
  obtain ⟨target, targetListed, targetId⟩ := getElem?_of_position? targetAt
  rw [idAt_of_getElem? sourceListed, idAt_of_getElem? targetListed, sourceId, targetId]
  exact ⟨edge, List.mem_of_getElem? found, rfl, rfl, by simp [sourceAt], by simp [targetAt]⟩

theorem leads_of_resolved {source target : String} (resolved : graph.Resolved source target) :
    Link.Leads graph.links (graph.place source) (graph.place target) := by
  obtain ⟨edge, member, rfl, rfl, sourceDeclared, targetDeclared⟩ := resolved
  obtain ⟨position, listed⟩ := List.mem_iff_getElem?.mp member
  exact ⟨_, mem_links_of_edge listed sourceDeclared targetDeclared, rfl, rfl⟩

theorem cyclic_iff :
    graph.Cyclic ↔ ∃ position, TransGen (Link.Leads graph.links) position position := by
  constructor
  · rintro ⟨id, walk⟩
    exact ⟨_, TransGen.lift graph.place (fun _ _ => leads_of_resolved) _ _ walk⟩
  · rintro ⟨position, walk⟩
    exact ⟨_, TransGen.lift graph.idAt (fun _ _ => resolved_of_leads) _ _ walk⟩

theorem find_ne_nil_iff : Cycle.find graph ≠ [] ↔ graph.Cyclic := by
  rw [cyclic_iff, ne_eq, Cycle.find_eq_nil_iff, not_forall]
  simp only [not_not]

end Graph

/-! The cycles of a report are those that the search finds. -/

theorem Finding.context_issue_cycle (position : Nat) (ids : List String) :
    (Finding.cycle position ids).issue.context =
      .object [("cycle", .ofStrings ids), ("edge_index", .ofNat position)] :=
  (Json.free_pair (by decide) _ _).1

theorem Survey.findings_cycleDetected (survey : Survey) (limits : Limits) :
    ((survey.findings limits).filter fun finding => finding.code = .cycleDetected) =
      survey.cycles := by
  rw [filter_code_topology _ _ rfl, filter_code_wiring]
  simp

namespace Graph

variable {graph : Graph} {limits : Limits}

theorem withCode_cycleDetected (graph : Graph) (limits : Limits) :
    (graph.check limits).withCode .cycleDetected =
      (Cycle.find graph).map fun cycle =>
        (Finding.cycle cycle.closingEdge ((Survey.ofGraph graph).idsAlong cycle)).issue := by
  rw [withCode_check, Survey.findings_cycleDetected, Survey.cycles, List.map_map]
  rfl

theorem hasCode_cycleDetected_iff :
    (graph.check limits).hasCode .cycleDetected = true ↔ graph.Cyclic := by
  have any : (graph.check limits).hasCode .cycleDetected = true ↔
      (graph.check limits).withCode .cycleDetected ≠ [] := by
    simp [Report.hasCode, Report.withCode]
  rw [any, withCode_cycleDetected, ne_eq, List.map_eq_nil_iff]
  exact find_ne_nil_iff

end Graph

/-- The report names the edge at a position as one that closes a cycle. -/
def Report.closesCycle (report : Report) (position : Nat) : Bool :=
  (report.withCode .cycleDetected).any fun issue => issue.path = (Place.edge position).text

namespace Graph

variable {graph : Graph}

def withoutEdges (graph : Graph) (dropped : Nat → Bool) : Graph :=
  { graph with edges := (graph.edges.zipIdx.filter fun entry => !dropped entry.2).map Prod.fst }

theorem mem_edges_withoutEdges {dropped : Nat → Bool} {edge : Edge} :
    edge ∈ (graph.withoutEdges dropped).edges ↔
      ∃ position, graph.edges[position]? = some edge ∧ dropped position = false := by
  simp [withoutEdges, List.mem_zipIdx_iff_getElem?]

theorem leads_of_resolved_withoutEdges {dropped : Nat → Bool} {source target : String}
    (resolved : (graph.withoutEdges dropped).Resolved source target) :
    Link.Leads (graph.links.filter fun link => !dropped link.edge) (graph.place source)
      (graph.place target) := by
  obtain ⟨edge, member, rfl, rfl, sourceDeclared, targetDeclared⟩ := resolved
  obtain ⟨position, listed, kept⟩ := mem_edges_withoutEdges.mp member
  have link := mem_links_of_edge listed sourceDeclared targetDeclared
  exact ⟨_, List.mem_filter.mpr ⟨link, by simp [kept]⟩, rfl, rfl⟩

/-- Without the edges that a report names no cycle is left, and it names none just when there was
no cycle. -/
theorem not_cyclic_withoutEdges (graph : Graph) (limits : Limits) :
    ¬ (graph.withoutEdges (graph.check limits).closesCycle).Cyclic ∧
      ((graph.check limits).hasCode .cycleDetected = true ↔ graph.Cyclic) := by
  refine ⟨?_, hasCode_cycleDetected_iff⟩
  rintro ⟨id, walk⟩
  have lifted := TransGen.lift graph.place (fun _ _ => leads_of_resolved_withoutEdges) _ _ walk
  refine Cycle.not_transGen_of_cut List.filter_sublist.subset ?_ _ lifted
  intro cycle found link kept same
  have named : (graph.check limits).closesCycle link.edge = true := by
    rw [Report.closesCycle, withCode_cycleDetected, List.any_map, List.any_eq_true]
    exact ⟨cycle, found, by simp [same, Finding.issue, Issue.ofCode, Finding.place]⟩
  simp [named] at kept

end Graph

/-! Each cycle in a report is a closed walk. -/

theorem exists_next_of_isChain {α : Type} {follows : α → α → Prop} {items : List α} {last item : α}
    (chain : (items ++ [last]).IsChain follows) (member : item ∈ items) :
    ∃ next, follows item next := by
  induction items with
  | nil => cases member
  | cons first rest ih =>
      rcases List.mem_cons.mp member with rfl | later
      · cases rest with
        | nil => exact ⟨last, List.isChain_pair.mp chain⟩
        | cons second rest => exact ⟨second, chain.rel⟩
      · exact ih chain.tail later

theorem Cycle.Closed.isChain {links : List Link} {cycle : Cycle} (closed : cycle.Closed links)
    {first : Nat} {rest : List Nat} (walk : cycle.positions = first :: rest) :
    (first :: rest ++ [first]).IsChain (Link.Leads links) := by
  obtain ⟨link, listed, _, head, last⟩ := closed.closing
  rw [walk] at head last
  cases head
  refine List.isChain_append.mpr ⟨walk ▸ closed.walk, List.isChain_singleton _, ?_⟩
  intro position final other same
  cases same
  rw [last] at final
  cases final
  exact ⟨link, listed, rfl, rfl⟩

namespace Graph

variable {graph : Graph}

theorem position?_idAt_of_leads {source target : Nat}
    (leads : Link.Leads graph.links source target) :
    graph.position? (graph.idAt source) = some source := by
  obtain ⟨link, listed, rfl, _⟩ := leads
  obtain ⟨edge, _, sourceAt, _⟩ := mem_links_iff.mp listed
  obtain ⟨node, nodeListed, same⟩ := getElem?_of_position? sourceAt
  rw [idAt_of_getElem? nodeListed, same, sourceAt]

/-- The edge at a position closes the walk along the given ids: they are distinct, edges lead from
each to the next and back to the first, and the edge at the position is the last of these. -/
structure ClosedBy (graph : Graph) (position : Nat) (first : String) (rest : List String) :
    Prop where
  distinct : (first :: rest).Nodup
  walk : (first :: rest ++ [first]).IsChain graph.Resolved
  closing : ∃ edge, graph.edges[position]? = some edge ∧
    (first :: rest).getLast? = some edge.source ∧ edge.target = first

theorem closedBy_of_closed {cycle : Cycle} (closed : cycle.Closed graph.links) {first : Nat}
    {rest : List Nat} (walk : cycle.positions = first :: rest) :
    graph.ClosedBy cycle.closingEdge (graph.idAt first) (rest.map graph.idAt) := by
  have chain := closed.isChain walk
  obtain ⟨link, listed, closes, head, last⟩ := closed.closing
  obtain ⟨edge, found, sourceAt, targetAt⟩ := mem_links_iff.mp listed
  rw [walk] at head last
  cases head
  refine ⟨?_, ?_, edge, closes ▸ found, ?_, ?_⟩
  · have distinct := closed.distinct
    rw [walk] at distinct
    rw [← List.map_cons]
    refine distinct.map_on fun position member other alsoMember same => ?_
    obtain ⟨_, leads⟩ := exists_next_of_isChain chain member
    obtain ⟨_, alsoLeads⟩ := exists_next_of_isChain chain alsoMember
    have found := position?_idAt_of_leads leads
    rw [same, position?_idAt_of_leads alsoLeads] at found
    exact (Option.some.inj found).symm
  · have mapped := (List.isChain_map graph.idAt).mpr (chain.imp fun _ _ => resolved_of_leads)
    simpa using mapped
  · obtain ⟨node, nodeListed, same⟩ := getElem?_of_position? sourceAt
    rw [← List.map_cons, List.getLast?_map, last, Option.map_some, idAt_of_getElem? nodeListed,
      same]
  · obtain ⟨node, nodeListed, same⟩ := getElem?_of_position? targetAt
    rw [idAt_of_getElem? nodeListed, same]

theorem idsAlong_ofGraph {cycle : Cycle} {first : Nat} {rest : List Nat}
    (walk : cycle.positions = first :: rest) :
    (Survey.ofGraph graph).idsAlong cycle =
      graph.idAt first :: rest.map graph.idAt ++ [graph.idAt first] := by
  simp [Survey.idsAlong, walk, Survey.ofGraph]

/-- Each cycle in a report is real: its context names the edge of its path and the ids of a walk
that this edge closes. No edge is reported twice. -/
theorem closedBy_of_reported (graph : Graph) (limits : Limits) :
    (∀ issue ∈ (graph.check limits).withCode .cycleDetected, ∃ position first rest,
      issue.path = (Place.edge position).text ∧
      issue.context = .object [("cycle", .ofStrings (first :: rest ++ [first])),
        ("edge_index", .ofNat position)] ∧
      graph.ClosedBy position first rest) ∧
    (((graph.check limits).withCode .cycleDetected).map Issue.path).Nodup := by
  rw [withCode_cycleDetected]
  constructor
  · intro issue reported
    obtain ⟨cycle, found, rfl⟩ := List.mem_map.mp reported
    have closed := Cycle.closed_of_mem_find found
    obtain ⟨_, _, _, head, _⟩ := closed.closing
    obtain ⟨rest, walk⟩ := List.head?_eq_some_iff.mp head
    refine ⟨cycle.closingEdge, _, _, rfl, ?_, closedBy_of_closed closed walk⟩
    rw [Finding.context_issue_cycle, idsAlong_ofGraph walk]
  · rw [List.map_map]
    have paths := (Cycle.nodup_closingEdges graph).map Place.text_edge_injective
    rw [List.map_map] at paths
    exact paths

end Graph

end DecisionGraph
