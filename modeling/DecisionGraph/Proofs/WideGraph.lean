import DecisionGraph.Proofs.Distinct
import DecisionGraph.Proofs.Held
import DecisionGraph.Proofs.Paths
import DecisionGraph.Proofs.WholeNumbers
import DecisionGraph.Sample

/-!
Wide graphs: any number of levers, each with a result of its own, and any number of plans that pull
all the levers. Whatever the numbers, such a graph is well-formed.
-/

namespace DecisionGraph

open Relation

theorem SortedMap.mem_keys_insertEntry {α : Type} {key id : String} {value : α}
    {entries : List (String × α)} :
    id ∈ (insertEntry key value entries).map (·.1) ↔ id = key ∨ id ∈ entries.map (·.1) := by
  induction entries with
  | nil => simp [insertEntry]
  | cons head rest ih =>
      obtain ⟨other, kept⟩ := head
      unfold insertEntry
      split
      · simp
      · split
        · next same => simp [same]
        · rw [List.map_cons, List.map_cons, List.mem_cons, List.mem_cons, ih, or_left_comm]

theorem SortedMap.mem_keys_ofList {α : Type} {id : String} {pairs : List (String × α)} :
    id ∈ (ofList pairs).entries.map (·.1) ↔ id ∈ pairs.map (·.1) := by
  have grows (map : SortedMap α) :
      id ∈ (pairs.foldl (fun map pair => map.insert pair.1 pair.2) map).entries.map (·.1) ↔
        id ∈ map.entries.map (·.1) ∨ id ∈ pairs.map (·.1) := by
    induction pairs generalizing map with
    | nil => simp
    | cons pair pairs ih =>
        rw [List.foldl_cons, ih, insert, mem_keys_insertEntry, List.map_cons, List.mem_cons,
          or_left_comm, or_assoc]
  rw [ofList, grows, empty, List.map_nil, List.mem_nil_iff, false_or]

namespace Sample

/-- What the nodes of a wide graph are there for. -/
inductive Station
  | start
  | finish
  | lever (number : Nat)
  | result (number : Nat)
  | plan (number : Nat)
  deriving DecidableEq

namespace Station

def id : Station → String
  | start => "dec_1"
  | finish => "goal_1"
  | lever number => s!"fac_{number}"
  | result number => s!"out_{number}"
  | plan number => s!"opt_{number}"

def kind : Station → NodeKind
  | start => .decision
  | finish => .goal
  | lever _ => .factor
  | result _ => .outcome
  | plan _ => .option

/-- How far from the start. -/
def level : Station → Nat
  | start => 0
  | plan _ => 1
  | lever _ => 2
  | result _ => 3
  | finish => 4

def Listed (factors options : Nat) : Station → Prop
  | start | finish => True
  | lever number | result number => number < factors
  | plan number => number < options

def node (factors : Nat) : Station → Node
  | start => ⟨"dec_1", "Decide", .decision⟩
  | finish => ⟨"goal_1", "Goal", .goal⟩
  | lever number =>
    ((Node.bareFactor s!"fac_{number}" s!"Lever {number}").withCategory .controllable).withData
      (.controlled (Float.ofNat number) .inferred .cost ["Supplier pricing"])
  | result number => ⟨s!"out_{number}", s!"Result {number}", .outcome⟩
  | plan number => Sample.plan factors number

/-- The edge from one station to another one. -/
def edge : Station → Station → Edge
  | lever number, target => .causal (lever number).id target.id 0.5 0.1 0.8
  | result number, target => .causal (result number).id target.id 0.4 0.1 0.8
  | source, target => .scaffold source.id target.id

/-- Plans pull all the levers, and a lever has one result. -/
inductive Track (factors options : Nat) : Station → Station → Prop
  | choice {number : Nat} (listed : number < options) : Track factors options start (plan number)
  | pull {number factor : Nat} (listed : number < options) (pulled : factor < factors) :
    Track factors options (plan number) (lever factor)
  | effect {number : Nat} (listed : number < factors) :
    Track factors options (lever number) (result number)
  | gain {number : Nat} (listed : number < factors) : Track factors options (result number) finish

variable {factors options : Nat} {station source target : Station} {node : Node} {edge : Edge}

theorem id_node : (station.node factors).id = station.id := by
  cases station <;> rfl

theorem kind_node : (station.node factors).kind = station.kind := by
  cases station <;> rfl

theorem source_edge : (source.edge target).source = source.id := by
  cases source <;> rfl

theorem target_edge : (source.edge target).target = target.id := by
  cases source <;> rfl

theorem toList_id (station : Station) :
    station.id.toList = match station with
      | start => "dec_1".toList
      | finish => "goal_1".toList
      | lever number => "fac_".toList ++ Nat.toDigits 10 number
      | result number => "out_".toList ++ Nat.toDigits 10 number
      | plan number => "opt_".toList ++ Nat.toDigits 10 number := by
  cases station <;> simp [id, toString, Nat.repr]

theorem id_injective : Function.Injective id := by
  intro station other same
  have letters := congrArg String.toList same
  rw [toList_id, toList_id] at letters
  cases station <;> cases other <;> simp [toDigits_inj] at letters ⊢
  all_goals exact letters

theorem level_lt (track : Track factors options source target) : source.level < target.level := by
  cases track <;> simp [level]

/-- All stations, in the order of the nodes. -/
def all (factors options : Nat) : List Station :=
  [start, finish] ++ (List.range factors).flatMap (fun number => [lever number, result number])
    ++ (List.range options).map plan

theorem mem_all_iff : station ∈ all factors options ↔ station.Listed factors options := by
  cases station <;> simp [all, Listed]

theorem nodup_all : (all factors options).Nodup := by
  have pairs : ((List.range factors).flatMap fun number => [lever number, result number]).Nodup := by
    apply List.nodup_flatMap.mpr
    constructor
    · intro number _
      simp
    · refine List.nodup_range.imp fun apart => ?_
      simp [apart.symm]
  have plans : ((List.range options).map plan).Nodup :=
    List.nodup_range.map fun _ _ same => plan.inj same
  have apart : ∀ station factor, factor < factors → station = lever factor ∨ station = result factor →
      ∀ number < options, station ≠ plan number := by
    rintro station factor _ (rfl | rfl) number _ <;> simp
  simpa [all, List.nodup_append, pairs, plans] using apart

end Station

open Station

section Wide

variable {factors options : Nat} {station source target : Station} {node : Node} {edge : Edge}

theorem nodes_wide : (wide factors options).nodes = (all factors options).map (Station.node factors) := by
  have levers : lever = fun number => [Station.node factors (.lever number),
      Station.node factors (.result number)] := rfl
  have plans : Sample.plan factors = fun number => Station.node factors (.plan number) := rfl
  rw [wide, Graph.ofLists, levers, plans, all, List.map_append, List.map_append, List.map_flatMap,
    List.map_map]
  rfl

theorem length_nodes_wide : (wide factors options).nodes.length = 2 + 2 * factors + options := by
  rw [nodes_wide, List.length_map]
  simp [all, List.length_flatMap]
  omega

theorem length_edges_wide :
    (wide factors options).edges.length = 2 * factors + options + factors * options := by
  simp [wide, Graph.ofLists, leverEdges, planEdges, List.length_flatMap]
  ring

theorem mem_nodes_wide :
    node ∈ (wide factors options).nodes ↔
      ∃ station : Station, station.Listed factors options ∧ station.node factors = node := by
  rw [nodes_wide, List.mem_map]
  simp only [mem_all_iff]

theorem mem_edges_wide :
    edge ∈ (wide factors options).edges ↔
      ∃ source target : Station, Track factors options source target ∧ source.edge target = edge := by
  simp only [wide, Graph.ofLists, List.mem_append, List.mem_flatMap, List.mem_range]
  constructor
  · rintro (⟨number, listed, found⟩ | ⟨number, listed, found⟩)
    · rcases List.mem_pair.mp found with rfl | rfl
      · exact ⟨_, _, .effect listed, rfl⟩
      · exact ⟨_, _, .gain listed, rfl⟩
    · rcases List.mem_cons.mp found with rfl | found
      · exact ⟨_, _, .choice listed, rfl⟩
      · obtain ⟨factor, pulled, rfl⟩ := List.mem_map.mp found
        exact ⟨_, _, .pull listed (List.mem_range.mp pulled), rfl⟩
  · rintro ⟨source, target, track, rfl⟩
    cases track with
    | choice listed => exact Or.inr ⟨_, listed, List.mem_cons_self⟩
    | pull listed pulled =>
        refine Or.inr ⟨_, listed, List.mem_cons_of_mem _ ?_⟩
        exact List.mem_map.mpr ⟨_, List.mem_range.mpr pulled, rfl⟩
    | effect listed => exact Or.inl ⟨_, listed, by simp [leverEdges, Station.edge, Station.id]⟩
    | gain listed => exact Or.inl ⟨_, listed, by simp [leverEdges, Station.edge, Station.id]⟩

theorem joins_wide {first second : String} :
    (wide factors options).Joins first second ↔
      ∃ source target, Track factors options source target ∧
        source.id = first ∧ target.id = second := by
  constructor
  · rintro ⟨edge, member, rfl, rfl⟩
    obtain ⟨source, target, track, rfl⟩ := mem_edges_wide.mp member
    exact ⟨source, target, track, source_edge.symm, target_edge.symm⟩
  · rintro ⟨source, target, track, rfl, rfl⟩
    exact ⟨_, mem_edges_wide.mpr ⟨source, target, track, rfl⟩, source_edge, target_edge⟩

theorem joins_id_iff :
    (wide factors options).Joins source.id target.id ↔ Track factors options source target := by
  rw [joins_wide]
  constructor
  · rintro ⟨other, next, track, same, also⟩
    rwa [id_injective same, id_injective also] at track
  · intro track
    exact ⟨source, target, track, rfl, rfl⟩

theorem level_lt_of_walk {id : String}
    (walk : TransGen (wide factors options).Joins source.id id) :
    ∃ target : Station, target.id = id ∧ source.level < target.level := by
  induction walk with
  | single joins =>
      obtain ⟨other, target, track, same, rfl⟩ := joins_wide.mp joins
      cases id_injective same
      exact ⟨target, rfl, level_lt track⟩
  | tail _ joins ih =>
      obtain ⟨middle, rfl, above⟩ := ih
      obtain ⟨other, target, track, same, rfl⟩ := joins_wide.mp joins
      cases id_injective same
      exact ⟨target, rfl, above.trans (level_lt track)⟩

theorem acyclic_wide (id : String) : ¬ TransGen (wide factors options).Joins id id := by
  intro walk
  obtain ⟨second, joins, _⟩ := TransGen.head'_iff.mp walk
  obtain ⟨source, _, _, rfl, _⟩ := joins_wide.mp joins
  obtain ⟨target, same, above⟩ := level_lt_of_walk walk
  rw [id_injective same] at above
  exact Nat.lt_irrefl _ above

theorem ids_wide :
    (wide factors options).nodes.map Node.id = (all factors options).map Station.id := by
  rw [nodes_wide, List.map_map]
  exact List.map_congr_left fun _ _ => id_node

theorem nodup_ids_wide : ((wide factors options).nodes.map Node.id).Nodup := by
  rw [ids_wide]
  exact nodup_all.map id_injective

theorem countKind_wide (kind : NodeKind) :
    (wide factors options).countKind kind =
      (all factors options).countP fun station => station.kind = kind := by
  rw [Graph.countKind, nodes_wide, ← List.countP_eq_length_filter, List.countP_map]
  simp only [Function.comp_def, kind_node]

/-- What joins stations joins nodes that are there. -/
theorem listed_of_track (track : Track factors options source target) :
    source.Listed factors options ∧ target.Listed factors options := by
  cases track <;> simp_all [Listed]

theorem mem_of_listed (station : Station) (listed : station.Listed factors options) :
    station.node factors ∈ (wide factors options).nodes :=
  mem_nodes_wide.mpr ⟨station, listed, rfl⟩

theorem sound_wide : (wide factors options).Sound where
  distinct := nodup_ids_wide
  declared edge member := by
    obtain ⟨source, target, track, rfl⟩ := mem_edges_wide.mp member
    obtain ⟨leaves, enters⟩ := listed_of_track track
    exact ⟨⟨_, mem_of_listed _ leaves, id_node.trans source_edge.symm⟩,
      ⟨_, mem_of_listed _ enters, id_node.trans target_edge.symm⟩⟩

theorem settings_plan {number : Nat} {setting : String × Double}
    (set : setting ∈ ((Station.plan number).node factors).settings) :
    ∃ factor < factors, setting =
      ((Station.lever factor).id, .ofFloat (Float.ofNat (number * 10 + factor))) := by
  obtain ⟨_, listed, rfl⟩ := List.mem_map.mp (SortedMap.mem_of_mem_ofList set)
  obtain ⟨factor, pulled, rfl⟩ := List.mem_map.mp listed
  exact ⟨factor, List.mem_range.mp pulled, rfl⟩

theorem exists_setting {number factor : Nat} (pulled : factor < factors) :
    ((Station.lever factor).id, .ofFloat (Float.ofNat (number * 10 + factor))) ∈
      ((Station.plan number).node factors).settings := by
  have listed : (Station.lever factor).id ∈
      (((Station.plan number).node factors).settings).map (·.1) := by
    apply SortedMap.mem_keys_ofList.mpr
    rw [List.map_map, List.map_map]
    exact List.mem_map.mpr ⟨factor, List.mem_range.mpr pulled, rfl⟩
  obtain ⟨setting, set, same⟩ := List.mem_map.mp listed
  obtain ⟨other, _, rfl⟩ := settings_plan set
  have same : (Station.lever other).id = (Station.lever factor).id := same
  cases id_injective same
  exact set

/-- Plans differ in what they set the first lever to. -/
theorem settings_differ {first second : Nat} (someFactor : 0 < factors) (apart : first ≠ second)
    (small : first * 10 < 2 ^ 53) (low : second * 10 < 2 ^ 53) :
    ¬ List.Forall₂ SameSetting ((Station.plan first).node factors).settings
      ((Station.plan second).node factors).settings := by
  intro same
  obtain ⟨lengths, equal⟩ := List.forall₂_iff_get.mp same
  have set : _ ∈ ((Station.plan first).node factors).settings := exists_setting someFactor
  obtain ⟨index, found⟩ := List.mem_iff_get.mp set
  have bound : index < ((Station.plan second).node factors).settings.length := by
    rw [← lengths]
    exact index.2
  have here := equal index index.2 bound
  obtain ⟨factor, _, other⟩ := settings_plan (List.get_mem _ ⟨index, bound⟩)
  rw [found, other] at here
  have key : (Station.lever 0).id = (Station.lever factor).id := here.1
  cases id_injective key
  have := eq_of_sameSetting small low here
  omega

/-! Well-formedness. -/

theorem joins_of_track (track : Track factors options source target) :
    (wide factors options).Joins source.id target.id := joins_id_iff.mpr track

theorem steered_lever {number : Nat} (listed : number < factors) (someOption : 0 < options) :
    (wide factors options).Steered (Station.lever number).id := by
  refine ⟨_, mem_of_listed (.plan 0) someOption, rfl, ?_⟩
  rw [id_node]
  exact joins_of_track (.pull someOption listed)

theorem infers_iff {station : Station} (listed : station.Listed factors options)
    (someOption : 0 < options) {category : Category} :
    (wide factors options).Infers (station.node factors) category ↔
      station.kind = .factor ∧ category = .controllable := by
  unfold Graph.Infers
  rw [kind_node, id_node]
  refine and_congr_right fun kind => ?_
  cases station with
  | lever number =>
      have steered := steered_lever listed someOption
      cases category <;> simp [steered]
  | _ => cases kind

/-- The results lead to the goal, and so does whatever leads to them. -/
theorem walk_to_finish (listed : station.Listed factors options) (someFactor : 0 < factors)
    (other : station ≠ .start) :
    ReflTransGen (wide factors options).Joins station.id finish.id := by
  have fromResult {number : Nat} (listed : number < factors) :
      ReflTransGen (wide factors options).Joins (Station.result number).id finish.id :=
    .single (joins_of_track (.gain listed))
  have fromLever {number : Nat} (listed : number < factors) :
      ReflTransGen (wide factors options).Joins (Station.lever number).id finish.id :=
    .head (joins_of_track (.effect listed)) (fromResult listed)
  cases station with
  | start => exact absurd rfl other
  | finish => exact .refl
  | lever number => exact fromLever listed
  | result number => exact fromResult listed
  | plan number => exact .head (joins_of_track (.pull listed someFactor)) (fromLever someFactor)

theorem walk_from_start (listed : station.Listed factors options) (someFactor : 0 < factors)
    (someOption : 0 < options) :
    ReflTransGen (wide factors options).Joins start.id station.id := by
  have toPlan {number : Nat} (listed : number < options) :
      ReflTransGen (wide factors options).Joins start.id (Station.plan number).id :=
    .single (joins_of_track (.choice listed))
  have toLever {number : Nat} (listed : number < factors) :
      ReflTransGen (wide factors options).Joins start.id (Station.lever number).id :=
    .tail (toPlan someOption) (joins_of_track (.pull someOption listed))
  have toResult {number : Nat} (listed : number < factors) :
      ReflTransGen (wide factors options).Joins start.id (Station.result number).id :=
    .tail (toLever listed) (joins_of_track (.effect listed))
  cases station with
  | start => exact .refl
  | finish => exact .tail (toResult someFactor) (joins_of_track (.gain someFactor))
  | lever number => exact toLever listed
  | result number => exact toResult listed
  | plan number => exact toPlan listed

theorem edge_of_joins {edge : Edge} (member : edge ∈ (wide factors options).edges)
    (leaves : edge.source = source.id) (enters : edge.target = target.id) :
    Track factors options source target ∧ edge = source.edge target := by
  obtain ⟨first, second, track, rfl⟩ := mem_edges_wide.mp member
  cases id_injective (source_edge.symm.trans leaves)
  cases id_injective (target_edge.symm.trans enters)
  exact ⟨track, rfl⟩

theorem isFinite_numbers_edge {number : Float} (member : number ∈ (source.edge target).numbers) :
    number.isFinite = true := by
  have effect : ∀ number ∈ (Edge.causal "" "" 0.5 0.1 0.8).numbers, number.isFinite = true := by
    decide
  have gain : ∀ number ∈ (Edge.causal "" "" 0.4 0.1 0.8).numbers, number.isFinite = true := by
    decide
  have scaffold : ∀ number ∈ (Edge.scaffold "" "").numbers, number.isFinite = true := by
    decide
  cases source with
  | lever _ => exact effect number member
  | result _ => exact gain number member
  | _ => exact scaffold number member

theorem isFinite_numbers_node (listed : station.Listed factors options)
    (small : 10 * options + factors < 2 ^ 53) {number : Float}
    (member : number ∈ (station.node factors).numbers) : number.isFinite = true := by
  cases station with
  | lever place =>
      have listed : place < factors := listed
      have same : number = Float.ofNat place := List.mem_singleton.mp member
      rw [same]
      exact isFinite_ofNat (by omega)
  | plan place =>
      have listed : place < options := listed
      obtain ⟨setting, set, rfl⟩ := List.mem_map.mp member
      obtain ⟨factor, pulled, rfl⟩ := settings_plan set
      rw [Double.toFloat_ofFloat]
      exact isFinite_ofNat (by omega)
  | _ => cases member

theorem isScaffold_scaffold (source target : String) :
    (Edge.scaffold source target).isScaffold = true := by
  have isScaffold : (Edge.scaffold "" "").isScaffold = true := by decide
  exact isScaffold

theorem station_of_mem {node : Node} (member : node ∈ (wide factors options).nodes) :
    ∃ station : Station, station.Listed factors options ∧ node = station.node factors ∧
      node.kind = station.kind ∧ node.id = station.id := by
  obtain ⟨station, listed, rfl⟩ := mem_nodes_wide.mp member
  exact ⟨station, listed, rfl, kind_node, id_node⟩

theorem wellFormed_wide {limits : Limits} (someFactor : 0 < factors) (someOption : 0 < options)
    (small : 10 * options + factors < 2 ^ 53)
    (accepted : limits.minOptions ≤ options ∧ options ≤ limits.maxOptions)
    (nodes : 2 + 2 * factors + options ≤ limits.nodes)
    (edges : 2 * factors + options + factors * options ≤ limits.edges) :
    (wide factors options).WellFormed limits where
  oneGoal := by
    rw [countKind_wide]
    simp [all, List.countP_flatMap, List.countP_map, Station.kind, Function.comp_def]
  oneDecision := by
    rw [countKind_wide]
    simp [all, List.countP_flatMap, List.countP_map, Station.kind, Function.comp_def]
  options := by
    rw [countKind_wide]
    simpa [all, List.countP_flatMap, List.countP_map, Station.kind, Function.comp_def] using accepted
  bridge := ⟨_, mem_of_listed (.result 0) someFactor, Or.inl rfl⟩
  nodes := by rwa [length_nodes_wide]
  edges := by rwa [length_edges_wide]
  distinct := sound_wide.distinct
  declared := sound_wide.declared
  acyclic := acyclic_wide
  sink goal member isGoal id joins := by
    obtain ⟨station, _, rfl, kind, place⟩ := station_of_mem member
    obtain ⟨source, target, track, same, _⟩ := joins_wide.mp joins
    cases id_injective (same.trans place)
    cases track <;> cases kind.symm.trans isGoal
  source decision member isDecision id joins := by
    obtain ⟨station, _, rfl, kind, place⟩ := station_of_mem member
    obtain ⟨source, target, track, _, same⟩ := joins_wide.mp joins
    cases id_injective (same.trans place)
    cases track <;> cases kind.symm.trans isDecision
  connected first firstMember second secondMember joins := by
    obtain ⟨source, _, rfl, _, place⟩ := station_of_mem firstMember
    obtain ⟨target, enters, rfl, _, end_⟩ := station_of_mem secondMember
    rw [place, end_, joins_id_iff] at joins
    cases joins with
    | choice _ => exact .choice rfl rfl
    | pull _ _ => exact .setting rfl ((infers_iff enters someOption).mpr ⟨rfl, rfl⟩)
    | effect _ => exact .result rfl (Or.inl rfl)
    | gain _ => exact .verdict (Or.inl rfl) rfl
  reached decision member isDecision node listed := by
    obtain ⟨station, _, rfl, kind, place⟩ := station_of_mem member
    obtain ⟨target, there, rfl, _, end_⟩ := station_of_mem listed
    cases station <;> cases kind.symm.trans isDecision
    rw [place, end_]
    exact Or.inl (walk_from_start there someFactor someOption)
  reaching goal member isGoal node listed other := by
    obtain ⟨station, _, rfl, kind, place⟩ := station_of_mem member
    obtain ⟨source, there, rfl, isKind, begin_⟩ := station_of_mem listed
    cases station <;> cases kind.symm.trans isGoal
    rw [place, begin_]
    apply walk_to_finish there someFactor
    rintro rfl
    exact other isKind
  fitting node member category inferred := by
    obtain ⟨station, listed, rfl, _, _⟩ := station_of_mem member
    obtain ⟨kind, rfl⟩ := (infers_iff listed someOption).mp inferred
    cases station <;> cases kind
    exact ⟨_, rfl, rfl, rfl, rfl, rfl⟩
  claims node member category claim := by
    obtain ⟨station, listed, rfl, _, _⟩ := station_of_mem member
    cases station <;> cases claim
    exact (infers_iff listed someOption).mpr ⟨rfl, rfl⟩
  settings option member setting set := by
    obtain ⟨station, listed, rfl, _, _⟩ := station_of_mem member
    cases station with
    | plan number =>
        obtain ⟨factor, pulled, rfl⟩ := settings_plan set
        exact ⟨_, mem_of_listed (.lever factor) pulled, rfl, id_node⟩
    | _ => cases set
  effects goal member isGoal option listed isOption := by
    obtain ⟨station, _, rfl, kind, place⟩ := station_of_mem member
    obtain ⟨source, there, rfl, isKind, begin_⟩ := station_of_mem listed
    cases station <;> cases kind.symm.trans isGoal
    cases source <;> cases isKind.symm.trans isOption
    refine ⟨_, mem_of_listed (.lever 0) someFactor, rfl, Or.inr ?_, ?_⟩
    · rw [begin_, id_node]
      exact joins_of_track (.pull there someFactor)
    · rw [place, id_node]
      exact walk_to_finish someFactor someFactor (by simp)
  choices := by
    have distinct : (wide factors options).nodes.Pairwise fun first second => first.id ≠ second.id :=
      List.pairwise_map.mp nodup_ids_wide
    refine distinct.imp_of_mem ?_
    intro first second firstMember secondMember apart isOption alsoOption
    obtain ⟨source, there, rfl, kind, _⟩ := station_of_mem firstMember
    obtain ⟨target, here, rfl, alsoKind, _⟩ := station_of_mem secondMember
    cases source <;> cases kind.symm.trans isOption
    cases target <;> cases alsoKind.symm.trans alsoOption
    have there : _ < options := there
    have here : _ < options := here
    apply settings_differ someFactor _ (by omega) (by omega)
    rintro rfl
    exact apart rfl
  labels node member isFactor _ := by
    obtain ⟨station, listed, rfl, kind, _⟩ := station_of_mem member
    exact Or.inl ((infers_iff listed someOption).mpr ⟨kind.symm.trans isFactor, rfl⟩)
  scaffold first firstMember second secondMember isOption isFactor edge member leaves enters := by
    obtain ⟨source, _, rfl, kind, place⟩ := station_of_mem firstMember
    obtain ⟨target, _, rfl, _, end_⟩ := station_of_mem secondMember
    obtain ⟨track, rfl⟩ := edge_of_joins member (leaves.trans place) (enters.trans end_)
    cases source <;> cases kind.symm.trans isOption
    exact isScaffold_scaffold _ _
  finite := by
    constructor
    · intro node member number listed
      obtain ⟨station, there, rfl, _, _⟩ := station_of_mem member
      exact isFinite_numbers_node there small listed
    · intro edge member number listed
      obtain ⟨source, target, _, rfl⟩ := mem_edges_wide.mp member
      exact isFinite_numbers_edge listed

end Wide

end Sample

end DecisionGraph
