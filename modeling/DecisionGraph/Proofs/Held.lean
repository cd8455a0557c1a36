import DecisionGraph.Proofs.Canonical
import DecisionGraph.Proofs.Encoding
import DecisionGraph.Proofs.Parsed
import DecisionGraph.Proofs.WellFormed

/-!
What is read from a text can be held: numbers are finite, and free-form values have their members in
order and are not nested too deeply.
-/

namespace DecisionGraph

/-- A free-form value as it is held: numbers of a machine, members in the order of their keys, and
containers that there is room to nest. -/
inductive Json.Held : Nat → Json → Prop
  | null (room : Nat) : Held room .null
  | bool (room : Nat) (value : Bool) : Held room (.bool value)
  | string (room : Nat) (value : String) : Held room (.string value)
  | number (room : Nat) {value : Number} (held : value.Held) : Held room (.number value)
  | array {room : Nat} {items : List Json} (each : ∀ item ∈ items, Held room item) :
    Held (room + 1) (.array items)
  | object {room : Nat} {members : List (String × Json)}
    (sorted : members.Pairwise fun first second => first.1 < second.1)
    (each : ∀ member ∈ members, Held room member.2) : Held (room + 1) (.object members)

namespace Json.Held

variable {room : Nat}

theorem ofFloat (room : Nat) (x : Float) : (Json.ofFloat x).Held room := by
  unfold Json.ofFloat
  split
  · next finite => exact .number room finite
  · exact .null room

theorem ofNat {n : Nat} (small : n < 2 ^ 64) : (Json.ofNat n).Held room :=
  .number room ⟨by omega, by omega⟩

theorem ofOption {α : Type} {encode : α → Json} {value : Option α}
    (each : ∀ given ∈ value, (encode given).Held room) :
    (Json.ofOption encode value).Held room := by
  cases value with
  | none => exact .null room
  | some given => exact each given rfl

theorem texts (room : Nat) (texts : List String) : (Json.ofStrings texts).Held (room + 1) :=
  .array (List.forall_mem_map.mpr fun text _ => .string room text)

end Json.Held

theorem SortedMap.mem_of_mem_ofList {α : Type} {pairs : List (String × α)} {entry : String × α}
    (member : entry ∈ (ofList pairs).entries) : entry ∈ pairs := by
  have grows (pairs : List (String × α)) (map : SortedMap α) (entry : String × α)
      (member : entry ∈ (pairs.foldl (fun map pair => map.insert pair.1 pair.2) map).entries) :
      entry ∈ map.entries ∨ entry ∈ pairs := by
    induction pairs generalizing map with
    | nil => exact .inl member
    | cons pair pairs ih =>
        rcases ih _ member with inserted | later
        · rcases mem_insertEntry inserted with rfl | before
          · exact .inr List.mem_cons_self
          · exact .inl before
        · exact .inr (List.mem_cons_of_mem _ later)
  exact (grows pairs empty entry member).resolve_left nofun

theorem Json.Held.free {room : Nat} {members : List (String × Json)}
    (each : ∀ member ∈ members, member.2.Held room) : (Json.free members).Held (room + 1) :=
  .object (SortedMap.ofList members).sorted fun member kept =>
    each member (SortedMap.mem_of_mem_ofList kept)

mutual

theorem Source.held_of_value {room : Nat} : ∀ (source : Source) {json : Json},
    source.Sound room → source.value = .ok json → json.Held room
  | .null _, _, _, rfl => .null room
  | .bool _ value, _, _, rfl => .bool room value
  | .string _ value, _, _, rfl => .string room value
  | .number _ _, _, sound, rfl => .number room sound
  | .array _ items, json, sound, read => by
      obtain ⟨list, values, rfl⟩ := Reading.map_eq_ok.mp read
      obtain ⟨positive, sound⟩ := sound
      obtain ⟨less, rfl⟩ := Nat.exists_eq_add_one.mpr positive
      exact .array (Items.held_of_values items sound values)
  | .object _ members, json, sound, read => by
      obtain ⟨list, values, rfl⟩ := Reading.map_eq_ok.mp read
      obtain ⟨positive, sound⟩ := sound
      obtain ⟨less, rfl⟩ := Nat.exists_eq_add_one.mpr positive
      exact .free (Members.held_of_values members sound values)
  | .barred _ _, _, _, read => by
      obtain ⟨_, _, _, refused, _⟩ := Reading.join_eq_ok.mp read
      cases refused

theorem Items.held_of_values {room : Nat} : ∀ (items : Items) {list : List Json},
    items.Sound room → items.values = .ok list → ∀ json ∈ list, json.Held room
  | .done _, _, _, rfl => nofun
  | .more item _ rest, list, sound, read => by
      obtain ⟨first, others, value, values, rfl⟩ := Reading.join_eq_ok.mp read
      exact List.forall_mem_cons.mpr
        ⟨item.held_of_value sound.1 value, rest.held_of_values sound.2 values⟩

theorem Members.held_of_values {room : Nat} : ∀ (members : Members) {list : List (String × Json)},
    members.Sound room → members.values = .ok list → ∀ member ∈ list, member.2.Held room
  | .done _, _, _, rfl => nofun
  | .more _ _ value _ rest, list, sound, read => by
      obtain ⟨first, others, pair, values, rfl⟩ := Reading.join_eq_ok.mp read
      obtain ⟨_, _, _, valueRead, rfl⟩ := Reading.join_eq_ok.mp pair
      exact List.forall_mem_cons.mpr
        ⟨value.held_of_value sound.1 valueRead, rest.held_of_values sound.2 values⟩

end

/-! Fields, items and members of what is sound are sound. -/

/-- Whatever is given for a field is sound. -/
def Slots.Sound (room : Nat) (slots : Slots) : Prop :=
  ∀ entry ∈ slots.fields, entry.2.1.Sound room

namespace Slots

variable {room : Nat}

theorem sound_stopped (fault : Fault) : (stopped fault).Sound room := nofun

theorem Sound.along {slots : Slots} (sound : slots.Sound room) (other : Reading Unit) :
    (slots.along other).Sound room := sound

theorem Sound.give {slots : Slots} (sound : slots.Sound room) (field : String) {value : Source}
    (next : Position) (also : value.Sound room) : (slots.give field value next).Sound room :=
  List.forall_mem_cons.mpr ⟨also, sound⟩

theorem sound_ofMembers (other : Source → Reading Unit) (named : String → Option String)
    {members : Members} (seen : List String) (sound : members.Sound room) :
    (ofMembers other named members seen).Sound room := by
  fun_induction ofMembers other named members seen with
  | case1 => exact nofun
  | case2 | case3 | case5 => exact sound_stopped _
  | case4 key afterKey value next rest seen unknown ih => exact (ih sound.2).along _
  | case6 key afterKey value next rest seen field known fresh ih =>
      exact (ih sound.2).give field next sound.1

theorem sound_ofItems (fields : List String) (here : Position) {items : Items}
    (sound : items.Sound room) : (ofItems fields here items).Sound room := by
  fun_induction ofItems fields here items with
  | case1 => exact nofun
  | case2 | case3 => exact sound_stopped _
  | case4 field others here item next rest ih => exact (ih sound.2).give field next sound.1

end Slots

theorem Source.sound_slots {room : Nat} {source : Source} (sound : source.Sound room)
    (other : Source → Reading Unit) (fields : List String) (spellings : List (String × String)) :
    (source.slots other fields spellings).Sound (room - 1) := by
  unfold slots
  split
  · exact Slots.sound_ofMembers other _ [] sound.2
  · exact Slots.sound_ofItems fields _ sound.2
  · exact Slots.sound_stopped _
  · exact Slots.sound_stopped _
  · exact Slots.sound_stopped _

theorem Items.Has.sound {room : Nat} {items : Items} {item : Source} {next : Position}
    (has : items.Has item next) (sound : items.Sound room) : item.Sound room := by
  induction has with
  | here rest => exact sound.1
  | later other after _ ih => exact ih sound.2

namespace Decode

variable {room : Nat} {source : Source} {next : Position}

theorem isFinite_of_real {value : Float} (sound : source.Sound room)
    (read : real source next = .ok value) : value.isFinite = true := by
  unfold real at read
  split at read
  · cases read
    exact Number.Held.isFinite_toFloat sound
  · exact absurd read refuse_ne_ok

theorem sound_of_mem_members {α : Type} {decode : Decoder α} {content : Members}
    {pairs : List (String × α)} {entry : String × α} (sound : content.Sound room)
    (read : members decode content = .ok pairs) (listed : entry ∈ pairs) :
    ∃ value after, value.Sound room ∧ decode value after = .ok entry.2 := by
  induction pairs generalizing content with
  | nil => cases listed
  | cons first others ih =>
      unfold members at read
      split at read
      · cases read
      · obtain ⟨_, _, pair, rest, same⟩ := Reading.join_eq_ok.mp read
        obtain ⟨_, _, _, decoded, rfl⟩ := Reading.join_eq_ok.mp pair
        cases same
        rcases List.mem_cons.mp listed with rfl | later
        · exact ⟨_, _, sound.1, decoded⟩
        · exact ih sound.2 rest later
      · cases read

/-- A value of the map was read from a sound one. -/
theorem sound_of_mem_map {α : Type} {decode : Decoder α} {values : SortedMap α}
    {entry : String × α} (sound : source.Sound room) (read : map decode source next = .ok values)
    (listed : entry ∈ values.entries) :
    ∃ value after, value.Sound (room - 1) ∧ decode value after = .ok entry.2 := by
  unfold map at read
  split at read
  · obtain ⟨pairs, members, rfl⟩ := Reading.map_eq_ok.mp read
    exact sound_of_mem_members sound.2 members (SortedMap.mem_of_mem_ofList listed)
  · exact absurd read refuse_ne_ok

theorem sound_of_mem_list {α : Type} {decode : Decoder α} {values : List α} {value : α}
    (sound : source.Sound room) (read : list decode source next = .ok values)
    (listed : value ∈ values) :
    ∃ item after, item.Sound (room - 1) ∧ decode item after = .ok value := by
  obtain ⟨_, _, item, after, rfl, has, decoded⟩ := given_of_mem_list read listed
  exact ⟨item, after, has.sound sound.2, decoded⟩

end Decode

theorem Slots.Sound.isFinite_of_required {room : Nat} {slots : Slots} {field : String}
    {value : Float} (sound : slots.Sound room)
    (read : slots.required field Decode.real = .ok value) : value.isFinite = true := by
  obtain ⟨entry, listed, decoded⟩ := given_of_required read
  exact Decode.isFinite_of_real (sound entry listed) decoded

theorem Slots.Sound.isFinite_of_optional {room : Nat} {slots : Slots} {field : String}
    {value : Option Float} (sound : slots.Sound room)
    (read : slots.optional field Decode.real = .ok value) :
    ∀ number ∈ value.toList, number.isFinite = true := by
  intro number listed
  cases Option.mem_toList.mp listed
  obtain ⟨entry, listed, decoded⟩ := given_of_optional read
  exact Decode.isFinite_of_real (sound entry listed) decoded

/-! So are the parts of a graph held. -/

variable {room : Nat} {source : Source} {next : Position}

theorem Edge.isFinite_of_decode {edge : Edge} (sound : source.Sound room)
    (read : decode source next = .ok edge) : ∀ number ∈ edge.numbers, number.isFinite = true := by
  have built := Reading.of_along read
  simp only [Reading.seq_eq_ok, Reading.map_eq_ok] at built
  obtain ⟨_, direction, ⟨_, belief, ⟨_, exists_, ⟨_, deviation, ⟨_, mean, ⟨_, target, ⟨source_, _,
    rfl⟩, _, rfl⟩, meanRead, rfl⟩, deviationRead, rfl⟩, existsRead, rfl⟩, beliefRead, rfl⟩, _,
    rfl⟩ := built
  have sound := source.sound_slots sound Source.wellFormed fieldNames []
  intro number listed
  simp only [numbers, List.mem_cons, List.mem_append] at listed
  rcases listed with rfl | (listed | listed) | listed
  · exact sound.isFinite_of_required meanRead
  · exact sound.isFinite_of_optional deviationRead number listed
  · exact sound.isFinite_of_optional existsRead number listed
  · exact sound.isFinite_of_optional beliefRead number listed

theorem FactorData.isFinite_of_decode {data : FactorData} (sound : source.Sound room)
    (read : decode source next = .ok data) :
    ∀ number ∈ data.value.toList ++ data.baseline.toList, number.isFinite = true := by
  have built := Reading.of_along read
  simp only [Reading.seq_eq_ok, Reading.map_eq_ok] at built
  obtain ⟨_, drivers, ⟨_, type, ⟨_, extraction, ⟨_, baseline, ⟨value, valueRead, rfl⟩,
    baselineRead, rfl⟩, _, rfl⟩, _, rfl⟩, _, rfl⟩ := built
  have sound := source.sound_slots sound Source.wellFormed fieldNames []
  intro number listed
  rcases List.mem_append.mp listed with listed | listed
  · exact sound.isFinite_of_optional valueRead number listed
  · exact sound.isFinite_of_optional baselineRead number listed

theorem NodeBody.isFinite_of_decodeSettings {settings : SortedMap Double}
    (sound : source.Sound room) (read : decodeSettings source next = .ok settings) :
    ∀ entry ∈ settings.entries, entry.2.toFloat.isFinite = true := by
  intro entry listed
  obtain rfl | ⟨field, given, decoded⟩ := Slots.given_of_withDefault (Reading.of_along read)
  · cases listed
  · have sound := source.sound_slots sound Source.wellFormed ["interventions"] [] field given
    obtain ⟨_, _, also, read⟩ := Decode.sound_of_mem_map sound decoded listed
    obtain ⟨value, read, same⟩ := Reading.map_eq_ok.mp read
    rw [← same, Double.toFloat_ofFloat]
    exact Decode.isFinite_of_real also read

theorem NodeBody.sound_slotsOf {members : Members} (sound : members.Sound room)
    (names : List String) : (slotsOf members names).Sound room :=
  Slots.sound_ofMembers Source.wellFormed _ [] sound

theorem Node.isFinite_of_decode {node : Node} (sound : source.Sound room)
    (read : decode source next = .ok node) : ∀ number ∈ node.numbers, number.isFinite = true := by
  unfold decode at read
  split at read
  · next position members =>
    have built := Reading.of_along read
    simp only [Reading.seq_eq_ok, Reading.map_eq_ok, Reading.andThen_eq_ok,
      Reading.noticedAt_eq_ok] at built
    obtain ⟨_, body, ⟨_, label, ⟨id, _, rfl⟩, _, rfl⟩, ⟨_, _, bodyRead⟩, rfl⟩ := built
    obtain ⟨kind, _, bodyRead⟩ := Reading.andThen_eq_ok.mp bodyRead
    cases kind with
    | option =>
        obtain ⟨settings, dataRead, rfl⟩ := Reading.map_eq_ok.mp (Reading.of_along bodyRead)
        cases settings with
        | none => exact nofun
        | some settings =>
            obtain ⟨entry, given, decoded⟩ := Slots.given_of_optional dataRead
            have sound := NodeBody.sound_slotsOf sound.2 ["data"] entry given
            exact List.forall_mem_map.mpr (NodeBody.isFinite_of_decodeSettings sound decoded)
    | factor =>
        have built := Reading.of_along bodyRead
        simp only [Reading.seq_eq_ok, Reading.map_eq_ok] at built
        obtain ⟨_, data, ⟨_, _, rfl⟩, dataRead, rfl⟩ := built
        cases data with
        | none => exact nofun
        | some data =>
            obtain ⟨entry, given, decoded⟩ := Slots.given_of_optional dataRead
            have sound := NodeBody.sound_slotsOf sound.2 ["category", "data"] entry given
            exact FactorData.isFinite_of_decode sound decoded
    | _ =>
        cases bodyRead
        exact nofun
  · exact absurd read Decode.refuse_ne_ok

namespace Graph

/-- A graph as it is held: finite numbers, foreign words that are none of the words, and notes that
a reader has room for below the graph and its notes. -/
structure Held (graph : Graph) : Prop where
  nodes : ∀ node ∈ graph.nodes, ∀ number ∈ node.numbers, number.isFinite = true
  edges : ∀ edge ∈ graph.edges, ∀ number ∈ edge.numbers, number.isFinite = true
  words : graph.Canonical
  notes : ∀ entry ∈ graph.notes.entries, entry.2.Held (Source.deepest - 2)

theorem held_of_decode {graph : Graph} (sound : source.Sound Source.deepest)
    (read : decode source next = .ok graph) : graph.Held := by
  have words := canonical_of_decode read
  have built := Reading.of_along read
  simp only [Reading.seq_eq_ok, Reading.map_eq_ok] at built
  obtain ⟨_, notes, ⟨_, edges, ⟨nodes, nodesRead, rfl⟩, edgesRead, rfl⟩, notesRead, rfl⟩ := built
  have sound := source.sound_slots sound Source.wellFormed ["nodes", "edges", "meta"] []
  refine ⟨fun node listed => ?_, fun edge listed => ?_, words, fun entry listed => ?_⟩
  · obtain rfl | ⟨field, given, decoded⟩ := Slots.given_of_withDefault nodesRead
    · cases listed
    · obtain ⟨_, _, also, decoded⟩ := Decode.sound_of_mem_list (sound field given) decoded listed
      exact Node.isFinite_of_decode also decoded
  · obtain rfl | ⟨field, given, decoded⟩ := Slots.given_of_withDefault edgesRead
    · cases listed
    · obtain ⟨_, _, also, decoded⟩ := Decode.sound_of_mem_list (sound field given) decoded listed
      exact Edge.isFinite_of_decode also decoded
  · obtain rfl | ⟨field, given, decoded⟩ := Slots.given_of_withDefault notesRead
    · cases listed
    · obtain ⟨value, _, also, decoded⟩ := Decode.sound_of_mem_map (sound field given) decoded listed
      exact value.held_of_value also decoded

theorem held_of_read {graph : Graph} {text : String} (read : Decoder.read decode text = .ok graph) :
    graph.Held :=
  held_of_decode (Source.sound_ofText text) (Reading.of_along read)

end Graph

end DecisionGraph
