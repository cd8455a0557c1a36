import DecisionGraph.Proofs.Held

/-!
Trees that show a value, wherever its parts stand. What a decoder makes of such a tree is said by
the value alone.
-/

namespace DecisionGraph

mutual

/-- The tree has the parts of the value, in their order, and nothing is wrong with it. -/
inductive Source.Shows : Source → Json → Prop
  | null (position : Position) : Source.Shows (.null position) .null
  | bool (position : Position) (value : Bool) : Source.Shows (.bool position value) (.bool value)
  | number (position : Position) (value : Number) :
    Source.Shows (.number position value) (.number value)
  | string (position : Position) (value : String) :
    Source.Shows (.string position value) (.string value)
  | array (position : Position) {items : Items} {list : List Json} (each : Items.Shows items list) :
    Source.Shows (.array position items) (.array list)
  | object (position : Position) {members : Members} {pairs : List (String × Json)}
    (each : Members.Shows members pairs) : Source.Shows (.object position members) (.object pairs)

inductive Items.Shows : Items → List Json → Prop
  | done (position : Position) : Items.Shows (.done position) []
  | more (next : Position) {item : Source} {json : Json} {rest : Items} {list : List Json}
    (first : Source.Shows item json) (later : Items.Shows rest list) :
    Items.Shows (.more item next rest) (json :: list)

inductive Members.Shows : Members → List (String × Json) → Prop
  | done (position : Position) : Members.Shows (.done position) []
  | more (position afterKey next : Position) (key : String) {value : Source} {json : Json}
    {rest : Members} {pairs : List (String × Json)} (first : Source.Shows value json)
    (later : Members.Shows rest pairs) :
    Members.Shows (.more (.string position key) afterKey value next rest) ((key, json) :: pairs)

end

mutual

theorem Source.Shows.wellFormed : ∀ {source : Source} {json : Json},
    source.Shows json → source.wellFormed = .ok ()
  | _, _, .null _ => rfl
  | _, _, .bool _ _ => rfl
  | _, _, .number _ _ => rfl
  | _, _, .string _ _ => rfl
  | _, _, .array _ each => Items.Shows.wellFormed each
  | _, _, .object _ each => Members.Shows.wellFormed each

theorem Items.Shows.wellFormed : ∀ {items : Items} {list : List Json},
    items.Shows list → items.wellFormed = .ok ()
  | _, _, .done _ => rfl
  | _, _, .more _ first later => by
      rw [Items.wellFormed, first.wellFormed, later.wellFormed]
      rfl

theorem Members.Shows.wellFormed : ∀ {members : Members} {pairs : List (String × Json)},
    members.Shows pairs → members.wellFormed = .ok ()
  | _, _, .done _ => rfl
  | _, _, .more _ _ _ _ first later => by
      rw [Members.wellFormed, first.wellFormed, later.wellFormed]
      rfl

end

mutual

theorem Source.Shows.exists_value : ∀ {source : Source} {json : Json},
    source.Shows json → ∃ other, source.value = .ok other
  | _, _, .null _ => ⟨_, rfl⟩
  | _, _, .bool _ _ => ⟨_, rfl⟩
  | _, _, .number _ _ => ⟨_, rfl⟩
  | _, _, .string _ _ => ⟨_, rfl⟩
  | _, _, .array _ each => by
      obtain ⟨_, values⟩ := Items.Shows.exists_values each
      exact ⟨_, by rw [Source.value, values]; rfl⟩
  | _, _, .object _ each => by
      obtain ⟨_, values⟩ := Members.Shows.exists_values each
      exact ⟨_, by rw [Source.value, values]; rfl⟩

theorem Items.Shows.exists_values : ∀ {items : Items} {list : List Json},
    items.Shows list → ∃ others, items.values = .ok others
  | _, _, .done _ => ⟨_, rfl⟩
  | _, _, .more _ first later => by
      obtain ⟨_, value⟩ := first.exists_value
      obtain ⟨_, values⟩ := later.exists_values
      exact ⟨_, by rw [Items.values, value, values]; rfl⟩

theorem Members.Shows.exists_values : ∀ {members : Members} {pairs : List (String × Json)},
    members.Shows pairs → ∃ others, members.values = .ok others
  | _, _, .done _ => ⟨_, rfl⟩
  | _, _, .more _ _ _ _ first later => by
      obtain ⟨_, value⟩ := first.exists_value
      obtain ⟨_, values⟩ := later.exists_values
      exact ⟨_, by rw [Members.values, value, values]; rfl⟩

end

theorem Source.Shows.readable {source : Source} {json : Json} (shows : source.Shows json) :
    source.readable = .ok () := by
  obtain ⟨_, value⟩ := shows.exists_value
  rw [Source.readable, value]
  rfl

/-! Maps are made again from their own entries. -/

namespace SortedMap

variable {α : Type}

theorem insertEntry_last {key : String} (value : α) {entries : List (String × α)}
    (before : ∀ entry ∈ entries, entry.1 < key) :
    insertEntry key value entries = entries ++ [(key, value)] := by
  induction entries with
  | nil => rfl
  | cons entry entries ih =>
      obtain ⟨other, kept⟩ := entry
      obtain ⟨first, others⟩ := List.forall_mem_cons.mp before
      have notBefore : ¬ key < other := String.lt_asymm first
      have different : key ≠ other := fun same => String.lt_irrefl _ (same ▸ first)
      rw [insertEntry, if_neg notBefore, if_neg different, ih others, List.cons_append]

theorem entries_foldl {pairs : List (String × α)} (map : SortedMap α)
    (sorted : (map.entries ++ pairs).Pairwise fun first second => first.1 < second.1) :
    (pairs.foldl (fun map pair => map.insert pair.1 pair.2) map).entries =
      map.entries ++ pairs := by
  induction pairs generalizing map with
  | nil => simp
  | cons pair pairs ih =>
      have before : ∀ entry ∈ map.entries, entry.1 < pair.1 := fun entry listed =>
        (List.pairwise_append.mp sorted).2.2 entry listed pair List.mem_cons_self
      have inserted : (map.insert pair.1 pair.2).entries = map.entries ++ [pair] :=
        insertEntry_last pair.2 before
      rw [List.foldl_cons, ih, inserted, List.append_assoc, List.singleton_append]
      rwa [inserted, List.append_assoc, List.singleton_append]

theorem entries_ofList {pairs : List (String × α)}
    (sorted : pairs.Pairwise fun first second => first.1 < second.1) :
    (ofList pairs).entries = pairs :=
  entries_foldl empty sorted

theorem eq_of_entries {map other : SortedMap α} (same : map.entries = other.entries) :
    map = other := by
  cases map
  cases other
  cases same
  rfl

theorem ofList_entries (map : SortedMap α) : ofList map.entries = map :=
  eq_of_entries (entries_ofList map.sorted)

end SortedMap

theorem Items.Shows.values_eq {items : Items} {list : List Json} (shows : items.Shows list)
    (each : ∀ json ∈ list, ∀ source : Source, source.Shows json → source.value = .ok json) :
    items.values = .ok list := by
  induction list generalizing items with
  | nil =>
      cases shows
      rfl
  | cons json list ih =>
      obtain ⟨firstEach, others⟩ := List.forall_mem_cons.mp each
      cases shows with
      | more next first later =>
          rw [Items.values, firstEach _ first, ih later others]
          rfl

theorem Members.Shows.values_eq {members : Members} {pairs : List (String × Json)}
    (shows : members.Shows pairs)
    (each : ∀ pair ∈ pairs, ∀ source : Source, source.Shows pair.2 → source.value = .ok pair.2) :
    members.values = .ok pairs := by
  induction pairs generalizing members with
  | nil =>
      cases shows
      rfl
  | cons pair pairs ih =>
      obtain ⟨firstEach, others⟩ := List.forall_mem_cons.mp each
      cases shows with
      | more position afterKey next key first later =>
          rw [Members.values, firstEach _ first, ih later others]
          rfl

/-- A free-form value that is held is read as it is shown. -/
theorem Json.Held.value_eq {room : Nat} {json : Json} (held : json.Held room) :
    ∀ source : Source, source.Shows json → source.value = .ok json := by
  induction held with
  | null room | bool room value | string room value | number room =>
      rintro _ ⟨⟩
      rfl
  | array each ih =>
      rintro _ ⟨⟩
      next shows => rw [Source.value, shows.values_eq ih]; rfl
  | object sorted each ih =>
      rintro _ ⟨⟩
      next shows =>
        rw [Source.value, shows.values_eq ih]
        exact congrArg (fun pairs => Reading.ok (Json.object pairs))
          (SortedMap.entries_ofList sorted)

/-! What a decoder makes of a value that is shown. -/

/-- Wherever the value stands, the decoder reads it as `value`. -/
def Decoder.Reads {α : Type} (decode : Decoder α) (json : Json) (value : α) : Prop :=
  ∀ source next, source.Shows json → decode source next = .ok value

namespace Decode

variable {α : Type} {decode : Decoder α} {encode : α → Json}

theorem reads_text (text : String) : Decoder.Reads Decode.text (.string text) text := by
  rintro _ _ ⟨⟩
  rfl

theorem reads_bool (value : Bool) : Decoder.Reads Decode.bool (.bool value) value := by
  rintro _ _ ⟨⟩
  rfl

theorem reads_count {n : Nat} (small : n < 2 ^ 64) :
    Decoder.Reads Decode.count (.ofNat n) n := by
  rintro _ _ ⟨⟩
  have bounds : (0 : Int) ≤ n ∧ (n : Int) < Nat.pow 2 64 :=
    ⟨Int.natCast_nonneg n, Int.ofNat_lt.mpr small⟩
  rw [Decode.count]
  exact if_pos bounds

theorem reads_real {x : Float} (finite : x.isFinite = true) :
    Decoder.Reads Decode.real (.ofFloat x) x := by
  intro source next shows
  rw [Json.ofFloat, if_pos finite] at shows
  cases shows
  rfl

/-- A free-form value that is held is read as it is. -/
theorem reads_json {room : Nat} {json : Json} (held : json.Held room) :
    Decoder.Reads Decode.json json json :=
  fun source _ => held.value_eq source

theorem reads_nullable {json : Json} {value : α} (reads : Decoder.Reads decode json value)
    (some : json ≠ .null) : Decoder.Reads (nullable decode) json (.some value) := by
  intro source next shows
  unfold nullable
  split
  · cases shows
    exact absurd rfl some
  · rw [reads source next shows]
    rfl

theorem reads_items {values : List α}
    (each : ∀ value ∈ values, Decoder.Reads decode (encode value) value) {content : Items}
    (shows : content.Shows (values.map encode)) : items decode content = .ok values := by
  induction values generalizing content with
  | nil =>
      cases shows
      rfl
  | cons value values ih =>
      obtain ⟨firstEach, others⟩ := List.forall_mem_cons.mp each
      cases shows with
      | more next first later =>
          rw [items, firstEach _ next first, ih others later]
          rfl

theorem reads_list {values : List α}
    (each : ∀ value ∈ values, Decoder.Reads decode (encode value) value) :
    Decoder.Reads (list decode) (.array (values.map encode)) values := by
  rintro _ next ⟨⟩
  next shows => exact reads_items each shows

theorem reads_members {pairs : List (String × α)}
    (each : ∀ pair ∈ pairs, Decoder.Reads decode (encode pair.2) pair.2) {content : Members}
    (shows : content.Shows (pairs.map fun pair => (pair.1, encode pair.2))) :
    members decode content = .ok pairs := by
  induction pairs generalizing content with
  | nil =>
      cases shows
      rfl
  | cons pair pairs ih =>
      obtain ⟨firstEach, others⟩ := List.forall_mem_cons.mp each
      cases shows with
      | more position afterKey next key first later =>
          rw [members, firstEach _ next first, ih others later]
          rfl

theorem reads_map (encode : α → Json) {values : SortedMap α}
    (each : ∀ entry ∈ values.entries, Decoder.Reads decode (encode entry.2) entry.2) :
    Decoder.Reads (map decode) (.object (values.entries.map fun entry => (entry.1, encode entry.2)))
      values := by
  rintro _ next ⟨⟩
  next shows =>
    unfold map
    simp only
    rw [reads_members each shows]
    exact congrArg Reading.ok values.ofList_entries

end Decode

/-! Records. -/

namespace Json

/-- The members of a record: a field without a value is left out. -/
def present (table : List (String × Option Json)) : List (String × Json) :=
  table.filterMap fun field => field.2.map fun json => (field.1, json)

theorem present_some (name : String) (json : Json) (table : List (String × Option Json)) :
    present ((name, some json) :: table) = always name json ++ present table := rfl

theorem present_map {α : Type} (name : String) (encode : α → Json) (value : Option α)
    (table : List (String × Option Json)) :
    present ((name, value.map encode) :: table) = whenSome name encode value ++ present table := by
  cases value <;> rfl

end Json

namespace Slots

/-- The record has been sorted into slots without fault, and for the fields of the table that are
asked for the slots hold what the table has. -/
structure Shows (slots : Slots) (fields : List String) (table : List (String × Option Json)) :
    Prop where
  sound : slots.sound = .ok ()
  close : ∃ position, slots.close = .ok position
  given : ∀ entry ∈ table, entry.1 ∈ fields →
    Option.Rel (fun found json => found.1.Shows json) (slots.find? entry.1) entry.2
  absent : ∀ name, name ∉ table.map (·.1) → slots.find? name = none

theorem find?_give_self (slots : Slots) (field : String) (value : Source) (next : Position) :
    (slots.give field value next).find? field = some (value, next) := by
  simp [find?, give]

theorem find?_give_of_ne (slots : Slots) {field other : String} (different : field ≠ other)
    (value : Source) (next : Position) :
    (slots.give field value next).find? other = slots.find? other := by
  simp [find?, give, different]

variable {fields : List String} {table : List (String × Option Json)}

section Steps

variable {slots : Slots} {name : String}

theorem Shows.skip (shows : slots.Shows fields table) (alone : name ∉ table.map (·.1)) :
    slots.Shows fields ((name, none) :: table) where
  sound := shows.sound
  close := shows.close
  given := by
    refine List.forall_mem_cons.mpr ⟨fun _ => ?_, shows.given⟩
    rw [shows.absent name alone]
    exact .none
  absent _ unlisted := shows.absent _ fun listed => unlisted (List.mem_cons_of_mem _ listed)

theorem Shows.give (shows : slots.Shows fields table) (alone : name ∉ table.map (·.1))
    {value : Source} {json : Json} (first : value.Shows json) (next : Position) :
    (slots.give name value next).Shows fields ((name, some json) :: table) where
  sound := shows.sound
  close := shows.close
  given := by
    refine List.forall_mem_cons.mpr ⟨fun _ => ?_, fun entry listed asked => ?_⟩
    · rw [find?_give_self]
      exact .some first
    · have different : name ≠ entry.1 := by
        rintro rfl
        exact alone (List.mem_map.mpr ⟨entry, listed, rfl⟩)
      rw [find?_give_of_ne _ different]
      exact shows.given entry listed asked
  absent other unlisted := by
    have different : name ≠ other := fun same => unlisted (same ▸ List.mem_cons_self)
    rw [find?_give_of_ne _ different]
    exact shows.absent other fun listed => unlisted (List.mem_cons_of_mem _ listed)

theorem Shows.along (shows : slots.Shows fields table) (unasked : name ∉ fields)
    (value : Option Json) {other : Reading Unit} (fine : other = .ok ()) :
    (slots.along other).Shows fields ((name, value) :: table) where
  sound := by
    simp only [Slots.along, shows.sound, fine]
    rfl
  close := shows.close
  given := List.forall_mem_cons.mpr ⟨fun asked => absurd asked unasked, shows.given⟩
  absent _ unlisted := shows.absent _ fun listed => unlisted (List.mem_cons_of_mem _ listed)

end Steps

theorem shows_ofMembers {other : Source → Reading Unit} {named : String → Option String}
    (fine : ∀ (source : Source) json, source.Shows json → other source = .ok ())
    (known : ∀ key ∈ table.map (·.1), named key = if key ∈ fields then some key else none)
    (distinct : (table.map (·.1)).Nodup) {members : Members}
    (shows : members.Shows (Json.present table))
    (seen : List String) (fresh : ∀ name ∈ seen, name ∉ table.map (·.1)) :
    (ofMembers other named members seen).Shows fields table := by
  -- On the table and not on the members: a field without a value has no member.
  induction table generalizing members seen with
  | nil =>
      cases shows with
      | done position => exact ⟨rfl, ⟨position, rfl⟩, nofun, fun _ _ => rfl⟩
  | cons field table ih =>
      obtain ⟨name, value⟩ := field
      obtain ⟨alone, others⟩ := List.nodup_cons.mp distinct
      obtain ⟨known, knownLater⟩ := List.forall_mem_cons.mp known
      have freshLater : ∀ name ∈ seen, name ∉ table.map (·.1) := fun name before listed =>
        fresh name before (List.mem_cons_of_mem _ listed)
      cases value with
      | none => exact (ih knownLater others shows seen freshLater).skip alone
      | some json =>
          cases shows with
          | more position afterKey next key first rest =>
              by_cases asked : name ∈ fields
              · have new : name ∉ seen := fun before => fresh name before List.mem_cons_self
                simp only [ofMembers, Source.key, Reading.map, known, if_pos asked, if_neg new]
                exact (ih knownLater others rest (name :: seen)
                  (List.forall_mem_cons.mpr ⟨alone, freshLater⟩)).give alone first next
              · simp only [ofMembers, Source.key, Reading.map, known, if_neg asked]
                exact (ih knownLater others rest seen freshLater).along asked _ (fine _ _ first)

variable {slots : Slots} {α : Type} {decode : Decoder α} {encode : α → Json} {field : String}

theorem Shows.required_eq (shows : slots.Shows fields table) {json : Json} {value : α}
    (listed : (field, some json) ∈ table) (asked : field ∈ fields)
    (reads : Decoder.Reads decode json value) : slots.required field decode = .ok value := by
  have given := shows.given _ listed asked
  unfold required
  cases found : slots.find? field with
  | none =>
      rw [found] at given
      cases given
  | some entry =>
      rw [found] at given
      cases given with
      | some first => exact reads _ _ first

theorem Shows.withDefault_eq (shows : slots.Shows fields table) {value : Option Json} {default : α}
    {result : α} (listed : (field, value) ∈ table) (asked : field ∈ fields)
    (none : value = none → result = default)
    (reads : ∀ json, value = some json → Decoder.Reads decode json result) :
    slots.withDefault field default decode = .ok result := by
  have given := shows.given _ listed asked
  unfold withDefault
  cases found : slots.find? field with
  | none =>
      rw [found] at given
      cases value with
      | none => exact congrArg Reading.ok (none rfl).symm
      | some json => cases given
  | some entry =>
      rw [found] at given
      cases value with
      | none => cases given
      | some json =>
          cases given with
          | some first => exact reads json rfl _ _ first

theorem Shows.withDefault_given (shows : slots.Shows fields table) {json : Json} {value default : α}
    (listed : (field, some json) ∈ table) (asked : field ∈ fields)
    (reads : Decoder.Reads decode json value) :
    slots.withDefault field default decode = .ok value :=
  shows.withDefault_eq listed asked nofun fun _ same => Option.some.inj same ▸ reads

theorem Shows.optional_eq (shows : slots.Shows fields table) {value : Option α}
    (listed : (field, value.map encode) ∈ table) (asked : field ∈ fields)
    (reads : ∀ given, value = some given →
      Decoder.Reads decode (encode given) given ∧ encode given ≠ .null) :
    slots.optional field decode = .ok value := by
  refine shows.withDefault_eq listed asked (fun none => ?_) fun json given => ?_
  · exact Option.map_eq_none_iff.mp none
  · obtain ⟨inner, rfl, rfl⟩ := Option.map_eq_some_iff.mp given
    obtain ⟨reads, some⟩ := reads inner rfl
    exact Decode.reads_nullable reads some

end Slots

end DecisionGraph
