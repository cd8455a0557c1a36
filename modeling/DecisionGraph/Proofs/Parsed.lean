import DecisionGraph.Json.Reader
import DecisionGraph.Proofs.FiniteNumbers

/-!
Trees of texts. Whatever the text is, the numbers in its tree are held as numbers are, and what is
nested too deeply is barred.
-/

namespace DecisionGraph

mutual

/-- Numbers are held, and containers have room to be nested in. What is barred is no value. -/
def Source.Sound (room : Nat) : Source → Prop
  | .number _ value => value.Held
  | .array _ items => 0 < room ∧ items.Sound (room - 1)
  | .object _ members => 0 < room ∧ members.Sound (room - 1)
  | .null _ | .bool _ _ | .string _ _ | .barred _ _ | .broken _ _ => True

def Items.Sound (room : Nat) : Items → Prop
  | .more item _ rest => item.Sound room ∧ rest.Sound room
  | .done _ | .broken _ => True

def Members.Sound (room : Nat) : Members → Prop
  | .more _ _ value _ rest => value.Sound room ∧ rest.Sound room
  | .done _ | .broken _ => True

end

namespace Source

theorem sound_numberAt {room : Nat} (position : Position) {value : Option Number}
    (held : ∀ number, value = some number → number.Held) :
    (numberAt position value).Sound room := by
  cases value with
  | none => trivial
  | some number => exact held number rfl

theorem sound_nested {depth : Nat} (at_ : Cursor) {source : Source}
    (sound : depth < deepest → source.Sound (deepest - depth)) :
    (nested depth at_ source).Sound (deepest - depth) := by
  unfold nested
  split
  · next room => exact sound room
  · trivial

theorem sound_array {depth : Nat} (at_ : Cursor) (position : Position) {items : Items}
    (sound : items.Sound (deepest - (depth + 1))) :
    (nested depth at_ (.array position items)).Sound (deepest - depth) :=
  sound_nested at_ fun room => ⟨Nat.sub_pos_of_lt room, sound⟩

theorem sound_object {depth : Nat} (at_ : Cursor) (position : Position) {members : Members}
    (sound : members.Sound (deepest - (depth + 1))) :
    (nested depth at_ (.object position members)).Sound (deepest - depth) :=
  sound_nested at_ fun room => ⟨Nat.sub_pos_of_lt room, sound⟩

theorem held_of_number {negative : Bool} {c d : Cursor} {value : Option Number}
    (scanned : Scan.number negative c = .ok (value, d)) :
    ∀ number, value = some number → number.Held := by
  rintro number rfl
  unfold Scan.number at scanned
  split at scanned
  · cases scanned
  · split at scanned
    · cases scanned
    · split at scanned
      · cases scanned
      · simp only [Except.ok.injEq, Prod.mk.injEq] at scanned
        exact Scan.held_of_numberOf scanned.1

theorem sound_string {room : Nat} (c : Cursor) : (Scan.string c).1.Sound room := by
  unfold Scan.string
  split <;> trivial

/-- Every reading of less than `size` characters gives a sound tree. -/
structure SoundBelow (size : Nat) : Prop where
  value : ∀ depth c, c.rest.length < size → (parse depth c).1.Sound (deepest - depth)
  array : ∀ depth c, c.rest.length < size → (parseArray depth c).1.Sound (deepest - depth)
  items : ∀ depth c, c.rest.length < size → (parseItems depth c).1.Sound (deepest - depth)
  object : ∀ depth c, c.rest.length < size → (parseObject depth c).1.Sound (deepest - depth)
  members : ∀ depth c, c.rest.length < size → (parseMembers depth c).1.Sound (deepest - depth)

theorem sound_parse_of_below {c : Cursor} (below : SoundBelow c.rest.length) (depth : Nat) :
    (parse depth c).1.Sound (deepest - depth) := by
  rw [parse]
  split
  · split <;> trivial
  · split <;> trivial
  · split <;> trivial
  · next rest text =>
    have sound : (Scan.string ⟨c.position.after '"', rest⟩).1.Sound (deepest - depth) :=
      sound_string _
    split
    · next source fault scanned => simpa [scanned] using sound
    · next source d scanned => simpa [scanned] using sound
  · next rest text =>
    have sound := below.array (depth + 1) ⟨c.position.after '[', rest⟩ (by simp [text])
    split
    · next items fault parsed =>
      rw [parsed] at sound
      exact sound_array c c.position sound
    · next items d less parsed =>
      rw [parsed] at sound
      exact sound_array c c.position sound
  · next rest text =>
    have sound := below.object (depth + 1) ⟨c.position.after '\x7b', rest⟩ (by simp [text])
    split
    · next members fault parsed =>
      rw [parsed] at sound
      exact sound_object c c.position sound
    · next members d less parsed =>
      rw [parsed] at sound
      exact sound_object c c.position sound
  · split
    · trivial
    · next value d scanned => exact sound_numberAt d.position (held_of_number scanned)
  · split
    · split
      · trivial
      · next value d scanned => exact sound_numberAt d.position (held_of_number scanned)
    · trivial
  · trivial

theorem SoundBelow.mono {size other : Nat} (below : SoundBelow size) (fewer : other ≤ size) :
    SoundBelow other where
  value depth c less := below.value depth c (less.trans_le fewer)
  array depth c less := below.array depth c (less.trans_le fewer)
  items depth c less := below.items depth c (less.trans_le fewer)
  object depth c less := below.object depth c (less.trans_le fewer)
  members depth c less := below.members depth c (less.trans_le fewer)

theorem sound_parseItems_of_below {c : Cursor} (below : SoundBelow c.rest.length) (depth : Nat) :
    (parseItems depth c).1.Sound (deepest - depth) := by
  have first := sound_parse_of_below below depth
  rw [parseItems]
  split
  · next item fault parsed =>
    rw [parsed] at first
    exact ⟨first, trivial⟩
  · next item d less parsed =>
    rw [parsed] at first
    split
    · next position rest seen =>
      have shorter := Cursor.length_skipBlank_behind seen (position.after ',')
      simp only
      split
      · exact ⟨first, trivial⟩
      · have later := below.items depth (Cursor.skipBlank ⟨position.after ',', rest⟩)
          (shorter.trans less)
        split
        · next items fault parsed =>
          rw [parsed] at later
          exact ⟨first, later⟩
        · next items e lessToo parsed =>
          rw [parsed] at later
          exact ⟨first, later⟩
    · exact ⟨first, trivial⟩
    · exact ⟨first, trivial⟩

theorem sound_parseArray_of_below {c : Cursor} (below : SoundBelow c.rest.length) (depth : Nat) :
    (parseArray depth c).1.Sound (deepest - depth) := by
  rw [parseArray]
  split
  · trivial
  · next position rest _ seen =>
    have noLonger : rest.length ≤ c.rest.length := by
      have := Cursor.length_skipBlank c
      simpa [seen] using this
    have sound := sound_parseItems_of_below (c := ⟨position, rest⟩) (below.mono noLonger) depth
    split
    · next items fault parsed =>
      rw [parsed] at sound
      exact sound
    · next items d less parsed =>
      rw [parsed] at sound
      exact sound

theorem sound_parseMembers_of_below {c : Cursor} (below : SoundBelow c.rest.length) (depth : Nat) :
    (parseMembers depth c).1.Sound (deepest - depth) := by
  rw [parseMembers]
  split
  · next rest text =>
    split
    · exact ⟨trivial, trivial⟩
    · next key d scanned =>
      have keyLess : d.rest.length < c.rest.length := by
        have := Scan.length_string scanned
        simp only [text, List.length_cons] at *
        omega
      simp only
      split
      · next afterKey rest seen =>
        have shorter := Cursor.length_skipBlank_behind seen (afterKey.after ':')
        have held := below.value depth (Cursor.skipBlank ⟨afterKey.after ':', rest⟩)
          (shorter.trans keyLess)
        split
        · next value fault parsed =>
          rw [parsed] at held
          exact ⟨held, trivial⟩
        · next value e less parsed =>
          rw [parsed] at held
          split
          · next next rest seenNext =>
            have shorterToo := Cursor.length_skipBlank_behind seenNext (next.after ',')
            have later := below.members depth (Cursor.skipBlank ⟨next.after ',', rest⟩) (by omega)
            split
            · next members fault parsed =>
              rw [parsed] at later
              exact ⟨held, later⟩
            · next members f lessToo parsed =>
              rw [parsed] at later
              exact ⟨held, later⟩
          · exact ⟨held, trivial⟩
          · exact ⟨held, trivial⟩
      · exact ⟨trivial, trivial⟩
  · trivial

theorem sound_parseObject_of_below {c : Cursor} (below : SoundBelow c.rest.length) (depth : Nat) :
    (parseObject depth c).1.Sound (deepest - depth) := by
  rw [parseObject]
  split
  · trivial
  · next position rest _ seen =>
    have noLonger : rest.length ≤ c.rest.length := by
      have := Cursor.length_skipBlank c
      simpa [seen] using this
    have sound := sound_parseMembers_of_below (c := ⟨position, rest⟩) (below.mono noLonger) depth
    split
    · next members fault parsed =>
      rw [parsed] at sound
      exact sound
    · next members d less parsed =>
      rw [parsed] at sound
      exact sound

theorem soundBelow (size : Nat) : SoundBelow size := by
  induction size with
  | zero => exact ⟨nofun, nofun, nofun, nofun, nofun⟩
  | succ size ih =>
      have below (c : Cursor) (less : c.rest.length < size + 1) : SoundBelow c.rest.length :=
        ih.mono (Nat.le_of_lt_succ less)
      exact ⟨fun depth c less => sound_parse_of_below (below c less) depth,
        fun depth c less => sound_parseArray_of_below (below c less) depth,
        fun depth c less => sound_parseItems_of_below (below c less) depth,
        fun depth c less => sound_parseObject_of_below (below c less) depth,
        fun depth c less => sound_parseMembers_of_below (below c less) depth⟩

theorem sound_parse (depth : Nat) (c : Cursor) : (parse depth c).1.Sound (deepest - depth) :=
  sound_parse_of_below (soundBelow _) depth

theorem sound_ofText (text : String) : (ofText text).1.Sound deepest := by
  have sound := sound_parse 0 (Cursor.skipBlank ⟨.start, text.toList⟩)
  unfold ofText
  split
  · next source fault parsed =>
    rw [parsed] at sound
    exact sound
  · next source behind less parsed =>
    rw [parsed] at sound
    split <;> exact sound

end Source

end DecisionGraph
