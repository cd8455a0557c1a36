import DecisionGraph.Proofs.ReadBack
import DecisionGraph.Proofs.Shown

/-!
What was printed is read again: the text of a value, with blanks between its parts or without, is
taken apart into a tree that shows the value.
-/

namespace DecisionGraph

open Cursor Json Scan

theorem Json.stringText_append (text : String) (rest : List Char) :
    stringText text ++ rest = '"' :: (text.toList.flatMap escape ++ '"' :: rest) := by
  simp [stringText]

namespace Source

/-! What the reader does where it stands. -/

section Steps

theorem takes_null (depth : Nat) (position : Position) (rest : List Char) : ∃ behind,
    Takes (parse depth ⟨position, "null".toList ++ rest⟩) (.null behind) ⟨behind, rest⟩ := by
  refine ⟨(((position.after 'n').after 'u').after 'l').after 'l', by simp; omega, ?_⟩
  rw [parse]
  rfl

theorem takes_boolText (depth : Nat) (position : Position) (value : Bool) (rest : List Char) :
    ∃ behind, Takes (parse depth ⟨position, boolText value ++ rest⟩) (.bool behind value)
      ⟨behind, rest⟩ := by
  cases value with
  | true =>
      refine ⟨(((position.after 't').after 'r').after 'u').after 'e', by simp [boolText]; omega, ?_⟩
      rw [parse]
      rfl
  | false =>
      refine ⟨((((position.after 'f').after 'a').after 'l').after 's').after 'e',
        by simp [boolText]; omega, ?_⟩
      rw [parse]
      rfl

theorem takes_stringText (depth : Nat) (position : Position) (value : String) (rest : List Char) :
    ∃ behind, Takes (parse depth ⟨position, stringText value ++ rest⟩) (.string behind value)
      ⟨behind, rest⟩ := by
  obtain ⟨behind, scanned⟩ := string_escaped (position.after '"') value rest
  rw [stringText_append]
  refine ⟨behind, Nat.lt_succ_of_lt (length_string scanned), ?_⟩
  rw [parse]
  split
  iterate 3 next same => simp at same
  · next same =>
    cases same
    split
    · next failed => cases scanned.symm.trans failed
    · next found =>
      cases scanned.symm.trans found
      rfl
  iterate 3 next same => simp at same
  · next notQuote _ _ _ same =>
    cases same
    exact (notQuote rfl).elim
  · next same => simp at same

variable {depth : Nat} {position : Position} {text : List Char} {d : Cursor}

theorem takes_array {items : Items} (room : depth < deepest)
    (taken : Takes (parseArray (depth + 1) ⟨position.after '[', text⟩) items d) :
    Takes (parse depth ⟨position, '[' :: text⟩) (.array position items) d := by
  obtain ⟨less, parsed⟩ := taken
  refine ⟨Nat.lt_succ_of_lt less, ?_⟩
  rw [parse]
  simp only [parsed, nested, if_pos room]

theorem takes_object {members : Members} (room : depth < deepest)
    (taken : Takes (parseObject (depth + 1) ⟨position.after '\x7b', text⟩) members d) :
    Takes (parse depth ⟨position, '\x7b' :: text⟩) (.object position members) d := by
  obtain ⟨less, parsed⟩ := taken
  refine ⟨Nat.lt_succ_of_lt less, ?_⟩
  rw [parse]
  simp only [parsed, nested, if_pos room]

theorem takes_noItems (rest : List Char) :
    Takes (parseArray depth ⟨position, ']' :: rest⟩) (.done (position.after ']'))
      ⟨position.after ']', rest⟩ := by
  refine ⟨Nat.lt_succ_self _, ?_⟩
  rw [parseArray]
  rfl

theorem takes_items {c next : Cursor} {items : Items} (skipped : c.skipBlank = next)
    (some : next.rest.head? ≠ some ']') (taken : Takes (parseItems depth next) items d) :
    Takes (parseArray depth c) items d := by
  subst skipped
  have ⟨less, _⟩ := taken
  refine ⟨Nat.lt_of_lt_of_le less (length_skipBlank c), ?_⟩
  rw [parseArray]
  split
  · next seen =>
    rw [seen] at some
    exact absurd rfl some
  · next seen =>
    rw [seen] at taken
    obtain ⟨_, parsed⟩ := taken
    simp only [parsed]

theorem takes_lastItem {c : Cursor} {item : Source} {behind : Position} {rest : List Char}
    (taken : Takes (parse depth c) item d) (closed : d.skipBlank = ⟨behind, ']' :: rest⟩) :
    Takes (parseItems depth c) (.more item behind (.done (behind.after ']')))
      ⟨behind.after ']', rest⟩ := by
  obtain ⟨less, parsed⟩ := taken
  refine ⟨Nat.lt_trans (length_behind closed) less, ?_⟩
  rw [parseItems, parsed]
  simp only
  split
  · next seen => cases closed.symm.trans seen
  · next seen =>
    cases closed.symm.trans seen
    rfl
  · next _ other => exact (other _ _ closed).elim

theorem takes_moreItems {c next e : Cursor} {item : Source} {items : Items} {behind : Position}
    {rest : List Char} (taken : Takes (parse depth c) item d)
    (parted : d.skipBlank = ⟨behind, ',' :: rest⟩)
    (skipped : skipBlank ⟨behind.after ',', rest⟩ = next) (some : next.rest.head? ≠ some ']')
    (later : Takes (parseItems depth next) items e) :
    Takes (parseItems depth c) (.more item next.position items) e := by
  obtain ⟨less, parsed⟩ := taken
  obtain ⟨lessToo, parsedToo⟩ := later
  subst skipped
  refine ⟨lessToo.trans ((length_skipBlank_behind parted _).trans less), ?_⟩
  rw [parseItems, parsed]
  simp only
  split
  · next seen =>
    cases parted.symm.trans seen
    split
    · next closing =>
      rw [closing] at some
      exact absurd rfl some
    · simp only [parsedToo]
  · next seen => cases parted.symm.trans seen
  · next other _ => exact (other _ _ parted).elim

theorem takes_noMembers (rest : List Char) :
    Takes (parseObject depth ⟨position, '\x7d' :: rest⟩) (.done (position.after '\x7d'))
      ⟨position.after '\x7d', rest⟩ := by
  refine ⟨Nat.lt_succ_self _, ?_⟩
  rw [parseObject]
  rfl

theorem takes_members {c next : Cursor} {members : Members} (skipped : c.skipBlank = next)
    (some : next.rest.head? ≠ some '\x7d') (taken : Takes (parseMembers depth next) members d) :
    Takes (parseObject depth c) members d := by
  subst skipped
  have ⟨less, _⟩ := taken
  refine ⟨Nat.lt_of_lt_of_le less (length_skipBlank c), ?_⟩
  rw [parseObject]
  split
  · next seen =>
    rw [seen] at some
    exact absurd rfl some
  · next seen =>
    rw [seen] at taken
    obtain ⟨_, parsed⟩ := taken
    simp only [parsed]

/-- Behind a member at `d` the object closes, or further members follow. -/
def GoesOn (depth : Nat) (d : Cursor) (next : Position) (members : Members) (e : Cursor) : Prop :=
  (∃ rest, d.skipBlank = ⟨next, '\x7d' :: rest⟩ ∧
    members = .done (next.after '\x7d') ∧ e = ⟨next.after '\x7d', rest⟩) ∨
  ∃ rest, d.skipBlank = ⟨next, ',' :: rest⟩ ∧
    Takes (parseMembers depth (skipBlank ⟨next.after ',', rest⟩)) members e

theorem GoesOn.shorter {next : Position} {members : Members} {e : Cursor}
    (goesOn : GoesOn depth d next members e) : e.rest.length < d.rest.length := by
  obtain ⟨rest, closed, _, rfl⟩ | ⟨rest, parted, less, _⟩ := goesOn
  · exact length_behind closed
  · exact less.trans (length_skipBlank_behind parted _)

theorem takes_member {keyed e : Cursor} {key value : Source} {members : Members}
    {afterKey next : Position} {rest : List Char}
    (scanned : Scan.string ⟨position.after '"', text⟩ = (key, .ok keyed))
    (parted : keyed.skipBlank = ⟨afterKey, ':' :: rest⟩)
    (taken : Takes (parse depth (skipBlank ⟨afterKey.after ':', rest⟩)) value d)
    (goesOn : GoesOn depth d next members e) :
    Takes (parseMembers depth ⟨position, '"' :: text⟩) (.more key afterKey value next members)
      e := by
  obtain ⟨less, parsed⟩ := taken
  have keyLess := length_string scanned
  have shorter := length_skipBlank_behind parted (afterKey.after ':')
  refine ⟨Nat.lt_succ_of_lt (goesOn.shorter.trans (less.trans (shorter.trans keyLess))), ?_⟩
  rw [parseMembers]
  split
  · next same =>
    cases same
    split
    · next failed => cases scanned.symm.trans failed
    · next found =>
      cases scanned.symm.trans found
      simp only
      split
      · next seen =>
        cases parted.symm.trans seen
        simp only [parsed]
        obtain ⟨more, closed, rfl, rfl⟩ | ⟨more, partedToo, _, parsedToo⟩ := goesOn
        · split
          · next seen => cases closed.symm.trans seen
          · next seen =>
            cases closed.symm.trans seen
            rfl
          · next _ other => exact (other _ _ closed).elim
        · split
          · next seen =>
            cases partedToo.symm.trans seen
            simp only [parsedToo]
          · next seen => cases partedToo.symm.trans seen
          · next other _ => exact (other _ _ partedToo).elim
      · next other => exact (other _ _ parted).elim
  · next other => exact (other _ rfl).elim

end Steps

end Source

open Source

/-! Texts with blanks between their parts. -/

theorem ends_cons {c : Char} (token : c.isDigit = false ∧ c ≠ '.' ∧ c ≠ 'e' ∧ c ≠ 'E')
    (rest : List Char) : Ends (c :: rest) := by
  rintro _ ⟨⟩
  exact token

theorem ends_blank {c : Char} (blank : Blank c) (rest : List Char) : Ends (c :: rest) := by
  refine ends_cons ?_ rest
  rcases blank with rfl | rfl | rfl | rfl <;> decide

theorem ends_token {c : Char} (token : c.isDigit = false ∧ c ≠ '.' ∧ c ≠ 'e' ∧ c ≠ 'E')
    {gap : List Char} (blank : ∀ c ∈ gap, Blank c) (rest : List Char) :
    Ends (gap ++ c :: rest) := by
  cases gap with
  | nil => exact ends_cons token rest
  | cons other gap => exact ends_blank (blank other List.mem_cons_self) _

theorem solid_cons {c : Char} (solid : ¬ Blank c) (rest : List Char) : Solid (c :: rest) := by
  rintro _ ⟨⟩
  exact solid

/-- What stands between the parts of a value: before an item or a closing bracket, by depth, and
behind a colon. -/
structure Spacing where
  gap : Nat → List Char
  space : List Char
  blank_gap : ∀ level, ∀ c ∈ gap level, Blank c
  blank_space : ∀ c ∈ space, Blank c

namespace Spacing

def dense : Spacing where
  gap _ := []
  space := []
  blank_gap _ := nofun
  blank_space := nofun

def indented : Spacing where
  gap := newLine
  space := [' ']
  blank_gap _ := List.forall_mem_cons.mpr ⟨.inr (.inl rfl), fun _ listed =>
    .inl (List.eq_of_mem_replicate listed)⟩
  blank_space := List.forall_mem_singleton.mpr (.inl rfl)

end Spacing

namespace Json

mutual

/-- The text of a value with the given spacing. -/
def laid (spacing : Spacing) (level : Nat) : Json → List Char
  | .null => "null".toList
  | .bool value => boolText value
  | .number value => numberText value
  | .string value => stringText value
  | .array [] => ['[', ']']
  | .array (first :: rest) =>
    '[' :: (spacing.gap (level + 1) ++ laid spacing (level + 1) first ++
      laidItems spacing level rest)
  | .object [] => ['\x7b', '\x7d']
  | .object ((key, value) :: rest) =>
    '\x7b' :: (spacing.gap (level + 1) ++ stringText key ++ ':' :: (spacing.space ++
      (laid spacing (level + 1) value ++ laidMembers spacing level rest)))

def laidItems (spacing : Spacing) (level : Nat) : List Json → List Char
  | [] => spacing.gap level ++ [']']
  | item :: rest =>
    ',' :: (spacing.gap (level + 1) ++ laid spacing (level + 1) item ++
      laidItems spacing level rest)

def laidMembers (spacing : Spacing) (level : Nat) : List (String × Json) → List Char
  | [] => spacing.gap level ++ ['\x7d']
  | (key, value) :: rest =>
    ',' :: (spacing.gap (level + 1) ++ stringText key ++ ':' :: (spacing.space ++
      (laid spacing (level + 1) value ++ laidMembers spacing level rest)))

end

mutual

theorem compact_eq_laid (level : Nat) : ∀ json : Json, json.compact = json.laid .dense level
  | .null | .bool _ | .number _ | .string _ | .array [] | .object [] => rfl
  | .array (first :: rest) => by
      simp only [compact, laid, compact_eq_laid (level + 1) first, compactItems_eq_laid level rest]
      rfl
  | .object ((key, value) :: rest) => by
      simp only [compact, laid, compact_eq_laid (level + 1) value,
        compactMembers_eq_laid level rest]
      rfl

theorem compactItems_eq_laid (level : Nat) : ∀ items : List Json,
    compactItems items = laidItems .dense level items
  | [] => rfl
  | item :: rest => by
      simp only [compactItems, laidItems, compact_eq_laid (level + 1) item,
        compactItems_eq_laid level rest]
      rfl

theorem compactMembers_eq_laid (level : Nat) : ∀ members : List (String × Json),
    compactMembers members = laidMembers .dense level members
  | [] => rfl
  | (key, value) :: rest => by
      simp only [compactMembers, laidMembers, compact_eq_laid (level + 1) value,
        compactMembers_eq_laid level rest]
      rfl

end

mutual

theorem pretty_eq_laid (level : Nat) : ∀ json : Json, json.pretty level = json.laid .indented level
  | .null | .bool _ | .number _ | .string _ | .array [] | .object [] => rfl
  | .array (first :: rest) => by
      simp only [pretty, laid, pretty_eq_laid (level + 1) first, prettyItems_eq_laid level rest]
      rfl
  | .object ((key, value) :: rest) => by
      simp only [pretty, laid, pretty_eq_laid (level + 1) value, prettyMembers_eq_laid level rest]
      rfl

theorem prettyItems_eq_laid (level : Nat) : ∀ items : List Json,
    prettyItems level items = laidItems .indented level items
  | [] => rfl
  | item :: rest => by
      simp only [prettyItems, laidItems, pretty_eq_laid (level + 1) item,
        prettyItems_eq_laid level rest]
      rfl

theorem prettyMembers_eq_laid (level : Nat) : ∀ members : List (String × Json),
    prettyMembers level members = laidMembers .indented level members
  | [] => rfl
  | (key, value) :: rest => by
      simp only [prettyMembers, laidMembers, pretty_eq_laid (level + 1) value,
        prettyMembers_eq_laid level rest]
      rfl

end

end Json

/-- The text is read as the value, wherever it stands; it starts like a value. -/
structure Legible (depth : Nat) (text : List Char) (json : Json) : Prop where
  opens : ∃ c more, text = c :: more ∧ ¬ Blank c ∧ c ≠ ']'
  taken : ∀ position rest, Ends rest → ∃ source behind,
    Takes (parse depth ⟨position, text ++ rest⟩) source ⟨behind, rest⟩ ∧ source.Shows json

namespace Legible

variable {depth : Nat} {text : List Char} {json : Json}

theorem solid (legible : Legible depth text json) (rest : List Char) : Solid (text ++ rest) := by
  obtain ⟨c, more, rfl, solid, _⟩ := legible.opens
  rintro _ ⟨⟩
  exact solid

theorem not_closing (legible : Legible depth text json) (rest : List Char) :
    (text ++ rest).head? ≠ some ']' := by
  obtain ⟨c, more, rfl, _, other⟩ := legible.opens
  exact fun same => other (Option.some.inj same)

theorem null : Legible depth "null".toList .null where
  opens := ⟨'n', _, rfl, by decide, by decide⟩
  taken position rest _ := by
    obtain ⟨behind, taken⟩ := takes_null depth position rest
    exact ⟨_, behind, taken, .null behind⟩

theorem bool (value : Bool) : Legible depth (boolText value) (.bool value) where
  opens := by
    cases value <;> exact ⟨_, _, rfl, by decide, by decide⟩
  taken position rest _ := by
    obtain ⟨behind, taken⟩ := takes_boolText depth position value rest
    exact ⟨_, behind, taken, .bool behind value⟩

theorem string (value : String) : Legible depth (stringText value) (.string value) where
  opens := ⟨'"', _, rfl, by decide, by decide⟩
  taken position rest _ := by
    obtain ⟨behind, taken⟩ := takes_stringText depth position value rest
    exact ⟨_, behind, taken, .string behind value⟩

theorem number {number : Number} (scans : number.Scans) :
    Legible depth (numberText number) (.number number) where
  opens := by
    have unspaced := unspaced_numberText number
    obtain ⟨negative, text, written, start, stop, scanned⟩ := scans
    obtain ⟨x, more, rfl, digit⟩ := exists_digit_of_number scanned
    cases negative with
    | true => exact ⟨'-', _, written, by decide, by decide⟩
    | false =>
        refine ⟨x, more, written, unspaced x (written ▸ List.mem_cons_self), ?_⟩
        rintro rfl
        cases digit
  taken position rest ends := by
    obtain ⟨negative, text, written, start, stop, scanned⟩ := scans
    obtain ⟨behind, taken⟩ := takes_number scanned depth position ends
    rw [← written] at taken
    exact ⟨_, behind, taken, .number behind number⟩

section Containers

variable {spacing : Spacing} {level : Nat}

theorem ends_laidItems (rest : List Json) (after : List Char) :
    Ends (laidItems spacing level rest ++ after) := by
  cases rest with
  | nil =>
      rw [laidItems, List.append_assoc]
      exact ends_token (by decide) (spacing.blank_gap level) after
  | cons item rest => exact ends_cons (by decide) _

theorem ends_laidMembers (rest : List (String × Json)) (after : List Char) :
    Ends (laidMembers spacing level rest ++ after) := by
  cases rest with
  | nil =>
      rw [laidMembers, List.append_assoc]
      exact ends_token (by decide) (spacing.blank_gap level) after
  | cons item rest => exact ends_cons (by decide) _

/-- The first of several items, and with it the others. -/
theorem takes_laidItems {first : Json} {rest : List Json}
    (each : ∀ item ∈ first :: rest, Legible depth (laid spacing (level + 1) item) item)
    (position : Position) (after : List Char) : ∃ items behind,
      Takes (parseItems depth
          ⟨position, laid spacing (level + 1) first ++ (laidItems spacing level rest ++ after)⟩)
        items ⟨behind, after⟩ ∧ items.Shows (first :: rest) := by
  induction rest generalizing first position with
  | nil =>
      -- Even without a gap a number ends here, at the bracket.
      obtain ⟨source, behind, taken, shows⟩ :=
        (each first List.mem_cons_self).taken position _ (ends_laidItems [] after)
      have solid : Solid (']' :: after) := solid_cons (by decide) after
      obtain ⟨closing, closed⟩ := skipBlank_append behind (spacing.blank_gap level) solid
      rw [← List.singleton_append, ← List.append_assoc] at closed
      exact ⟨_, _, takes_lastItem taken closed, .more closing shows (.done _)⟩
  | cons item rest ih =>
      obtain ⟨firstLegible, others⟩ := List.forall_mem_cons.mp each
      have next := others item List.mem_cons_self
      have written : laidItems spacing level (item :: rest) ++ after =
          ',' :: (spacing.gap (level + 1) ++
            (laid spacing (level + 1) item ++ (laidItems spacing level rest ++ after))) := by
        simp [laidItems]
      obtain ⟨source, behind, taken, shows⟩ :=
        firstLegible.taken position _ (written ▸ ends_laidItems (item :: rest) after)
      have parted := skipBlank_solid behind (solid_cons (c := ',') (by decide)
        (spacing.gap (level + 1) ++
          (laid spacing (level + 1) item ++ (laidItems spacing level rest ++ after))))
      obtain ⟨start, skipped⟩ := skipBlank_append (behind.after ',') (spacing.blank_gap (level + 1))
        (next.solid (laidItems spacing level rest ++ after))
      obtain ⟨items, stop, later, showsLater⟩ := ih others start
      rw [written]
      exact ⟨_, stop, takes_moreItems taken parted skipped (next.not_closing _) later,
        .more start shows showsLater⟩

theorem takes_laidMember {value : Json} (legible : Legible depth (laid spacing level value) value)
    (key : String) (position : Position) {after : List Char} (ends : Ends after) :
    ∃ keyBehind afterKey source behind, source.Shows value ∧
      ∀ {next members e}, GoesOn depth ⟨behind, after⟩ next members e →
        Takes (parseMembers depth ⟨position, stringText key ++ ':' :: (spacing.space ++
            (laid spacing level value ++ after))⟩)
          (.more (.string keyBehind key) afterKey source next members) e := by
  obtain ⟨keyBehind, scanned⟩ := string_escaped (position.after '"') key
    (':' :: (spacing.space ++ (laid spacing level value ++ after)))
  have parted := skipBlank_solid keyBehind (solid_cons (c := ':') (by decide)
    (spacing.space ++ (laid spacing level value ++ after)))
  obtain ⟨start, skipped⟩ := skipBlank_append (keyBehind.after ':') spacing.blank_space
    (legible.solid after)
  obtain ⟨source, behind, taken, shows⟩ := legible.taken start after ends
  rw [← skipped] at taken
  refine ⟨keyBehind, keyBehind, source, behind, shows, fun goesOn => ?_⟩
  rw [stringText_append]
  exact takes_member scanned parted taken goesOn

/-- The first of several members, and with it the others. -/
theorem takes_laidMembers {key : String} {value : Json} {rest : List (String × Json)}
    (each : ∀ member ∈ (key, value) :: rest,
      Legible depth (laid spacing (level + 1) member.2) member.2)
    (position : Position) (after : List Char) : ∃ members behind,
      Takes (parseMembers depth ⟨position, stringText key ++ ':' :: (spacing.space ++
          (laid spacing (level + 1) value ++ (laidMembers spacing level rest ++ after)))⟩)
        members ⟨behind, after⟩ ∧ members.Shows ((key, value) :: rest) := by
  induction rest generalizing key value position with
  | nil =>
      obtain ⟨keyBehind, afterKey, source, behind, shows, taken⟩ :=
        takes_laidMember (each _ List.mem_cons_self) key position (ends_laidMembers [] after)
      have solid : Solid ('\x7d' :: after) := solid_cons (by decide) after
      obtain ⟨closing, closed⟩ := skipBlank_append behind (spacing.blank_gap level) solid
      rw [← List.singleton_append, ← List.append_assoc] at closed
      exact ⟨_, _, taken (.inl ⟨after, closed, rfl, rfl⟩),
        .more keyBehind afterKey closing key shows (.done _)⟩
  | cons member rest ih =>
      obtain ⟨name, other⟩ := member
      obtain ⟨firstLegible, others⟩ := List.forall_mem_cons.mp each
      have written : laidMembers spacing level ((name, other) :: rest) ++ after =
          ',' :: (spacing.gap (level + 1) ++ (stringText name ++ ':' :: (spacing.space ++
            (laid spacing (level + 1) other ++ (laidMembers spacing level rest ++ after))))) := by
        simp [laidMembers]
      obtain ⟨keyBehind, afterKey, source, behind, shows, taken⟩ :=
        takes_laidMember firstLegible key position
          (written ▸ ends_laidMembers ((name, other) :: rest) after)
      have parted := skipBlank_solid behind (solid_cons (c := ',') (by decide)
        (spacing.gap (level + 1) ++ (stringText name ++ ':' :: (spacing.space ++
          (laid spacing (level + 1) other ++ (laidMembers spacing level rest ++ after))))))
      obtain ⟨start, skipped⟩ := skipBlank_append (behind.after ',') (spacing.blank_gap (level + 1))
        (solid_cons (c := '"') (by decide) _)
      obtain ⟨members, stop, later, showsLater⟩ := ih others start
      rw [written]
      exact ⟨_, stop, taken (.inr ⟨_, parted, skipped ▸ later⟩),
        .more keyBehind afterKey behind key shows showsLater⟩

theorem array {items : List Json} (room : depth < deepest)
    (each : ∀ item ∈ items, Legible (depth + 1) (laid spacing (level + 1) item) item) :
    Legible depth (laid spacing level (.array items)) (.array items) where
  opens := by
    cases items <;> exact ⟨_, _, rfl, by decide, by decide⟩
  taken position after _ := by
    cases items with
    | nil => exact ⟨_, _, takes_array room (takes_noItems after), .array position (.done _)⟩
    | cons first rest =>
        have legible := each first List.mem_cons_self
        obtain ⟨start, skipped⟩ := skipBlank_append (position.after '[')
          (spacing.blank_gap (level + 1)) (legible.solid (laidItems spacing level rest ++ after))
        obtain ⟨items, behind, taken, shows⟩ := takes_laidItems each start after
        have written : laid spacing level (.array (first :: rest)) ++ after =
            '[' :: (spacing.gap (level + 1) ++
              (laid spacing (level + 1) first ++ (laidItems spacing level rest ++ after))) := by
          simp [laid]
        rw [written]
        exact ⟨_, behind, takes_array room (takes_items skipped (legible.not_closing _) taken),
          .array position shows⟩

theorem object {members : List (String × Json)} (room : depth < deepest)
    (each : ∀ member ∈ members,
      Legible (depth + 1) (laid spacing (level + 1) member.2) member.2) :
    Legible depth (laid spacing level (.object members)) (.object members) where
  opens := by
    cases members <;> exact ⟨_, _, rfl, by decide, by decide⟩
  taken position after _ := by
    cases members with
    | nil => exact ⟨_, _, takes_object room (takes_noMembers after), .object position (.done _)⟩
    | cons first rest =>
        obtain ⟨key, value⟩ := first
        have solid := solid_cons (c := '"') (by decide)
        obtain ⟨start, skipped⟩ := skipBlank_append (position.after '\x7b')
          (spacing.blank_gap (level + 1)) (solid _)
        obtain ⟨members, behind, taken, shows⟩ := takes_laidMembers each start after
        have written : laid spacing level (.object ((key, value) :: rest)) ++ after =
            '\x7b' :: (spacing.gap (level + 1) ++ (stringText key ++ ':' :: (spacing.space ++
              (laid spacing (level + 1) value ++ (laidMembers spacing level rest ++ after))))) := by
          simp [laid]
        rw [written]
        exact ⟨_, behind, takes_object room (takes_members skipped (by simp) taken),
          .object position shows⟩

end Containers

end Legible

/-! Values that there is room for. -/

namespace Json

mutual

/-- The reals that are written in the text of a value. -/
def reals : Json → List Float
  | .number (.real value) => [value]
  | .array items => itemsReals items
  | .object members => membersReals members
  | .null | .bool _ | .number (.integer _) | .string _ => []

def itemsReals : List Json → List Float
  | [] => []
  | item :: rest => reals item ++ itemsReals rest

def membersReals : List (String × Json) → List Float
  | [] => []
  | (_, value) :: rest => reals value ++ membersReals rest

end

theorem mem_reals_array {items : List Json} {item : Json} {x : Float} (listed : item ∈ items)
    (written : x ∈ item.reals) : x ∈ (array items).reals := by
  rw [reals]
  induction items with
  | nil => cases listed
  | cons first rest ih =>
      rw [itemsReals, List.mem_append]
      rcases List.mem_cons.mp listed with rfl | later
      · exact .inl written
      · exact .inr (ih later)

theorem mem_reals_object {members : List (String × Json)} {member : String × Json} {x : Float}
    (listed : member ∈ members) (written : x ∈ member.2.reals) : x ∈ (object members).reals := by
  rw [reals]
  induction members with
  | nil => cases listed
  | cons first rest ih =>
      rw [membersReals, List.mem_append]
      rcases List.mem_cons.mp listed with rfl | later
      · exact .inl written
      · exact .inr (ih later)

/-- Numbers are held as numbers are, and there is room to nest the containers. -/
inductive Fits : Nat → Json → Prop
  | null (room : Nat) : Fits room .null
  | bool (room : Nat) (value : Bool) : Fits room (.bool value)
  | string (room : Nat) (value : String) : Fits room (.string value)
  | number (room : Nat) {value : Number} (held : value.Held) : Fits room (.number value)
  | array {room : Nat} {items : List Json} (each : ∀ item ∈ items, Fits room item) :
    Fits (room + 1) (.array items)
  | object {room : Nat} {members : List (String × Json)}
    (each : ∀ member ∈ members, Fits room member.2) : Fits (room + 1) (.object members)

theorem Held.fits {room : Nat} {json : Json} (held : json.Held room) : json.Fits room := by
  induction held with
  | null room => exact .null room
  | bool room value => exact .bool room value
  | string room value => exact .string room value
  | number room held => exact .number room held
  | array each ih => exact .array ih
  | object sorted each ih => exact .object ih

/-- A value that there is room for is read from its text, with any spacing. -/
theorem Fits.legible {room : Nat} {json : Json} (fits : json.Fits room)
    (numbers : ∀ x ∈ json.reals, x.isFinite = true → (Number.real x).ReadsBack)
    (spacing : Spacing) {depth : Nat} (shallow : depth + room ≤ deepest) (level : Nat) :
    Legible depth (json.laid spacing level) json := by
  induction fits generalizing depth level with
  | null => exact .null
  | bool room value => exact .bool value
  | string room value => exact .string value
  | number room held =>
      next value =>
      cases value with
      | integer value => exact .number (Number.integer_scans held)
      | real x => exact .number (numbers x List.mem_cons_self held).scans
  | array each ih =>
      exact .array (by omega) fun item listed =>
        ih item listed (fun x written => numbers x (mem_reals_array listed written)) (by omega) _
  | object each ih =>
      exact .object (by omega) fun member listed =>
        ih member listed (fun x written => numbers x (mem_reals_object listed written)) (by omega) _

end Json

/-- A text with nothing but blanks behind it is read as what it shows. -/
theorem Legible.read_eq {α : Type} {decode : Decoder α} {text : List Char} {json : Json} {value : α}
    (legible : Legible 0 text json) (reads : Decoder.Reads decode json value) {after : List Char}
    (blank : ∀ c ∈ after, Blank c) :
    Decoder.read decode (String.ofList (text ++ after)) = .ok value := by
  have ends : Ends after := by
    cases after with
    | nil => exact nofun
    | cons c after => exact ends_blank (blank c List.mem_cons_self) after
  obtain ⟨source, behind, taken, shows⟩ := legible.taken .start after ends
  have skipped : skipBlank ⟨.start, (String.ofList (text ++ after)).toList⟩ =
      ⟨.start, text ++ after⟩ := by
    rw [String.toList_ofList, skipBlank_solid _ (legible.solid after)]
  unfold Decoder.read
  rw [ofText_of_takes skipped taken blank]
  simp only [reads source source.position shows]
  rfl

namespace Decoder.Reads

variable {α : Type} {decode : Decoder α} {json : Json} {value : α}

theorem of_printed (reads : Decoder.Reads decode json value) (fits : json.Fits deepest)
    (numbers : ∀ x ∈ json.reals, x.isFinite = true → (Number.real x).ReadsBack) {after : String}
    (blank : ∀ c ∈ after.toList, Blank c) :
    Decoder.read decode (json.compactText ++ after) = .ok value ∧
      Decoder.read decode (json.prettyText ++ after) = .ok value := by
  have legible (spacing : Spacing) : Legible 0 (json.laid spacing 0) json :=
    fits.legible numbers spacing (Nat.zero_add _).le 0
  have joined (text : List Char) : String.ofList text ++ after =
      String.ofList (text ++ after.toList) := String.toList_injective (by simp)
  unfold compactText prettyText
  rw [joined, joined, compact_eq_laid 0, pretty_eq_laid 0]
  exact ⟨(legible .dense).read_eq reads blank, (legible .indented).read_eq reads blank⟩

theorem of_texts (reads : Decoder.Reads decode json value) (fits : json.Fits deepest)
    (numbers : ∀ x ∈ json.reals, x.isFinite = true → (Number.real x).ReadsBack) :
    Decoder.read decode json.compactText = .ok value ∧
      Decoder.read decode json.prettyText = .ok value := by
  have none : ∀ c ∈ "".toList, Blank c := nofun
  simpa only [String.append_empty] using reads.of_printed fits numbers none

end Decoder.Reads

end DecisionGraph
