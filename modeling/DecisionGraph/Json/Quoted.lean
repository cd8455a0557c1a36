import DecisionGraph.Json.Cursor

/-!
Strings as they stand in a text. A string is read for its characters, or it is skipped. A reader
that skips a string does not ask whether halves of surrogate pairs belong together, and it reports a
control character where the character stands instead of behind it.
-/

namespace DecisionGraph

namespace Scan

def hexValue? (c : Char) : Option Nat :=
  if c.isDigit then some (c.toNat - '0'.toNat)
  else if 'a' ≤ c ∧ c ≤ 'f' then some (c.toNat - 'a'.toNat + 10)
  else if 'A' ≤ c ∧ c ≤ 'F' then some (c.toNat - 'A'.toNat + 10)
  else none

def hexUnit? (a b c d : Char) : Option Nat :=
  match hexValue? a, hexValue? b, hexValue? c, hexValue? d with
  | some a, some b, some c, some d => some (((a * 16 + b) * 16 + c) * 16 + d)
  | _, _, _, _ => none

/-- What a letter behind a backslash stands for, except for the escape by code unit. -/
def shortEscape? : Char → Option Char
  | '"' => some '"'
  | '\\' => some '\\'
  | '/' => some '/'
  | 'b' => some '\x08'
  | 'f' => some '\x0c'
  | 'n' => some '\n'
  | 'r' => some '\r'
  | 't' => some '\t'
  | _ => none

/-- Where the first `count` bytes of a text end; there is no such place in a shorter text. -/
def behindBytes? (position : Position) : Nat → List Char → Option Position
  | 0, _ => some position
  | _ + 1, [] => none
  | count + 1, c :: rest =>
    if c.utf8Size ≤ count + 1 then behindBytes? (position.after c) (count + 1 - c.utf8Size) rest
    else some ⟨position.line, position.column + (count + 1)⟩

/-- Behind `\u` stand four bytes; when they are no hexadecimal digits, the fault is behind them. -/
def hexFault (position : Position) (text : List Char) : Fault :=
  match behindBytes? position 4 text with
  | some behind => ⟨behind, .badEscape⟩
  | none => ⟨text.foldl Position.after position, .unexpectedEnd⟩

def behindUnit (position : Position) : Position := ⟨position.line, position.column + 6⟩

/-- Skips a string behind its opening quote. -/
def skipString (position : Position) : List Char → Except Fault Cursor
  | [] => .error ⟨position, .unexpectedEnd⟩
  | '"' :: rest => .ok ⟨position.after '"', rest⟩
  | '\\' :: 'u' :: a :: b :: c :: d :: rest =>
    if (hexUnit? a b c d).isSome then skipString (behindUnit position) rest
    else .error (hexFault ((position.after '\\').after 'u') (a :: b :: c :: d :: rest))
  | '\\' :: 'u' :: rest => .error (hexFault ((position.after '\\').after 'u') rest)
  | '\\' :: c :: rest =>
    if (shortEscape? c).isSome then skipString ((position.after '\\').after c) rest
    else .error ⟨(position.after '\\').afterByte c, .badEscape⟩
  | '\\' :: [] => .error ⟨position.after '\\', .unexpectedEnd⟩
  | c :: rest =>
    if c.toNat < 0x20 then .error ⟨position, .controlCharacter⟩
    else skipString (position.after c) rest

theorem length_skipString {position : Position} {text : List Char} {d : Cursor}
    (skipped : skipString position text = .ok d) : d.rest.length < text.length := by
  fun_induction skipString position text with
  | case1 | case4 | case5 | case7 | case8 | case9 => simp at skipped
  | case2 =>
      simp only [Except.ok.injEq] at skipped
      simp [← skipped]
  | case3 | case6 | case10 =>
      rename_i ih
      have := ih skipped
      simp only [List.length_cons]; omega

def isHighSurrogate (unit : Nat) : Bool := 0xD800 ≤ unit ∧ unit < 0xDC00

def isLowSurrogate (unit : Nat) : Bool := 0xDC00 ≤ unit ∧ unit < 0xE000

/-- What a code unit is where it stands. -/
inductive UnitRole
  | character (c : Char)
  | firstHalf (unit : Nat)
  | misplaced

def unitRole : Option Nat → Nat → UnitRole
  | none, unit =>
    if isLowSurrogate unit then .misplaced
    else if isHighSurrogate unit then .firstHalf unit
    else .character (Char.ofNat unit)
  | some high, unit =>
    if isLowSurrogate unit then
      .character (Char.ofNat (0x10000 + (high - 0xD800) * 0x400 + (unit - 0xDC00)))
    else .misplaced

/-- The characters of a string behind its opening quote. `half` is the first half of a surrogate
pair when one stands just before, and `done` holds in reverse what was read already. -/
def characters (position : Position) (half : Option Nat) (done : List Char) :
    List Char → Except Fault (List Char)
  | [] => .error ⟨position, .unexpectedEnd⟩
  | '\\' :: 'u' :: a :: b :: c :: d :: rest =>
    match hexUnit? a b c d with
    | none => .error (hexFault ((position.after '\\').after 'u') (a :: b :: c :: d :: rest))
    | some unit =>
      match unitRole half unit with
      | .character c => characters (behindUnit position) none (c :: done) rest
      | .firstHalf unit => characters (behindUnit position) (some unit) done rest
      | .misplaced => .error ⟨behindUnit position, .loneSurrogate⟩
  | '\\' :: 'u' :: rest => .error (hexFault ((position.after '\\').after 'u') rest)
  | '\\' :: c :: rest =>
    let behind := (position.after '\\').afterByte c
    match half, shortEscape? c with
    | some _, _ => .error ⟨behind, .loneSurrogate⟩
    | none, some c => characters behind none (c :: done) rest
    | none, none => .error ⟨behind, .badEscape⟩
  | '\\' :: [] => .error ⟨position.after '\\', .unexpectedEnd⟩
  | c :: rest =>
    if half.isSome then .error ⟨position.afterByte c, .loneSurrogate⟩
    else if c = '"' then .ok done.reverse
    else if c.toNat < 0x20 then .error ⟨position.after c, .controlCharacter⟩
    else characters (position.after c) none (c :: done) rest

/-- A string behind its opening quote, in both readings. A text whose string cannot even be skipped
ends there, and what is around the string ends at the later of the two faults. -/
def string (c : Cursor) : Source × Except Fault Cursor :=
  match skipString c.position c.rest, characters c.position none [] c.rest with
  | .ok later, .ok text => (.string later.position (String.ofList text), .ok later)
  | .ok later, .error wanted => (.barred wanted (.null later.position), .ok later)
  | .error skipped, .ok _ => (.broken skipped skipped, .error skipped)
  | .error skipped, .error wanted => (.broken wanted skipped, .error (wanted.later skipped))

theorem length_string {c d : Cursor} {source : Source}
    (scanned : string c = (source, .ok d)) : d.rest.length < c.rest.length := by
  simp only [string] at scanned
  split at scanned <;>
    simp only [Prod.mk.injEq, Except.ok.injEq, reduceCtorEq, and_false] at scanned
  all_goals
    next found _ => exact scanned.2 ▸ length_skipString found

end Scan

end DecisionGraph
