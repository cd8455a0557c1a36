import DecisionGraph.Json.Source

/-!
A place in a text of the data format with what is left of it, and the plainest things read there:
blanks and words spelled out.
-/

namespace DecisionGraph

/-- What is left of the text, and where it starts. -/
structure Cursor where
  position : Position
  rest : List Char

namespace Cursor

/-- The fault at the next character, which is still there: the end, or that character. -/
def faultAhead (c : Cursor) : Fault :=
  match c.rest with
  | [] => ⟨c.position, .unexpectedEnd⟩
  | next :: _ => ⟨c.position.afterByte next, .unexpectedText⟩

def skipBlankFrom (position : Position) : List Char → Cursor
  | [] => ⟨position, []⟩
  | c :: rest =>
    if c = ' ' ∨ c = '\n' ∨ c = '\t' ∨ c = '\r' then skipBlankFrom (position.after c) rest
    else ⟨position, c :: rest⟩

def skipBlank (c : Cursor) : Cursor := skipBlankFrom c.position c.rest

theorem length_skipBlankFrom (position : Position) (text : List Char) :
    (skipBlankFrom position text).rest.length ≤ text.length := by
  induction text generalizing position with
  | nil => simp [skipBlankFrom]
  | cons c rest ih =>
      simp only [skipBlankFrom]
      split
      · have := ih (position.after c); simp only [List.length_cons]; omega
      · simp

theorem length_skipBlank (c : Cursor) : c.skipBlank.rest.length ≤ c.rest.length :=
  length_skipBlankFrom c.position c.rest

theorem length_behind {c : Cursor} {position : Position} {x : Char} {rest : List Char}
    (seen : c.skipBlank = ⟨position, x :: rest⟩) : rest.length < c.rest.length := by
  have := length_skipBlank c
  simp only [seen, List.length_cons] at this
  omega

theorem length_skipBlank_behind {c : Cursor} {position : Position} {x : Char} {rest : List Char}
    (seen : c.skipBlank = ⟨position, x :: rest⟩) (later : Position) :
    (Cursor.mk later rest).skipBlank.rest.length < c.rest.length :=
  Nat.lt_of_le_of_lt (length_skipBlank ⟨later, rest⟩) (length_behind seen)

end Cursor

abbrev Scanned (α : Type) := Except Fault (α × Cursor)

namespace Scan

def literal (position : Position) : List Char → List Char → Except Fault Cursor
  | [], rest => .ok ⟨position, rest⟩
  | _ :: _, [] => .error ⟨position, .unexpectedEnd⟩
  | expected :: later, c :: rest =>
    if c = expected then literal (position.after c) later rest
    else .error ⟨position.afterByte c, .unexpectedText⟩

theorem length_literal {position : Position} {expected text : List Char} {c : Cursor}
    (scanned : literal position expected text = .ok c) : c.rest.length ≤ text.length := by
  induction expected generalizing position text with
  | nil => simp only [literal, Except.ok.injEq] at scanned; simp [← scanned]
  | cons e later ih =>
      cases text with
      | nil => simp [literal] at scanned
      | cons x rest =>
          simp only [literal] at scanned
          split at scanned
          · have := ih scanned; simp only [List.length_cons]; omega
          · simp at scanned

end Scan

end DecisionGraph
