import DecisionGraph.Json.Cursor
import DecisionGraph.Decimal.Scaled

/-!
Numbers as they stand in a text: whole part, fraction and exponent.
-/

namespace DecisionGraph

namespace Scan

def digits (position : Position) : List Char → List Nat × Cursor
  | [] => ([], ⟨position, []⟩)
  | c :: rest =>
    if c.isDigit then
      let (values, later) := digits (position.after c) rest
      ((c.toNat - '0'.toNat) :: values, later)
    else ([], ⟨position, c :: rest⟩)

theorem length_digits (position : Position) (text : List Char) :
    (digits position text).2.rest.length ≤ text.length := by
  induction text generalizing position with
  | nil => simp [digits]
  | cons c rest ih =>
      simp only [digits]
      split
      · have := ih (position.after c); simp only [List.length_cons]; omega
      · simp

/-- The whole part of a number: one zero, or digits that do not start with zero. -/
def wholePart (c : Cursor) : Scanned (List Nat) :=
  match c.rest with
  | [] => .error ⟨c.position, .unexpectedEnd⟩
  | '0' :: rest =>
    let later : Cursor := ⟨c.position.after '0', rest⟩
    if rest.head?.any Char.isDigit then .error ⟨later.faultAhead.position, .badNumber⟩
    else .ok ([0], later)
  | x :: _ =>
    if x.isDigit then .ok (digits c.position c.rest)
    else .error ⟨c.position.afterByte x, .badNumber⟩

/-- The part behind the point, if there is one: at least one digit. -/
def fractionPart (c : Cursor) : Scanned (Option (List Nat)) :=
  match c.rest with
  | '.' :: rest =>
    let (values, later) := digits (c.position.after '.') rest
    if values = [] then .error later.faultAhead else .ok (some values, later)
  | _ => .ok (none, c)

/-- The exponent, if there is one: a sign and at least one digit. -/
def exponentPart (c : Cursor) : Scanned (Option Int) :=
  match c.rest with
  | mark :: rest =>
    if mark = 'e' ∨ mark = 'E' then
      let behind := c.position.after mark
      let (negative, signed) : Bool × Cursor := match rest with
        | '+' :: more => (false, ⟨behind.after '+', more⟩)
        | '-' :: more => (true, ⟨behind.after '-', more⟩)
        | _ => (false, ⟨behind, rest⟩)
      let (values, later) := digits signed.position signed.rest
      if values = [] then
        match signed.rest with
        | [] => .error ⟨signed.position, .unexpectedEnd⟩
        | x :: _ => .error ⟨signed.position.afterByte x, .badNumber⟩
      else
        let magnitude : Int := (values.foldl (fun n digit => n * 10 + digit) 0 : Nat)
        .ok (some (if negative then -magnitude else magnitude), later)
    else .ok (none, c)
  | [] => .ok (none, c)

/-- What the parts of a number stand for. A whole number that fits 64 bits stays one, except minus
zero. -/
def numberOf? (negative : Bool) (whole : List Nat) (fraction : Option (List Nat))
    (exponent : Option Int) : Option Number :=
  let plain := fraction.isNone && exponent.isNone
  let magnitude : Nat := whole.foldl (fun n digit => n * 10 + digit) 0
  if plain ∧ negative = false ∧ magnitude < Nat.pow 2 64 then some (.integer magnitude)
  else if plain ∧ negative ∧ 0 < magnitude ∧ magnitude ≤ Nat.pow 2 63 then
    some (.integer (-(magnitude : Int)))
  else
    (realOfDigits? whole (fraction.getD []) (exponent.getD 0)).map fun x =>
      .real (if negative then -x else x)

/-- A number behind its sign; `none` when it is out of range. -/
def number (negative : Bool) (c : Cursor) : Scanned (Option Number) :=
  match wholePart c with
  | .error fault => .error fault
  | .ok (whole, afterWhole) =>
    match fractionPart afterWhole with
    | .error fault => .error fault
    | .ok (fraction, afterFraction) =>
      match exponentPart afterFraction with
      | .error fault => .error fault
      | .ok (exponent, later) => .ok (numberOf? negative whole fraction exponent, later)

theorem length_wholePart {c d : Cursor} {values : List Nat}
    (scanned : wholePart c = .ok (values, d)) : d.rest.length < c.rest.length := by
  obtain ⟨position, text⟩ := c
  simp only [wholePart] at scanned
  split at scanned
  · simp at scanned
  · split at scanned
    · simp at scanned
    · simp only [Except.ok.injEq, Prod.mk.injEq] at scanned
      simp [← scanned.2]
  · next x rest _ =>
    split at scanned
    · next isDigit =>
      simp only [digits, isDigit, ↓reduceIte, Except.ok.injEq, Prod.mk.injEq] at scanned
      have := length_digits (position.after x) rest
      rw [scanned.2] at this
      simp only [List.length_cons]; omega
    · simp at scanned

theorem length_fractionPart {c d : Cursor} {values : Option (List Nat)}
    (scanned : fractionPart c = .ok (values, d)) : d.rest.length ≤ c.rest.length := by
  obtain ⟨position, text⟩ := c
  simp only [fractionPart] at scanned
  split at scanned
  · next rest =>
    split at scanned
    · simp at scanned
    · simp only [Except.ok.injEq, Prod.mk.injEq] at scanned
      have := length_digits (position.after '.') rest
      rw [scanned.2] at this
      simp only [List.length_cons]; omega
  · simp only [Except.ok.injEq, Prod.mk.injEq] at scanned
    simp [← scanned.2]

theorem length_exponentPart {c d : Cursor} {value : Option Int}
    (scanned : exponentPart c = .ok (value, d)) : d.rest.length ≤ c.rest.length := by
  obtain ⟨position, text⟩ := c
  simp only [exponentPart] at scanned
  split at scanned
  · next mark rest =>
    split at scanned
    · generalize signed : (match rest with
        | '+' :: more => (false, (⟨(position.after mark).after '+', more⟩ : Cursor))
        | '-' :: more => (true, ⟨(position.after mark).after '-', more⟩)
        | _ => (false, ⟨position.after mark, rest⟩)) = pair at scanned
      have shorter : pair.2.rest.length ≤ rest.length := by
        subst signed
        split <;> simp
      split at scanned
      · split at scanned <;> simp at scanned
      · simp only [Except.ok.injEq, Prod.mk.injEq] at scanned
        have := length_digits pair.2.position pair.2.rest
        rw [scanned.2] at this
        simp only [List.length_cons]; omega
    · simp only [Except.ok.injEq, Prod.mk.injEq] at scanned
      simp [← scanned.2]
  · simp only [Except.ok.injEq, Prod.mk.injEq] at scanned
    simp [← scanned.2]

theorem length_number {negative : Bool} {c d : Cursor} {value : Option Number}
    (scanned : number negative c = .ok (value, d)) : d.rest.length < c.rest.length := by
  simp only [number] at scanned
  split at scanned
  · simp at scanned
  · next whole =>
    split at scanned
    · simp at scanned
    · next fraction =>
      split at scanned
      · simp at scanned
      · next exponent =>
        simp only [Except.ok.injEq, Prod.mk.injEq] at scanned
        have := length_wholePart whole
        have := length_fractionPart fraction
        have := length_exponentPart exponent
        rw [← scanned.2]
        omega

end Scan

end DecisionGraph
