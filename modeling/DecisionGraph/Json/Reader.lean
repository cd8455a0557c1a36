import DecisionGraph.Json.Numeral
import DecisionGraph.Json.Quoted
import DecisionGraph.Json.Reading

/-!
Reading text of the data format into a tree. Brackets may be nested 127 deep for their content to
be a value.
-/

namespace DecisionGraph

namespace Source

def numberAt (position : Position) : Option Number → Source
  | some value => .number position value
  | none => .barred ⟨position, .outOfRange⟩ (.null position)

def deepest : Nat := 127

/-- A tree of the text that started at `c`, with what follows it or the fault in which it ends. -/
abbrev Parsed (α : Type) (c : Cursor) :=
  α × Except Fault { d : Cursor // d.rest.length < c.rest.length }

/-- A container at the given depth: too deep, it is barred. -/
def nested (depth : Nat) (at_ : Cursor) (source : Source) : Source :=
  if depth < deepest then source else .barred ⟨at_.faultAhead.position, .tooDeep⟩ source

mutual

def parse (depth : Nat) (c : Cursor) : Parsed Source c :=
  match text : c.rest with
  | 'n' :: rest =>
    match scanned : Scan.literal (c.position.after 'n') "ull".toList rest with
    | .error fault => (.broken fault fault, .error fault)
    | .ok d => (.null d.position, .ok ⟨d, by
        have := Scan.length_literal scanned; simp only [text, List.length_cons]; omega⟩)
  | 't' :: rest =>
    match scanned : Scan.literal (c.position.after 't') "rue".toList rest with
    | .error fault => (.broken fault fault, .error fault)
    | .ok d => (.bool d.position true, .ok ⟨d, by
        have := Scan.length_literal scanned; simp only [text, List.length_cons]; omega⟩)
  | 'f' :: rest =>
    match scanned : Scan.literal (c.position.after 'f') "alse".toList rest with
    | .error fault => (.broken fault fault, .error fault)
    | .ok d => (.bool d.position false, .ok ⟨d, by
        have := Scan.length_literal scanned; simp only [text, List.length_cons]; omega⟩)
  | '"' :: rest =>
    match scanned : Scan.string ⟨c.position.after '"', rest⟩ with
    | (source, .error fault) => (source, .error fault)
    | (source, .ok d) => (source, .ok ⟨d, by
        have := Scan.length_string scanned; simp only [text, List.length_cons] at *; omega⟩)
  | '[' :: rest =>
    have shorter : rest.length < c.rest.length := by simp [text]
    match parseArray (depth + 1) ⟨c.position.after '[', rest⟩ with
    | (items, .error fault) => (nested depth c (.array c.position items), .error fault)
    | (items, .ok ⟨d, less⟩) =>
      (nested depth c (.array c.position items), .ok ⟨d, Nat.lt_trans less shorter⟩)
  | '\x7b' :: rest =>
    have shorter : rest.length < c.rest.length := by simp [text]
    match parseObject (depth + 1) ⟨c.position.after '\x7b', rest⟩ with
    | (members, .error fault) => (nested depth c (.object c.position members), .error fault)
    | (members, .ok ⟨d, less⟩) =>
      (nested depth c (.object c.position members), .ok ⟨d, Nat.lt_trans less shorter⟩)
  | '-' :: rest =>
    match scanned : Scan.number true ⟨c.position.after '-', rest⟩ with
    | .error fault => (.broken fault fault, .error fault)
    | .ok (value, d) => (numberAt d.position value, .ok ⟨d, by
        have := Scan.length_number scanned; simp only [text, List.length_cons] at *; omega⟩)
  | x :: _ =>
    if x.isDigit then
      match scanned : Scan.number false c with
      | .error fault => (.broken fault fault, .error fault)
      | .ok (value, d) => (numberAt d.position value, .ok ⟨d, Scan.length_number scanned⟩)
    else (.broken c.faultAhead c.faultAhead, .error c.faultAhead)
  | [] => (.broken c.faultAhead c.faultAhead, .error c.faultAhead)
termination_by (c.rest.length, 0)
decreasing_by all_goals omega

def parseArray (depth : Nat) (c : Cursor) : Parsed Items c :=
  match seen : c.skipBlank with
  | ⟨position, ']' :: rest⟩ =>
    (.done (position.after ']'), .ok ⟨⟨position.after ']', rest⟩, Cursor.length_behind seen⟩)
  | ⟨position, rest⟩ =>
    have noLonger : rest.length ≤ c.rest.length := by
      have := Cursor.length_skipBlank c; simpa [seen] using this
    match parseItems depth ⟨position, rest⟩ with
    | (items, .error fault) => (items, .error fault)
    | (items, .ok ⟨d, less⟩) => (items, .ok ⟨d, Nat.lt_of_lt_of_le less noLonger⟩)
termination_by (c.rest.length, 2)
decreasing_by all_goals omega

def parseItems (depth : Nat) (c : Cursor) : Parsed Items c :=
  match parse depth c with
  | (item, .error fault) => (.more item fault.position (.broken fault), .error fault)
  | (item, .ok ⟨d, less⟩) =>
    match seen : d.skipBlank with
    | ⟨position, ',' :: rest⟩ =>
      have shorter := Cursor.length_skipBlank_behind seen (position.after ',')
      let next := Cursor.skipBlank ⟨position.after ',', rest⟩
      match next.rest with
      | ']' :: _ => (.more item next.position (.broken next.faultAhead), .error next.faultAhead)
      | _ =>
        match parseItems depth (Cursor.skipBlank ⟨position.after ',', rest⟩) with
        | (items, .error fault) => (.more item next.position items, .error fault)
        | (items, .ok ⟨e, lessToo⟩) =>
          (.more item next.position items,
            .ok ⟨e, Nat.lt_trans lessToo (Nat.lt_trans shorter less)⟩)
    | ⟨position, ']' :: rest⟩ =>
      (.more item position (.done (position.after ']')),
        .ok ⟨⟨position.after ']', rest⟩, Nat.lt_trans (Cursor.length_behind seen) less⟩)
    | behind =>
      (.more item behind.position (.broken behind.faultAhead), .error behind.faultAhead)
termination_by (c.rest.length, 1)
decreasing_by all_goals omega

def parseObject (depth : Nat) (c : Cursor) : Parsed Members c :=
  match seen : c.skipBlank with
  | ⟨position, '\x7d' :: rest⟩ =>
    (.done (position.after '\x7d'),
      .ok ⟨⟨position.after '\x7d', rest⟩, Cursor.length_behind seen⟩)
  | ⟨position, rest⟩ =>
    have noLonger : rest.length ≤ c.rest.length := by
      have := Cursor.length_skipBlank c; simpa [seen] using this
    match parseMembers depth ⟨position, rest⟩ with
    | (members, .error fault) => (members, .error fault)
    | (members, .ok ⟨d, less⟩) => (members, .ok ⟨d, Nat.lt_of_lt_of_le less noLonger⟩)
termination_by (c.rest.length, 2)
decreasing_by all_goals omega

def parseMembers (depth : Nat) (c : Cursor) : Parsed Members c :=
  match text : c.rest with
  | '"' :: rest =>
    match scanned : Scan.string ⟨c.position.after '"', rest⟩ with
    | (key, .error fault) =>
      (.more key fault.position (.broken fault fault) fault.position (.broken fault), .error fault)
    | (key, .ok d) =>
      have keyLess : d.rest.length < c.rest.length := by
        have := Scan.length_string scanned; simp only [text, List.length_cons] at *; omega
      match seen : d.skipBlank with
      | ⟨afterKey, ':' :: rest⟩ =>
        have shorter := Cursor.length_skipBlank_behind seen (afterKey.after ':')
        match parse depth (Cursor.skipBlank ⟨afterKey.after ':', rest⟩) with
        | (value, .error fault) =>
          (.more key afterKey value fault.position (.broken fault), .error fault)
        | (value, .ok ⟨e, less⟩) =>
          match seenNext : e.skipBlank with
          | ⟨next, ',' :: rest⟩ =>
            have shorterToo := Cursor.length_skipBlank_behind seenNext (next.after ',')
            match parseMembers depth (Cursor.skipBlank ⟨next.after ',', rest⟩) with
            | (members, .error fault) => (.more key afterKey value next members, .error fault)
            | (members, .ok ⟨f, lessToo⟩) =>
              (.more key afterKey value next members, .ok ⟨f, by omega⟩)
          | ⟨next, '\x7d' :: rest⟩ =>
            have shorterToo := Cursor.length_behind seenNext
            (.more key afterKey value next (.done (next.after '\x7d')),
              .ok ⟨⟨next.after '\x7d', rest⟩, by simp only; omega⟩)
          | behind =>
            (.more key afterKey value behind.position (.broken behind.faultAhead),
              .error behind.faultAhead)
      | behind =>
        let fault := behind.faultAhead
        (.more key behind.position (.broken fault fault) behind.position (.broken fault),
          .error fault)
  | _ => (.broken c.faultAhead, .error c.faultAhead)
termination_by (c.rest.length, 1)
decreasing_by all_goals omega

end

/-- A whole text: one value and nothing behind it but blanks. -/
def ofText (text : String) : Source × Reading Unit :=
  match parse 0 (Cursor.skipBlank ⟨.start, text.toList⟩) with
  | (source, .error _) => (source, .ok ())
  | (source, .ok ⟨behind, _⟩) =>
    match behind.skipBlank with
    | ⟨_, []⟩ => (source, .ok ())
    | rest => (source, .fault rest.faultAhead)

end Source

def Decoder.read {α : Type} (decode : Decoder α) (text : String) : Reading α :=
  let (source, end_) := Source.ofText text
  (decode source source.position).along end_

end DecisionGraph
