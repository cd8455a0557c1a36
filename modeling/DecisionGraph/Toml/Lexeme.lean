/-!
The small parts of a settings document: blanks, comments, strings and keys. A reader takes what it
reads from the front of a text and returns the rest.
-/

namespace DecisionGraph.Toml

abbrev Reader (α : Type) := List Char → Option (α × List Char)

namespace Reader

variable {α β : Type}

def map (f : α → β) (reader : Reader α) : Reader β := fun text =>
  (reader text).map fun (value, rest) => (f value, rest)

/-- Reads as often as possible; reading ends where nothing is taken any more. -/
def many (reader : Reader α) (text : List Char) : List α × List Char :=
  match reader text with
  | none => ([], text)
  | some (value, rest) =>
    if rest.length < text.length then
      let (values, rest) := many reader rest
      (value :: values, rest)
    else ([], text)
termination_by text.length

/-- The first alternative that reads anything. -/
def orElse (first second : Reader α) : Reader α := fun text => (first text).or (second text)

end Reader

def literally (fixed : String) (text : List Char) : Option (List Char) :=
  if fixed.toList.isPrefixOf text then some (text.drop fixed.length) else none

def isBlank (c : Char) : Bool := c = ' ' || c = '\t'

def skipBlank (text : List Char) : List Char := text.dropWhile isBlank

/-- Anything but control characters; the tab is allowed. -/
def isPlain (c : Char) : Bool := c = '\t' || ' ' ≤ c && c ≤ '~' || '\x80' ≤ c

def newline : Reader Unit
  | '\n' :: rest => some ((), rest)
  | '\r' :: '\n' :: rest => some ((), rest)
  | _ => none

def comment : Reader Unit
  | '#' :: rest => some ((), rest.dropWhile isPlain)
  | _ => none

def skipComment (text : List Char) : List Char :=
  match comment text with
  | some (_, rest) => rest
  | none => text

/-- What may follow on a line when everything has been said: blanks and a comment. -/
def lineEnd (text : List Char) : Option (List Char) :=
  match skipComment (skipBlank text) with
  | [] => some []
  | rest => (newline rest).map (·.2)

def oneBlank : Reader Unit
  | c :: rest => if isBlank c then some ((), rest) else none
  | [] => none

def commentLine : Reader Unit := fun text =>
  (comment text).bind fun (_, rest) => newline rest

def skipLines (text : List Char) : List Char :=
  (Reader.many (oneBlank.orElse (newline.orElse commentLine)) text).2

section Strings

def hexDigit? (c : Char) : Option Nat :=
  if c.isDigit then some (c.toNat - '0'.toNat)
  else if 'a' ≤ c ∧ c ≤ 'f' then some (c.toNat - 'a'.toNat + 10)
  else if 'A' ≤ c ∧ c ≤ 'F' then some (c.toNat - 'A'.toNat + 10)
  else none

def hexNumber : Nat → Nat → Reader Nat
  | 0, number, text => some (number, text)
  | count + 1, number, c :: rest =>
    (hexDigit? c).bind fun digit => hexNumber count (number * 16 + digit) rest
  | _ + 1, _, [] => none

/-- A character given by its number, which has to be one of a character. -/
def numbered (digits : Nat) : Reader Char := fun text =>
  (hexNumber digits 0 text).bind fun (number, rest) =>
    if number.isValidChar then some (Char.ofNat number, rest) else none

def escape : Reader Char
  | 'b' :: rest => some ('\x08', rest)
  | 't' :: rest => some ('\t', rest)
  | 'n' :: rest => some ('\n', rest)
  | 'f' :: rest => some ('\x0c', rest)
  | 'r' :: rest => some ('\r', rest)
  | '"' :: rest => some ('"', rest)
  | '\\' :: rest => some ('\\', rest)
  | 'u' :: rest => numbered 4 rest
  | 'U' :: rest => numbered 8 rest
  | _ => none

def basicChar : Reader Char
  | '\\' :: rest => escape rest
  | c :: rest => if isPlain c && c != '"' then some (c, rest) else none
  | [] => none

def literalChar : Reader Char
  | c :: rest => if isPlain c && c != '\x27' then some (c, rest) else none
  | [] => none

/-- A string on one line, between single marks. -/
def lineString (mark : Char) (item : Reader Char) : Reader (List Char)
  | c :: rest =>
    if c = mark then
      match Reader.many item rest with
      | (chars, d :: rest) => if d = mark then some (chars, rest) else none
      | (_, []) => none
    else none
  | [] => none

def marks (mark : Char) (text : List Char) : Nat := (text.takeWhile (· = mark)).length

/-- A piece of a string over several lines: up to two marks do not end it. -/
def linesItem (mark : Char) (item : Reader (List Char)) : Reader (List Char) := fun text =>
  match newline text with
  | some (_, rest) => some (['\n'], rest)
  | none =>
    if marks mark text = 1 ∨ marks mark text = 2 then
      some (text.take (marks mark text), text.drop (marks mark text))
    else item text

/-- A backslash at the end of a line hides the line end and all blanks behind it. -/
def hiddenLineEnd : Reader (List Char)
  | '\\' :: rest =>
    (newline (skipBlank rest)).map fun (_, rest) =>
      ([], (Reader.many (oneBlank.orElse newline) rest).2)
  | _ => none

/-- A string over several lines, between three marks. A line end right behind the first marks does
not count, and up to two marks may stand before the last ones. -/
def linesString (mark : Char) (item : Reader (List Char)) : Reader (List Char) := fun text =>
  if marks mark text < 3 then none
  else
    let body := text.drop 3
    let body := match newline body with
      | some (_, rest) => rest
      | none => body
    let (pieces, rest) := Reader.many (linesItem mark item) body
    let closing := min (marks mark rest) 5
    if closing < 3 then none
    else some (pieces.flatten ++ List.replicate (closing - 3) mark, rest.drop closing)

def basicString : Reader (List Char) := lineString '"' basicChar

def literalString : Reader (List Char) := lineString '\x27' literalChar

def string : Reader (List Char) :=
  (linesString '"' (hiddenLineEnd.orElse (basicChar.map fun c => [c]))).orElse
    (basicString.orElse
      ((linesString '\x27' (literalChar.map fun c => [c])).orElse literalString))

end Strings

section Keys

def isBareKey (c : Char) : Bool := c.isAlphanum || c = '-' || c = '_'

def bareKey : Reader (List Char) := fun text =>
  match text.takeWhile isBareKey with
  | [] => none
  | key => some (key, text.dropWhile isBareKey)

def simpleKey : Reader String :=
  (bareKey.orElse (basicString.orElse literalString)).map String.ofList

def furtherKey : Reader String := fun text =>
  match skipBlank text with
  | '.' :: rest => simpleKey (skipBlank rest)
  | _ => none

/-- How deep keys and values may nest. -/
def depthLimit : Nat := 79

/-- A key of one or more parts; blanks around them do not count. -/
def key : Reader (List String) := fun text =>
  (simpleKey (skipBlank text)).bind fun (first, rest) =>
    let (others, rest) := Reader.many furtherKey rest
    if others.length < depthLimit then some (first :: others, skipBlank rest) else none

end Keys

end DecisionGraph.Toml
