import DecisionGraph.Json.Basic

/-!
Text of the data format as a tree that remembers where its parts stand. A text that stops making
sense has a tree too: it ends at the fault, so that what stands before the fault can still be
judged first. Where the fault of the last part depends on what is done with it, the containers
around it end at the later one, so that the one that counts comes first.
-/

namespace DecisionGraph

/-- A place in a text: lines count from one, columns in bytes from zero. -/
structure Position where
  line : Nat
  column : Nat
  deriving DecidableEq, Repr

namespace Position

def start : Position := ⟨1, 0⟩

def after (p : Position) (c : Char) : Position :=
  if c = '\n' then ⟨p.line + 1, 0⟩ else ⟨p.line, p.column + c.utf8Size⟩

def afterByte (p : Position) (c : Char) : Position :=
  if c = '\n' then ⟨p.line + 1, 0⟩ else ⟨p.line, p.column + 1⟩

def before (p q : Position) : Bool :=
  p.line < q.line || p.line == q.line && p.column < q.column

end Position

inductive Cause
  | unexpectedEnd
  | unexpectedText
  | badNumber
  | badEscape
  | controlCharacter
  | outOfRange
  | loneSurrogate
  | tooDeep
  | wrongType (expected : String)
  | unknownWord
  | missingField (name : String)
  | repeatedField (name : String)
  | tooManyItems
  deriving DecidableEq, Repr

def Cause.message : Cause → String
  | unexpectedEnd => "the text ends too early"
  | unexpectedText => "unexpected character"
  | badNumber => "malformed number"
  | badEscape => "malformed escape"
  | controlCharacter => "control character in a string"
  | outOfRange => "number out of range"
  | loneSurrogate => "half of a surrogate pair"
  | tooDeep => "nested too deeply"
  | wrongType expected => s!"expected {expected}"
  | unknownWord => "word outside its vocabulary"
  | missingField name => s!"missing field {name}"
  | repeatedField name => s!"repeated field {name}"
  | tooManyItems => "too many items"

structure Fault where
  position : Position
  cause : Cause
  deriving DecidableEq, Repr

def Fault.later (first second : Fault) : Fault :=
  if first.position.before second.position then second else first

mutual

/-- A value where it stands: scalars with the place behind them, containers with the place of
their bracket. -/
inductive Source
  | null (position : Position)
  | bool (position : Position) (value : Bool)
  | number (position : Position) (value : Number)
  | string (position : Position) (value : String)
  | array (position : Position) (items : Items)
  | object (position : Position) (members : Members)
  /-- Well-formed text that stands for no value. -/
  | barred (fault : Fault) (text : Source)
  /-- Here the text stops making sense: the fault for a reader that wants the value, and the one
  for a reader that skips it. They differ in strings only. -/
  | broken (wanted skipped : Fault)

/-- Items of an array, each with the place where the next thing after it starts. -/
inductive Items
  | done (position : Position)
  | more (item : Source) (next : Position) (rest : Items)
  | broken (fault : Fault)

/-- Members of an object: the key, the place after it, the value and the place after that. -/
inductive Members
  | done (position : Position)
  | more (key : Source) (afterKey : Position) (value : Source) (next : Position) (rest : Members)
  | broken (fault : Fault)

end

namespace Source

def position : Source → Position
  | null position | bool position _ | number position _ | string position _
  | array position _ | object position _ => position
  | barred fault _ | broken fault _ => fault.position

mutual

/-- A value that comes from no text stands at the start. -/
def ofJson : Json → Source
  | .null => .null .start
  | .bool value => .bool .start value
  | .number value => .number .start value
  | .string value => .string .start value
  | .array items => .array .start (itemsOfJson items)
  | .object members => .object .start (membersOfJson members)

def itemsOfJson : List Json → Items
  | [] => .done .start
  | item :: rest => .more (ofJson item) .start (itemsOfJson rest)

def membersOfJson : List (String × Json) → Members
  | [] => .done .start
  | (key, value) :: rest =>
    .more (.string .start key) .start (ofJson value) .start (membersOfJson rest)

end

end Source

end DecisionGraph
