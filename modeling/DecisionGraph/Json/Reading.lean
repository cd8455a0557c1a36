import DecisionGraph.Json.Source

/-!
Judging a tree: an outcome is a value or the first fault of the text. Judgements of the parts of a
text can be joined in any order, because of two faults the one that stands earlier is kept.
-/

namespace DecisionGraph

/-- A value read, or the first fault. -/
inductive Reading (α : Type)
  | ok (value : α)
  | fault (first : Fault)

namespace Reading

variable {α β : Type}

def map (f : α → β) : Reading α → Reading β
  | ok value => ok (f value)
  | fault first => fault first

def join (f : α → β → γ) : Reading α → Reading β → Reading γ
  | ok a, ok b => ok (f a b)
  | ok _, fault second => fault second
  | fault first, ok _ => fault first
  | fault first, fault second =>
    fault (if second.position.before first.position then second else first)

instance : Applicative Reading where
  pure := ok
  map := map
  seq f x := join (fun g a => g a) f (x ())

def andThen (reading : Reading α) (next : α → Reading β) : Reading β :=
  match reading with
  | ok value => next value
  | fault first => fault first

def along (reading : Reading α) (other : Reading Unit) : Reading α :=
  join (fun value _ => value) reading other

/-- Reports any fault at `position`, where a part read as a whole is judged. -/
def noticedAt (position : Position) : Reading α → Reading α
  | ok value => ok value
  | fault first => fault ⟨position, first.cause⟩

def ofOption (position : Position) (cause : Cause) : Option α → Reading α
  | some value => ok value
  | none => fault ⟨position, cause⟩

def toOption : Reading α → Option α
  | ok value => some value
  | fault _ => none

end Reading

/-- Reads a value; the position is where the next thing after it starts, at which faults are
reported that only show once the value has been passed. -/
abbrev Decoder (α : Type) := Source → Position → Reading α

mutual

/-- The text of a value that is skipped, keys included, only has to be well formed. -/
def Source.wellFormed : Source → Reading Unit
  | .array _ items => items.wellFormed
  | .object _ members => members.wellFormed
  | .barred _ text => text.wellFormed
  | .broken _ skipped => .fault skipped
  | .null _ | .bool _ _ | .number _ _ | .string _ _ => .ok ()

def Items.wellFormed : Items → Reading Unit
  | .done _ => .ok ()
  | .more item _ rest => item.wellFormed.along rest.wellFormed
  | .broken fault => .fault fault

def Members.wellFormed : Members → Reading Unit
  | .done _ => .ok ()
  | .more key _ value _ rest =>
    (key.wellFormed.along value.wellFormed).along rest.wellFormed
  | .broken fault => .fault fault

end

def Source.key : Source → Reading String
  | .string _ value => .ok value
  | .barred fault _ | .broken fault _ => .fault fault
  | other => .fault ⟨other.position, .wrongType "a key"⟩

mutual

/-- The value itself, with the members of its objects in the order of their keys; the last of
several members with one key stays. -/
def Source.value : Source → Reading Json
  | .null _ => .ok .null
  | .bool _ value => .ok (.bool value)
  | .number _ value => .ok (.number value)
  | .string _ value => .ok (.string value)
  | .array _ items => items.values.map .array
  | .object _ members => members.values.map .free
  | .barred fault text => (text.value.map fun _ => Json.null).along (.fault fault)
  | .broken wanted _ => .fault wanted

def Items.values : Items → Reading (List Json)
  | .done _ => .ok []
  | .more item _ rest => item.value.join List.cons rest.values
  | .broken fault => .fault fault

def Members.values : Members → Reading (List (String × Json))
  | .done _ => .ok []
  | .more key _ value _ rest =>
    (key.key.join Prod.mk value.value).join List.cons rest.values
  | .broken fault => .fault fault

end

/-- A value that is kept for later has to be one. -/
def Source.readable (source : Source) : Reading Unit := source.value.map fun _ => ()

namespace Decode

variable {α : Type}

/-- What a value of the wrong type is refused with. -/
def refuse (expected : String) (source : Source) : Reading α :=
  match source with
  | .barred fault _ | .broken fault _ => .fault fault
  | other => .fault ⟨other.position, .wrongType expected⟩

def text : Decoder String := fun source _ =>
  match source with
  | .string _ value => .ok value
  | other => refuse "a string" other

def bool : Decoder Bool := fun source _ =>
  match source with
  | .bool _ value => .ok value
  | other => refuse "true or false" other

/-- Any number serves as a real. -/
def real : Decoder Float := fun source _ =>
  match source with
  | .number _ value => .ok value.toFloat
  | other => refuse "a number" other

/-- A count is a whole number that fits 64 bits. -/
def count : Decoder Nat := fun source _ =>
  match source with
  | .number position (.integer value) =>
    if 0 ≤ value ∧ value < Nat.pow 2 64 then .ok value.toNat
    else .fault ⟨position, .wrongType "a count"⟩
  | other => refuse "a count" other

def json : Decoder Json := fun source _ => source.value

/-- `null` stands for no value. -/
def nullable (decode : Decoder α) : Decoder (Option α) := fun source next =>
  match source with
  | .null _ => .ok none
  | other => (decode other next).map some

def items (decode : Decoder α) : Items → Reading (List α)
  | .done _ => .ok []
  | .more item next rest => (decode item next).join List.cons (items decode rest)
  | .broken fault => .fault fault

def list (decode : Decoder α) : Decoder (List α) := fun source _ =>
  match source with
  | .array _ content => items decode content
  | other => refuse "a list" other

def members (decode : Decoder α) : Members → Reading (List (String × α))
  | .done _ => .ok []
  | .more key _ value next rest =>
    (key.key.join Prod.mk (decode value next)).join List.cons (members decode rest)
  | .broken fault => .fault fault

/-- A map; the last of several values under one key stays. -/
def map (decode : Decoder α) : Decoder (SortedMap α) := fun source _ =>
  match source with
  | .object _ content => (members decode content).map SortedMap.ofList
  | other => refuse "an object" other

end Decode

/-- A record as it stands in the text: which fields have a value, where the record ends, and
whether the text around them is sound. -/
structure Slots where
  fields : List (String × Source × Position)
  close : Reading Position
  sound : Reading Unit

namespace Slots

variable {α : Type}

def stopped (fault : Fault) : Slots := ⟨[], .fault fault, .fault fault⟩

def along (slots : Slots) (other : Reading Unit) : Slots :=
  ⟨slots.fields, slots.close, slots.sound.along other⟩

def give (slots : Slots) (field : String) (value : Source) (next : Position) : Slots :=
  ⟨(field, value, next) :: slots.fields, slots.close, slots.sound⟩

/-- Sorts members into fields. A field given twice is refused behind its second key. `named` gives
the field that a key stands for, and `other` judges the values of the other members. -/
def ofMembers (other : Source → Reading Unit) (named : String → Option String) :
    Members → List String → Slots
  | .done position, _ => ⟨[], .ok position, .ok ()⟩
  | .broken fault, _ => stopped fault
  | .more key afterKey value next rest, seen =>
    match key.key.map named with
    | .fault first => stopped first
    | .ok none => (ofMembers other named rest seen).along (other value)
    | .ok (some field) =>
      if field ∈ seen then stopped ⟨afterKey, .repeatedField field⟩
      else (ofMembers other named rest (field :: seen)).give field value next

/-- A record given as an array: its fields in the order of their declaration. An item too many is
refused where it starts, whatever it is; `here` is where the first item starts. -/
def ofItems : List String → Position → Items → Slots
  | _, _, .done position => ⟨[], .ok position, .ok ()⟩
  | _, _, .broken fault => stopped fault
  | [], here, .more _ _ _ => stopped ⟨here, .tooManyItems⟩
  | field :: others, _, .more item next rest => (ofItems others next rest).give field item next

def find? (slots : Slots) (field : String) : Option (Source × Position) :=
  (slots.fields.find? (·.1 = field)).map (·.2)

/-- A field that has to be given. -/
def required (slots : Slots) (field : String) (decode : Decoder α) : Reading α :=
  match slots.find? field with
  | some (value, next) => decode value next
  | none => slots.close.andThen fun position => .fault ⟨position, .missingField field⟩

/-- A field with a value of its own when it is not given. -/
def withDefault (slots : Slots) (field : String) (value : α) (decode : Decoder α) : Reading α :=
  match slots.find? field with
  | some (given, next) => decode given next
  | none => .ok value

/-- A field that may be left out or `null`. -/
def optional (slots : Slots) (field : String) (decode : Decoder α) : Reading (Option α) :=
  slots.withDefault field none (Decode.nullable decode)

end Slots

namespace Source

/-- A record given as an object or, with its fields in order, as an array. Some fields have a
second spelling, and `other` judges the values of unknown members. -/
def slots (other : Source → Reading Unit) (fields : List String)
    (spellings : List (String × String)) : Source → Slots
  | .object _ members =>
    Slots.ofMembers other
      (fun key =>
        if key ∈ fields then some key
        else (spellings.find? (·.1 = key)).map (·.2))
      members []
  | .array position items => Slots.ofItems fields position items
  | .barred fault _ | .broken fault _ => .stopped fault
  | other => .stopped ⟨other.position, .wrongType "a record"⟩

/-- A record with all its fields read by `build`; unknown members are skipped. -/
def record {α : Type} (source : Source) (fields : List String) (build : Slots → Reading α) :
    Reading α :=
  let slots := source.slots wellFormed fields []
  (build slots).along slots.sound

end Source

end DecisionGraph
