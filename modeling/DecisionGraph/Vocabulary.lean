import DecisionGraph.Json.Reading
import DecisionGraph.Text.Blank

/-!
Closed vocabularies: types whose values are words. A word that comes from outside may lie outside
its vocabulary and is then kept as it is until it is repaired.
-/

namespace DecisionGraph

class Vocabulary (α : Type) where
  /-- What a value is called in messages. -/
  noun : String
  all : List α
  word : α → String

namespace Vocabulary

variable {α : Type} [Vocabulary α]

/-- The value whose word is exactly `text`. -/
def ofWord? (text : String) : Option α := all.find? fun value => word value = text

/-- A word as typed by a person: blanks and hyphens do not count, nor does the case of ASCII
letters. -/
def normalised (text : String) : String :=
  String.ofList
    ((text.toList.filter fun c => !CharSet.blank.contains c && c != '-').map Char.toLower)

/-- The value that a person means. -/
def parse? (text : String) : Option α := ofWord? (normalised text)

/-- What is said of a text that is none of the words. -/
def refusal (α : Type) [Vocabulary α] (text : String) : String := s!"Invalid {noun α}: {text}"

def json (value : α) : Json := .string (word value)

/-- A word given as a string, or as the one key of an object with no content. Where the value was
kept for later, an empty object counts as no content too. -/
def named? (keptForLater : Bool) : Source → Option α
  | .string _ text => ofWord? text
  | .object _ (.more (.string _ text) _ (.null _) _ (.done _)) => ofWord? text
  | .object _ (.more (.string _ text) _ (.object _ (.done _)) _ (.done _)) =>
    if keptForLater then ofWord? text else none
  | _ => none

def decodeAs (keptForLater : Bool) : Decoder α := fun source next =>
  match named? keptForLater source with
  | some value => .ok value
  | none => source.readable.andThen fun _ => .fault ⟨next, .unknownWord⟩

def decode : Decoder α := decodeAs false

/-- A tag that decides what else is read is a plain word. -/
def decodeTag : Decoder α := fun source next =>
  match source with
  | .string _ text => .ofOption next .unknownWord (ofWord? text)
  | other => Decode.refuse "a tag" other

/-- A tag of a value that was kept for later: a word, or its place among the words. -/
def decodeTagOrPlace : Decoder α := fun source next =>
  match source with
  | .number _ (.integer place) =>
    .ofOption next .unknownWord
      (if 0 ≤ place then (all : List α)[place.toNat]? else none)
  | other => decodeTag other next

end Vocabulary

/-- A word of a vocabulary, or a text from outside that is none. -/
inductive Term (α : Type)
  | word (value : α)
  | foreign (text : String)
  deriving DecidableEq

namespace Term

variable {α : Type}

def known? : Term α → Option α
  | word value => some value
  | foreign _ => none

variable [Vocabulary α]

def text : Term α → String
  | word value => Vocabulary.word value
  | foreign text => text

def ofText (text : String) : Term α :=
  match Vocabulary.ofWord? text with
  | some value => word value
  | none => foreign text

def json (term : Term α) : Json := .string term.text

/-- A word in one of its spellings, or any other string. -/
def decode : Decoder (Term α) := fun source next =>
  match Vocabulary.named? (α := α) false source, source with
  | some value, _ => .ok (word value)
  | none, .string _ text => .ok (foreign text)
  | none, _ => source.readable.andThen fun _ => .fault ⟨next, .unknownWord⟩

end Term

end DecisionGraph
