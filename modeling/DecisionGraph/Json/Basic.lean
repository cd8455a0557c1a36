import DecisionGraph.SortedMap

/-!
Values of the data format. Objects keep the order in which their members are listed: records are
written field by field, and free-form values in the order of their keys.
-/

namespace DecisionGraph

/-- A number keeps the kind it was written with. Integers lie between -2⁶³ and 2⁶⁴ - 1 and reals are
finite whenever a number was read. -/
inductive Number
  | integer (value : Int)
  | real (value : Float)
  deriving DecidableEq

def Number.toFloat : Number → Float
  | .integer value =>
    let magnitude := (UInt64.ofNat value.natAbs).toFloat
    if value < 0 then -magnitude else magnitude
  | .real value => value

inductive Json
  | null
  | bool (value : Bool)
  | number (value : Number)
  | string (value : String)
  | array (items : List Json)
  | object (members : List (String × Json))

namespace Json

/-- The format has no way to write infinities and the like; they become `null`. -/
def ofFloat (x : Float) : Json := if x.isFinite then .number (.real x) else .null

def ofNat (n : Nat) : Json := .number (.integer n)

def ofStrings (texts : List String) : Json := .array (texts.map .string)

theorem ofStrings_inj {texts others : List String} :
    ofStrings texts = ofStrings others ↔ texts = others := by
  rw [ofStrings, ofStrings, Json.array.injEq]
  exact List.map_inj_right fun _ _ => Json.string.inj

def ofOption {α : Type} (encode : α → Json) : Option α → Json
  | some value => encode value
  | none => .null

/-- A free-form object: the members in the order of their keys. -/
def free (members : List (String × Json)) : Json := .object (SortedMap.ofList members).entries

/-- Two members are put in the order of their keys, whichever is given first. -/
theorem free_pair {first second : String} (before : first < second) (one other : Json) :
    free [(first, one), (second, other)] = .object [(first, one), (second, other)] ∧
      free [(second, other), (first, one)] = .object [(first, one), (second, other)] := by
  have notAfter : ¬ second < first := fun after =>
    String.lt_irrefl first (String.lt_trans before after)
  have apart : second ≠ first := fun same => String.lt_irrefl first (same ▸ before)
  simp only [free, SortedMap.ofList, List.foldl, SortedMap.insert, SortedMap.empty,
    SortedMap.insertEntry, if_neg notAfter, if_neg apart, if_pos before, and_self]

/-- A field that is always written. -/
def always (name : String) (value : Json) : List (String × Json) := [(name, value)]

/-- A field that is left out when there is no value. -/
def whenSome {α : Type} (name : String) (encode : α → Json) : Option α → List (String × Json)
  | some value => [(name, encode value)]
  | none => []

/-- A record: its fields in the order in which they are declared. -/
def record (fields : List (List (String × Json))) : Json := .object fields.flatten

end Json

end DecisionGraph
