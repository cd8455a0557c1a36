import DecisionGraph.Factor

/-!
What a simulation can rely on: data of a factor that fits the factor's category, or the reasons why
it does not fit.
-/

namespace DecisionGraph

/-- Keys of factor data that a category may ask for or rule out. -/
inductive DataKey
  | value | extraction | factorType | drivers
  deriving DecidableEq, Repr

namespace DataKey

def name : DataKey → String
  | value => "value"
  | extraction => "extractionType"
  | factorType => "factor_type"
  | drivers => "uncertainty_drivers"

end DataKey

def FactorData.has (data : FactorData) : DataKey → Bool
  | .value => data.value.isSome
  | .extraction => data.extraction.isSome
  | .factorType => data.factorType.isSome
  | .drivers => data.drivers.isSome

inductive DataDefect
  /-- Keys that the category asks for are absent. -/
  | missing (keys : List DataKey)
  /-- Keys that the category rules out are present. -/
  | extra (keys : List DataKey)
  /-- The category rules out any data. -/
  | unexpected
  deriving DecidableEq, Repr

namespace DataDefect

def json : DataDefect → Json
  | missing keys => .object [("MissingKeys", .ofStrings (keys.map DataKey.name))]
  | extra keys => .object [("ExtraKeys", .ofStrings (keys.map DataKey.name))]
  | unexpected => .string "UnexpectedData"

def absent (keys : List DataKey) (data : FactorData) : List DataDefect :=
  match keys.filter fun key => !data.has key with
  | [] => []
  | key :: more => [missing (key :: more)]

def present (keys : List DataKey) (data : FactorData) : List DataDefect :=
  match keys.filter fun key => data.has key with
  | [] => []
  | key :: more => [extra (key :: more)]

end DataDefect

inductive Payload
  | controllable (value : Float) (extraction : Term Extraction) (factorType : Term FactorType)
      (drivers : List String)
  | observable (value : Float) (extraction : Term Extraction)
  | external
  deriving DecidableEq

namespace Payload

def category : Payload → Category
  | controllable _ _ _ _ => .controllable
  | observable _ _ => .observable
  | external => .external

/-- What keeps the data from fitting the category; absent data counts as data without keys, except
that an external factor must have none. -/
def defects (data : Option FactorData) : Category → List DataDefect
  | .controllable =>
    DataDefect.absent [.value, .extraction, .factorType, .drivers] (data.getD .empty)
  | .observable =>
    DataDefect.absent [.value, .extraction] (data.getD .empty)
      ++ DataDefect.present [.factorType, .drivers] (data.getD .empty)
  | .external => if data.isSome then [.unexpected] else []

def ofData (data : Option FactorData) (category : Category) : Except (List DataDefect) Payload :=
  match category, data with
  | .controllable, some ⟨some value, _, some extraction, some factorType, some drivers⟩ =>
    .ok (controllable value extraction factorType drivers)
  | .observable, some ⟨some value, _, some extraction, none, none⟩ =>
    .ok (observable value extraction)
  | .external, none => .ok external
  | category, data => .error (defects data category)

def json : Payload → Json
  | controllable value extraction factorType drivers => .object [("Controllable", .record [
      Json.always "value" (.ofFloat value),
      Json.always "extraction_type" extraction.json,
      Json.always "factor_type" factorType.json,
      Json.always "uncertainty_drivers" (.ofStrings drivers)])]
  | observable value extraction => .object [("Observable", .record [
      Json.always "value" (.ofFloat value),
      Json.always "extraction_type" extraction.json])]
  | external => .string "External"

def decodeControllable : Decoder Payload := fun source _ =>
  source.record ["value", "extraction_type", "factor_type", "uncertainty_drivers"] fun slots =>
    controllable
      <$> slots.required "value" Decode.real
      <*> slots.required "extraction_type" Term.decode
      <*> slots.required "factor_type" Term.decode
      <*> slots.required "uncertainty_drivers" (Decode.list Decode.text)

def decodeObservable : Decoder Payload := fun source _ =>
  source.record ["value", "extraction_type"] fun slots =>
    observable
      <$> slots.required "value" Decode.real
      <*> slots.required "extraction_type" Term.decode

/-- Reads the name of a category alone or as the one key of an object that holds the rest. -/
def decode : Decoder Payload := fun source next =>
  match source with
  | .string _ "External" => .ok external
  | .object _ (.more (.string _ "External") _ (.null _) _ (.done _)) => .ok external
  | .object _ (.more (.string _ "Observable") _ value after (.done _)) =>
    decodeObservable value after
  | .object _ (.more (.string _ "Controllable") _ value after (.done _)) =>
    decodeControllable value after
  | other => other.readable.andThen fun _ => .fault ⟨next, .unknownWord⟩

end Payload

end DecisionGraph
