import DecisionGraph.Words

/-!
Data of a factor as it is drafted. Which of the keys belong there depends on the factor's category.
-/

namespace DecisionGraph

structure FactorData where
  value : Option Float
  baseline : Option Float
  extraction : Option (Term Extraction)
  factorType : Option (Term FactorType)
  /-- What makes the value uncertain. -/
  drivers : Option (List String)
  deriving DecidableEq

namespace FactorData

def empty : FactorData := ⟨none, none, none, none, none⟩

def observed (value : Float) (extraction : Extraction) : FactorData :=
  ⟨some value, none, some (.word extraction), none, none⟩

def controlled (value : Float) (extraction : Extraction) (factorType : FactorType)
    (drivers : List String) : FactorData :=
  ⟨some value, none, some (.word extraction), some (.word factorType), some drivers⟩

/-- The value, if it is a number one can work with. -/
def finiteValue? (data : FactorData) : Option Float := data.value.filter Float.isFinite

def json (data : FactorData) : Json := .record [
  Json.whenSome "value" .ofFloat data.value,
  Json.whenSome "baseline" .ofFloat data.baseline,
  Json.whenSome "extractionType" Term.json data.extraction,
  Json.whenSome "factor_type" Term.json data.factorType,
  Json.whenSome "uncertainty_drivers" .ofStrings data.drivers]

def fieldNames : List String :=
  ["value", "baseline", "extractionType", "factor_type", "uncertainty_drivers"]

def decode : Decoder FactorData := fun source _ =>
  source.record fieldNames fun slots =>
    FactorData.mk
      <$> slots.optional "value" Decode.real
      <*> slots.optional "baseline" Decode.real
      <*> slots.optional "extractionType" Term.decode
      <*> slots.optional "factor_type" Term.decode
      <*> slots.optional "uncertainty_drivers" (Decode.list Decode.text)

end FactorData

end DecisionGraph
