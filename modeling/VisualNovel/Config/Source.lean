import VisualNovel.Config
import VisualNovel.Datum.Decode

namespace VisualNovel

def Color.ofDatum? (datum : Datum) : Option Color := do
  let fields ← datum.recordOf? "Rgba" ["r", "g", "b", "a"]
  return {
    red := ← Datum.fieldOr? fields "r" none Datum.byte?
    green := ← Datum.fieldOr? fields "g" none Datum.byte?
    blue := ← Datum.fieldOr? fields "b" none Datum.byte?
    alpha := ← Datum.fieldOr? fields "a" none Datum.byte? }

namespace Config

def fieldNames : List String :=
  ["viewport", "virtual_extent", "fallback_color", "slots"]

def ofDatum? (datum : Datum) : Option Config := do
  let fields ← datum.recordOf? "StageConfig" fieldNames
  let slots ← Datum.fieldOr? fields "slots" (some standard.slots.slots)
    (Datum.listOf? Datum.text?)
  return {
    viewport := ← Datum.fieldOr? fields "viewport" (some standard.viewport) Datum.point?
    virtualExtent :=
      ← Datum.fieldOr? fields "virtual_extent" (some standard.virtualExtent) Datum.point?
    fallbackColor :=
      ← Datum.fieldOr? fields "fallback_color" (some standard.fallbackColor) Color.ofDatum?
    slots := ⟨slots⟩ }

def ofText? (text : String) : Option Config := do
  ofDatum? (← Document.read text).root

end Config

end VisualNovel
