import VisualNovel.Datum.Decode
import VisualNovel.Script

namespace VisualNovel

def Expression.fieldNames : List String :=
  ["eye", "mouth", "brow", "cheek"]

def Expression.ofDatum? (implicitSome : Bool) (datum : Datum) : Option Expression := do
  let fields ← datum.recordOf? "Expression" fieldNames
  let part key := Datum.fieldOr? fields key (some none) (Datum.optionOf? implicitSome Datum.text?)
  return { eye := ← part "eye", mouth := ← part "mouth", brow := ← part "brow",
           cheek := ← part "cheek" }

def Line.fieldNames : List String :=
  ["speaker", "expression", "text", "display_name"]

def Line.ofDatum? (implicitSome : Bool) (datum : Datum) : Option Line := do
  let fields ← datum.recordOf? "DialogueLine" fieldNames
  return {
    speaker := ← Datum.fieldOr? fields "speaker" none Datum.text?
    expression :=
      ← Datum.fieldOr? fields "expression" (some {}) (Expression.ofDatum? implicitSome)
    text := ← Datum.fieldOr? fields "text" none Datum.text?
    displayName :=
      ← Datum.fieldOr? fields "display_name" (some none)
        (Datum.optionOf? implicitSome Datum.text?) }

def Script.ofText? (text : String) : Option Script := do
  let document ← Document.read text
  let lines ← document.root.listOf? (Line.ofDatum? document.implicitSome)
  return ⟨lines⟩

end VisualNovel
