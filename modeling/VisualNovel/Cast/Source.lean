import VisualNovel.Cast
import VisualNovel.Script.Source

namespace VisualNovel

def Identity.fieldNames : List String :=
  ["name", "display_name", "sprite_extent", "default_expression"]

def Identity.ofDatum? (implicitSome : Bool) (datum : Datum) : Option Identity := do
  let fields ← datum.recordOf? "Identity" fieldNames
  return {
    name := ← Datum.fieldOr? fields "name" none Datum.text?
    displayName :=
      ← Datum.fieldOr? fields "display_name" (some none)
        (Datum.optionOf? implicitSome Datum.text?)
    spriteExtent := ← Datum.fieldOr? fields "sprite_extent" none Datum.point?
    defaultExpression :=
      ← Datum.fieldOr? fields "default_expression" (some {})
        (Expression.ofDatum? implicitSome) }

def Cast.ofDatum? (implicitSome : Bool) (datum : Datum) : Option Cast := do
  let fields ← datum.recordOf? "CastManifest" ["characters", "backgrounds"]
  let characters ← Datum.fieldOr? fields "characters" (some [])
    (Datum.listOf? (Identity.ofDatum? implicitSome))
  let backgrounds ← Datum.fieldOr? fields "backgrounds" (some []) (Datum.listOf? Datum.text?)
  return ofLists characters backgrounds

def Cast.ofText? (text : String) : Option Cast := do
  let document ← Document.read text
  ofDatum? document.implicitSome document.root

end VisualNovel
