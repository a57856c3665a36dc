import VisualNovel.Event
import VisualNovel.Json
import VisualNovel.Numeral

namespace VisualNovel.Demo

structure Request where
  moment : Moment
  filter : Filter
deriving DecidableEq, Repr

/-- A natural number of 32 bits, written without sign, point and exponent. -/
def count? : Json → Option UInt32
  | .number written =>
      if written.all Char.isDigit then Numeral.read32 (String.ofList written) else none
  | _ => none

def text? : Json → Option String
  | .text value => value
  | _ => none

def optionalText? : Json → Option (Option String)
  | .null => some none
  | value => (text? value).map some

/-- The value of the field, or `default` if there is none. A repeated field is refused. -/
def fieldOr? (fields : List (String × Json)) (key : String) (default : Option α)
    (decode : Json → Option α) : Option α :=
  match fields.filter (·.1 == key) with
  | [] => default
  | [(_, value)] => decode value
  | _ => none

namespace Request

def ofFields? (fields : List (String × Json)) : Option Request := do
  let date : Date :=
    { year := ← fieldOr? fields "year" none count?
      month := ← fieldOr? fields "month" none count?
      day := ← fieldOr? fields "day" none count? }
  let slot ← fieldOr? fields "slot" none text?
  let location ← fieldOr? fields "location" (some none) optionalText?
  let heroine ← fieldOr? fields "heroine" (some none) optionalText?
  return ⟨⟨date, slot⟩, ⟨location, heroine⟩⟩

def fieldNames : List String :=
  ["year", "month", "day", "slot", "location", "heroine"]

/-- An object, whose unknown fields do not matter, or all six parts in order as an array. -/
def ofJson? : Json → Option Request
  | .object fields => do
      ofFields? (← fields.mapM fun (key, value) => do return (← key, value))
  | .array items =>
      if items.length = fieldNames.length then ofFields? (fieldNames.zip items) else none
  | _ => none

def ofText? (text : String) : Option Request :=
  (Json.read text).bind ofJson?

end Request

end VisualNovel.Demo
