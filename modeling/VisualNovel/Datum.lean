/-!
The values that data files are written in: texts, numbers, options, lists, tuples, records and
tables, as they stand in a file. What type a value is wanted at is decided when it is decoded.
-/

namespace VisualNovel

inductive Datum
  | text (value : String)
  | letter (value : Char)
  | truth (value : Bool)
  /-- A number as it is written, be it an integer or a decimal fraction. -/
  | number (written : String)
  /-- `()` -/
  | unit
  /-- A name that stands alone. -/
  | word (name : String)
  /-- `None` -/
  | absent
  /-- `Some(payload)` -/
  | present (payload : Datum)
  /-- `Some` with a raw text right behind it. It says something only where an option is wanted. -/
  | joined (content : String)
  | list (items : List Datum)
  | tuple (name : Option String) (items : List Datum)
  | record (name : Option String) (fields : List (String × Datum))
  | table (entries : List (Datum × Datum))
deriving Repr, Inhabited

namespace Datum

mutual

/-- Every part of the value says something whatever it is wanted at. -/
def isPlain : Datum → Bool
  | .joined _ => false
  | .present payload => payload.isPlain
  | .list items | .tuple _ items => arePlain items
  | .record _ fields => fieldsArePlain fields
  | .table entries => entriesArePlain entries
  | _ => true

def arePlain : List Datum → Bool
  | [] => true
  | item :: items => item.isPlain && arePlain items

def fieldsArePlain : List (String × Datum) → Bool
  | [] => true
  | (_, value) :: fields => value.isPlain && fieldsArePlain fields

def entriesArePlain : List (Datum × Datum) → Bool
  | [] => true
  | (key, value) :: entries => key.isPlain && value.isPlain && entriesArePlain entries

end

end Datum

/-- A data file: one value, and whether options may be given without `Some`. -/
structure Document where
  implicitSome : Bool
  root : Datum
deriving Repr

end VisualNovel
