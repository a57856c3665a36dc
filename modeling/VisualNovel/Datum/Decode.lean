import VisualNovel.Datum.Reader
import VisualNovel.Geometry

namespace VisualNovel.Datum

def text? : Datum → Option String
  | .text value => some value
  | _ => none

def float? : Datum → Option Float
  | .number written => Decimal.read written
  | _ => none

/-- A byte, which is written without a sign. -/
def byte? : Datum → Option UInt8
  | .number written =>
      if written.toList.head?.any (fun c => c == '+' || c == '-') then none
      else ((Integer.read written).filter (· < 256)).map fun n => n.toNat.toUInt8
  | _ => none

def point? : Datum → Option Point
  | .tuple none [x, y] => do return ⟨← x.float?, ← y.float?⟩
  | _ => none

def listOf? (decode : Datum → Option α) : Datum → Option (List α)
  | .list items => items.mapM decode
  | _ => none

/-- An option, which may stand without `Some` when the document says so. -/
def optionOf? (implicitSome : Bool) (decode : Datum → Option α) : Datum → Option (Option α)
  | .absent => some none
  | .present payload => (decode payload).map some
  | .joined content => (decode (.text content)).map some
  | value => if implicitSome then (decode value).map some else none

/-- The fields of a record, whose name may be left out but may not be another. What stands in a
field that is not known does not matter, as long as it says something. -/
def recordOf? (name : String) (known : List String) : Datum → Option (List (String × Datum))
  | .unit => some []
  | .tuple given [] => if given.all (· == name) then some [] else none
  | .record given fields =>
      let readable := fields.all fun (key, value) => known.contains key || value.isPlain
      if given.all (· == name) && readable then some fields else none
  | _ => none

/-- The value of the field, or `default` if there is none. A repeated field is refused. -/
def fieldOr? (fields : List (String × Datum)) (key : String) (default : Option α)
    (decode : Datum → Option α) : Option α :=
  match fields.filter (·.1 == key) with
  | [] => default
  | [(_, value)] => decode value
  | _ => none

/-- A text, or a single letter. -/
def looseText? : Datum → Option String
  | .text value => some value
  | .letter value => some value.toString
  | _ => none

def looseCount? : Datum → Option UInt32
  | .number written =>
      ((Integer.read written).filter fun n : Int => 0 ≤ n ∧ n.toNat < UInt32.size).map fun n =>
        n.toNat.toUInt32
  | _ => none

def looseTruth? : Datum → Option Bool
  | .truth value => some value
  | _ => none

/-- An option; a value without content says that there is none. -/
def looseOption? (decode : Datum → Option α) : Datum → Option (Option α)
  | .absent | .unit | .word _ => some none
  | .present payload => (decode payload).map some
  | _ => none

/-- What a value says about the named parts of a record: fields under their names, of which the
last one of a name counts, or items in the order of the names, of which the last may be missing. -/
def looseFields? (names : List String) : Datum → Option (List (String × Datum))
  | .record _ fields => some fields.reverse
  | .table entries => do
      let fields ← entries.mapM fun (key, value) => do return (← key.looseText?, value)
      return fields.reverse
  | .list items | .tuple _ items =>
      if items.length ≤ names.length then some (names.zip items) else none
  | _ => none

def looseFieldOr? (fields : List (String × Datum)) (key : String) (default : Option α)
    (decode : Datum → Option α) : Option α :=
  match fields.lookup key with
  | none => default
  | some value => decode value

end VisualNovel.Datum
