import VisualNovel.Datum.Decode
import VisualNovel.Event

namespace VisualNovel

/-- The rows among the entries of a list. Only a file that is not a list is refused. -/
def rowsOfText? (ofDatum? : Datum → Option α) (text : String) : Option (List α) := do
  let document ← Document.read text
  match document.root with
  | .list entries => if document.root.isPlain then return entries.filterMap ofDatum? else none
  | _ => none

namespace CatalogRow

def fieldNames : List String :=
  ["id", "start", "end", "slots", "heroine", "location", "title"]

def ofDatum? (datum : Datum) : Option CatalogRow := do
  let fields ← datum.looseFields? fieldNames
  let part key := Datum.looseFieldOr? fields key none Datum.looseText?
  return {
    id := ← part "id"
    start := ← part "start"
    stop := ← part "end"
    slots := ← part "slots"
    heroine := ← part "heroine"
    location := ← part "location"
    title := ← part "title" }

def listOfText? (text : String) : Option (List CatalogRow) :=
  rowsOfText? ofDatum? text

end CatalogRow

def Date.ofDatum? (datum : Datum) : Option Date := do
  let fields ← datum.looseFields? ["year", "month", "day"]
  let part key := Datum.looseFieldOr? fields key none Datum.looseCount?
  return { year := ← part "year", month := ← part "month", day := ← part "day" }

def Moment.ofDatum? (datum : Datum) : Option Moment := do
  let fields ← datum.looseFields? ["date", "slot"]
  return {
    date := ← Datum.looseFieldOr? fields "date" none Date.ofDatum?
    slot := ← Datum.looseFieldOr? fields "slot" none Datum.looseText? }

namespace Progress

def fieldNames : List String :=
  ["id", "completion_count", "active", "last_executed_at"]

def ofDatum? (datum : Datum) : Option Progress := do
  let fields ← datum.looseFields? fieldNames
  return {
    id := ← Datum.looseFieldOr? fields "id" none Datum.looseText?
    completionCount :=
      ← Datum.looseFieldOr? fields "completion_count" (some 0) Datum.looseCount?
    active := ← Datum.looseFieldOr? fields "active" (some true) Datum.looseTruth?
    lastPlayed :=
      ← Datum.looseFieldOr? fields "last_executed_at" (some none)
        (Datum.looseOption? Moment.ofDatum?) }

def listOfText? (text : String) : Option (List Progress) :=
  rowsOfText? ofDatum? text

end Progress

end VisualNovel
