import VisualNovel.Datum.Printer
import VisualNovel.Event
import VisualNovel.Numeral

namespace VisualNovel

def Datum.ofCount (count : UInt32) : Datum :=
  .number (Numeral.write count.toNat)

def Datum.ofOption (encode : α → Datum) : Option α → Datum
  | none => .absent
  | some value => .present (encode value)

def Date.toDatum (date : Date) : Datum :=
  .record none
    [("year", .ofCount date.year), ("month", .ofCount date.month), ("day", .ofCount date.day)]

def Moment.toDatum (moment : Moment) : Datum :=
  .record none [("date", moment.date.toDatum), ("slot", .text moment.slot)]

namespace Progress

def toDatum (progress : Progress) : Datum :=
  .record none
    [("id", .text progress.id), ("completion_count", .ofCount progress.completionCount),
      ("active", .truth progress.active),
      ("last_executed_at", .ofOption Moment.toDatum progress.lastPlayed)]

/-- The text of a file that keeps the rows. -/
def writeList (rows : List Progress) : String :=
  (Datum.list (rows.map toDatum)).write

end Progress

end VisualNovel
