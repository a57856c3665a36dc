import Std.Data.ExtTreeSet
import VisualNovel.Calendar

/-!
Story events: the rows of the authored catalog, the progress kept for each event, and when an
event may be offered to the player.
-/

namespace VisualNovel

/-- A row of the event catalog as authored. -/
structure CatalogRow where
  id : String
  /-- The first day of the window, as a marker. -/
  start : String
  /-- The last day of the window, as a marker. -/
  stop : String
  /-- Slot names between semicolons. -/
  slots : String
  heroine : String
  location : String
  title : String
deriving DecidableEq, Repr

/-- What is kept about an event between sessions. -/
structure Progress where
  id : String
  completionCount : UInt32 := 0
  active : Bool := true
  lastPlayed : Option Moment := none
deriving DecidableEq, Repr

structure Event where
  id : String
  start : Marker
  stop : Marker
  slots : Std.ExtTreeSet String
  heroine : String
  location : String
  title : String
  completionCount : UInt32
  active : Bool
  lastPlayed : Option Moment

/-- Which events to list; a part that is not set lets every event pass. -/
structure Filter where
  location : Option String := none
  heroine : Option String := none
deriving DecidableEq, Repr, Inhabited

/-- The progress of an event that nobody has played yet. -/
def Progress.fresh (id : String) : Progress where
  id := id

/-- The trimmed, non-empty names between semicolons. -/
def slotNames (text : String) : List String :=
  ((Text.fields ';' text).map Text.trim).filter (· ≠ "")

def slotSet (text : String) : Std.ExtTreeSet String :=
  .ofList (slotNames text)

/-- The order of months and days within a year. -/
def monthDayLe (a b : UInt32 × UInt32) : Bool :=
  a.1 < b.1 || (a.1 == b.1 && a.2 ≤ b.2)

namespace Event

/-- A fresh event with the fields of its catalog row. -/
def ofRow (table : SlotTable) (row : CatalogRow) : Event where
  id := row.id
  start := Marker.readLenient table row.start
  stop := Marker.readLenient table row.stop
  slots := slotSet row.slots
  heroine := row.heroine
  location := row.location
  title := row.title
  completionCount := 0
  active := true
  lastPlayed := none

/-- Takes over everything that `progress` says except the id. -/
def withProgress (event : Event) (progress : Progress) : Event :=
  { event with
    completionCount := progress.completionCount
    active := progress.active
    lastPlayed := progress.lastPlayed }

def progress (event : Event) : Progress where
  id := event.id
  completionCount := event.completionCount
  active := event.active
  lastPlayed := event.lastPlayed

/-- Month and day lie between the two markers, both included, in whatever year. A window that ends
before it starts holds no day. -/
def inWindow (event : Event) (date : Date) : Bool :=
  monthDayLe event.start.monthDay date.monthDay && monthDayLe date.monthDay event.stop.monthDay

def isOfferable (event : Event) (moment : Moment) : Bool :=
  event.active && event.completionCount == 0 && event.inWindow moment.date &&
    event.slots.contains moment.slot

/-- One more completion; the counter stays at its largest value. -/
def complete (event : Event) : Event :=
  { event with
    completionCount :=
      if event.completionCount.toNat + 1 < UInt32.size then event.completionCount + 1
      else event.completionCount }

end Event

def Filter.matches (filter : Filter) (event : Event) : Bool :=
  filter.location.all (· == event.location) && filter.heroine.all (· == event.heroine)

end VisualNovel
