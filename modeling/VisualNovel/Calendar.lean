import VisualNovel.Numeral

/-!
The calendar of the game world: dates, the named parts of a day (slots), moments, and the markers
that bound the days on which an event is offered.
-/

namespace VisualNovel

structure Date where
  year : UInt32
  month : UInt32
  day : UInt32
deriving DecidableEq, Repr

/-- A moment in the game world: a date and the slot of that day. -/
structure Moment where
  date : Date
  slot : String
deriving DecidableEq, Repr

/-- The slots that a game defines, in order. The first one stands in for a slot that cannot be
read. -/
structure SlotTable where
  slots : List String
deriving DecidableEq, Repr

/-- One end of an event's window. -/
structure Marker where
  month : UInt32
  day : UInt32
  slot : String
deriving DecidableEq, Repr

inductive MarkerError
  | shape (text : String)
  | month (field : String)
  | day (field : String)
  | slot (field : String)
deriving DecidableEq, Repr

def MarkerError.message : MarkerError → String
  | .shape text => "expected '<month> <day> <slot>', got '" ++ text ++ "'"
  | .month field => "invalid month '" ++ field ++ "'"
  | .day field => "invalid day '" ++ field ++ "'"
  | .slot field => "undefined slot '" ++ field ++ "'"

namespace Date

def monthDay (date : Date) : UInt32 × UInt32 :=
  (date.month, date.day)

/-- Year, month and day between slashes; month and day have two digits at least. -/
def write (date : Date) : String :=
  Numeral.write date.year.toNat ++ "/" ++ Numeral.writeTwo date.month.toNat ++ "/" ++
    Numeral.writeTwo date.day.toNat

/-- Reads three numerals between slashes, with blanks around any of them. -/
def read (text : String) : Option Date :=
  match (Text.fields '/' text).mapM fun part => Numeral.read32 (Text.trim part) with
  | some [year, month, day] => some ⟨year, month, day⟩
  | _ => none

end Date

namespace SlotTable

def standard : SlotTable := ⟨["朝", "昼", "夕", "夜"]⟩

instance : Inhabited SlotTable := ⟨standard⟩

def first? (table : SlotTable) : Option String :=
  table.slots.head?

def contains (table : SlotTable) (slot : String) : Bool :=
  table.slots.contains slot

def size (table : SlotTable) : Nat :=
  table.slots.length

def isEmpty (table : SlotTable) : Bool :=
  table.slots.isEmpty

end SlotTable

namespace Marker

def monthDay (marker : Marker) : UInt32 × UInt32 :=
  (marker.month, marker.day)

/-- Stands in for a marker that cannot be read: the first of June, first slot. -/
def fallback (table : SlotTable) : Marker :=
  ⟨6, 1, table.first?.getD ""⟩

def month? (field : String) : Option UInt32 :=
  (Numeral.read32 field).filter fun month => 1 ≤ month ∧ month ≤ 12

def day? (field : String) : Option UInt32 :=
  (Numeral.read32 field).filter fun day => 1 ≤ day ∧ day ≤ 31

def slot? (table : SlotTable) (field : String) : Option String :=
  if table.contains field then some field else none

/-- Reads exactly three words, and blames the first one that does not fit. -/
def read (table : SlotTable) (text : String) : Except MarkerError Marker :=
  match Text.words text with
  | [month, day, slot] =>
      match month? month with
      | none => .error (.month month)
      | some month =>
          match day? day with
          | none => .error (.day day)
          | some day =>
              match slot? table slot with
              | none => .error (.slot slot)
              | some slot => .ok ⟨month, day, slot⟩
  | _ => .error (.shape text)

/-- Reads each of the first three words on its own; one that is missing or does not fit takes its
part of the fallback. -/
def readLenient (table : SlotTable) (text : String) : Marker :=
  let words := Text.words text
  { month := (words[0]?.bind month?).getD (fallback table).month
    day := (words[1]?.bind day?).getD (fallback table).day
    slot := (words[2]?.bind (slot? table)).getD (fallback table).slot }

end Marker

end VisualNovel
