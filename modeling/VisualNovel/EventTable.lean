import Std.Data.ExtTreeMap
import VisualNovel.Store

/-!
The table of the events of a game, in the order of their catalog, with an index by id.
-/

namespace VisualNovel

structure EventTable where
  slots : SlotTable
  events : Array Event
  /-- The place of each id among the events. -/
  index : Std.ExtTreeMap String Nat

namespace EventTable

def empty (slots : SlotTable) : EventTable where
  slots := slots
  events := #[]
  index := ∅

def find? (table : EventTable) (id : String) : Option Event :=
  table.index[id]?.bind fun i => table.events[i]?

/-- Puts the event of a catalog row into the table: at the end, or in the place of an earlier one
with the same id. -/
def addRow (table : EventTable) (row : CatalogRow) : EventTable :=
  let event := Event.ofRow table.slots row
  match table.index[row.id]? with
  | some i => { table with events := table.events.setIfInBounds i event }
  | none =>
      { table with
        events := table.events.push event
        index := table.index.insert row.id table.events.size }

/-- Changes the event with the given id. -/
def modify (table : EventTable) (id : String) (change : Event → Event) : EventTable :=
  match table.index[id]? with
  | some i => { table with events := table.events.modify i change }
  | none => table

/-- Changes the event with the given id, and answers whether there is one. -/
def modify? (table : EventTable) (id : String) (change : Event → Event) : Bool × EventTable :=
  ((table.find? id).isSome, table.modify id change)

/-- Makes every event fresh. -/
def reset (table : EventTable) : EventTable :=
  { table with
    events := table.events.map fun event => event.withProgress (.fresh event.id) }

/-- Makes every event fresh and then takes over the rows; rows of other events are ignored. -/
def applyProgress (table : EventTable) (rows : List Progress) : EventTable :=
  rows.foldl (fun table row => table.modify row.id (·.withProgress row)) table.reset

/-- Fills the table anew from catalog rows and takes over the progress rows. -/
def load (table : EventTable) (catalog : List CatalogRow) (rows : List Progress) : EventTable :=
  (catalog.foldl addRow (empty table.slots)).applyProgress rows

/-- The progress of every event, in order. -/
def progress (table : EventTable) : List Progress :=
  table.events.toList.map Event.progress

/-- Takes over what the store holds; a store that cannot be read counts as empty. -/
def reload {σ : Type} [ProgressStore σ] (table : EventTable) (store : σ) : EventTable :=
  match ProgressStore.load store with
  | .ok rows => table.applyProgress rows
  | .error _ => table.applyProgress []

/-- Saves the progress of every event. -/
def persist {σ : Type} [ProgressStore σ] (table : EventTable) (store : σ) :
    Except LoadError Unit × σ :=
  ProgressStore.save store table.progress

def isOfferable (table : EventTable) (id : String) (moment : Moment) : Bool :=
  (table.find? id).any (·.isOfferable moment)

/-- The events that may be offered at the moment and pass the filter, in order. -/
def available (table : EventTable) (moment : Moment) (filter : Filter) : List Event :=
  table.events.toList.filter fun event => event.isOfferable moment && filter.matches event

/-- Counts one completion of the event. -/
def complete (table : EventTable) (id : String) : Bool × EventTable :=
  table.modify? id Event.complete

/-- Counts one completion of the event and notes when it was. -/
def completeAt (table : EventTable) (id : String) (moment : Moment) : Bool × EventTable :=
  table.modify? id fun event => { event.complete with lastPlayed := some moment }

def setActive (table : EventTable) (id : String) (active : Bool) : Bool × EventTable :=
  table.modify? id ({ · with active })

end EventTable

end VisualNovel
