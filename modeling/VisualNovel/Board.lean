import VisualNovel.Config.Source
import VisualNovel.Console
import VisualNovel.EventTable

/-!
The event board: lists on the terminal the events that are offered at a moment of the calendar, and
marks events completed.
-/

namespace VisualNovel.Board

structure Options where
  catalog : Option String := none
  progress : Option String := none
  config : Option String := none
  date : Option Date := none
  slot : Option String := none
  filter : Filter := {}
  complete : Option String := none
  showAll : Bool := false

/-- Why the arguments are refused. -/
inductive ArgumentError
  | unknown (argument : String)
  | date (text : String)
  | missing
deriving DecidableEq, Repr

def usage : String :=
  unlines
    ["Event board — list the story events offerable at a calendar moment.",
      "",
      "Usage: event_board --catalog <path> --date <Y/M/D> --slot <slot> [options]",
      "",
      "  --catalog <path>   RON list of event catalog rows",
      "  --date <Y/M/D>     In-game date, e.g. 2025/6/1",
      "  --slot <slot>      Time-of-day slot, e.g. 朝",
      "  --state <path>     RON eligibility state file (read, and written by --complete)",
      "  --config <path>    RON stage config supplying the slot table",
      "  --location <name>  Only events at this location",
      "  --heroine <name>   Only events with this heroine",
      "  --complete <id>    Mark an event completed before listing",
      "  --all              Show every event, starring the offerable ones"]

def ArgumentError.outcome : ArgumentError → Outcome
  | .unknown argument => .failure usage ["Unknown argument: " ++ argument]
  | .date text => .failure "" ["Invalid date: " ++ text ++ " (expected Y/M/D)"]
  | .missing => .failure usage ["--catalog, --date and --slot are required"]

/-- Takes the arguments in order; a later one replaces an earlier one of its kind. -/
def readOptions : List String → Options → Except ArgumentError Options
  | [], options => .ok options
  | "--catalog" :: path :: rest, options => readOptions rest { options with catalog := some path }
  | "--state" :: path :: rest, options => readOptions rest { options with progress := some path }
  | "--config" :: path :: rest, options => readOptions rest { options with config := some path }
  | "--date" :: text :: rest, options =>
      match Date.read text with
      | some date => readOptions rest { options with date := some date }
      | none => .error (.date text)
  | "--slot" :: slot :: rest, options => readOptions rest { options with slot := some slot }
  | "--location" :: name :: rest, options =>
      readOptions rest { options with filter := { options.filter with location := some name } }
  | "--heroine" :: name :: rest, options =>
      readOptions rest { options with filter := { options.filter with heroine := some name } }
  | "--complete" :: id :: rest, options => readOptions rest { options with complete := some id }
  | "--all" :: rest, options => readOptions rest { options with showAll := true }
  | argument :: _, _ => .error (.unknown argument)

def writeMonthDay (monthDay : UInt32 × UInt32) : String :=
  Numeral.writeTwo monthDay.1.toNat ++ "/" ++ Numeral.writeTwo monthDay.2.toNat

def columns (event : Event) : String :=
  Text.padRight 24 event.id ++ " " ++ Text.padRight 32 event.title ++ " "

/-- The line of an event that is offered. -/
def offerLine (event : Event) : String :=
  columns event ++ event.heroine ++ " @ " ++ event.location

def isStarred (table : EventTable) (moment : Moment) (filter : Filter) (event : Event) : Bool :=
  table.isOfferable event.id moment && filter.matches event

/-- The line of any event, starred when it is offered. -/
def fullLine (starred : Bool) (event : Event) : String :=
  (if starred then "* " else "  ") ++ columns event ++
    writeMonthDay event.start.monthDay ++ "-" ++ writeMonthDay event.stop.monthDay ++ " " ++
    event.heroine ++ " x" ++ Numeral.write event.completionCount.toNat ++
    (if event.active then "" else " (inactive)")

def eventLines (table : EventTable) (moment : Moment) (filter : Filter) (showAll : Bool) :
    List String :=
  if showAll then
    table.events.toList.map fun event => fullLine (isStarred table moment filter event) event
  else
    match table.available moment filter with
    | [] => ["(nothing to offer)"]
    | events => events.map offerLine

def heading (moment : Moment) : List String :=
  [moment.date.write ++ " " ++ moment.slot, ""]

def report (table : EventTable) (moment : Moment) (options : Options) : List String :=
  heading moment ++ eventLines table moment options.filter options.showAll

def loadConfig (folder : Folder) (options : Options) : Except String Config :=
  match options.config with
  | none => .ok .standard
  | some path =>
      (folder.load Config.ofText? path).mapError fun reason =>
        "Error loading config " ++ path ++ ": " ++ reason.message

/-- The rows of the catalog and a warning when there is no such file. -/
def loadCatalog (folder : Folder) (path : String) :
    Except String (List CatalogRow × List String) :=
  if folder.exists? path then
    match folder.load CatalogRow.listOfText? path with
    | .ok rows => .ok (rows, [])
    | .error reason => .error ("Error loading catalog " ++ path ++ ": " ++ reason.message)
  else .ok ([], ["Warning: no catalog at " ++ path])

/-- Marks the event completed and saves the table, if it is kept anywhere. Answers with the line
to be printed. -/
def markCompleted (folder : Folder) (table : EventTable) (moment : Moment)
    (progress : Option String) (id : String) : Except String (String × EventTable × Folder) :=
  let (known, table) := table.completeAt id moment
  if !known then .error ("Unknown event: " ++ id)
  else
    match progress with
    | none =>
        .ok ("Marked " ++ id ++ " completed (no --state given; not saved).", table, folder)
    | some path =>
        match table.persist (FileStore.mk folder path) with
        | (.ok (), store) => .ok ("Marked " ++ id ++ " completed.", table, store.folder)
        | (.error reason, _) => .error ("Error saving state: " ++ reason.message)

def slotWarning (config : Config) (slot : String) : List String :=
  if config.slots.contains slot then []
  else ["Warning: slot " ++ slot ++ " is not defined in the config"]

/-- The table that the files hold, before anything is marked in it. -/
def tableOf (folder : Folder) (progress : Option String) (config : Config)
    (rows : List CatalogRow) : EventTable :=
  match progress with
  | some path => ((EventTable.empty config.slots).load rows []).reload (FileStore.mk folder path)
  | none => (EventTable.empty config.slots).load rows []

/-- Marks an event in the table if asked to, and reports on it. -/
def listTable (folder : Folder) (options : Options) (moment : Moment) (warnings : List String)
    (table : EventTable) : Outcome × Folder :=
  match options.complete with
  | none => (.success (unlines (report table moment options)) warnings, folder)
  | some id =>
      match markCompleted folder table moment options.progress id with
      | .error line => (.failure "" (warnings ++ [line]), folder)
      | .ok (line, table, folder) =>
          (.success (unlines (line :: report table moment options)) warnings, folder)

/-- Loads the files, marks an event completed if asked to, and lists the events. -/
def list (folder : Folder) (options : Options) (catalog : String) (moment : Moment) :
    Outcome × Folder :=
  match loadConfig folder options with
  | .error line => (.failure "" [line], folder)
  | .ok config =>
      match loadCatalog folder catalog with
      | .error line => (.failure "" (slotWarning config moment.slot ++ [line]), folder)
      | .ok (rows, catalogWarning) =>
          listTable folder options moment (slotWarning config moment.slot ++ catalogWarning)
            (tableOf folder options.progress config rows)

/-- Runs the board with its arguments on the files of a folder. -/
def run (folder : Folder) (arguments : List String) : Outcome × Folder :=
  if asksForHelp arguments then (.success usage [], folder)
  else
    match readOptions arguments {} with
    | .error reason => (reason.outcome, folder)
    | .ok options =>
        match options.catalog, options.date, options.slot with
        | some catalog, some date, some slot => list folder options catalog ⟨date, slot⟩
        | _, _, _ => (ArgumentError.missing.outcome, folder)

end VisualNovel.Board
