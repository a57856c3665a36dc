import VisualNovel.Cast.Source
import VisualNovel.Config.Source
import VisualNovel.EventTable
import VisualNovel.Performance
import VisualNovel.Script.Source

/-!
A session with the game: choosing an event, performing its script, and recording its completion.
-/

namespace VisualNovel

inductive SessionError
  | config (reason : LoadError)
  | cast (reason : LoadError)
  | catalog (reason : LoadError)
  | store (reason : LoadError)
  | unknownEvent (id : String)
deriving DecidableEq, Repr

def SessionError.message : SessionError → String
  | .config reason => "config error: " ++ reason.message
  | .cast reason => "catalog error: " ++ reason.message
  | .catalog reason => "catalog error: " ++ reason.message
  | .store reason => "store error: " ++ reason.message
  | .unknownEvent id => "unknown event: " ++ id

/-- The event whose script is being performed. -/
structure Running where
  id : String
  completed : Bool
deriving DecidableEq, Repr

structure Session (σ : Type) where
  config : Config
  table : EventTable
  store : σ
  performance : Performance
  running : Option Running

/-- What a session is set up from. What is given directly is preferred to a file, which is then not
looked at. -/
structure Setup (σ : Type) where
  folder : Folder := .empty
  configFile : Option String := none
  castFile : Option String := none
  catalogFile : Option String := none
  progressFile : Option String := none
  config : Option Config := none
  cast : Option Cast := none
  names : NameBook := .empty
  catalog : Option (List CatalogRow) := none
  store : Option σ := none

namespace Setup

variable {σ : Type}

def loadConfig (setup : Setup σ) : Except SessionError Config :=
  match setup.config, setup.configFile with
  | some config, _ => .ok config
  | none, some file => (setup.folder.load Config.ofText? file).mapError .config
  | none, none => .ok .standard

def loadCast (setup : Setup σ) : Except SessionError Cast :=
  match setup.cast, setup.castFile with
  | some cast, _ => .ok cast
  | none, some file => (setup.folder.load Cast.ofText? file).mapError .cast
  | none, none => .ok .empty

/-- A catalog file that does not exist is an empty catalog. -/
def loadCatalog (setup : Setup σ) : Except SessionError (List CatalogRow) :=
  match setup.catalog, setup.catalogFile with
  | some rows, _ => .ok rows
  | none, some file =>
      if setup.folder.exists? file then
        (setup.folder.load CatalogRow.listOfText? file).mapError .catalog
      else .ok []
  | none, none => .ok []

def shelf (setup : Setup σ) : Shelf σ where
  folder := setup.folder
  keeping :=
    match setup.store, setup.progressFile with
    | some store, _ => .given store
    | none, some file => .file file
    | none, none => .memory {}

/-- Opens a session. The store is read last and never makes it fail. -/
def build [ProgressStore σ] (setup : Setup σ) : Except SessionError (Session (Shelf σ)) := do
  let config ← setup.loadConfig
  let cast ← setup.loadCast
  let catalog ← setup.loadCatalog
  let table := (EventTable.empty config.slots).load catalog []
  return {
    config := config
    table := table.reload setup.shelf
    store := setup.shelf
    performance := .ofConfig config cast setup.names
    running := none }

end Setup

namespace Session

variable {σ : Type}

def available (session : Session σ) (moment : Moment) (filter : Filter) : List Event :=
  session.table.available moment filter

/-- Sets the script up as the performance of the event, which has to be in the table. Whether it
may be offered is not asked here. -/
def begin (session : Session σ) (id : String) (script : Script) :
    Except SessionError (Session σ) :=
  if (session.table.find? id).isNone then .error (.unknownEvent id)
  else .ok { session with
    performance := session.performance.load script
    running := some ⟨id, false⟩ }

def advance (session : Session σ) : Except StageError (Bool × Session σ) := do
  let (waits, performance) ← session.performance.advance
  return (waits, { session with performance })

def tick (session : Session σ) (now : UInt64) : Session σ :=
  { session with performance := session.performance.tick now }

/-- Records the completion of the running event, once a performance and only at the end of its
script. The event counts as completed even when the store then fails. -/
def finish [ProgressStore σ] (session : Session σ) (moment : Moment) :
    Except SessionError Bool × Session σ :=
  match session.running with
  | none => (.ok false, session)
  | some running =>
      if running.completed || !session.performance.isFinished then (.ok false, session)
      else
        let table := (session.table.completeAt running.id moment).2
        let (result, store) := table.persist session.store
        let session := { session with
          table, store, running := some { running with completed := true } }
        match result with
        | .ok () => (.ok true, session)
        | .error reason => (.error (.store reason), session)

/-- Takes over what the store holds. -/
def reload [ProgressStore σ] (session : Session σ) : Session σ :=
  { session with table := session.table.reload session.store }

def runningEvent (session : Session σ) : Option String :=
  session.running.map Running.id

end Session

end VisualNovel
