import VisualNovel.Demo.Request
import VisualNovel.Demo.Sample
import VisualNovel.Session

/-!
The demo on a page: a session whose data files come as texts and whose store is in memory. After
every step the page draws a frame.
-/

namespace VisualNovel

/-- Why a call of the page fails. -/
inductive DemoError
  | config
  | cast
  | catalog
  | script
  | moment
  | session (reason : SessionError)
deriving DecidableEq, Repr

def DemoError.message : DemoError → String
  | .config => "Config parse error"
  | .cast => "Cast parse error"
  | .catalog => "Catalog parse error"
  | .script => "Script parse error"
  | .moment => "Invalid moment JSON"
  | .session reason => reason.message

structure Demo where
  session : Session (Shelf MemoryStore)
  /-- The last advance stopped at dialogue. -/
  waits : Bool

namespace Demo

structure CharacterFrame where
  name : String
  transform : Transform
  expression : Option Expression
deriving DecidableEq, Repr

/-- All that the page needs to draw. -/
structure Frame where
  waitsForInput : Bool
  finished : Bool
  line : Option ShownLine
  characters : List CharacterFrame
  background : Option String
  backgroundTransform : Transform
  backgroundFill : Option Color
  scroll : List Block
  backlog : List BacklogEntry
deriving DecidableEq, Repr

/-- Blank settings stand for the standard ones. -/
def readConfig (text : String) : Except DemoError Config :=
  if Text.trim text = "" then .ok .standard
  else
    match Config.ofText? text with
    | some config => .ok config
    | none => .error .config

def ofTexts (config cast catalog : String) : Except DemoError Demo := do
  let config ← readConfig config
  let some cast := Cast.ofText? cast | throw .cast
  let some catalog := CatalogRow.listOfText? catalog | throw .catalog
  let setup : Setup MemoryStore :=
    { config := some config, cast := some cast, catalog := some catalog, store := some {} }
  match setup.build with
  | .ok session => return ⟨session, false⟩
  | .error reason => throw (.session reason)

def sample : Except DemoError Demo :=
  ofTexts Sample.config Sample.cast Sample.catalog

def sampleScript : String :=
  Sample.script

def readRequest (text : String) : Except DemoError Request :=
  match Request.ofText? text with
  | some request => .ok request
  | none => .error .moment

/-- The events that may be offered at the requested moment. -/
def available (demo : Demo) (request : String) : Except DemoError (List Event) := do
  let request ← readRequest request
  return demo.session.available request.moment request.filter

/-- Starts an event with a script. A call that fails leaves everything as it was. -/
def begin (demo : Demo) (id script : String) : Except DemoError Demo :=
  match Script.ofText? script with
  | none => .error .script
  | some script =>
      match demo.session.begin id script with
      | .ok session => .ok ⟨session, false⟩
      | .error reason => .error (.session reason)

def advance (demo : Demo) : Except StageError Demo := do
  let (waits, session) ← demo.session.advance
  return ⟨session, waits⟩

/-- The whole milliseconds of a page's clock; what is not a positive number counts as zero. -/
def milliseconds (now : Float) : UInt64 :=
  if 0 < now then now.toUInt64 else 0

def tick (demo : Demo) (now : Float) : Demo :=
  { demo with session := demo.session.tick (milliseconds now) }

def frame (demo : Demo) : Frame :=
  let performance := demo.session.performance
  let stage := performance.stage
  { waitsForInput := demo.waits
    finished := performance.isFinished
    line := performance.current
    characters := stage.activeNames.filterMap fun name =>
      (stage.transform? name).map fun transform =>
        ⟨name, transform, performance.expressions[name]?⟩
    background := stage.backgroundName
    backgroundTransform := stage.background
    backgroundFill := stage.backgroundFill
    scroll := performance.scroll.visible
    backlog := performance.backlog }

/-- Records the running event as completed at the requested moment. -/
def finish (demo : Demo) (request : String) : Except DemoError Bool × Demo :=
  match readRequest request with
  | .error reason => (.error reason, demo)
  | .ok request =>
      let (result, session) := demo.session.finish request.moment
      (result.mapError .session, { demo with session })

/-- The progress of every event. -/
def progress (demo : Demo) : List Progress :=
  demo.session.table.progress

end Demo

end VisualNovel
