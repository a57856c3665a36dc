import VisualNovel.Scroll
import VisualNovel.Script
import VisualNovel.Stage

/-!
The performance of a script: a cursor that runs commands until it reaches a line of dialogue, which
it presents in the text box or in an open scroll.
-/

namespace VisualNovel

/-- The line in the text box. -/
structure ShownLine where
  speaker : String
  displayName : String
  text : String
deriving DecidableEq, Repr

structure Performance where
  script : Script
  /-- The index of the last line that was reached; none before the first. -/
  cursor : Option Nat
  cast : Cast
  names : NameBook
  stage : Stage
  scroll : Scroll
  /-- Dialogue goes to the scroll. -/
  scrollMode : Bool
  expressions : Std.ExtTreeMap String Expression
  current : Option ShownLine
  backlog : List BacklogEntry

namespace Performance

def ofConfig (config : Config) (cast : Cast) (names : NameBook) : Performance where
  script := .empty
  cursor := none
  cast := cast
  names := names
  stage := .ofConfig config
  scroll := {}
  scrollMode := false
  expressions := ∅
  current := none
  backlog := []

/-- The index of the line after the cursor. -/
def next (p : Performance) : Nat :=
  match p.cursor with
  | none => 0
  | some index => index + 1

/-- No line is left after the cursor. -/
def isFinished (p : Performance) : Bool :=
  p.script.size ≤ p.next

/-- Sets a new script up on a cleared stage. An open scroll stays open until it is stopped. -/
def load (p : Performance) (script : Script) : Performance :=
  { p with
    script := script
    cursor := none
    stage := p.stage.clear
    expressions := ∅
    current := none }

def tick (p : Performance) (now : UInt64) : Performance :=
  { p with stage := p.stage.tick now }

/-- The milliseconds of a commanded duration; a negative one counts as none. -/
def milliseconds (duration : Int64) : UInt64 :=
  duration.toNatClampNeg.toUInt64

/-- Carries out a command. One that names nobody of the cast does nothing. -/
def execute (p : Performance) : Command → Except StageError Performance
  | .showCharacter name x y =>
      match p.cast.find? name with
      | some identity => return { p with stage := p.stage.showCharacter identity x y }
      | none => return p
  | .hideCharacter name =>
      if p.cast.contains name then return { p with stage := (p.stage.hideCharacter name).2 }
      else return p
  | .moveCharacter name x y duration zoom =>
      if p.cast.contains name then do
        let (_, stage) ← p.stage.moveCharacter name x y (milliseconds duration) zoom
        return { p with stage }
      else return p
  | .showBackground name x y zoom =>
      if p.cast.hasBackground name then do
        return { p with stage := ← p.stage.showBackground name x y zoom }
      else return p
  | .moveBackground dx dy duration zoom => do
      let (_, stage) ← p.stage.moveBackground dx dy (milliseconds duration) zoom
      return { p with stage }
  | .startScroll => return { p with scrollMode := true }
  | .stopScroll =>
      let (_, scroll, backlog) := p.scroll.stop p.backlog
      return { p with scroll, backlog, scrollMode := false }

/-- The name shown for a line. Its own display name counts only when it names one of the cast. -/
def shownName (p : Performance) (line : Line) : String :=
  match line.displayName.bind p.cast.find? with
  | some identity => p.names.displayName identity
  | none => line.speaker

/-- Speakers on stage take on the line's expression, filled up with their default. -/
def remember (p : Performance) (line : Line) : Performance :=
  if p.stage.isOnStage line.speaker then
    let defaults := ((p.cast.find? line.speaker).map Identity.defaultExpression).getD {}
    { p with
      expressions := p.expressions.insert line.speaker (line.expression.orDefault defaults) }
  else p

/-- Presents a line of dialogue in the text box or, in scroll mode, as a block of the scroll. -/
def present (p : Performance) (line : Line) : Performance :=
  let shown := p.shownName line
  let p := p.remember line
  if p.scrollMode then
    let scroll :=
      if p.scroll.isScrolling then (p.scroll.add line.text (some shown)).2
      else (p.scroll.start shown line.text).2
    { p with scroll, current := none }
  else { p with current := some ⟨line.speaker, shown, line.text⟩ }

/-- Goes through the lines from the one at `index` on, until dialogue is presented. -/
def playLines : List Line → Nat → Performance → Except StageError (Bool × Performance)
  | [], _, p => .ok (false, p)
  | line :: lines, index, p =>
      let p := { p with cursor := some index }
      match line.action with
      | .dialogue => .ok (true, p.present line)
      | .invalid _ => playLines lines (index + 1) p
      | .command command =>
          match p.execute command with
          | .error e => .error e
          | .ok p => playLines lines (index + 1) p

/-- Moves on to the next line of dialogue, running the commands before it. Answers whether the
player has to act; at the end of the script nothing changes. -/
def advance (p : Performance) : Except StageError (Bool × Performance) :=
  playLines (p.script.lines.drop p.next) p.next p

/-- Takes all entries out of the backlog. -/
def drainBacklog (p : Performance) : List BacklogEntry × Performance :=
  (p.backlog, { p with backlog := [] })

def setName (p : Performance) (identity name : String) : Performance :=
  { p with names := p.names.set identity name }

end Performance

end VisualNovel
