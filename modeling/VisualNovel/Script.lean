import VisualNovel.Command
import VisualNovel.Expression

namespace VisualNovel

structure Line where
  speaker : String
  expression : Expression := {}
  text : String
  /-- Names the identity whose shown name replaces the speaker's. -/
  displayName : Option String := none
deriving DecidableEq, Repr

/-- What happens when the cursor reaches a line. -/
inductive Action
  | dialogue
  | command (command : Command)
  | invalid (reason : CommandError)
deriving DecidableEq, Repr

structure Script where
  lines : List Line
deriving DecidableEq, Repr, Inhabited

/-- The director command in the text of a line, or dialogue when it holds none. -/
def Line.action (line : Line) : Action :=
  match Command.read line.text line.speaker with
  | none => .dialogue
  | some (.ok command) => .command command
  | some (.error reason) => .invalid reason

namespace Script

def empty : Script := ⟨[]⟩

def size (script : Script) : Nat :=
  script.lines.length

def isEmpty (script : Script) : Bool :=
  script.lines.isEmpty

end Script

end VisualNovel
