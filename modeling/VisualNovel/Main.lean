import VisualNovel.Board
import VisualNovel.Player

namespace VisualNovel.Terminal

/-- Adds what lies at a location, if anything does. -/
def lookUp (folder : Folder) (location : String) : IO Folder := do
  try
    let text ← IO.FS.readFile location
    return { folder with files := folder.files.insert location text }
  catch
    | .noFileOrDirectory .. => return folder
    | _ => return { folder with folders := folder.folders.insert location }

/-- The locations that the parts of a path pass. -/
def passed (location : String) : List String → List String
  | [] => []
  | part :: parts =>
      if part = "" ∨ part = "." then passed location parts
      else
        let location := if part = ".." then Folder.parent location else Folder.child location part
        location :: passed location parts

/-- The part of the file system that the arguments may speak of. -/
def folderOf (arguments : List String) : IO Folder :=
  (arguments.flatMap fun path => passed (Folder.base path) (Text.fields '/' path)).foldlM lookUp
    .empty

/-- Writes back the files that have changed. -/
def writeBack (before after : Folder) : IO Unit :=
  for (path, text) in after.files.toList do
    if before.files[path]? != some text then IO.FS.writeFile path text

def printOutcome (outcome : Outcome) : IO UInt32 := do
  outcome.errors.forM IO.eprintln
  IO.print outcome.output
  return outcome.code.toUInt32

def runBoard (arguments : List String) : IO UInt32 := do
  let folder ← folderOf arguments
  let (outcome, changed) := Board.run folder arguments
  writeBack folder changed
  printOutcome outcome

partial def converse (player : Player) : IO UInt32 := do
  let output ← IO.getStdout
  output.putStr Player.prompt
  output.flush
  let line ← (← IO.getStdin).getLine
  if line.isEmpty then return 0
  match player.respond line with
  | .error .noPanRange => do
      IO.eprintln "The background has no pan range."
      return 101
  | .ok (.quit lines) => do
      output.putStr (unlines lines)
      return 0
  | .ok (.goOn lines player) => do
      output.putStr (unlines lines)
      converse player

def runPlayer (arguments : List String) : IO UInt32 := do
  match Player.open? (← folderOf arguments) arguments with
  | .error outcome => printOutcome outcome
  | .ok player => do
      IO.print player.greeting
      converse player

/-- Runs the program that the first argument names. -/
def run : List String → IO UInt32
  | "event_board" :: arguments => runBoard arguments
  | "script_player" :: arguments => runPlayer arguments
  | _ => do
      IO.print (Board.usage ++ "\n" ++ Player.usage)
      return 1

end VisualNovel.Terminal

def main (arguments : List String) : IO UInt32 :=
  VisualNovel.Terminal.run arguments
