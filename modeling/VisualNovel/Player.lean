import VisualNovel.Cast.Source
import VisualNovel.Config.Source
import VisualNovel.Console
import VisualNovel.Folder
import VisualNovel.Performance
import VisualNovel.Script.Source
import VisualNovel.Text.Lowercase

/-!
The script player: steps through the performance of a script on the terminal, one command a line.
-/

namespace VisualNovel

structure Player where
  performance : Performance
  /-- The clock that ticks are counted on, in milliseconds. -/
  clock : UInt64

namespace Player

/-- The length of a frame in milliseconds. -/
def frame : UInt64 := 16

structure Options where
  script : Option String := none
  cast : Option String := none
  config : Option String := none
  names : NameBook := .empty

/-- Why the arguments are refused. -/
inductive ArgumentError
  | unknown (argument : String)
  | name (text : String)
  | missing
deriving DecidableEq, Repr

def usage : String :=
  unlines
    ["Script player — step through a dialogue script in the terminal.",
      "",
      "Usage: script_player --script <path> [--cast <path>] [--config <path>] [--name <id>=<name>]",
      "",
      "  --script <path>    RON list of dialogue lines",
      "  --cast <path>      RON cast manifest (characters and backgrounds)",
      "  --config <path>    RON stage config (default: 1280x720)",
      "  --name <id>=<name> Player-visible name for an identity (repeatable)",
      "",
      "Set RUST_LOG=debug to trace every director command."]

def help : List String :=
  ["Commands:",
    "  (enter) / next   Advance to the next dialogue line",
    "  tick <ms>        Advance the stage clock (default 16ms)",
    "  settle           Tick until every tween has finished",
    "  stage            Print character and background transforms",
    "  scroll           Print the visible scroll blocks",
    "  backlog          Print backlog entries",
    "  help             Show this help",
    "  quit             Exit"]

def ArgumentError.outcome : ArgumentError → Outcome
  | .unknown argument => .failure usage ["Unknown argument: " ++ argument]
  | .name text => .failure "" ["--name expects <id>=<name>, got " ++ text]
  | .missing => .failure usage ["--script is required"]

/-- The identity and the name around the first equals sign. -/
def readName (text : String) : Option (String × String) :=
  let cs := text.toList
  match cs.dropWhile (· != '=') with
  | [] => none
  | _ :: name => some (String.ofList (cs.takeWhile (· != '=')), String.ofList name)

/-- Takes the arguments in order; a later one replaces an earlier one of its kind. -/
def readOptions : List String → Options → Except ArgumentError Options
  | [], options => .ok options
  | "--script" :: path :: rest, options => readOptions rest { options with script := some path }
  | "--cast" :: path :: rest, options => readOptions rest { options with cast := some path }
  | "--config" :: path :: rest, options => readOptions rest { options with config := some path }
  | "--name" :: text :: rest, options =>
      match readName text with
      | some (id, name) => readOptions rest { options with names := options.names.set id name }
      | none => .error (.name text)
  | argument :: _, _ => .error (.unknown argument)

def load (folder : Folder) (what path : String) (ofText? : String → Option α) :
    Except Outcome α :=
  (folder.load ofText? path).mapError fun reason =>
    .failure "" ["Error loading " ++ what ++ " " ++ path ++ ": " ++ reason.message]

/-- A player at the start of its script, or the outcome of a program that gives up. -/
def open? (folder : Folder) (arguments : List String) : Except Outcome Player := do
  if asksForHelp arguments then throw (.success usage [])
  let options ← (readOptions arguments {}).mapError ArgumentError.outcome
  let some scriptPath := options.script | throw ArgumentError.missing.outcome
  let config ←
    match options.config with
    | some path => load folder "config" path Config.ofText?
    | none => pure .standard
  let cast ←
    match options.cast with
    | some path => load folder "cast" path Cast.ofText?
    | none => pure .empty
  let script ← load folder "script" scriptPath Script.ofText?
  return ⟨(Performance.ofConfig config cast options.names).load script, 0⟩

/-- What is printed before the first command. -/
def greeting (player : Player) : String :=
  unlines
    ["Loaded " ++ Numeral.write player.performance.script.size ++ " lines, " ++
        Numeral.write player.performance.cast.size ++ " characters",
      "Type 'help' for commands.", ""]

def prompt : String := "play> "

def writePoint (point : Point) : String :=
  "(" ++ Decimal.writeFixed 1 point.x ++ ", " ++ Decimal.writeFixed 1 point.y ++ ")"

/-- Zoom, and a star while the transform moves. -/
def writeZoom (transform : Transform) : String :=
  "zoom " ++ Decimal.writeFixed 2 transform.zoom ++ (if transform.isTweening then " *" else "")

def scrollLines (performance : Performance) : List String :=
  if performance.scroll.isScrolling then
    performance.scroll.visible.flatMap fun block =>
      (if block.isFirstLine then [block.speaker ++ ":"] else []) ++ ["  " ++ block.text]
  else ["(not scrolling)"]

def expressionLine (expression : Expression) : String :=
  "  (" ++ expression.eye.getD "-" ++ " / " ++ expression.mouth.getD "-" ++ " / " ++
    expression.brow.getD "-" ++ " / " ++ expression.cheek.getD "-" ++ ")"

/-- The text box, or the scroll in scroll mode. -/
def currentLines (performance : Performance) : List String :=
  if performance.scrollMode then scrollLines performance
  else
    match performance.current with
    | none => []
    | some line =>
        (line.displayName ++ ": " ++ line.text) ::
          (performance.expressions[line.speaker]?.map expressionLine).toList

def fillLine (color : Color) : String :=
  "  margin fill rgba(" ++ Numeral.write color.red.toNat ++ ", " ++
    Numeral.write color.green.toNat ++ ", " ++ Numeral.write color.blue.toNat ++ ", " ++
    Numeral.write color.alpha.toNat ++ ")"

def stageLines (stage : Stage) : List String :=
  let background :=
    "background " ++ stage.backgroundName.getD "(none)" ++ ": offset " ++
      writePoint stage.background.position ++ " " ++ writeZoom stage.background
  let characters :=
    stage.activeNames.filterMap fun name =>
      (stage.transform? name).map fun transform =>
        name ++ ": " ++ writePoint transform.position ++ " " ++ writeZoom transform
  background :: (stage.backgroundFill.map fillLine).toList ++
    (if stage.activeNames.isEmpty then ["(no characters on stage)"] else []) ++ characters

def backlogLines (performance : Performance) : List String :=
  if performance.backlog.isEmpty then ["(backlog empty)"]
  else performance.backlog.map fun entry => "[" ++ entry.speaker ++ "] " ++ entry.text

def clockLine (player : Player) : String :=
  "clock: " ++ Numeral.write player.clock.toNat ++ "ms"

def tick (player : Player) (ms : UInt64) : Player :=
  let clock := player.clock + ms
  ⟨player.performance.tick clock, clock⟩

/-- The time at which a tween ends, as an unbounded number. -/
def endOf (transform : Transform) : Nat :=
  match transform.tween with
  | none => 0
  | some tween => tween.startTime.toNat + tween.duration.toNat

/-- The time at which the last tween on stage ends. -/
def lastEnd (stage : Stage) : Nat :=
  stage.actors.foldl (fun latest _ actor => max latest (endOf actor.transform))
    (endOf stage.background)

/-- Ticks frame by frame while anything moves, as many times as `fuel` says at most. -/
def settleFor : (fuel : Nat) → Player → Player
  | 0, player => player
  | fuel + 1, player =>
      if player.performance.stage.isAnimating then settleFor fuel (player.tick frame) else player

/-- Ticks until nothing moves. A tween that ends at or before a tick is over at that tick, so the
frames up to the last end, and one more, are enough. -/
def settle (player : Player) : Player :=
  settleFor
    ((lastEnd player.performance.stage - player.clock.toNat) / frame.toNat + 2) player

/-- What the player answers to a command. -/
inductive Reply
  | goOn (lines : List String) (player : Player)
  | quit (lines : List String)

def next (player : Player) : Except StageError Reply :=
  if player.performance.isFinished then .ok (.goOn ["(end of script)"] player)
  else
    match player.performance.advance with
    | .error reason => .error reason
    | .ok (waits, performance) =>
        let atEnd := if waits then [] else ["(end of script)"]
        .ok (.goOn (currentLines performance ++ atEnd) { player with performance })

/-- Carries out one line of input. Its first word is the command, in any letter case. -/
def respond (player : Player) (input : String) : Except StageError Reply :=
  let words := Text.words input
  match (words.head?.map Text.lowercase).getD "" with
  | "" | "next" | "n" => player.next
  | "tick" =>
      let player := player.tick ((words[1]?.bind Numeral.read64).getD frame)
      .ok (.goOn [player.clockLine] player)
  | "settle" =>
      let player := player.settle
      .ok (.goOn [player.clockLine] player)
  | "stage" => .ok (.goOn (stageLines player.performance.stage) player)
  | "scroll" => .ok (.goOn (scrollLines player.performance) player)
  | "backlog" => .ok (.goOn (backlogLines player.performance) player)
  | "help" | "h" | "?" => .ok (.goOn help player)
  | "quit" | "exit" | "q" => .ok (.quit ["Goodbye."])
  | other => .ok (.goOn ["Unknown command: " ++ other ++ ". Type 'help'."] player)

/-- Everything printed while the lines of input are carried out, ending with a prompt that gets no
answer or with the player leaving. -/
def playLines (player : Player) : List String → Except StageError String
  | [] => .ok prompt
  | input :: inputs =>
      match player.respond input with
      | .error reason => .error reason
      | .ok (.quit lines) => .ok (prompt ++ unlines lines)
      | .ok (.goOn lines player) => do
          return prompt ++ unlines lines ++ (← player.playLines inputs)

/-- The lines of input; a line break at the end begins no further line. -/
def inputLines (input : String) : List String :=
  let lines := Text.fields '\n' input
  if lines.getLast? = some "" then lines.dropLast else lines

/-- Runs the player with its arguments on the files of a folder and on all of its input. -/
def run (folder : Folder) (arguments : List String) (input : String) :
    Except StageError Outcome :=
  match open? folder arguments with
  | .error outcome => .ok outcome
  | .ok player => do
      return .success (player.greeting ++ (← player.playLines (inputLines input))) []

end Player

end VisualNovel
