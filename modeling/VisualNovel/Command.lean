import VisualNovel.Decimal

/-!
Director commands: what a line of a script says to the stage instead of to the player.

A command is written as fields behind underscores and opens with one of seven keywords. A field
that is missing or is not a finite number takes its default; only a missing name and a background
move with too few fields make a command that cannot be executed.
-/

namespace VisualNovel

inductive Keyword
  | characterNew
  | characterHide
  | move
  | backgroundShow
  | backgroundMove
  | scrollStart
  | scrollStop
deriving DecidableEq, Repr

/-- The text that a command opens with. -/
def Keyword.text : Keyword → String
  | .characterNew => "_CHARA_NEW_"
  | .characterHide => "_CHARA_HIDE_"
  | .move => "_MOVE_"
  | .backgroundShow => "_BG_SHOW_"
  | .backgroundMove => "_BG_MOVE_"
  | .scrollStart => "_SCROLL_START"
  | .scrollStop => "_SCROLL_STOP"

inductive Command
  | showCharacter (name : String) (x y : Float)
  | hideCharacter (name : String)
  | moveCharacter (name : String) (x y : Float) (duration : Int64) (zoom : Float)
  | showBackground (name : String) (x y : Float) (zoom : Float)
  | moveBackground (dx dy : Float) (duration : Int64) (zoom : Float)
  | startScroll
  | stopScroll
deriving DecidableEq, Repr

/-- Why a command cannot be executed. -/
inductive CommandError
  | missingName (keyword : Keyword)
  | tooFewFields (keyword : Keyword) (needed got : Nat)
deriving DecidableEq, Repr

def CommandError.message : CommandError → String
  | .missingName keyword => keyword.text ++ " is missing its target name"
  | .tooFewFields keyword needed got =>
      keyword.text ++ " needs at least " ++ Numeral.write needed ++ " fields, got " ++
        Numeral.write got

namespace Command

def keyword : Command → Keyword
  | .showCharacter .. => .characterNew
  | .hideCharacter .. => .characterHide
  | .moveCharacter .. => .move
  | .showBackground .. => .backgroundShow
  | .moveBackground .. => .backgroundMove
  | .startScroll => .scrollStart
  | .stopScroll => .scrollStop

/-- Both coordinates of a place that is missing or malformed. -/
def defaultCoordinate : Float := 0.5

/-- Milliseconds. -/
def defaultDuration : Int64 := 600

def defaultZoom : Float := 1

/-- A background move counts the empty field before its first underscore. -/
def backgroundMoveFields : Nat := 6

def name? (fields : List String) (index : Nat) : Option String :=
  (fields[index]?.map Text.trim).filter (· ≠ "")

def number? (fields : List String) (index : Nat) : Option Float :=
  (fields[index]?.bind fun field => Decimal.read (Text.trim field)).filter Float.isFinite

/-- One malformed coordinate discards the other. -/
def place (fields : List String) (index : Nat) : Float × Float :=
  match number? fields index, number? fields (index + 1) with
  | some x, some y => (x, y)
  | _, _ => (defaultCoordinate, defaultCoordinate)

def duration (fields : List String) (index : Nat) : Int64 :=
  match number? fields index with
  | some ms => Int64.ofIntClamp (Decimal.round ms)
  | none => defaultDuration

def zoom (fields : List String) (index : Nat) : Float :=
  (number? fields index).getD defaultZoom

/-- What the fields say behind a keyword that takes arguments. -/
def ofFields (keyword : Keyword) (fields : List String) (speaker : String) :
    Except CommandError Command :=
  match keyword with
  | .characterNew =>
      match name? fields 3 with
      | some name => .ok (.showCharacter name (place fields 4).1 (place fields 4).2)
      | none => .error (.missingName keyword)
  | .characterHide =>
      match name? fields 3 with
      | some name => .ok (.hideCharacter name)
      | none => .error (.missingName keyword)
  | .move =>
      let name := Text.trim speaker
      if name = "" then .error (.missingName keyword)
      else .ok (.moveCharacter name (place fields 2).1 (place fields 2).2
        (duration fields 4) (zoom fields 5))
  | .backgroundShow =>
      match name? fields 3 with
      | some name => .ok (.showBackground name (place fields 4).1 (place fields 4).2
          (zoom fields 6))
      | none => .error (.missingName keyword)
  | .backgroundMove =>
      if fields.length < backgroundMoveFields then
        .error (.tooFewFields keyword backgroundMoveFields fields.length)
      else .ok (.moveBackground ((number? fields 3).getD 0) ((number? fields 4).getD 0)
        (duration fields 5) (zoom fields 6))
  | .scrollStart => .ok .startScroll
  | .scrollStop => .ok .stopScroll

/-- The keywords that are followed by fields. -/
def fieldKeywords : List Keyword :=
  [.characterNew, .characterHide, .move, .backgroundShow, .backgroundMove]

/-- Nothing for plain dialogue; otherwise the command, or why the line cannot be executed. The two
scroll commands take no fields and are matched as a whole. -/
def read (text speaker : String) : Option (Except CommandError Command) :=
  if text = Keyword.scrollStart.text then some (.ok .startScroll)
  else if text = Keyword.scrollStop.text then some (.ok .stopScroll)
  else (fieldKeywords.find? fun keyword => Text.startsWith text keyword.text).map fun keyword =>
    ofFields keyword (Text.fields '_' text) speaker

end Command

end VisualNovel
