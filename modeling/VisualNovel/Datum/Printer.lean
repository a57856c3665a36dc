import VisualNovel.Datum
import VisualNovel.Text.Escape

namespace VisualNovel.Datum

def indent (level : Nat) : List Char :=
  List.replicate (4 * level) ' '

def lineBreak (level : Nat) : List Char :=
  '\n' :: indent level

/-- Elements between brackets, each on a line of its own; without elements the brackets alone. -/
def block (opening close : Char) (level : Nat) (elements : List (List Char)) : List Char :=
  if elements = [] then [opening, close]
  else
    opening :: (elements.flatMap fun element => lineBreak (level + 1) ++ element ++ [',']) ++
      lineBreak level ++ [close]

def nameChars : Option String → List Char
  | none => []
  | some name => name.toList

mutual

def print (level : Nat) : Datum → List Char
  | .text value => Text.quote value
  | .letter value => '\'' :: (Text.escape value ++ ['\''])
  | .truth value => if value then "true".toList else "false".toList
  | .number written => written.toList
  | .unit => ['(', ')']
  | .word name => name.toList
  | .absent => "None".toList
  | .present payload => "Some(".toList ++ print level payload ++ [')']
  | .joined content => "Some(".toList ++ Text.quote content ++ [')']
  | .list items => block '[' ']' level (printItems (level + 1) items)
  | .tuple name items => nameChars name ++ block '(' ')' level (printItems (level + 1) items)
  | .record name fields => nameChars name ++ block '(' ')' level (printFields (level + 1) fields)
  | .table entries => block '{' '}' level (printEntries (level + 1) entries)

def printItems (level : Nat) : List Datum → List (List Char)
  | [] => []
  | item :: items => print level item :: printItems level items

def printFields (level : Nat) : List (String × Datum) → List (List Char)
  | [] => []
  | (key, value) :: fields =>
      (key.toList ++ ": ".toList ++ print level value) :: printFields level fields

def printEntries (level : Nat) : List (Datum × Datum) → List (List Char)
  | [] => []
  | (key, value) :: entries =>
      (print level key ++ ": ".toList ++ print level value) :: printEntries level entries

end

/-- The text of a data file that holds the value. -/
def write (value : Datum) : String :=
  String.ofList (print 0 value)

end VisualNovel.Datum
