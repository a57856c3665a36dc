import VisualNovel.Datum
import VisualNovel.Datum.Scanner

/-!
Reading data files. A value is reached from the root in a limited number of steps: into a list, a
tuple, a record or a table, from there to each of its parts, and from an option to its payload. The
reader recurses on the steps that are left, and on the characters within one level.
-/

namespace VisualNovel

namespace Scan

/-- The number of steps from the root to the innermost value. -/
def stepLimit : Nat := 128

/-- What can be read when no step is left. -/
def nothing : Scan α := fun _ => none

/-- Elements up to the closing character. A comma stands between two of them and may stand behind
the last. The fuel is spent on elements, so the number of characters is enough. -/
def elementsUpTo (close : Char) (element : Scan α) : (fuel : Nat) → Scan (List α)
  | 0, _ => none
  | fuel + 1, cs => do
      let cs ← gap cs
      if cs.head? = some close then return ([], cs.drop 1)
      else
        let (first, cs) ← element cs
        let (more, cs) ← comma cs
        if more then
          let (rest, cs) ← elementsUpTo close element fuel cs
          return (first :: rest, cs)
        else return ([first], ← symbol close cs)

def elements (close : Char) (element : Scan α) : Scan (List α) := fun cs =>
  elementsUpTo close element (cs.length + 1) cs

/-- A field's name, a colon and its value. -/
def field (value : Scan Datum) : Scan (String × Datum) := fun cs => do
  let (key, cs) ← name cs
  let cs ← symbol ':' (← gap cs)
  let (content, cs) ← value (← gap cs)
  return ((key, content), cs)

/-- A key, which is any value, a colon and its value. -/
def entry (value : Scan Datum) : Scan (Datum × Datum) := fun cs => do
  let (key, cs) ← value cs
  let cs ← symbol ':' (← gap cs)
  let (content, cs) ← value (← gap cs)
  return ((key, content), cs)

/-- Whether the characters behind an opening parenthesis start with a field's name and a colon. -/
def startsWithField (cs : List Char) : Bool :=
  ((gap cs).bind name).any fun (_, cs) => ((gap cs).bind (symbol ':')).isSome

/-- What stands behind an opening parenthesis: fields if the first element is one. -/
def group (name : Option String) (part : Scan Datum) : Scan Datum := fun cs =>
  if startsWithField cs then do
    let (fields, cs) ← elements ')' (field part) cs
    return (.record name fields, cs)
  else do
    let (items, cs) ← elements ')' part cs
    return (.tuple name items, cs)

/-- What stands behind `Some`. -/
def payload (implicitSome : Bool) (value : Scan Datum) : Scan Datum := fun cs => do
  let cs ← gap cs
  match cs with
  | '(' :: cs => do
      let (content, cs) ← value (← gap cs)
      let (_, cs) ← comma cs
      return (.present content, ← symbol ')' cs)
  | _ =>
      if implicitSome then do
        let (content, cs) ← value cs
        return (.present content, cs)
      else none

/-- The words that are values of their own. -/
def constants : List (String × Datum) :=
  [("true", .truth true), ("false", .truth false), ("None", .absent), ("inf", .number "inf"),
    ("+inf", .number "+inf"), ("-inf", .number "-inf"), ("NaN", .number "NaN"),
    ("+NaN", .number "+NaN"), ("-NaN", .number "-NaN")]

def constant : Scan Datum := fun cs =>
  constants.findSome? fun (word, value) => (keyword word cs).map fun rest => (value, rest)

/-- `Some` with a raw text right behind it. -/
def joined : Scan Datum
  | 'S' :: 'o' :: 'm' :: 'e' :: 'r' :: cs => do
      let (content, cs) ← quoted ('r' :: cs)
      return (.joined content, cs)
  | _ => none

/-- A value that opens with a name: alone, or the name of a tuple or record. -/
def named (parts : Option (Scan Datum)) : Scan Datum := fun cs => do
  let (name, cs) ← name cs
  let cs ← gap cs
  match cs with
  | '(' :: cs => group (some name) (← parts) cs
  | _ => return (.word name, cs)

/-- A value that opens with a sign of its kind. -/
def signed (parts : Option (Scan Datum)) : Scan Datum
  | '(' :: cs => do group none (← parts) cs
  | '[' :: cs => do
      let (items, cs) ← elements ']' (← parts) cs
      return (.list items, cs)
  | '{' :: cs => do
      let (entries, cs) ← elements '}' (entry (← parts)) cs
      return (.table entries, cs)
  | '\'' :: cs => do
      let (c, cs) ← letter ('\'' :: cs)
      return (.letter c, cs)
  | c :: cs =>
      if c.isDigit ∨ c = '+' ∨ c = '-' then do
        let (written, cs) ← number (c :: cs)
        return (.number written, cs)
      else if c = '.' then do
        let (written, cs) ← decimalNumber (c :: cs)
        return (.number written, cs)
      else do
        let (value, cs) ← quoted (c :: cs)
        return (.text value, cs)
  | [] => none

/-- A value whose payload is read by `inner` and whose parts, if it may have any, by `parts`. -/
def valueWith (implicitSome : Bool) (inner : Scan Datum) (parts : Option (Scan Datum)) :
    Scan Datum := fun cs =>
  match constant cs with
  | some found => some found
  | none =>
      match keyword "Some" cs with
      | some cs => payload implicitSome inner cs
      | none =>
          match if implicitSome then joined cs else none with
          | some found => some found
          | none =>
              match cs with
              | '(' :: ')' :: cs => some (.unit, cs)
              | _ => if (name cs).isSome then named parts cs else signed parts cs

/-- A value that is read in at most the given number of steps. -/
def value (implicitSome : Bool) : (steps : Nat) → Scan Datum
  | 0 => valueWith implicitSome nothing none
  | 1 => valueWith implicitSome (value implicitSome 0) (some nothing)
  | steps + 2 =>
      valueWith implicitSome (value implicitSome (steps + 1)) (some (value implicitSome steps))

/-- Skips the given words with a gap behind each. -/
def phrase : List String → List Char → Option (List Char)
  | [], cs => some cs
  | word :: words, cs =>
      if word.toList.isPrefixOf cs then do phrase words (← gap (cs.drop word.length)) else none

/-- The extensions that a header may ask for. Only the first of them matters here. -/
def extensions : List String :=
  ["implicit_some", "unwrap_newtypes", "unwrap_variant_newtypes"]

def extension : Scan String := fun cs => do
  let (name, cs) ← name cs
  if extensions.contains name then return (name, cs) else none

/-- One line of a header, with the names of at least one extension. -/
def header : Scan (List String) := fun cs => do
  let cs ← phrase ["#", "!", "[", "enable", "("] cs
  if (cs.head?.any isNameStart) then
    let (names, cs) ← elements ')' extension cs
    return (names, ← phrase ["]"] (← gap cs))
  else none

def headersUpTo : (fuel : Nat) → Scan (List String)
  | 0, _ => none
  | fuel + 1, cs => do
      let cs ← gap cs
      if cs.head? = some '#' then
        let (names, cs) ← header cs
        let (rest, cs) ← headersUpTo fuel cs
        return (names ++ rest, cs)
      else return ([], cs)

end Scan

namespace Document

open Scan

/-- Headers, one value, and nothing behind it but a gap. -/
def readChars (cs : List Char) : Option Document := do
  let (names, cs) ← headersUpTo (cs.length + 1) cs
  let implicitSome := names.contains "implicit_some"
  let (root, cs) ← value implicitSome stepLimit cs
  if (← gap cs) = [] then return ⟨implicitSome, root⟩ else none

def read (text : String) : Option Document :=
  readChars text.toList

end Document

end VisualNovel
