import VisualNovel.Datum.Scanner

namespace VisualNovel

/-- A JSON value. A text is missing when it holds half of a surrogate pair. -/
inductive Json
  | null
  | truth (value : Bool)
  /-- A number as it is written. -/
  | number (written : List Char)
  | text (value : Option String)
  | array (items : List Json)
  | object (fields : List (Option String × Json))
deriving Repr, Inhabited

namespace Json

def skipSpace (cs : List Char) : List Char :=
  cs.dropWhile Scan.isSpace

def digits : Scan (List Char) := fun cs =>
  if cs.head?.any Char.isDigit then some (cs.takeWhile Char.isDigit, cs.dropWhile Char.isDigit)
  else none

/-- The digits before the point: a zero stands alone. -/
def wholeDigits : Scan (List Char)
  | '0' :: cs => some (['0'], cs)
  | cs => digits cs

def fractionPart : Scan (List Char)
  | '.' :: cs => (digits cs).map fun (ds, cs) => ('.' :: ds, cs)
  | cs => some ([], cs)

def exponentPart : Scan (List Char)
  | c :: cs =>
      if c = 'e' ∨ c = 'E' then
        match cs with
        | '+' :: cs => (digits cs).map fun (ds, cs) => (c :: '+' :: ds, cs)
        | '-' :: cs => (digits cs).map fun (ds, cs) => (c :: '-' :: ds, cs)
        | cs => (digits cs).map fun (ds, cs) => (c :: ds, cs)
      else some ([], c :: cs)
  | [] => some ([], [])

def magnitude : Scan (List Char) := fun cs => do
  let (whole, cs) ← wholeDigits cs
  let (fraction, cs) ← fractionPart cs
  let (exponent, cs) ← exponentPart cs
  return (whole ++ fraction ++ exponent, cs)

def numberToken : Scan (List Char)
  | '-' :: cs => (magnitude cs).map fun (written, cs) => ('-' :: written, cs)
  | cs => magnitude cs

/-- What stands in a text: a character, or a code unit written with four digits. -/
inductive Unit16
  | char (value : Char)
  | unit (code : Nat)

def escaped? : Char → Option Char
  | '"' => some '"'
  | '\\' => some '\\'
  | '/' => some '/'
  | 'b' => some '\x08'
  | 'f' => some '\x0c'
  | 'n' => some '\n'
  | 'r' => some '\r'
  | 't' => some '\t'
  | _ => none

/-- The contents of a text up to its closing quote. Control characters have to be escaped. -/
def contents : Scan (List Unit16)
  | [] => none
  | '"' :: cs => some ([], cs)
  | '\\' :: 'u' :: a :: b :: c :: d :: cs => do
      let code ← [a, b, c, d].foldlM (fun n x => (Scan.hexDigit? x).map (16 * n + ·)) 0
      let (rest, cs) ← contents cs
      return (.unit code :: rest, cs)
  | '\\' :: c :: cs => do
      let (rest, cs) ← contents cs
      return (.char (← escaped? c) :: rest, cs)
  | c :: cs =>
      if c.toNat < 0x20 then none
      else do
        let (rest, cs) ← contents cs
        return (.char c :: rest, cs)

def isHigh (code : Nat) : Bool :=
  0xD800 ≤ code && code < 0xDC00

def isLow (code : Nat) : Bool :=
  0xDC00 ≤ code && code < 0xE000

/-- Joins surrogate pairs; half of a pair alone makes no text. -/
def joinUnits : List Unit16 → Option (List Char)
  | [] => some []
  | .char c :: rest => (joinUnits rest).map (c :: ·)
  | .unit high :: .unit low :: rest =>
      if isHigh high && isLow low then
        (joinUnits rest).map
          (Char.ofNat (0x10000 + 0x400 * (high - 0xD800) + (low - 0xDC00)) :: ·)
      else if isHigh high || isLow high then none
      else (joinUnits (.unit low :: rest)).map (Char.ofNat high :: ·)
  | .unit code :: rest =>
      if isHigh code || isLow code then none
      else (joinUnits rest).map (Char.ofNat code :: ·)

def textToken : Scan (Option String)
  | '"' :: cs => do
      let (units, cs) ← contents cs
      return ((joinUnits units).map String.ofList, cs)
  | _ => none

/-- Elements with a comma between any two, up to the closing character. -/
def elementsUpTo (close : Char) (element : Scan α) : (fuel : Nat) → Scan (List α)
  | 0, _ => none
  | fuel + 1, cs => do
      let (first, cs) ← element cs
      match skipSpace cs with
      | ',' :: cs =>
          let (rest, cs) ← elementsUpTo close element fuel cs
          return (first :: rest, cs)
      | cs => return ([first], ← Scan.symbol close cs)

def elements (close : Char) (element : Scan α) : Scan (List α) := fun cs =>
  match Scan.symbol close (skipSpace cs) with
  | some cs => some ([], cs)
  | none => elementsUpTo close element cs.length cs

def field (value : Scan Json) : Scan (Option String × Json) := fun cs => do
  let (key, cs) ← textToken (skipSpace cs)
  let cs ← Scan.symbol ':' (skipSpace cs)
  let (content, cs) ← value cs
  return ((key, content), cs)

def valueWith (value : Scan Json) : Scan Json := fun cs =>
  match skipSpace cs with
  | 'n' :: 'u' :: 'l' :: 'l' :: cs => some (.null, cs)
  | 't' :: 'r' :: 'u' :: 'e' :: cs => some (.truth true, cs)
  | 'f' :: 'a' :: 'l' :: 's' :: 'e' :: cs => some (.truth false, cs)
  | '[' :: cs => (elements ']' value cs).map fun (items, cs) => (.array items, cs)
  | '{' :: cs => (elements '}' (field value) cs).map fun (fields, cs) => (.object fields, cs)
  | '"' :: cs => (textToken ('"' :: cs)).map fun (content, cs) => (.text content, cs)
  | cs => (numberToken cs).map fun (written, cs) => (.number written, cs)

/-- A value that holds others to the given depth at most. -/
def value : (depth : Nat) → Scan Json
  | 0 => fun _ => none
  | depth + 1 => valueWith (value depth)

/-- One value with nothing but space around it. -/
def read (text : String) : Option Json := do
  let cs := text.toList
  let (root, rest) ← value (cs.length + 1) cs
  if skipSpace rest = [] then return root else none

end Json

end VisualNovel
