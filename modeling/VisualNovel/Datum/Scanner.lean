import VisualNovel.Decimal
import VisualNovel.Integer

namespace VisualNovel

abbrev Scan (α : Type) := List Char → Option (α × List Char)

namespace Scan

/-- Where a scanner stands among blanks and comments. -/
inductive GapState
  | outside
  | lineComment
  /-- Inside a block comment, with the number of comments around it. -/
  | blockComment (around : Nat)

def isSpace (c : Char) : Bool :=
  c == ' ' || c == '\t' || c == '\n' || c == '\r'

def skipGap : GapState → List Char → Option (List Char)
  | .outside, [] => some []
  | .outside, '/' :: '/' :: cs => skipGap .lineComment cs
  | .outside, '/' :: '*' :: cs => skipGap (.blockComment 0) cs
  | .outside, c :: cs =>
      if isSpace c then skipGap .outside cs
      else if c = '/' then none
      else some (c :: cs)
  | .lineComment, [] => some []
  | .lineComment, c :: cs => if c = '\n' then skipGap .outside cs else skipGap .lineComment cs
  | .blockComment _, [] => none
  | .blockComment around, '/' :: '*' :: cs => skipGap (.blockComment (around + 1)) cs
  | .blockComment 0, '*' :: '/' :: cs => skipGap .outside cs
  | .blockComment (around + 1), '*' :: '/' :: cs => skipGap (.blockComment around) cs
  | .blockComment around, _ :: cs => skipGap (.blockComment around) cs

/-- Skips spaces, line comments and nested block comments. A comment that is not closed and a slash
that opens none are refused. -/
def gap (cs : List Char) : Option (List Char) :=
  skipGap .outside cs

def symbol (c : Char) : List Char → Option (List Char)
  | [] => none
  | d :: cs => if d = c then some cs else none

/-- Skips a comma with the gaps around it, and tells whether there was one. -/
def comma : Scan Bool := fun cs => do
  let cs ← gap cs
  match cs with
  | ',' :: cs => return (true, ← gap cs)
  | _ => return (false, cs)

def isNameStart (c : Char) : Bool :=
  c.isAlpha || c == '_'

def isNameChar (c : Char) : Bool :=
  c.isAlphanum || c == '_'

/-- The characters of a name behind `r#`. -/
def isRawNameChar (c : Char) : Bool :=
  isNameChar c || c == '.' || c == '+' || c == '-'

def name : Scan String
  | 'r' :: '"' :: _ => none
  | 'r' :: '#' :: cs =>
      if (cs.head?.any isRawNameChar) then
        some (String.ofList (cs.takeWhile isRawNameChar), cs.dropWhile isRawNameChar)
      else none
  | cs =>
      if (cs.head?.any isNameStart) then
        some (String.ofList (cs.takeWhile isNameChar), cs.dropWhile isNameChar)
      else none

/-- A given word that does not go on as a longer name. -/
def keyword (word : String) (cs : List Char) : Option (List Char) :=
  if word.toList.isPrefixOf cs then
    let rest := cs.drop word.length
    if (rest.head?.any isNameChar) then none else some rest
  else none

def hexDigit? (c : Char) : Option Nat :=
  Integer.digit? 16 c

def char? (code : Nat) : Option Char :=
  if code.isValidChar then some (Char.ofNat code) else none

/-- What a backslash in front of the character stands for. -/
def escaped? : Char → Option Char
  | '\'' => some '\''
  | '"' => some '"'
  | '\\' => some '\\'
  | 'n' => some '\n'
  | 'r' => some '\r'
  | 't' => some '\t'
  | '0' => some '\x00'
  | _ => none

/-- The characters up to the closing quote. While a code point is being read, `pending` holds its
value so far and the number of its digits, of which there are one to six. -/
def quotedFrom (close : Char) : (pending : Option (Nat × Nat)) → Scan (List Char)
  | _, [] => none
  | some (code, digits), c :: cs =>
      if c = '}' then
        if digits = 0 then none
        else do
          let (body, rest) ← quotedFrom close none cs
          return ((← char? code) :: body, rest)
      else if digits < 6 then do
        let digit ← hexDigit? c
        quotedFrom close (some (16 * code + digit, digits + 1)) cs
      else none
  | none, '\\' :: 'u' :: '{' :: cs => quotedFrom close (some (0, 0)) cs
  | none, '\\' :: 'x' :: high :: low :: cs => do
      let code := 16 * (← hexDigit? high) + (← hexDigit? low)
      let (body, rest) ← quotedFrom close none cs
      return ((← char? code) :: body, rest)
  | none, '\\' :: c :: cs => do
      let (body, rest) ← quotedFrom close none cs
      return ((← escaped? c) :: body, rest)
  | none, c :: cs =>
      if c = close then some ([], cs)
      else do
        let (body, rest) ← quotedFrom close none cs
        return (c :: body, rest)

/-- The characters up to a quote that is followed by as many hashes as opened the text. -/
def rawFrom (hashes : List Char) : Scan (List Char)
  | [] => none
  | c :: cs =>
      if c = '"' ∧ hashes.isPrefixOf cs then some ([], cs.drop hashes.length)
      else do
        let (body, rest) ← rawFrom hashes cs
        return (c :: body, rest)

/-- A text in quotes, with escapes, or behind `r`, without. -/
def quoted : Scan String
  | '"' :: cs => do
      let (body, rest) ← quotedFrom '"' none cs
      return (String.ofList body, rest)
  | 'r' :: cs => do
      let hashes := cs.takeWhile (· == '#')
      let cs ← symbol '"' (cs.dropWhile (· == '#'))
      let (body, rest) ← rawFrom hashes cs
      return (String.ofList body, rest)
  | _ => none

/-- One character between single quotes. -/
def letter : Scan Char
  | '\'' :: cs => do
      let (body, rest) ← quotedFrom '\'' none cs
      match body with
      | [c] => return (c, rest)
      | _ => none
  | _ => none

def isDecimalChar (c : Char) : Bool :=
  c.isDigit || c == 'e' || c == 'E' || c == '.' || c == '+' || c == '-'

def isIntegerChar (c : Char) : Bool :=
  (hexDigit? c).isSome || c == '_'

/-- The longest run of characters of decimal fractions, if it is one. -/
def decimalNumber : Scan String := fun cs =>
  let written := cs.takeWhile isDecimalChar
  if (Decimal.readChars written).isSome then
    some (String.ofList written, cs.dropWhile isDecimalChar)
  else none

/-- A sign, a base and the longest run of digits, if they make an integer. -/
def integerNumber : Scan String := fun cs =>
  let digits := (Integer.base (unsigned cs)).2.takeWhile isIntegerChar
  let length := cs.length - (Integer.base (unsigned cs)).2.length + digits.length
  if (Integer.readChars (cs.take length)).isSome then
    some (String.ofList (cs.take length), cs.drop length)
  else none
where
  unsigned : List Char → List Char
    | '+' :: cs => cs
    | '-' :: cs => cs
    | cs => cs

/-- A number is a decimal fraction when more of its characters are those of decimal fractions than
of integers, or when it is no integer. -/
def number : Scan String := fun cs =>
  let digits := integerNumber.unsigned cs
  if (digits.takeWhile isIntegerChar).length < (digits.takeWhile isDecimalChar).length then
    decimalNumber cs
  else (integerNumber cs).or (decimalNumber cs)

end Scan

end VisualNovel
