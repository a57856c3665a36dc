import VisualNovel.Text.Printable

namespace VisualNovel.Text

/-- What stands behind the backslash for a character that has an escape of its own. -/
def shortEscape? : Char → Option Char
  | '\x00' => some '0'
  | '\t' => some 't'
  | '\n' => some 'n'
  | '\r' => some 'r'
  | '"' => some '"'
  | '\'' => some '\''
  | '\\' => some '\\'
  | _ => none

/-- A short escape where there is one, the code point in braces for a character that cannot be seen
by itself, and otherwise the character. -/
def escape (c : Char) : List Char :=
  match shortEscape? c with
  | some mark => ['\\', mark]
  | none =>
      if isPrintable c then [c]
      else '\\' :: 'u' :: '{' :: (Nat.toDigits 16 c.toNat ++ ['}'])

def quote (text : String) : List Char :=
  '"' :: (text.toList.flatMap escape ++ ['"'])

end VisualNovel.Text
