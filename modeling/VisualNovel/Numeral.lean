import VisualNovel.Text

namespace VisualNovel.Numeral

def digitValue (c : Char) : Nat :=
  c.toNat - '0'.toNat

/-- The number that a run of decimal digits stands for, leading zeros allowed. -/
def ofDigits (digits : List Char) : Nat :=
  digits.foldl (fun n c => 10 * n + digitValue c) 0

/-- Reads digits behind at most one plus sign. -/
def readChars (cs : List Char) : Option Nat :=
  let digits := match cs with
    | '+' :: rest => rest
    | _ => cs
  if digits ≠ [] ∧ digits.all Char.isDigit then some (ofDigits digits) else none

/-- The number that the text writes, when it lies below `bound`. -/
def readBelow (bound : Nat) (text : String) : Option Nat :=
  (readChars text.toList).filter (· < bound)

def read32 (text : String) : Option UInt32 :=
  (readBelow UInt32.size text).map Nat.toUInt32

def read64 (text : String) : Option UInt64 :=
  (readBelow UInt64.size text).map Nat.toUInt64

def write (n : Nat) : String :=
  String.ofList (Nat.toDigits 10 n)

/-- The numeral with leading zeros up to two digits. -/
def writeTwo (n : Nat) : String :=
  if n < 10 then "0" ++ write n else write n

end VisualNovel.Numeral
