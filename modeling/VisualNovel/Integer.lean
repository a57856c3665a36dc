namespace VisualNovel.Integer

def base : List Char → Nat × List Char
  | '0' :: 'x' :: digits => (16, digits)
  | '0' :: 'b' :: digits => (2, digits)
  | '0' :: 'o' :: digits => (8, digits)
  | digits => (10, digits)

def digit? (base : Nat) (c : Char) : Option Nat :=
  let value :=
    if c.isDigit then c.toNat - '0'.toNat
    else if 'a' ≤ c ∧ c ≤ 'f' then c.toNat - 'a'.toNat + 10
    else if 'A' ≤ c ∧ c ≤ 'F' then c.toNat - 'A'.toNat + 10
    else base
  if value < base then some value else none

/-- Digits with underscores anywhere but in front. -/
def magnitude (base : Nat) (digits : List Char) : Option Nat :=
  if digits = [] ∨ digits.head? = some '_' then none
  else digits.foldlM (fun n c => if c = '_' then some n else (digit? base c).map (base * n + ·)) 0

/-- The integer that the characters write, if it fits into 64 bits: signed ones when it has a sign,
unsigned ones when it has none. -/
def readChars (cs : List Char) : Option Int :=
  match cs with
  | '-' :: rest => ((unsigned rest).filter (· ≤ UInt64.size / 2)).map fun n => -(n : Int)
  | '+' :: rest => ((unsigned rest).filter (· < UInt64.size / 2)).map Int.ofNat
  | _ => ((unsigned cs).filter (· < UInt64.size)).map Int.ofNat
where
  unsigned (cs : List Char) : Option Nat :=
    magnitude (base cs).1 (base cs).2

def read (written : String) : Option Int :=
  readChars written.toList

end VisualNovel.Integer
