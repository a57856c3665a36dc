import VisualNovel.Numeral

namespace VisualNovel.Decimal

/-- The exponent part of a numeral, nothing at all standing for zero. -/
def exponent : List Char → Option Int
  | [] => some 0
  | mark :: rest =>
      if mark = 'e' ∨ mark = 'E' then
        match rest with
        | '+' :: digits => magnitude digits
        | '-' :: digits => (magnitude digits).map (- ·)
        | digits => magnitude digits
      else none
where
  magnitude (digits : List Char) : Option Int :=
    if digits ≠ [] ∧ digits.all Char.isDigit then some (Numeral.ofDigits digits) else none

/-- The float nearest to `mantissa · 10 ^ power`, where `mantissa` has at most `width` digits.

Powers that leave the range of floats whatever the digits are decided without computing them. -/
def scale (mantissa width : Nat) (power : Int) : Float :=
  if mantissa = 0 then 0
  else if 400 < power then Float.ofScientific 1 false 400
  else if power < -(width + 400 : Int) then 0
  else if power < 0 then Float.ofScientific mantissa true power.natAbs
  else Float.ofScientific mantissa false power.natAbs

/-- Digits with an optional point and exponent; one digit at least stands beside the point. -/
def readUnsigned (cs : List Char) : Option Float :=
  let whole := cs.takeWhile Char.isDigit
  let (fraction, rest) := match cs.dropWhile Char.isDigit with
    | '.' :: rest => (rest.takeWhile Char.isDigit, rest.dropWhile Char.isDigit)
    | rest => ([], rest)
  if whole = [] ∧ fraction = [] then none
  else
    let digits := whole ++ fraction
    (exponent rest).map fun power =>
      scale (Numeral.ofDigits digits) digits.length (power - fraction.length)

def infinity : Float := Float.ofBits 0x7FF0000000000000

def notANumber : Float := Float.ofBits 0x7FF8000000000000

/-- The words for the values that have no digits, in any letter case. -/
def readWord (cs : List Char) : Option Float :=
  let word := cs.map Char.toLower
  if word = "inf".toList ∨ word = "infinity".toList then some infinity
  else if word = "nan".toList then some notANumber
  else none

def readMagnitude (cs : List Char) : Option Float :=
  (readUnsigned cs).or (readWord cs)

def readChars : List Char → Option Float
  | '-' :: rest => (readMagnitude rest).map (- ·)
  | '+' :: rest => readMagnitude rest
  | cs => readMagnitude cs

/-- The float nearest to the number that the text writes. -/
def read (text : String) : Option Float :=
  readChars text.toList

def isNegative (x : Float) : Bool :=
  x.toBits >>> 63 == 1

/-- The magnitude of a finite float as a fraction of natural numbers. -/
def fraction (x : Float) : Nat × Nat :=
  let bits := x.toBits.toNat
  let power := (bits >>> 52) % 2048
  let significand := bits % (1 <<< 52) + if power = 0 then 0 else 1 <<< 52
  let power := max power 1
  if 1075 ≤ power then (significand <<< (power - 1075), 1)
  else (significand, 1 <<< (1075 - power))

/-- The nearest integer of a finite float, a half going away from zero. -/
def round (x : Float) : Int :=
  let (num, den) := fraction x
  let magnitude := (2 * num + den) / (2 * den)
  if isNegative x then -magnitude else magnitude

/-- The nearest natural number of `num / den`, a half going to the even one. -/
def roundEven (num den : Nat) : Nat :=
  let quotient := num / den
  let doubled := 2 * (num % den)
  if doubled < den ∨ (doubled = den ∧ quotient % 2 = 0) then quotient else quotient + 1

/-- The float with `places` decimal places, rounded from its exact value, a half to even. -/
def writeFixed (places : Nat) (x : Float) : String :=
  if x.isNaN then "NaN"
  else
    let sign := if isNegative x then "-" else ""
    if x.isInf then sign ++ "inf"
    else
      let (num, den) := fraction x
      let one := Nat.pow 10 places
      let units := roundEven (num * one) den
      let tail := Nat.toDigits 10 (units % one)
      sign ++ Numeral.write (units / one) ++ "." ++
        String.ofList (List.replicate (places - tail.length) '0' ++ tail)

end VisualNovel.Decimal
