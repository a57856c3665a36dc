/-!
Text as the game's files and players write it: blanks, trimming, words, fields and columns.

Each operation is stated on lists of characters first, where its laws are proved.
-/

namespace VisualNovel.Text

/-- The characters with the Unicode property White_Space. -/
def isBlank (c : Char) : Bool :=
  let n := c.toNat
  (9 ≤ n && n ≤ 13) || n == 0x20 || n == 0x85 || n == 0xA0 || n == 0x1680 ||
    (0x2000 ≤ n && n ≤ 0x200A) || n == 0x2028 || n == 0x2029 || n == 0x202F ||
    n == 0x205F || n == 0x3000

def dropBlanksEnd (cs : List Char) : List Char :=
  (cs.reverse.dropWhile isBlank).reverse

def trimChars (cs : List Char) : List Char :=
  dropBlanksEnd (cs.dropWhile isBlank)

/-- The text without the blanks at its two ends. -/
def trim (text : String) : String :=
  String.ofList (trimChars text.toList)

/-- The pieces between the separators: always one more than there are separators. -/
def splitChars (isSeparator : Char → Bool) : List Char → List (List Char)
  | [] => [[]]
  | c :: cs =>
      if isSeparator c then [] :: splitChars isSeparator cs
      else (splitChars isSeparator cs).modifyHead (c :: ·)

def fields (separator : Char) (text : String) : List String :=
  (splitChars (· == separator) text.toList).map String.ofList

/-- The non-empty pieces between blanks. -/
def words (text : String) : List String :=
  ((splitChars isBlank text.toList).filter (!·.isEmpty)).map String.ofList

def startsWith (text keyword : String) : Bool :=
  keyword.toList.isPrefixOf text.toList

/-- Fills up with spaces to `width` characters; a longer text stays as it is. -/
def padRight (width : Nat) (text : String) : String :=
  text ++ String.ofList (List.replicate (width - text.length) ' ')

theorem length_splitChars (p : Char → Bool) (cs : List Char) :
    (splitChars p cs).length = cs.countP p + 1 := by
  induction cs with
  | nil => rfl
  | cons c cs ih =>
      by_cases h : p c
      · simp [splitChars, h, ih]
      · simp [splitChars, h, ih]

theorem splitChars_ne_nil (p : Char → Bool) (cs : List Char) : splitChars p cs ≠ [] := by
  have h := length_splitChars p cs
  intro hnil
  simp [hnil] at h

end VisualNovel.Text
