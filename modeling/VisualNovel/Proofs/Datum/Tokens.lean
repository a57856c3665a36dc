import VisualNovel.Datum.Printer
import VisualNovel.Datum.Reader
import VisualNovel.Proofs.Integer

namespace VisualNovel.Scan

/-- What may stand behind a printed value. -/
def Follows (rest : List Char) : Prop :=
  ∀ c ∈ rest.head?, c = ',' ∨ c = ')'

theorem follows_nil : Follows [] := nofun

theorem follows_comma (rest : List Char) : Follows (',' :: rest) := by
  simp [Follows]

theorem follows_close (rest : List Char) : Follows (')' :: rest) := by
  simp [Follows]

theorem Follows.head?_eq_false {rest : List Char} (h : Follows rest) {p : Char → Bool}
    (hcomma : p ',' = false) (hclose : p ')' = false) : ∀ c ∈ rest.head?, p c = false := by
  intro c hc
  rcases h c hc with rfl | rfl
  · exact hcomma
  · exact hclose

section Run

variable {p : Char → Bool} {run rest : List Char}

theorem takeWhile_append (hrun : ∀ c ∈ run, p c = true) (hrest : ∀ c ∈ rest.head?, p c = false) :
    (run ++ rest).takeWhile p = run := by
  rw [List.takeWhile_append_of_pos hrun]
  cases rest with
  | nil => simp
  | cons c rest => simp [hrest c rfl]

theorem dropWhile_append (hrun : ∀ c ∈ run, p c = true) (hrest : ∀ c ∈ rest.head?, p c = false) :
    (run ++ rest).dropWhile p = rest := by
  rw [List.dropWhile_append_of_pos hrun]
  cases rest with
  | nil => rfl
  | cons c rest => simp [hrest c rfl]

end Run

/-- A character that no gap starts with. -/
def isSolid (c : Char) : Bool :=
  !isSpace c && c != '/'

@[simp] theorem gap_nil : gap [] = some [] := by
  simp [gap, skipGap]

theorem gap_solid {c : Char} (hc : isSolid c = true) (cs : List Char) :
    gap (c :: cs) = some (c :: cs) := by
  have hspace : isSpace c = false := by
    simp [isSolid] at hc
    exact hc.1
  have hslash : c ≠ '/' := by
    simp [isSolid] at hc
    exact hc.2
  simp [gap, skipGap, hspace, hslash]

theorem skipGap_stops {state : GapState} {cs rest : List Char}
    (h : skipGap state cs = some rest) : gap rest = some rest := by
  fun_induction skipGap state cs with
  | case1 | case7 =>
      cases h
      exact gap_nil
  | case5 | case10 => cases h
  | case6 c cs _ _ hspace hslash =>
      cases h
      exact gap_solid (by simp [isSolid, hspace, hslash]) cs
  | case2 | case3 | case4 | case8 | case9 | case11 | case12 | case13 | case14 =>
      rename_i ih
      exact ih h

@[simp] theorem gap_space (cs : List Char) : gap (' ' :: cs) = gap cs := by
  simp [gap, skipGap, isSpace]

@[simp] theorem gap_lineBreak (level : Nat) (cs : List Char) :
    gap (Datum.lineBreak level ++ cs) = gap cs := by
  have hspaces : ∀ n, gap (List.replicate n ' ' ++ cs) = gap cs := by
    intro n
    induction n with
    | zero => rfl
    | succ n ih => rw [List.replicate_succ, List.cons_append, gap_space, ih]
  rw [← hspaces (4 * level)]
  simp [Datum.lineBreak, Datum.indent, gap, skipGap, isSpace]

theorem comma_comma {cs rest : List Char} (hgap : gap cs = some rest) :
    comma (',' :: cs) = some (true, rest) := by
  rw [comma, gap_solid (by decide)]
  simp [hgap]

theorem comma_close (cs : List Char) : comma (')' :: cs) = some (false, ')' :: cs) := by
  rw [comma, gap_solid (by decide)]
  rfl

theorem keyword_append (word : String) {rest : List Char}
    (hrest : ∀ c ∈ rest.head?, isNameChar c = false) :
    keyword word (word.toList ++ rest) = some rest := by
  have hdrop : (word.toList ++ rest).drop word.length = rest := by
    rw [← String.length_toList, List.drop_left]
  have hhead : rest.head?.any isNameChar = false := by
    cases rest with
    | nil => rfl
    | cons c rest => simpa using hrest
  rw [keyword, if_pos (by simp), hdrop]
  simp [hhead]

theorem keyword_some_eq_none {c : Char} (hc : c ≠ 'S') (cs : List Char) :
    keyword "Some" (c :: cs) = none := by
  simp [keyword, Ne.symm hc]

theorem joined_eq_none {c : Char} (hc : c ≠ 'S') (cs : List Char) : joined (c :: cs) = none := by
  rw [joined.eq_def]
  split
  · rename_i heq
    cases heq
    exact absurd rfl hc
  · rfl

theorem isNameStart_of_isDigit {c : Char} (hc : c.isDigit = true) : isNameStart c = false := by
  have hle : c.val ≤ '9'.val := by
    simp only [Char.isDigit, Bool.and_eq_true, decide_eq_true_eq] at hc
    exact hc.2
  have hunderscore : (c == '_') = false := beq_false_of_ne (Integer.ne_of_isDigit hc (by decide))
  have hupper : c.isUpper = false :=
    decide_eq_false fun h => absurd (UInt32.le_trans h.1 hle) (by decide)
  have hlower : c.isLower = false :=
    Bool.and_eq_false_imp.mpr fun h =>
      absurd (UInt32.le_trans (of_decide_eq_true h) hle) (by decide)
  change ((c.isUpper || c.isLower) || c == '_') = false
  rw [hupper, hlower, hunderscore]
  rfl

theorem name_eq_none {c : Char} (hc : isNameStart c = false) (cs : List Char) :
    name (c :: cs) = none := by
  rw [name.eq_def]
  split
  · rfl
  · rename_i heq
    cases heq
    cases hc
  · simp [hc]

theorem constant_eq_none {c : Char} (hc : c ∉ ['t', 'f', 'N', 'i', '+', '-']) (cs : List Char) :
    constant (c :: cs) = none := by
  simp at hc
  simp [constant, constants, keyword, hc, Ne.symm]

theorem constant_truth (value : Bool) {rest : List Char} (hrest : Follows rest) :
    constant ((if value then "true".toList else "false".toList) ++ rest) =
      some (.truth value, rest) := by
  have hend := hrest.head?_eq_false (p := isNameChar) (by decide) (by decide)
  cases value with
  | true =>
      simp only [constant, constants, ↓reduceIte, List.findSome?_cons,
        keyword_append "true" hend, Option.map_some]
  | false =>
      have htrue : keyword "true" ("false".toList ++ rest) = none := by
        simp [keyword]
      simp only [constant, constants, Bool.false_eq_true, ↓reduceIte, List.findSome?_cons, htrue,
        keyword_append "false" hend, Option.map_none, Option.map_some]

theorem constant_absent {rest : List Char} (hrest : Follows rest) :
    constant ("None".toList ++ rest) = some (.absent, rest) := by
  have hend := hrest.head?_eq_false (p := isNameChar) (by decide) (by decide)
  have htrue : keyword "true" ("None".toList ++ rest) = none := by
    simp [keyword]
  have hfalse : keyword "false" ("None".toList ++ rest) = none := by
    simp [keyword]
  simp only [constant, constants, List.findSome?_cons, htrue, hfalse,
    keyword_append "None" hend, Option.map_none, Option.map_some]

/-- A field's name that is written as it is. -/
def isFieldName (key : String) : Bool :=
  key.toList.head?.any isNameStart && key.toList.all isNameChar

theorem name_append {key : String} (hkey : isFieldName key = true) (cs : List Char) :
    name (key.toList ++ ':' :: cs) = some (key, ':' :: cs) := by
  simp only [isFieldName, Bool.and_eq_true, List.all_eq_true] at hkey
  obtain ⟨hhead, hchars⟩ := hkey
  have hrest : ∀ c ∈ (':' :: cs).head?, isNameChar c = false := by
    simp [isNameChar]
  have hstart : (key.toList ++ ':' :: cs).head?.any isNameStart = true := by
    cases hkey : key.toList with
    | nil => simp [hkey] at hhead
    | cons c rest => simpa [hkey] using hhead
  -- A name behind `r` would go on with a quote or a hash.
  have hraw : ∀ c d tail, key.toList ++ ':' :: cs = c :: d :: tail → d ≠ '"' ∧ d ≠ '#' := by
    intro c d tail heq
    rcases hlist : key.toList with _ | ⟨first, _ | ⟨second, more⟩⟩
    · simp [hlist] at hhead
    · simp only [hlist, List.cons_append, List.nil_append, List.cons.injEq] at heq
      rw [← heq.2.1]
      decide
    · simp only [hlist, List.cons_append, List.cons.injEq] at heq
      have hd : isNameChar d = true := hchars d (by simp [hlist, heq.2.1])
      constructor
      · rintro rfl
        revert hd
        decide
      · rintro rfl
        revert hd
        decide
  rw [name.eq_def]
  split
  · rename_i tail heq
    exact absurd rfl (hraw 'r' '"' tail heq).1
  · rename_i tail heq
    exact absurd rfl (hraw 'r' '#' tail heq).2
  · rw [if_pos hstart, takeWhile_append hchars hrest, dropWhile_append hchars hrest,
      String.ofList_toList]

theorem unsigned_of_isDigit {c : Char} (hc : c.isDigit = true) (cs : List Char) :
    integerNumber.unsigned (c :: cs) = c :: cs := by
  rw [integerNumber.unsigned.eq_def]
  split
  · rename_i heq
    cases heq
    cases hc
  · rename_i heq
    cases heq
    cases hc
  · rfl

theorem number_toDigits {n : Nat} (hn : n < UInt64.size) {rest : List Char} (hrest : Follows rest) :
    number (Nat.toDigits 10 n ++ rest) = some (Numeral.write n, rest) := by
  have hinteger : ∀ c ∈ Nat.toDigits 10 n, isIntegerChar c = true := by
    intro c hc
    have hdigit := Integer.isDigit_of_mem_toDigits hc
    simp [isIntegerChar, hexDigit?, Integer.isSome_digit?_of_isDigit hdigit]
  have hdecimal : ∀ c ∈ Nat.toDigits 10 n, isDecimalChar c = true := by
    intro c hc
    simp [isDecimalChar, Integer.isDigit_of_mem_toDigits hc]
  have htakeInteger := takeWhile_append hinteger (hrest.head?_eq_false (by decide) (by decide))
  have htakeDecimal := takeWhile_append hdecimal (hrest.head?_eq_false (by decide) (by decide))
  have hunsigned : integerNumber.unsigned (Nat.toDigits 10 n ++ rest) =
      Nat.toDigits 10 n ++ rest := by
    obtain ⟨c, digits, hdigits, hc⟩ := Integer.toDigits_eq_cons n
    rw [hdigits]
    exact unsigned_of_isDigit hc _
  have hbase : Integer.base (Nat.toDigits 10 n ++ rest) = (10, Nat.toDigits 10 n ++ rest) := by
    refine Integer.base_toDigits_append n fun c hc => ?_
    rcases hrest c hc with rfl | rfl <;> decide
  simp only [number, hunsigned, htakeInteger, htakeDecimal, Nat.lt_irrefl, ↓reduceIte,
    integerNumber, hbase, Nat.sub_self, Nat.zero_add, List.take_left, List.drop_left,
    Integer.readChars_toDigits hn]
  rfl

end VisualNovel.Scan
