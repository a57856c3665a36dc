import VisualNovel.Proofs.Datum.Blocks
import VisualNovel.Proofs.Text.Escape

namespace VisualNovel

/-- The values that the reader gets back from the printer in the given number of steps. -/
inductive Datum.Readable : (steps : Nat) → Datum → Prop
  | text {steps : Nat} (value : String) : Readable steps (.text value)
  | truth {steps : Nat} (value : Bool) : Readable steps (.truth value)
  | number {steps n : Nat} (hn : n < UInt64.size) : Readable steps (.number (Numeral.write n))
  | absent {steps : Nat} : Readable steps .absent
  | present {steps : Nat} {payload : Datum} (h : Readable steps payload) :
      Readable (steps + 1) (.present payload)
  | list {steps : Nat} {items : List Datum} (h : ∀ item ∈ items, Readable steps item) :
      Readable (steps + 2) (.list items)
  | record {steps : Nat} {fields : List (String × Datum)} (hne : fields ≠ [])
      (hkeys : fields.all (fun field => Scan.isFieldName field.1) = true)
      (hvalues : ∀ field ∈ fields, Readable steps field.2) :
      Readable (steps + 2) (.record none fields)

namespace Scan

open Datum

theorem opens_print {steps : Nat} {datum : Datum} (h : Readable steps datum) (level : Nat) :
    Opens (print level datum) := by
  cases h with
  | text value => exact ⟨'"', _, rfl, by decide⟩
  | truth value =>
      cases value
      · exact ⟨'f', _, rfl, by decide⟩
      · exact ⟨'t', _, rfl, by decide⟩
  | @number _ n hn =>
      obtain ⟨c, digits, hdigits, hc⟩ := Integer.toDigits_eq_cons n
      rw [print_number, hdigits]
      exact ⟨c, digits, rfl, not_mem_reserved_of hc (by decide)⟩
  | absent => exact ⟨'N', _, rfl, by decide⟩
  | present h => exact ⟨'S', _, rfl, by decide⟩
  | list h =>
      rw [print_list, block]
      split
      · exact ⟨'[', _, rfl, by decide⟩
      · exact ⟨'[', _, rfl, by decide⟩
  | record hne hkeys hvalues =>
      rw [print_record, block]
      split
      · exact ⟨'(', _, rfl, by decide⟩
      · exact ⟨'(', _, rfl, by decide⟩

theorem value_eq_valueWith (implicitSome : Bool) (steps : Nat) : ∃ inner parts,
    value implicitSome steps = valueWith implicitSome inner parts := by
  match steps with
  | 0 => exact ⟨_, _, rfl⟩
  | 1 => exact ⟨_, _, rfl⟩
  | _ + 2 => exact ⟨_, _, rfl⟩

theorem value_add_two_eq_valueWith (implicitSome : Bool) (steps : Nat) :
    value implicitSome (steps + 2) = valueWith implicitSome (value implicitSome (steps + 1))
      (some (value implicitSome steps)) := rfl

theorem value_succ_eq_valueWith (implicitSome : Bool) (steps : Nat) : ∃ parts,
    value implicitSome (steps + 1) = valueWith implicitSome (value implicitSome steps) parts := by
  cases steps with
  | zero => exact ⟨_, rfl⟩
  | succ steps => exact ⟨_, rfl⟩

variable {implicitSome : Bool} {inner : Scan Datum} {parts : Option (Scan Datum)}

theorem valueWith_of_constant {cs rest : List Char} {datum : Datum}
    (h : constant cs = some (datum, rest)) :
    valueWith implicitSome inner parts cs = some (datum, rest) := by
  rw [valueWith.eq_def, h]

theorem valueWith_of_some {cs tail : List Char} (hconstant : constant cs = none)
    (hkeyword : keyword "Some" cs = some tail) :
    valueWith implicitSome inner parts cs = payload implicitSome inner tail := by
  rw [valueWith.eq_def, hconstant, hkeyword]

theorem valueWith_signed {c : Char} {cs : List Char} (hstart : isNameStart c = false)
    (hsign : c ≠ '+' ∧ c ≠ '-') (hunit : c = '(' → cs.head? ≠ some ')') :
    valueWith implicitSome inner parts (c :: cs) = signed parts (c :: cs) := by
  have hne : ∀ d, isNameStart d = true → c ≠ d := by
    rintro d hd rfl
    rw [hstart] at hd
    cases hd
  have hconstant : c ∉ ['t', 'f', 'N', 'i', '+', '-'] := by
    simp [hne, hsign, isNameStart]
  have hjoined : (if implicitSome = true then joined (c :: cs) else none) = none := by
    rw [joined_eq_none (hne 'S' (by decide))]
    split <;> rfl
  rw [valueWith.eq_def, constant_eq_none hconstant, keyword_some_eq_none (hne 'S' (by decide)),
    hjoined, name_eq_none hstart]
  simp only [Option.isSome_none, Bool.false_eq_true, ↓reduceIte]
  split
  · rename_i heq
    cases heq
    exact absurd rfl (hunit rfl)
  · rfl

theorem signed_quote (cs : List Char) :
    signed parts ('"' :: cs) = (quoted ('"' :: cs)).map fun (value, cs) => (.text value, cs) := by
  change (quoted ('"' :: cs) >>= fun result => some (Datum.text result.1, result.2)) = _
  cases quoted ('"' :: cs) <;> rfl

theorem signed_bracket (part : Scan Datum) (cs : List Char) :
    signed (some part) ('[' :: cs) =
      (elements ']' part cs).map fun (items, cs) => (.list items, cs) := by
  change (elements ']' part cs >>= fun result => some (Datum.list result.1, result.2)) = _
  cases elements ']' part cs <;> rfl

theorem signed_paren (part : Scan Datum) (cs : List Char) :
    signed (some part) ('(' :: cs) = group none part cs := rfl

theorem signed_digit {c : Char} (hc : c.isDigit = true) (cs : List Char) :
    signed parts (c :: cs) = (number (c :: cs)).map fun (written, cs) => (.number written, cs) := by
  have hne : ∀ d tail, c :: cs = d :: tail → d.isDigit = true := by
    rintro d tail ⟨⟩
    exact hc
  rw [signed.eq_def]
  split
  case h_1 | h_2 | h_3 | h_4 =>
    rename_i heq
    cases hne _ _ heq
  · rename_i heq
    cases heq
    rw [if_pos (.inl hc)]
    cases number (c :: cs) <;> rfl
  · rename_i heq
    cases heq

theorem value_text (steps : Nat) (text : String) (rest : List Char) :
    value implicitSome steps (Text.quote text ++ rest) = some (.text text, rest) := by
  obtain ⟨inner, parts, hvalue⟩ := value_eq_valueWith implicitSome steps
  have hquoted := quoted_quote text rest
  rw [Text.quote, List.cons_append] at hquoted ⊢
  rw [hvalue, valueWith_signed (by decide) (by decide) (fun h => absurd h (by decide)),
    signed_quote, hquoted]
  rfl

theorem value_number (steps : Nat) {n : Nat} (hn : n < UInt64.size) {rest : List Char}
    (hrest : Follows rest) : value implicitSome steps (Nat.toDigits 10 n ++ rest) =
      some (.number (Numeral.write n), rest) := by
  obtain ⟨inner, parts, hvalue⟩ := value_eq_valueWith implicitSome steps
  have hnumber := number_toDigits hn hrest
  obtain ⟨c, digits, hdigits, hc⟩ := Integer.toDigits_eq_cons n
  have hsign : c ≠ '+' ∧ c ≠ '-' :=
    ⟨Integer.ne_of_isDigit hc (by decide), Integer.ne_of_isDigit hc (by decide)⟩
  have hunit : c = '(' → (digits ++ rest).head? ≠ some ')' :=
    fun hopen => absurd hopen (Integer.ne_of_isDigit hc (by decide))
  rw [hdigits, List.cons_append] at hnumber ⊢
  rw [hvalue, valueWith_signed (isNameStart_of_isDigit hc) hsign hunit, signed_digit hc, hnumber]
  rfl

theorem value_present {steps : Nat} {datum : Datum} {printed : List Char}
    (hopens : Opens printed)
    (hpayload : ∀ rest, value implicitSome steps (printed ++ ')' :: rest) =
      some (datum, ')' :: rest)) (rest : List Char) :
    value implicitSome (steps + 1) ("Some(".toList ++ printed ++ [')'] ++ rest) =
      some (.present datum, rest) := by
  obtain ⟨parts, hvalue⟩ := value_succ_eq_valueWith implicitSome steps
  have hchars : "Some(".toList ++ printed ++ [')'] ++ rest =
      "Some".toList ++ '(' :: (printed ++ ')' :: rest) := by
    simp
  have hkeyword : keyword "Some" ("Some".toList ++ '(' :: (printed ++ ')' :: rest)) =
      some ('(' :: (printed ++ ')' :: rest)) := keyword_append "Some" (by simp [isNameChar])
  have hconstant : constant ("Some".toList ++ '(' :: (printed ++ ')' :: rest)) = none :=
    constant_eq_none (by decide) _
  rw [hvalue, hchars, valueWith_of_some hconstant hkeyword, payload, gap_solid (by decide)]
  simp [hopens.gap_eq, hpayload, comma_close, symbol]

theorem value_list {steps level : Nat} {items : List Datum}
    (hopens : ∀ item ∈ items, Opens (print (level + 1) item))
    (hitems : ∀ item ∈ items, ∀ rest, value implicitSome steps
      (print (level + 1) item ++ ',' :: rest) = some (item, ',' :: rest)) (rest : List Char) :
    value implicitSome (steps + 2) (print level (.list items) ++ rest) =
      some (.list items, rest) := by
  rw [value_add_two_eq_valueWith, print_list]
  by_cases hempty : items = []
  · subst hempty
    change valueWith implicitSome _ _ ('[' :: ']' :: rest) = _
    rw [valueWith_signed (by decide) (by decide) (fun h => absurd h (by decide)), signed_bracket,
      elements_close _ (.inr rfl)]
    rfl
  · rw [block_append '[' ']' level (by simpa using hempty),
      valueWith_signed (by decide) (by decide) (fun h => absurd h (by decide)), signed_bracket,
      elements_blockEnd (.inr rfl) level hopens hitems]
    rfl

theorem field_printField {steps level : Nat} {part : String × Datum}
    (hkey : isFieldName part.1 = true) (hopens : Opens (print level part.2))
    {rest : List Char} (hvalue : value implicitSome steps (print level part.2 ++ rest) =
      some (part.2, rest)) :
    field (value implicitSome steps) (printField level part ++ rest) = some (part, rest) := by
  have hchars : printField level part ++ rest =
      part.1.toList ++ ':' :: (' ' :: (print level part.2 ++ rest)) := by
    simp [printField]
  rw [field, hchars, name_append hkey]
  simp [gap_solid (show isSolid ':' = true by decide), symbol, hopens.gap_eq, hvalue]

theorem value_record {steps level : Nat} {fields : List (String × Datum)} (hne : fields ≠ [])
    (hkeys : ∀ part ∈ fields, isFieldName part.1 = true)
    (hopens : ∀ part ∈ fields, Opens (print (level + 1) part.2))
    (hvalues : ∀ part ∈ fields, ∀ rest, value implicitSome steps
      (print (level + 1) part.2 ++ ',' :: rest) = some (part.2, ',' :: rest)) (rest : List Char) :
    value implicitSome (steps + 2) (print level (.record none fields) ++ rest) =
      some (.record none fields, rest) := by
  have hfields : ∀ part ∈ fields, ∀ rest, field (value implicitSome steps)
      (printField (level + 1) part ++ ',' :: rest) = some (part, ',' :: rest) :=
    fun part hpart rest => field_printField (hkeys part hpart) (hopens part hpart)
      (hvalues part hpart rest)
  have hparts : ∀ part ∈ fields, Opens (printField (level + 1) part) := by
    intro part hpart
    rw [printField, List.append_assoc]
    exact opens_of_isFieldName (hkeys part hpart) _
  have hstart : startsWithField
      (blockEnd ')' level (fields.map (printField (level + 1))) rest) = true := by
    cases fields with
    | nil => exact absurd rfl hne
    | cons part fields =>
        have hstart := startsWithField_append (hkeys part (by simp)) (level + 1)
        simpa [blockEnd, printField] using hstart _
  have helements := elements_blockEnd (.inl rfl) level hparts hfields rest
  rw [value_add_two_eq_valueWith, print_record,
    block_append '(' ')' level (by simpa using hne),
    valueWith_signed (by decide) (by decide) (by simp [head?_blockEnd]), signed_paren, group,
    if_pos hstart, helements]
  rfl

/-- What is printed is read back, whatever may follow it. -/
theorem value_print {steps : Nat} {datum : Datum} (h : Readable steps datum) (level : Nat)
    {rest : List Char} (hrest : Follows rest) :
    value implicitSome steps (print level datum ++ rest) = some (datum, rest) := by
  induction h generalizing level rest with
  | text text => exact value_text _ text rest
  | @truth steps truth =>
      obtain ⟨inner, parts, hvalue⟩ := value_eq_valueWith implicitSome steps
      rw [hvalue]
      exact valueWith_of_constant (constant_truth truth hrest)
  | @number steps n hn =>
      rw [print_number]
      exact value_number _ hn hrest
  | @absent steps =>
      obtain ⟨inner, parts, hvalue⟩ := value_eq_valueWith implicitSome steps
      rw [hvalue]
      exact valueWith_of_constant (constant_absent hrest)
  | present h ih =>
      rw [print_present]
      exact value_present (opens_print h level) (fun rest => ih level (follows_close rest)) rest
  | list h ih =>
      exact value_list (fun item hitem => opens_print (h item hitem) _)
        (fun item hitem rest => ih item hitem _ (follows_comma rest)) rest
  | record hne hkeys hvalues ih =>
      exact value_record hne (List.all_eq_true.mp hkeys)
        (fun part hpart => opens_print (hvalues part hpart) _)
        (fun part hpart rest => ih part hpart _ (follows_comma rest)) rest

end Scan

theorem Datum.Readable.isPlain {steps : Nat} {datum : Datum} (h : Readable steps datum) :
    datum.isPlain = true := by
  induction h with
  | text | truth | number | absent => rfl
  | present h ih => exact ih
  | @list steps items h ih =>
      change arePlain items = true
      clear h
      induction items with
      | nil => rfl
      | cons item items ihItems =>
          have hitem := ih item (by simp)
          have hitems := ihItems fun item hitem => ih item (by simp [hitem])
          simp [arePlain, hitem, hitems]
  | @record steps fields hne hkeys hvalues ih =>
      change fieldsArePlain fields = true
      clear hne hkeys hvalues
      induction fields with
      | nil => rfl
      | cons part fields ihFields =>
          have hpart := ih part (by simp)
          have hfields := ihFields fun part hpart => ih part (by simp [hpart])
          simp [fieldsArePlain, hpart, hfields]

/-- A file is read as what was written to it. -/
theorem Document.read_write {datum : Datum} (h : datum.Readable Scan.stepLimit) :
    Document.read datum.write = some ⟨false, datum⟩ := by
  have hvalue : Scan.value false Scan.stepLimit (datum.print 0 ++ []) = some (datum, []) :=
    Scan.value_print h 0 Scan.follows_nil
  have hgap := (Scan.opens_print h 0).gap_eq []
  have hhead : (datum.print 0).head? ≠ some '#' := by
    obtain ⟨c, tail, hchars, hc⟩ := Scan.opens_print h 0
    rw [hchars]
    rintro ⟨⟩
    revert hc
    decide
  rw [List.append_nil] at hvalue hgap
  rw [read, Datum.write, String.toList_ofList]
  simp [readChars, Scan.headersUpTo, hgap, hhead, hvalue]

end VisualNovel
