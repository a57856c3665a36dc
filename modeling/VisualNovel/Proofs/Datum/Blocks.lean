import VisualNovel.Proofs.Datum.Tokens

namespace VisualNovel

namespace Datum

theorem print_number (level n : Nat) :
    print level (.number (Numeral.write n)) = Nat.toDigits 10 n := String.toList_ofList

theorem print_present (level : Nat) (payload : Datum) :
    print level (.present payload) = "Some(".toList ++ print level payload ++ [')'] := rfl

theorem printItems_eq_map (level : Nat) (items : List Datum) :
    printItems level items = items.map (print level) := by
  induction items with
  | nil => rfl
  | cons item items ih => exact congrArg (print level item :: ·) ih

theorem print_list (level : Nat) (items : List Datum) :
    print level (.list items) = block '[' ']' level (items.map (print (level + 1))) := by
  rw [← printItems_eq_map]
  rfl

def printField (level : Nat) (field : String × Datum) : List Char :=
  field.1.toList ++ ": ".toList ++ print level field.2

theorem printFields_eq_map (level : Nat) (fields : List (String × Datum)) :
    printFields level fields = fields.map (printField level) := by
  induction fields with
  | nil => rfl
  | cons field fields ih => exact congrArg (printField level field :: ·) ih

theorem print_record (level : Nat) (fields : List (String × Datum)) :
    print level (.record none fields) =
      block '(' ')' level (fields.map (printField (level + 1))) := by
  rw [← printFields_eq_map]
  rfl

/-- What stands between the brackets of a block, and the bracket that closes it. -/
def blockEnd (close : Char) (level : Nat) (elements : List (List Char)) (rest : List Char) :
    List Char :=
  match elements with
  | [] => lineBreak level ++ close :: rest
  | element :: elements =>
      lineBreak (level + 1) ++ (element ++ ',' :: blockEnd close level elements rest)

theorem block_append (opening close : Char) (level : Nat) {elements : List (List Char)}
    (hne : elements ≠ []) (rest : List Char) :
    block opening close level elements ++ rest =
      opening :: blockEnd close level elements rest := by
  rw [block, if_neg hne]
  clear hne
  simp only [List.cons_append, List.append_assoc, List.nil_append]
  congr 1
  induction elements with
  | nil => rfl
  | cons element elements ih => simp [blockEnd, ih]

end Datum

namespace Scan

open Datum

/-- The characters that no printed value starts with: they belong to a gap, close a block, or open
a header. -/
def reserved : List Char :=
  [' ', '\t', '\n', '\r', '/', ')', ']', '#']

theorem isSolid_of_not_mem_reserved {c : Char} (hc : c ∉ reserved) : isSolid c = true := by
  simp [reserved] at hc
  simp [isSolid, isSpace, hc]

theorem not_mem_reserved_of {p : Char → Bool} {c : Char} (hc : p c = true)
    (hp : reserved.all (!p ·) = true) : c ∉ reserved := by
  intro hmem
  have hnot := List.all_eq_true.mp hp c hmem
  simp [hc] at hnot

def Opens (cs : List Char) : Prop :=
  ∃ c tail, cs = c :: tail ∧ c ∉ reserved

theorem Opens.gap_eq {cs : List Char} (h : Opens cs) (rest : List Char) :
    gap (cs ++ rest) = some (cs ++ rest) := by
  obtain ⟨c, tail, rfl, hc⟩ := h
  exact gap_solid (isSolid_of_not_mem_reserved hc) (tail ++ rest)

theorem isSolid_of_close {close : Char} (hclose : close = ')' ∨ close = ']') :
    isSolid close = true := by
  rcases hclose with rfl | rfl <;> decide

theorem elementsUpTo_congr {α : Type} (close : Char) (element : Scan α) (fuel : Nat)
    {cs ds : List Char} (hgap : gap cs = gap ds) :
    elementsUpTo close element fuel cs = elementsUpTo close element fuel ds := by
  cases fuel with
  | zero => rfl
  | succ fuel => rw [elementsUpTo, elementsUpTo, hgap]

theorem elementsUpTo_cons {α : Type} {close : Char} {element : Scan α} {fuel level : Nat}
    (hclose : close = ')' ∨ close = ']') {printed tail rest : List Char} {item : α}
    {items : List α} (hopens : Opens printed)
    (hitem : element (printed ++ ',' :: tail) = some (item, ',' :: tail))
    (hitems : elementsUpTo close element fuel tail = some (items, rest)) :
    elementsUpTo close element (fuel + 1) (lineBreak level ++ (printed ++ ',' :: tail)) =
      some (item :: items, rest) := by
  have hgap := hopens.gap_eq (',' :: tail)
  have hhead : (printed ++ ',' :: tail).head? ≠ some close := by
    obtain ⟨c, cs, rfl, hc⟩ := hopens
    rintro ⟨⟩
    revert hc
    rcases hclose with rfl | rfl <;> decide
  -- The comma behind the element takes the gap before the next one with it.
  cases hskip : gap tail with
  | none =>
      cases fuel with
      | zero => cases hitems
      | succ fuel => simp [elementsUpTo, hskip] at hitems
  | some skipped =>
      have hmore : elementsUpTo close element fuel skipped = some (items, rest) := by
        rw [← hitems]
        exact elementsUpTo_congr close element fuel ((skipGap_stops hskip).trans hskip.symm)
      rw [elementsUpTo, gap_lineBreak, hgap]
      simp only [Option.bind_eq_bind, Option.bind_some, if_neg hhead, hitem, comma_comma hskip,
        hmore, ↓reduceIte]
      rfl

theorem elementsUpTo_blockEnd {α : Type} {close : Char} {element : Scan α}
    (hclose : close = ')' ∨ close = ']') (level : Nat) {printed : α → List Char} {items : List α}
    (hopens : ∀ item ∈ items, Opens (printed item))
    (helement : ∀ item ∈ items, ∀ rest, element (printed item ++ ',' :: rest) =
      some (item, ',' :: rest))
    {fuel : Nat} (hfuel : items.length < fuel) (rest : List Char) :
    elementsUpTo close element fuel (blockEnd close level (items.map printed) rest) =
      some (items, rest) := by
  induction items generalizing fuel with
  | nil =>
      obtain ⟨fuel, rfl⟩ : ∃ n, fuel = n + 1 := ⟨fuel - 1, by omega⟩
      simp [elementsUpTo, blockEnd, gap_solid (isSolid_of_close hclose)]
  | cons item items ih =>
      obtain ⟨fuel, rfl⟩ : ∃ n, fuel = n + 1 := ⟨fuel - 1, by omega⟩
      have hitems := ih (fun item hitem => hopens item (by simp [hitem]))
        (fun item hitem => helement item (by simp [hitem])) (by simpa using hfuel)
      exact elementsUpTo_cons hclose (hopens item (by simp)) (helement item (by simp) _) hitems

theorem length_le_length_blockEnd (close : Char) (level : Nat) (elements : List (List Char))
    (rest : List Char) : elements.length ≤ (blockEnd close level elements rest).length := by
  induction elements with
  | nil => simp
  | cons element elements ih =>
      simp only [blockEnd, List.length_cons, List.length_append]
      omega

theorem elements_blockEnd {α : Type} {close : Char} {element : Scan α}
    (hclose : close = ')' ∨ close = ']') (level : Nat) {printed : α → List Char} {items : List α}
    (hopens : ∀ item ∈ items, Opens (printed item))
    (helement : ∀ item ∈ items, ∀ rest, element (printed item ++ ',' :: rest) =
      some (item, ',' :: rest)) (rest : List Char) :
    elements close element (blockEnd close level (items.map printed) rest) =
      some (items, rest) := by
  have hlength := length_le_length_blockEnd close level (items.map printed) rest
  rw [List.length_map] at hlength
  exact elementsUpTo_blockEnd hclose level hopens helement (by omega) rest

theorem elements_close {α : Type} {close : Char} (element : Scan α)
    (hclose : close = ')' ∨ close = ']') (rest : List Char) :
    elements close element (close :: rest) = some ([], rest) := by
  simp [elements, elementsUpTo, gap_solid (isSolid_of_close hclose)]

theorem head?_blockEnd (close : Char) (level : Nat) (elements : List (List Char))
    (rest : List Char) : (blockEnd close level elements rest).head? = some '\n' := by
  cases elements <;> rfl

theorem opens_of_isFieldName {key : String} (hkey : isFieldName key = true) (rest : List Char) :
    Opens (key.toList ++ rest) := by
  simp only [isFieldName, Bool.and_eq_true] at hkey
  cases hlist : key.toList with
  | nil => simp [hlist] at hkey
  | cons c tail =>
      have hstart : isNameStart c = true := by simpa [hlist] using hkey.1
      exact ⟨c, tail ++ rest, rfl, not_mem_reserved_of hstart (by decide)⟩

theorem startsWithField_append {key : String} (hkey : isFieldName key = true) (level : Nat)
    (cs : List Char) :
    startsWithField (lineBreak level ++ (key.toList ++ ':' :: cs)) = true := by
  have hopens := opens_of_isFieldName hkey []
  rw [List.append_nil] at hopens
  rw [startsWithField, gap_lineBreak, hopens.gap_eq]
  simp [name_append hkey, gap_solid (show isSolid ':' = true by decide), symbol]

end Scan

end VisualNovel
