import VisualNovel.Text

namespace VisualNovel.Text

theorem splitChars_eq_splitOnP (p : Char → Bool) (cs : List Char) :
    splitChars p cs = cs.splitOnP p := by
  induction cs with
  | nil => rfl
  | cons c cs ih => rw [splitChars, List.splitOnP_cons_eq_if_modifyHead, ih]

theorem not_of_mem_splitChars {p : Char → Bool} {cs piece : List Char}
    (h : piece ∈ splitChars p cs) : ∀ c ∈ piece, p c = false := by
  induction cs generalizing piece with
  | nil =>
      obtain rfl : piece = [] := by simpa [splitChars] using h
      simp
  | cons c cs ih =>
      rw [splitChars] at h
      split at h
      · rcases List.mem_cons.mp h with rfl | h
        · simp
        · exact ih h
      · rename_i hc
        -- The character joins the first piece of the rest.
        obtain ⟨first, pieces, hsplit⟩ := List.exists_cons_of_ne_nil (splitChars_ne_nil p cs)
        rw [hsplit, List.modifyHead_cons] at h
        rw [hsplit] at ih
        rcases List.mem_cons.mp h with rfl | h
        · simpa [hc] using ih List.mem_cons_self
        · exact ih (List.mem_cons_of_mem _ h)

theorem head?_splitChars (p : Char → Bool) (cs : List Char) :
    (splitChars p cs).head? = some (cs.takeWhile (!p ·)) := by
  induction cs with
  | nil => rfl
  | cons c cs ih => by_cases hc : p c <;> simp [splitChars, hc, ih]

section Fields

variable {separator : Char} {mark : String}

theorem not_mem_of_mem_fields {text field : String} (h : field ∈ fields separator text) :
    separator ∉ field.toList := by
  obtain ⟨piece, hpiece, rfl⟩ := List.mem_map.mp h
  intro hmem
  rw [String.toList_ofList] at hmem
  simpa using not_of_mem_splitChars hpiece separator hmem

theorem length_fields (separator : Char) (text : String) :
    (fields separator text).length = text.toList.count separator + 1 := by
  rw [fields, List.length_map, length_splitChars]
  rfl

theorem head?_fields (separator : Char) (text : String) :
    (fields separator text).head? =
      some (String.ofList (text.toList.takeWhile (· != separator))) := by
  rw [fields, List.head?_map, head?_splitChars]
  rfl

theorem fields_eq_splitOn (separator : Char) (text : String) :
    fields separator text = (text.toList.splitOn separator).map String.ofList :=
  congrArg (List.map String.ofList) (splitChars_eq_splitOnP _ _)

theorem fields_append (hmark : mark.toList = [separator]) (left right : String) :
    fields separator (left ++ mark ++ right) = fields separator left ++ fields separator right := by
  simp only [fields_eq_splitOn, String.toList_append, hmark, List.append_assoc,
    List.singleton_append, List.splitOn_append_cons_self, List.map_append]

theorem fields_intercalate (hmark : mark.toList = [separator]) {pieces : List String}
    (hpieces : ∀ piece ∈ pieces, separator ∉ piece.toList) (hne : pieces ≠ []) :
    fields separator (mark.intercalate pieces) = pieces := by
  rw [fields_eq_splitOn, String.toList_intercalate, hmark, List.splitOn_intercalate]
  · simp
  · simpa using hpieces
  · simpa using hne

theorem intercalate_fields (hmark : mark.toList = [separator]) (text : String) :
    mark.intercalate (fields separator text) = text := by
  have hpieces : (fields separator text).map String.toList = text.toList.splitOn separator := by
    simp [fields_eq_splitOn, Function.comp_def]
  rw [← String.toList_inj, String.toList_intercalate, hmark, hpieces, List.intercalate_splitOn]

theorem fields_ne_nil (separator : Char) (text : String) : fields separator text ≠ [] := by
  simp [fields, splitChars_ne_nil]

theorem fields_eq_iff (hmark : mark.toList = [separator]) {text : String} {pieces : List String} :
    fields separator text = pieces ↔
      text = mark.intercalate pieces ∧ (∀ piece ∈ pieces, separator ∉ piece.toList) ∧
        pieces ≠ [] := by
  constructor
  · rintro rfl
    exact ⟨(intercalate_fields hmark text).symm, fun _ => not_mem_of_mem_fields,
      fields_ne_nil separator text⟩
  · rintro ⟨rfl, hpieces, hne⟩
    exact fields_intercalate hmark hpieces hne

end Fields

end VisualNovel.Text
