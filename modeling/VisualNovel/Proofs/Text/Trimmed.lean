import Mathlib.Data.List.DropRight
import VisualNovel.Text

namespace VisualNovel.Text

/-- A text of blanks, or an empty one. -/
def AllBlank (text : String) : Prop :=
  ∀ c ∈ text.toList, isBlank c = true

instance (text : String) : Decidable (AllBlank text) :=
  List.decidableBAll (isBlank · = true) text.toList

theorem AllBlank.not_mem {text : String} {c : Char} (h : AllBlank text)
    (hc : isBlank c = false) : c ∉ text.toList := by
  intro hmem
  rw [h c hmem] at hc
  cases hc

/-- Neither the first nor the last character is a blank. -/
def Trimmed (text : String) : Prop :=
  ∀ hne : text.toList ≠ [],
    isBlank (text.toList.head hne) = false ∧ isBlank (text.toList.getLast hne) = false

instance (text : String) : Decidable (Trimmed text) :=
  inferInstanceAs (Decidable (∀ hne : text.toList ≠ [],
    isBlank (text.toList.head hne) = false ∧ isBlank (text.toList.getLast hne) = false))

/-- The text with blanks on either side, or on one, or on none. -/
inductive Padded (text : String) : String → Prop
  | layout {before after : String} (hbefore : AllBlank before) (hafter : AllBlank after) :
      Padded text (before ++ text ++ after)

theorem trimChars_eq_rdropWhile (cs : List Char) :
    trimChars cs = (cs.dropWhile isBlank).rdropWhile isBlank := rfl

theorem trimChars_eq_nil_iff {cs : List Char} :
    trimChars cs = [] ↔ ∀ c ∈ cs, isBlank c = true := by
  rw [trimChars_eq_rdropWhile, List.rdropWhile_eq_nil_iff]
  constructor
  · intro hblank
    by_contra hsolid
    -- What is left behind the blanks in front starts with a character that is none.
    have hne : cs.dropWhile isBlank ≠ [] := by simpa [List.dropWhile_eq_nil_iff] using hsolid
    have hhead := List.head_dropWhile_not isBlank hne
    rw [hblank _ (List.head_mem hne)] at hhead
    cases hhead
  · intro hblank c hc
    exact hblank c ((List.dropWhile_sublist _).subset hc)

theorem trim_eq_empty_iff {text : String} : trim text = "" ↔ AllBlank text := by
  rw [AllBlank, ← trimChars_eq_nil_iff, trim, ← String.toList_inj, String.toList_ofList]
  rfl

theorem trimmed_trim (text : String) : Trimmed (trim text) := by
  suffices h : ∀ hne : trimChars text.toList ≠ [],
      isBlank ((trimChars text.toList).head hne) = false ∧
        isBlank ((trimChars text.toList).getLast hne) = false by
    simpa only [Trimmed, trim, String.toList_ofList] using h
  intro hne
  have hkept : trimChars text.toList <+: text.toList.dropWhile isBlank :=
    List.rdropWhile_prefix isBlank _
  have hfront : text.toList.dropWhile isBlank ≠ [] := hkept.ne_nil hne
  constructor
  · rw [hkept.head hne]
    exact List.head_dropWhile_not isBlank hfront
  · exact Bool.eq_false_iff.mpr (List.rdropWhile_last_not isBlank _ hne)

theorem trim_subset (text : String) : (trim text).toList ⊆ text.toList := by
  rw [trim, String.toList_ofList]
  exact ((List.rdropWhile_prefix isBlank _).sublist.trans (List.dropWhile_sublist _)).subset

theorem padded_self (text : String) : Padded text text := by
  have hnone : AllBlank "" := by simp [AllBlank]
  have hlayout : Padded text ("" ++ text ++ "") := .layout hnone hnone
  simpa using hlayout

theorem Padded.not_mem {text padded : String} {c : Char} (h : Padded text padded)
    (htext : c ∉ text.toList) (hc : isBlank c = false) : c ∉ padded.toList := by
  obtain ⟨hbefore, hafter⟩ := h
  simp [htext, hbefore.not_mem hc, hafter.not_mem hc]

theorem padded_trim (text : String) : Padded (trim text) text := by
  have hbefore : AllBlank (String.ofList (text.toList.takeWhile isBlank)) := by
    intro c hc
    rw [String.toList_ofList] at hc
    exact List.mem_takeWhile_imp hc
  have hafter :
      AllBlank (String.ofList ((text.toList.dropWhile isBlank).rtakeWhile isBlank)) := by
    intro c hc
    rw [String.toList_ofList, List.rtakeWhile, List.mem_reverse] at hc
    exact List.mem_takeWhile_imp hc
  have hlayout : Padded (trim text) _ := .layout hbefore hafter
  rwa [trim, trimChars_eq_rdropWhile, String.append_assoc, ← String.ofList_append,
    List.rdropWhile_append_rtakeWhile, ← String.ofList_append, List.takeWhile_append_dropWhile,
    String.ofList_toList] at hlayout

theorem trimChars_padded {before kept after : List Char}
    (hbefore : ∀ c ∈ before, isBlank c = true) (hafter : ∀ c ∈ after, isBlank c = true)
    (hends : ∀ hne : kept ≠ [],
      isBlank (kept.head hne) = false ∧ isBlank (kept.getLast hne) = false) :
    trimChars (before ++ (kept ++ after)) = kept := by
  by_cases hne : kept = []
  · rw [hne, trimChars_eq_nil_iff]
    simpa [or_imp, forall_and] using ⟨hbefore, hafter⟩
  · have hfront : (kept ++ after).dropWhile isBlank = kept ++ after := by
      obtain ⟨c, rest, rfl⟩ := List.exists_cons_of_ne_nil hne
      exact List.dropWhile_cons_of_neg (by simpa using (hends hne).1)
    have hback : (kept ++ after).rdropWhile isBlank = kept := by
      rw [List.rdropWhile, List.reverse_append, List.dropWhile_append_of_pos (by simpa using hafter)]
      exact List.rdropWhile_eq_self_iff.mpr fun _ => by simpa using (hends hne).2
    rw [trimChars_eq_rdropWhile, List.dropWhile_append_of_pos hbefore, hfront, hback]

theorem trim_eq_iff_padded {text kept : String} :
    trim text = kept ↔ Trimmed kept ∧ Padded kept text := by
  constructor
  · rintro rfl
    exact ⟨trimmed_trim text, padded_trim text⟩
  · rintro ⟨htrimmed, ⟨hbefore, hafter⟩⟩
    rw [trim, String.append_assoc, String.toList_append, String.toList_append,
      trimChars_padded hbefore hafter htrimmed, String.ofList_toList]

end VisualNovel.Text
