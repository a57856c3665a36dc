import VisualNovel.Proofs.Text.Fields
import VisualNovel.Proofs.Text.Trimmed

namespace VisualNovel.Text

/-- The characters are those of the words, in order, with blanks between the words and maybe in
front of the first and behind the last one. -/
inductive Spaced : List String → List Char → Prop
  | blank {gap : List Char} (hgap : ∀ c ∈ gap, isBlank c = true) : Spaced [] gap
  | word {gap rest : List Char} {word : String} {words : List String}
      (hgap : ∀ c ∈ gap, isBlank c = true) (hne : word ≠ "")
      (hsolid : ∀ c ∈ word.toList, isBlank c = false)
      (hend : ∀ c, rest.head? = some c → isBlank c = true) (hrest : Spaced words rest) :
      Spaced (word :: words) (gap ++ (word.toList ++ rest))

def charWords (cs : List Char) : List (List Char) :=
  (splitChars isBlank cs).filter (!·.isEmpty)

theorem charWords_append_of_blank {gap : List Char} (hgap : ∀ c ∈ gap, isBlank c = true)
    (cs : List Char) : charWords (gap ++ cs) = charWords cs := by
  induction gap with
  | nil => rfl
  | cons c gap ih =>
      have hrest := ih fun d hd => hgap d (List.mem_cons_of_mem c hd)
      simpa [charWords, splitChars, hgap c List.mem_cons_self] using hrest

theorem charWords_of_blank {gap : List Char} (hgap : ∀ c ∈ gap, isBlank c = true) :
    charWords gap = [] := by
  have h := charWords_append_of_blank hgap []
  rwa [List.append_nil] at h

theorem splitChars_append_of_solid {word : List Char}
    (hsolid : ∀ c ∈ word, isBlank c = false) (cs : List Char) :
    splitChars isBlank (word ++ cs) = (splitChars isBlank cs).modifyHead (word ++ ·) := by
  induction word with
  | nil => exact (congrFun List.modifyHead_id _).symm
  | cons c word ih =>
      rw [List.cons_append, splitChars, hsolid c List.mem_cons_self,
        ih fun d hd => hsolid d (List.mem_cons_of_mem c hd), if_neg Bool.false_ne_true,
        List.modifyHead_modifyHead]
      rfl

theorem charWords_append_of_solid {word rest : List Char} (hne : word ≠ [])
    (hsolid : ∀ c ∈ word, isBlank c = false)
    (hend : ∀ c, rest.head? = some c → isBlank c = true) :
    charWords (word ++ rest) = word :: charWords rest := by
  rw [charWords, splitChars_append_of_solid hsolid]
  cases rest with
  | nil => simp [charWords, splitChars, hne]
  | cons c rest => simp [charWords, splitChars, hend c rfl, hne]

theorem Spaced.charWords_eq {words : List String} {cs : List Char} (h : Spaced words cs) :
    (charWords cs).map String.ofList = words := by
  induction h with
  | blank hgap => rw [charWords_of_blank hgap, List.map_nil]
  | @word gap rest word words hgap hne hsolid hend _ ih =>
      have hchars : word.toList ≠ [] := by simpa using hne
      rw [charWords_append_of_blank hgap, charWords_append_of_solid hchars hsolid hend,
        List.map_cons, String.ofList_toList, ih]

theorem exists_spaced (cs : List Char) : ∃ words, Spaced words cs := by
  induction cs with
  | nil => exact ⟨[], .blank (by simp)⟩
  | cons c cs ih =>
      obtain ⟨words, h⟩ := ih
      cases hc : isBlank c with
      | true =>
          cases h with
          | blank hgap => exact ⟨[], .blank (List.forall_mem_cons.mpr ⟨hc, hgap⟩)⟩
          | @word gap rest word words hgap hne hsolid hend hrest =>
              have hgap' : ∀ d ∈ c :: gap, isBlank d = true := List.forall_mem_cons.mpr ⟨hc, hgap⟩
              exact ⟨word :: words, .word hgap' hne hsolid hend hrest⟩
      | false =>
          -- The character joins the word that the rest starts with, if it starts with one.
          by_cases hend : ∀ d, cs.head? = some d → isBlank d = true
          · have hword : Spaced (String.ofList [c] :: words)
                ([] ++ ((String.ofList [c]).toList ++ cs)) :=
              .word (by simp) (by simp) (by simpa using hc) hend h
            exact ⟨_, by simpa using hword⟩
          · cases h with
            | blank hgap =>
                exact absurd (fun d hd => hgap d (List.mem_of_mem_head? hd)) hend
            | @word gap rest word words hgap hne hsolid hends hrest =>
                cases gap with
                | cons d gap =>
                    refine absurd ?_ hend
                    rintro _ ⟨⟩
                    exact hgap d List.mem_cons_self
                | nil =>
                    have hword : Spaced (String.ofList (c :: word.toList) :: words)
                        ([] ++ ((String.ofList (c :: word.toList)).toList ++ rest)) :=
                      .word (by simp) (by simp) (by simpa using ⟨hc, hsolid⟩) hends hrest
                    exact ⟨_, by simpa using hword⟩

theorem words_eq_iff_spaced {text : String} {ws : List String} :
    words text = ws ↔ Spaced ws text.toList := by
  constructor
  · rintro rfl
    obtain ⟨ws, hws⟩ := exists_spaced text.toList
    have hwords : words text = ws := hws.charWords_eq
    rwa [hwords]
  · exact Spaced.charWords_eq

/-- A word: some characters, none of them a blank. -/
def Solid (word : String) : Prop :=
  word ≠ "" ∧ ∀ c ∈ word.toList, isBlank c = false

instance (word : String) : Decidable (Solid word) :=
  @instDecidableAnd _ _ _ (List.decidableBAll (isBlank · = false) word.toList)

theorem solid_iff {word : String} :
    Solid word ↔ word.toList ≠ [] ∧ ∀ c ∈ word.toList, isBlank c = false := by
  simp [Solid]

theorem Solid.trimmed {word : String} (h : Solid word) : Trimmed word := by
  intro hne
  exact ⟨h.2 _ (List.head_mem hne), h.2 _ (List.getLast_mem hne)⟩

theorem Solid.isBlank_eq_false {word : String} (h : Solid word) {c : Char} {rest : List Char}
    (hc : (word.toList ++ rest).head? = some c) : isBlank c = false := by
  obtain ⟨hne, hsolid⟩ := solid_iff.mp h
  rw [List.head?_append_of_ne_nil _ hne] at hc
  exact hsolid c (List.mem_of_mem_head? hc)

theorem ne_nil_of_between {gap rest : List Char} {word : String} (h : Solid word)
    (hend : ∀ c, (gap ++ (word.toList ++ rest)).head? = some c → isBlank c = true) : gap ≠ [] := by
  rintro rfl
  obtain ⟨c, hc⟩ : ∃ c, (word.toList ++ rest).head? = some c := by
    have hne : word.toList ++ rest ≠ [] :=
      List.append_ne_nil_of_left_ne_nil (solid_iff.mp h).1 rest
    exact ⟨_, List.head?_eq_some_head hne⟩
  have hblank := hend c hc
  rw [h.isBlank_eq_false hc] at hblank
  cases hblank

theorem isBlank_head?_append {gap rest : List Char} (hne : gap ≠ [])
    (hgap : ∀ c ∈ gap, isBlank c = true) :
    ∀ c, (gap ++ rest).head? = some c → isBlank c = true := by
  intro c hc
  rw [List.head?_append_of_ne_nil _ hne] at hc
  exact hgap c (List.mem_of_mem_head? hc)

theorem spaced_three_iff {first second third : String} {cs : List Char} :
    Spaced [first, second, third] cs ↔
      (Solid first ∧ Solid second ∧ Solid third) ∧
      ∃ front between behind back : String, AllBlank front ∧ (between ≠ "" ∧ AllBlank between) ∧
        (behind ≠ "" ∧ AllBlank behind) ∧ AllBlank back ∧
        cs = (front ++ first ++ between ++ second ++ behind ++ third ++ back).toList := by
  constructor
  · intro h
    obtain _ | ⟨hfront, hne₁, hsolid₁, hend₁, h⟩ := h
    obtain _ | ⟨hbetween, hne₂, hsolid₂, hend₂, h⟩ := h
    obtain _ | ⟨hbehind, hne₃, hsolid₃, -, h⟩ := h
    obtain ⟨hback⟩ | _ := h
    rename_i front between behind back
    refine ⟨⟨⟨hne₁, hsolid₁⟩, ⟨hne₂, hsolid₂⟩, hne₃, hsolid₃⟩, String.ofList front,
      String.ofList between, String.ofList behind, String.ofList back, ?_, ⟨?_, ?_⟩, ⟨?_, ?_⟩,
      ?_, ?_⟩
    · simpa [AllBlank] using hfront
    · simpa using ne_nil_of_between ⟨hne₂, hsolid₂⟩ hend₁
    · simpa [AllBlank] using hbetween
    · simpa using ne_nil_of_between ⟨hne₃, hsolid₃⟩ hend₂
    · simpa [AllBlank] using hbehind
    · simpa [AllBlank] using hback
    · simp
  · rintro ⟨⟨h₁, h₂, h₃⟩, front, between, behind, back, hfront, ⟨hne, hbetween⟩,
      ⟨hne', hbehind⟩, hback, rfl⟩
    have hlast : Spaced [third] (behind.toList ++ (third.toList ++ back.toList)) := by
      refine .word hbehind h₃.1 h₃.2 (fun c hc => ?_) (.blank hback)
      exact hback c (List.mem_of_mem_head? hc)
    have hrest : Spaced [second, third] (between.toList ++
        (second.toList ++ (behind.toList ++ (third.toList ++ back.toList)))) :=
      .word hbetween h₂.1 h₂.2 (isBlank_head?_append (by simpa using hne') hbehind) hlast
    have h := Spaced.word hfront h₁.1 h₁.2
      (isBlank_head?_append (by simpa using hne) hbetween) hrest
    simpa only [String.toList_append, List.append_assoc] using h

end VisualNovel.Text
