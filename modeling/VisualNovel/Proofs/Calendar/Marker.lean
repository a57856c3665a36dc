import Mathlib.Data.List.Basic
import VisualNovel.Calendar
import VisualNovel.Proofs.Text.Words

namespace VisualNovel.Marker

section Field

variable {α : Type} {read : String → Option α} {default value : α} {word? : Option String}

/-- What a field takes from the word in its place: what the word says, or the default where there is
no word or it says nothing. -/
inductive Takes (read : String → Option α) (default : α) : Option String → α → Prop
  | given {word : String} {value : α} (h : read word = some value) :
      Takes read default (some word) value
  | refused {word : String} (h : read word = none) : Takes read default (some word) default
  | missing : Takes read default none default

/-- The word is there and says something, so no default is needed. -/
def Says (read : String → Option α) (word? : Option String) : Prop :=
  ∃ word value, word? = some word ∧ read word = some value

theorem takes_getD (read : String → Option α) (default : α) (word? : Option String) :
    Takes read default word? ((word?.bind read).getD default) := by
  cases word? with
  | none => exact .missing
  | some word =>
      rw [Option.bind_some]
      cases hword : read word with
      | none => exact .refused hword
      | some value => exact .given hword

theorem Takes.elim {motive : α → Prop} (h : Takes read default word? value)
    (hsaid : ∀ word value, read word = some value → motive value) (hdefault : motive default) :
    motive value := by
  cases h with
  | given hword => exact hsaid _ _ hword
  | refused | missing => exact hdefault

end Field

section Words

variable {field : String} {table : SlotTable}

theorem month?_eq_some_iff {month : UInt32} : month? field = some month ↔
    Numeral.read32 field = some month ∧ 1 ≤ month ∧ month ≤ 12 := by
  rw [month?, Option.filter_eq_some_iff, decide_eq_true_iff]

theorem day?_eq_some_iff {day : UInt32} : day? field = some day ↔
    Numeral.read32 field = some day ∧ 1 ≤ day ∧ day ≤ 31 := by
  rw [day?, Option.filter_eq_some_iff, decide_eq_true_iff]

theorem slot?_eq_some_iff {slot : String} : slot? table field = some slot ↔
    field = slot ∧ slot ∈ table.slots := by
  rw [slot?]
  split
  · rename_i hcontains
    rw [SlotTable.contains, List.contains_iff_mem] at hcontains
    constructor
    · rintro ⟨⟩
      exact ⟨rfl, hcontains⟩
    · rintro ⟨rfl, -⟩
      rfl
  · rename_i hnot
    rw [SlotTable.contains, List.contains_iff_mem] at hnot
    constructor
    · rintro ⟨⟩
    · rintro ⟨rfl, hmem⟩
      exact absurd hmem hnot

end Words

section Readings

variable {table : SlotTable} {text : String} {marker : Marker}

theorem read_eq_ok_iff : read table text = .ok marker ↔
    ∃ month day slot, Text.words text = [month, day, slot] ∧ month? month = some marker.month ∧
      day? day = some marker.day ∧ slot? table slot = some marker.slot := by
  constructor
  · intro hread
    rw [read] at hread
    split at hread
    · rename_i month day slot hwords
      split at hread
      · cases hread
      · rename_i m hmonth
        split at hread
        · cases hread
        · rename_i d hday
          split at hread
          · cases hread
          · rename_i s hslot
            cases hread
            exact ⟨month, day, slot, hwords, hmonth, hday, hslot⟩
    · cases hread
  · rintro ⟨month, day, slot, hwords, hmonth, hday, hslot⟩
    simp only [read, hwords, hmonth, hday, hslot]

/-- The strict marker is the lenient one of three words that all say something. -/
theorem read_eq_ok_iff_readLenient : read table text = .ok marker ↔
    ((Text.words text).length = 3 ∧ Says month? (Text.words text)[0]? ∧
      Says day? (Text.words text)[1]? ∧ Says (slot? table) (Text.words text)[2]?) ∧
    readLenient table text = marker := by
  rw [read_eq_ok_iff]
  constructor
  · rintro ⟨month, day, slot, hwords, hmonth, hday, hslot⟩
    refine ⟨⟨by rw [hwords]; rfl, ?_, ?_, ?_⟩, ?_⟩
    · exact ⟨month, marker.month, by rw [hwords]; rfl, hmonth⟩
    · exact ⟨day, marker.day, by rw [hwords]; rfl, hday⟩
    · exact ⟨slot, marker.slot, by rw [hwords]; rfl, hslot⟩
    · simp [readLenient, hwords, hmonth, hday, hslot]
  · rintro ⟨⟨hlength, ⟨month, m, hmonth, hm⟩, ⟨day, d, hday, hd⟩, ⟨slot, s, hslot, hs⟩⟩, rfl⟩
    obtain ⟨first, second, third, hwords⟩ := List.length_eq_three.mp hlength
    rw [hwords] at hmonth hday hslot
    cases hmonth
    cases hday
    cases hslot
    refine ⟨month, day, slot, hwords, ?_, ?_, ?_⟩
    · simp [readLenient, hwords, hm]
    · simp [readLenient, hwords, hd]
    · simp [readLenient, hwords, hs]

theorem takes_readLenient (table : SlotTable) (text : String) :
    Takes month? 6 (Text.words text)[0]? (readLenient table text).month ∧
    Takes day? 1 (Text.words text)[1]? (readLenient table text).day ∧
    Takes (slot? table) (table.slots.headD "") (Text.words text)[2]?
      (readLenient table text).slot := by
  refine ⟨takes_getD _ _ _, takes_getD _ _ _, ?_⟩
  rw [List.headD_eq_head?_getD]
  exact takes_getD _ _ _

theorem readLenient_congr {other : String}
    (h : (Text.words other).take 3 = (Text.words text).take 3) :
    readLenient table other = readLenient table text := by
  have hword (i : ℕ) (hi : i < 3) : (Text.words other)[i]? = (Text.words text)[i]? := by
    rw [← List.getElem?_take_of_lt hi, h, List.getElem?_take_of_lt hi]
  rw [readLenient, hword 0 (by decide), hword 1 (by decide), hword 2 (by decide)]
  rfl

end Readings

/-- Strict reading accepts the texts of three words of which lenient reading replaces none, and then
reads the same marker. Lenient reading takes each field from the word in its place, or from a
default of its own, and so finds a month, a day and a slot of the table whatever the text is. -/
theorem strict_reading_needs_no_default (table : SlotTable) (text : String) :
    (∀ words, Text.words text = words ↔ Text.Spaced words text.toList) ∧
    ((∃ marker, read table text = .ok marker) ↔
      (Text.words text).length = 3 ∧ Says month? (Text.words text)[0]? ∧
        Says day? (Text.words text)[1]? ∧ Says (slot? table) (Text.words text)[2]?) ∧
    (∀ marker, read table text = .ok marker → readLenient table text = marker) ∧
    (1 ≤ (readLenient table text).month ∧ (readLenient table text).month ≤ 12) ∧
    (1 ≤ (readLenient table text).day ∧ (readLenient table text).day ≤ 31) ∧
    ((readLenient table text).slot ∈ table.slots ∨
      table.slots = [] ∧ (readLenient table text).slot = "") ∧
    (Takes month? 6 (Text.words text)[0]? (readLenient table text).month ∧
      Takes day? 1 (Text.words text)[1]? (readLenient table text).day ∧
      Takes (slot? table) (table.slots.headD "") (Text.words text)[2]?
        (readLenient table text).slot) ∧
    ∀ other,
      ((Text.words other)[0]? = (Text.words text)[0]? →
        (readLenient table other).month = (readLenient table text).month) ∧
      ((Text.words other)[1]? = (Text.words text)[1]? →
        (readLenient table other).day = (readLenient table text).day) ∧
      ((Text.words other)[2]? = (Text.words text)[2]? →
        (readLenient table other).slot = (readLenient table text).slot) ∧
      ((Text.words other).take 3 = (Text.words text).take 3 →
        readLenient table other = readLenient table text) := by
  obtain ⟨hmonth, hday, hslot⟩ := takes_readLenient table text
  refine ⟨fun _ => Text.words_eq_iff_spaced, ?_, ?_, ?_, ?_, ?_, ⟨hmonth, hday, hslot⟩, ?_⟩
  · simp only [read_eq_ok_iff_readLenient, exists_and_left, exists_eq', and_true]
  · exact fun _ hread => (read_eq_ok_iff_readLenient.mp hread).2
  · exact hmonth.elim (fun _ _ h => (month?_eq_some_iff.mp h).2) (by decide)
  · exact hday.elim (fun _ _ h => (day?_eq_some_iff.mp h).2) (by decide)
  · refine hslot.elim (motive := fun slot => slot ∈ table.slots ∨ table.slots = [] ∧ slot = "")
      (fun _ _ h => .inl (slot?_eq_some_iff.mp h).2) ?_
    cases table.slots with
    | nil => exact .inr ⟨rfl, rfl⟩
    | cons slot slots => exact .inl List.mem_cons_self
  · intro other
    refine ⟨?_, ?_, ?_, readLenient_congr⟩
    all_goals
      intro hword
      simp only [readLenient, hword]

theorem readings_of_crooked_markers :
    read .standard "\t7\u3000+15  夕\n" = .ok ⟨7, 15, "夕"⟩ ∧
    readLenient .standard "\t7\u3000+15  夕\n" = ⟨7, 15, "夕"⟩ ∧
    (¬ ∃ marker, read .standard "9 40 夕" = .ok marker) ∧
    readLenient .standard "9 40 夕 朝 1" = readLenient .standard "9 40 夕" ∧
    readLenient .standard "9 40 夕" = ⟨9, 1, "夕"⟩ := by
  have hread : read .standard "\t7\u3000+15  夕\n" = .ok ⟨7, 15, "夕"⟩ := by decide +kernel
  obtain ⟨-, -, hsame, -⟩ := strict_reading_needs_no_default .standard "\t7\u3000+15  夕\n"
  obtain ⟨-, haccepts, -, -, -, -, -, hothers⟩ :=
    strict_reading_needs_no_default .standard "9 40 夕"
  have hwords : Text.words "9 40 夕" = ["9", "40", "夕"] := by decide +kernel
  have hday : day? "40" = none := by decide +kernel
  refine ⟨hread, hsame _ hread, ?_, (hothers "9 40 夕 朝 1").2.2.2 (by decide +kernel),
    by decide +kernel⟩
  rw [haccepts, hwords]
  rintro ⟨-, -, ⟨word, day, hword, hsaid⟩, -⟩
  cases hword
  rw [hday] at hsaid
  cases hsaid

end VisualNovel.Marker
