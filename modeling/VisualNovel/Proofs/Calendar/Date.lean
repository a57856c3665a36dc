import VisualNovel.Calendar
import VisualNovel.Proofs.Numeral

namespace VisualNovel.Date

/-- A part of a date: a numeral of the number, with blanks around it or not. -/
inductive Part (n : UInt32) : String → Prop
  | layout {numeral text : String} (hspells : Numeral.Spells n.toNat numeral.toList)
      (hpadded : Text.Padded numeral text) : Part n text

/-- Year, month and day between two slashes. -/
inductive Written (date : Date) : String → Prop
  | layout {year month day : String} (hyear : Part date.year year)
      (hmonth : Part date.month month) (hday : Part date.day day) :
      Written date (year ++ "/" ++ month ++ "/" ++ day)

section Parts

variable {n : UInt32} {text : String}

theorem read32_trim_eq_some_iff : Numeral.read32 (Text.trim text) = some n ↔ Part n text := by
  rw [Numeral.read32_eq_some_iff]
  constructor
  · exact fun hspells => .layout hspells (Text.padded_trim text)
  · rintro ⟨hspells, hpadded⟩
    rwa [Text.trim_eq_iff_padded.mpr ⟨hspells.solid.trimmed, hpadded⟩]

theorem Part.unsplit (h : Part n text) : '/' ∉ text.toList := by
  obtain ⟨hspells, hpadded⟩ := h
  exact hpadded.not_mem (hspells.not_mem (by decide) (by decide)) (by decide)

end Parts

theorem mapM_eq_some_iff_map {α β : Type} {f : α → Option β} {xs : List α} {ys : List β} :
    xs.mapM f = some ys ↔ xs.map f = ys.map some := by
  induction xs generalizing ys with
  | nil => cases ys <;> simp
  | cons x xs ih =>
      rw [List.mapM_cons, List.map_cons]
      constructor
      · intro h
        obtain ⟨y, hy, h⟩ := Option.bind_eq_some_iff.mp h
        obtain ⟨rest, hrest, h⟩ := Option.bind_eq_some_iff.mp h
        cases h
        rw [List.map_cons, hy, ih.mp hrest]
      · intro h
        obtain ⟨y, rest, rfl, hy, hrest⟩ := List.map_eq_cons_iff.mp h.symm
        rw [← hy, ih.mpr hrest.symm]
        rfl

theorem mapM_read32_eq_some_iff {parts : List String} {year month day : UInt32} :
    parts.mapM (fun part => Numeral.read32 (Text.trim part)) = some [year, month, day] ↔
      ∃ first second third, parts = [first, second, third] ∧
        Part year first ∧ Part month second ∧ Part day third := by
  rw [mapM_eq_some_iff_map]
  simp only [List.map_cons, List.map_nil, List.map_eq_cons_iff, List.map_eq_nil_iff,
    read32_trim_eq_some_iff]
  constructor
  · rintro ⟨first, _, hparts, hfirst, second, _, rfl, hsecond, third, _, rfl, hthird, rfl⟩
    exact ⟨first, second, third, hparts, hfirst, hsecond, hthird⟩
  · rintro ⟨first, second, third, hparts, hfirst, hsecond, hthird⟩
    exact ⟨first, _, hparts, hfirst, second, _, rfl, hsecond, third, _, rfl, hthird, rfl⟩

section Texts

variable {text : String} {date : Date}

theorem read_eq_some_iff : read text = some date ↔
    ∃ year month day, Text.fields '/' text = [year, month, day] ∧
      Part date.year year ∧ Part date.month month ∧ Part date.day day := by
  rw [← mapM_read32_eq_some_iff]
  constructor
  · intro hread
    rw [read] at hread
    split at hread
    · rename_i hparts
      obtain rfl := Option.some.inj hread
      exact hparts
    · cases hread
  · intro hparts
    rw [read, hparts]

theorem fields_eq_iff_of_unsplit {year month day : String} (hyear : '/' ∉ year.toList)
    (hmonth : '/' ∉ month.toList) (hday : '/' ∉ day.toList) :
    Text.fields '/' text = [year, month, day] ↔ text = year ++ "/" ++ month ++ "/" ++ day := by
  have hmark : "/".toList = ['/'] := rfl
  have hjoin : "/".intercalate [year, month, day] = year ++ "/" ++ month ++ "/" ++ day := rfl
  rw [Text.fields_eq_iff hmark, hjoin]
  simp [hyear, hmonth, hday]

theorem read_eq_some_iff_written : read text = some date ↔ Written date text := by
  rw [read_eq_some_iff]
  constructor
  · rintro ⟨year, month, day, hfields, hyear, hmonth, hday⟩
    rw [fields_eq_iff_of_unsplit hyear.unsplit hmonth.unsplit hday.unsplit] at hfields
    rw [hfields]
    exact .layout hyear hmonth hday
  · rintro ⟨hyear, hmonth, hday⟩
    refine ⟨_, _, _, ?_, hyear, hmonth, hday⟩
    rw [fields_eq_iff_of_unsplit hyear.unsplit hmonth.unsplit hday.unsplit]

theorem written_of_padded {year month day : String}
    (hyear : Text.Padded (Numeral.write date.year.toNat) year)
    (hmonth : Text.Padded (Numeral.writeTwo date.month.toNat) month)
    (hday : Text.Padded (Numeral.writeTwo date.day.toNat) day) :
    Written date (year ++ "/" ++ month ++ "/" ++ day) :=
  .layout (.layout (Numeral.spells_write _) hyear) (.layout (Numeral.spells_writeTwo _) hmonth)
    (.layout (Numeral.spells_writeTwo _) hday)

theorem written_write (date : Date) : Written date date.write :=
  written_of_padded (Text.padded_self _) (Text.padded_self _) (Text.padded_self _)

theorem read_eq_none_iff : read text = none ↔
    text.toList.count '/' ≠ 2 ∨ ∃ part ∈ Text.fields '/' text, ∀ n, ¬ Part n part := by
  have hlength := Text.length_fields '/' text
  constructor
  · intro hnone
    by_contra hgood
    push Not at hgood
    obtain ⟨hcount, hparts⟩ := hgood
    rw [hcount] at hlength
    obtain ⟨first, second, third, hfields⟩ := List.length_eq_three.mp hlength
    rw [hfields] at hparts
    obtain ⟨year, hyear⟩ := hparts first (by simp)
    obtain ⟨month, hmonth⟩ := hparts second (by simp)
    obtain ⟨day, hday⟩ := hparts third (by simp)
    have hread : read text = some ⟨year, month, day⟩ :=
      read_eq_some_iff.mpr ⟨first, second, third, hfields, hyear, hmonth, hday⟩
    rw [hnone] at hread
    cases hread
  · intro hbad
    rw [Option.eq_none_iff_forall_ne_some]
    intro date hread
    obtain ⟨year, month, day, hfields, hyear, hmonth, hday⟩ := read_eq_some_iff.mp hread
    rw [hfields] at hlength hbad
    rcases hbad with hcount | ⟨part, hpart, hnone⟩
    · exact hcount (Nat.succ.inj hlength).symm
    · simp only [List.mem_cons, List.not_mem_nil, or_false] at hpart
      rcases hpart with rfl | rfl | rfl
      · exact hnone _ hyear
      · exact hnone _ hmonth
      · exact hnone _ hday

end Texts

/-- A date is read back from its text, with blanks around any of the three parts or without. Only
numerals of a year, a month and a day between two slashes are read, and as that date; a text is
refused for having another number of slashes or for a part that is no numeral. -/
theorem written_dates_are_read_back :
    (∀ date, read date.write = some date) ∧
    (∀ date year month day, Text.Padded (Numeral.write date.year.toNat) year →
      Text.Padded (Numeral.writeTwo date.month.toNat) month →
      Text.Padded (Numeral.writeTwo date.day.toNat) day →
      read (year ++ "/" ++ month ++ "/" ++ day) = some date) ∧
    (∀ text date, read text = some date ↔ Written date text) ∧
    ∀ text, read text = none ↔
      text.toList.count '/' ≠ 2 ∨ ∃ part ∈ Text.fields '/' text, ∀ n, ¬ Part n part := by
  refine ⟨fun date => ?_, ?_, fun _ _ => read_eq_some_iff_written, fun _ => read_eq_none_iff⟩
  · exact read_eq_some_iff_written.mpr (written_write date)
  · intro date year month day hyear hmonth hday
    exact read_eq_some_iff_written.mpr (written_of_padded hyear hmonth hday)

theorem lastYear_is_read_back :
    read "4294967295/06/01" = some ⟨4294967295, 6, 1⟩ ∧
    read "4294967295\u3000/\t06/ 01 " = some ⟨4294967295, 6, 1⟩ ∧
    Written ⟨4294967295, 6, 1⟩ "+4294967295/6/ 001" ∧
    read "4294967296/06/01" = none := by
  obtain ⟨hwritten, hpadded, hread, hrefused⟩ := written_dates_are_read_back
  have hwrite : write ⟨4294967295, 6, 1⟩ = "4294967295/06/01" := by decide +kernel
  have hyear : Text.trim "4294967295\u3000" = Numeral.write 4294967295 := by decide +kernel
  have hmonth : Text.trim "\t06" = Numeral.writeTwo 6 := by decide +kernel
  have hday : Text.trim " 01 " = Numeral.writeTwo 1 := by decide +kernel
  refine ⟨?_, ?_, (hread _ _).mp (by decide +kernel), (hrefused _).mpr (.inr ?_)⟩
  · rw [← hwrite]
    exact hwritten _
  · exact hpadded ⟨4294967295, 6, 1⟩ _ _ _ (Text.trim_eq_iff_padded.mp hyear).2
      (Text.trim_eq_iff_padded.mp hmonth).2 (Text.trim_eq_iff_padded.mp hday).2
  · -- The year is one more than the largest number of 32 bits.
    refine ⟨"4294967296", by decide +kernel, fun n hpart => ?_⟩
    have hnone : Numeral.read32 (Text.trim "4294967296") = none := by decide +kernel
    rw [read32_trim_eq_some_iff.mpr hpart] at hnone
    cases hnone

end VisualNovel.Date
