import VisualNovel.Proofs.Calendar.Marker
import VisualNovel.Proofs.Numeral

namespace VisualNovel.Marker

/-- A numeral of a month and one of a day, in range, and a slot of the table that is a word, with
blanks between the three and maybe around them. -/
inductive Written (table : SlotTable) (marker : Marker) : String → Prop
  | layout {front month between day behind back : String} (hfront : Text.AllBlank front)
      (hmonth : Numeral.Spells marker.month.toNat month.toList)
      (hmonths : 1 ≤ marker.month ∧ marker.month ≤ 12)
      (hbetween : between ≠ "" ∧ Text.AllBlank between)
      (hday : Numeral.Spells marker.day.toNat day.toList)
      (hdays : 1 ≤ marker.day ∧ marker.day ≤ 31)
      (hbehind : behind ≠ "" ∧ Text.AllBlank behind)
      (hslot : marker.slot ∈ table.slots ∧ Text.Solid marker.slot) (hback : Text.AllBlank back) :
      Written table marker (front ++ month ++ between ++ day ++ behind ++ marker.slot ++ back)

/-- A numeral of a number from one to the last. -/
def Counts (last : Nat) (word : String) : Prop :=
  ∃ n, 1 ≤ n ∧ n ≤ last ∧ Numeral.Spells n word.toList

/-- The first of three words that does not fit is to blame. -/
inductive Blames (table : SlotTable) (month day slot : String) : MarkerError → Prop
  | month (hmonth : ¬ Counts 12 month) : Blames table month day slot (.month month)
  | day (hmonth : Counts 12 month) (hday : ¬ Counts 31 day) :
      Blames table month day slot (.day day)
  | slot (hmonth : Counts 12 month) (hday : Counts 31 day) (hslot : slot ∉ table.slots) :
      Blames table month day slot (.slot slot)

section Fields

variable {word : String} {table : SlotTable}

theorem counts_iff (last : UInt32) : Counts last.toNat word ↔
    ∃ n, (Numeral.read32 word).filter (fun n => 1 ≤ n ∧ n ≤ last) = some n := by
  simp only [Option.filter_eq_some_iff, decide_eq_true_iff, Numeral.read32_eq_some_iff]
  constructor
  · rintro ⟨n, hfirst, hlast, hspells⟩
    have hsize : n < UInt32.size := Nat.lt_of_le_of_lt hlast last.toNat_lt
    have hn : n.toUInt32.toNat = n := UInt32.toNat_ofNat_of_lt' hsize
    refine ⟨n.toUInt32, by rwa [hn], ?_, ?_⟩
    · rwa [UInt32.le_iff_toNat_le, hn]
    · rwa [UInt32.le_iff_toNat_le, hn]
  · rintro ⟨n, hspells, hfirst, hlast⟩
    rw [UInt32.le_iff_toNat_le] at hfirst hlast
    exact ⟨n.toNat, hfirst, hlast, hspells⟩

theorem exists_month?_iff : (∃ month, month? word = some month) ↔ Counts 12 word :=
  (counts_iff 12).symm

theorem exists_day?_iff : (∃ day, day? word = some day) ↔ Counts 31 word :=
  (counts_iff 31).symm

theorem month?_eq_none_iff : month? word = none ↔ ¬ Counts 12 word := by
  rw [← exists_month?_iff, not_exists, Option.eq_none_iff_forall_ne_some]

theorem day?_eq_none_iff : day? word = none ↔ ¬ Counts 31 word := by
  rw [← exists_day?_iff, not_exists, Option.eq_none_iff_forall_ne_some]

theorem slot?_eq_none_iff : slot? table word = none ↔ word ∉ table.slots := by
  rw [slot?, SlotTable.contains, ite_eq_right_iff, List.contains_iff_mem]
  simp

end Fields

section Readings

variable {table : SlotTable} {text : String} {marker : Marker} {error : MarkerError}

theorem read_eq_ok_iff_written : read table text = .ok marker ↔ Written table marker text := by
  rw [read_eq_ok_iff]
  simp only [month?_eq_some_iff, day?_eq_some_iff, slot?_eq_some_iff, Numeral.read32_eq_some_iff,
    Text.words_eq_iff_spaced, Text.spaced_three_iff]
  constructor
  · rintro ⟨month, day, _, ⟨⟨-, -, hsolid⟩, front, between, behind, back, hfront, hbetween,
      hbehind, hback, htext⟩, ⟨hmonth, hmonths⟩, ⟨hday, hdays⟩, rfl, hslot⟩
    rw [String.toList_inj] at htext
    rw [htext]
    exact .layout hfront hmonth hmonths hbetween hday hdays hbehind ⟨hslot, hsolid⟩ hback
  · rintro ⟨hfront, hmonth, hmonths, hbetween, hday, hdays, hbehind, hslot, hback⟩
    exact ⟨_, _, _, ⟨⟨hmonth.solid, hday.solid, hslot.2⟩, _, _, _, _, hfront, hbetween, hbehind,
      hback, rfl⟩, ⟨hmonth, hmonths⟩, ⟨hday, hdays⟩, rfl, hslot.1⟩

theorem read_eq_error_iff_blames {month day slot : String}
    (hwords : Text.words text = [month, day, slot]) :
    read table text = .error error ↔ Blames table month day slot error := by
  simp only [read, hwords]
  constructor
  · intro hread
    split at hread
    · rename_i hmonth
      cases hread
      exact .month (month?_eq_none_iff.mp hmonth)
    · rename_i hmonth
      split at hread
      · rename_i hday
        cases hread
        exact .day (exists_month?_iff.mp ⟨_, hmonth⟩) (day?_eq_none_iff.mp hday)
      · rename_i hday
        split at hread
        · rename_i hslot
          cases hread
          exact .slot (exists_month?_iff.mp ⟨_, hmonth⟩) (exists_day?_iff.mp ⟨_, hday⟩)
            (slot?_eq_none_iff.mp hslot)
        · cases hread
  · intro hblames
    cases hblames with
    | month hmonth => simp only [month?_eq_none_iff.mpr hmonth]
    | day hmonth hday =>
        obtain ⟨m, hm⟩ := exists_month?_iff.mpr hmonth
        simp only [hm, day?_eq_none_iff.mpr hday]
    | slot hmonth hday hslot =>
        obtain ⟨m, hm⟩ := exists_month?_iff.mpr hmonth
        obtain ⟨d, hd⟩ := exists_day?_iff.mpr hday
        simp only [hm, hd, slot?_eq_none_iff.mpr hslot]

theorem read_eq_error_iff : read table text = .error error ↔
    (Text.words text).length ≠ 3 ∧ error = .shape text ∨
    ∃ month day slot, Text.words text = [month, day, slot] ∧
      Blames table month day slot error := by
  by_cases hlength : (Text.words text).length = 3
  · obtain ⟨month, day, slot, hwords⟩ := List.length_eq_three.mp hlength
    rw [read_eq_error_iff_blames hwords]
    simp [hwords]
  · have hshape : read table text = .error (.shape text) := by
      rw [read]
      split
      · rename_i hwords
        exact absurd (congrArg List.length hwords) hlength
      · rfl
    rw [hshape]
    constructor
    · rintro ⟨⟩
      exact .inl ⟨hlength, rfl⟩
    · rintro (⟨-, rfl⟩ | ⟨month, day, slot, hwords, -⟩)
      · rfl
      · exact absurd (congrArg List.length hwords) hlength

end Readings

/-- A text is read as a marker when it is written so, and as no other. A text that does not consist
of three words is refused as a whole, and any other for the first of its words that does not fit. -/
theorem read_eq_iff_grammar (table : SlotTable) (text : String) :
    (∀ marker, read table text = .ok marker ↔ Written table marker text) ∧
    (∀ error, read table text = .error error ↔
      (∀ words, Text.Spaced words text.toList → words.length ≠ 3) ∧ error = .shape text ∨
      ∃ month day slot, Text.Spaced [month, day, slot] text.toList ∧
        Blames table month day slot error) ∧
    ∀ marker, (marker.slot = "" ∨ ∃ c ∈ marker.slot.toList, Text.isBlank c = true) →
      read table text ≠ .ok marker := by
  refine ⟨fun _ => read_eq_ok_iff_written, ?_, ?_⟩
  · intro error
    simp only [← Text.words_eq_iff_spaced, forall_eq']
    exact read_eq_error_iff
  · intro marker hslot hread
    obtain ⟨-, -, -, -, -, -, -, ⟨-, hne, hsolid⟩, -⟩ := read_eq_ok_iff_written.mp hread
    rcases hslot with hempty | ⟨c, hc, hblank⟩
    · exact hne hempty
    · rw [hsolid c hc] at hblank
      cases hblank

theorem read_paddedMarker :
    read .standard "\t07\u3000+15  夕\n" = .ok ⟨7, 15, "夕"⟩ ∧
    read .standard "4294967303 40 夕" = .error (.month "4294967303") ∧
    read ⟨["", "夕"]⟩ "7 15" ≠ .ok ⟨7, 15, ""⟩ := by
  refine ⟨?_, ?_, ?_⟩
  · have hwritten : Written .standard ⟨7, 15, "夕"⟩
        ("\t" ++ "07" ++ "\u3000" ++ "+15" ++ "  " ++ "夕" ++ "\n") :=
      .layout (by decide) (.plain 1) (by decide) (by decide) (.signed 0) (by decide) (by decide)
        (by decide) (by decide)
    have hjoin : "\t" ++ "07" ++ "\u3000" ++ "+15" ++ "  " ++ "夕" ++ "\n" =
        "\t07\u3000+15  夕\n" := by decide
    rw [hjoin] at hwritten
    exact ((read_eq_iff_grammar _ _).1 _).mpr hwritten
  · have hwords : Text.Spaced ["4294967303", "40", "夕"] "4294967303 40 夕".toList :=
      Text.words_eq_iff_spaced.mp (by decide +kernel)
    refine ((read_eq_iff_grammar _ _).2.1 _).mpr (.inr ⟨_, _, _, hwords, .month ?_⟩)
    exact month?_eq_none_iff.mp (by decide +kernel)
  · exact (read_eq_iff_grammar _ _).2.2 _ (.inl rfl)

end VisualNovel.Marker
