import VisualNovel.Event.Printer
import VisualNovel.Event.Source
import VisualNovel.Proofs.Datum.RoundTrip

namespace VisualNovel

theorem toNat_lt_size64 (count : UInt32) : count.toNat < UInt64.size :=
  Nat.lt_trans count.toNat_lt (by decide)

theorem Datum.readable_ofCount (steps : Nat) (count : UInt32) :
    (Datum.ofCount count).Readable steps :=
  .number (toNat_lt_size64 count)

theorem Date.readable_toDatum (date : Date) (steps : Nat) :
    date.toDatum.Readable (steps + 2) := by
  refine .record (by simp) (by simp [Scan.isFieldName, Scan.isNameStart, Scan.isNameChar]) ?_
  intro part hpart
  simp only [List.mem_cons, List.not_mem_nil, or_false] at hpart
  rcases hpart with rfl | rfl | rfl <;> exact Datum.readable_ofCount steps _

theorem Moment.readable_toDatum (moment : Moment) (steps : Nat) :
    moment.toDatum.Readable (steps + 4) := by
  refine .record (by simp) (by simp [Scan.isFieldName, Scan.isNameStart, Scan.isNameChar]) ?_
  intro part hpart
  simp only [List.mem_cons, List.not_mem_nil, or_false] at hpart
  rcases hpart with rfl | rfl
  · exact moment.date.readable_toDatum steps
  · exact .text moment.slot

theorem Datum.looseCount?_ofCount (count : UInt32) :
    (Datum.ofCount count).looseCount? = some count := by
  have hfits : (some (count.toNat : Int)).filter (fun n : Int => 0 ≤ n ∧ n.toNat < UInt32.size) =
      some (count.toNat : Int) := by
    rw [Option.filter_some, if_pos (by simp [count.toNat_lt_size])]
  rw [ofCount, looseCount?, Integer.read_write (toNat_lt_size64 count), hfits]
  simp

theorem Date.ofDatum?_toDatum (date : Date) : Date.ofDatum? date.toDatum = some date := by
  simp [Date.ofDatum?, Date.toDatum, Datum.looseFields?, Datum.looseFieldOr?, List.lookup_cons,
    Datum.looseCount?_ofCount]

theorem Moment.ofDatum?_toDatum (moment : Moment) :
    Moment.ofDatum? moment.toDatum = some moment := by
  simp [Moment.ofDatum?, Moment.toDatum, Datum.looseFields?, Datum.looseFieldOr?, List.lookup_cons,
    Date.ofDatum?_toDatum, Datum.looseText?]

namespace Progress

theorem readable_toDatum (row : Progress) (steps : Nat) : row.toDatum.Readable (steps + 7) := by
  refine .record (by simp) (by simp [Scan.isFieldName, Scan.isNameStart, Scan.isNameChar]) ?_
  intro part hpart
  simp only [List.mem_cons, List.not_mem_nil, or_false] at hpart
  rcases hpart with rfl | rfl | rfl | rfl
  · exact .text row.id
  · exact Datum.readable_ofCount _ row.completionCount
  · exact .truth row.active
  · cases row.lastPlayed with
    | none => exact .absent
    | some moment => exact .present (moment.readable_toDatum steps)

theorem ofDatum?_toDatum (row : Progress) : ofDatum? row.toDatum = some row := by
  have hlast : (Datum.ofOption Moment.toDatum row.lastPlayed).looseOption? Moment.ofDatum? =
      some row.lastPlayed := by
    cases row.lastPlayed with
    | none => rfl
    | some moment =>
        simp [Datum.ofOption, Datum.looseOption?, Moment.ofDatum?_toDatum]
  -- The reader looks the fields up from the last one on.
  have hfields : row.toDatum.looseFields? fieldNames = some [
      ("last_executed_at", .ofOption Moment.toDatum row.lastPlayed),
      ("active", .truth row.active), ("completion_count", .ofCount row.completionCount),
      ("id", .text row.id)] := rfl
  rw [ofDatum?, hfields]
  simp only [Datum.looseFieldOr?, List.lookup_cons, String.reduceBEq, Datum.looseText?,
    Datum.looseCount?_ofCount, Datum.looseTruth?, hlast, Option.bind_eq_bind, Option.bind_some]
  rfl

/-- What is saved is what is loaded: all rows, in their order, whatever texts and numbers they
hold. -/
theorem listOfText?_writeList (rows : List Progress) :
    listOfText? (writeList rows) = some rows := by
  have hreadable : (Datum.list (rows.map toDatum)).Readable Scan.stepLimit := by
    refine Datum.Readable.list fun item hitem => ?_
    obtain ⟨row, -, rfl⟩ := List.mem_map.mp hitem
    exact row.readable_toDatum 119
  have hrows : (rows.map toDatum).filterMap ofDatum? = rows := by
    have hrow : ofDatum? ∘ toDatum = some := funext ofDatum?_toDatum
    rw [List.filterMap_map, hrow, List.filterMap_some]
  rw [listOfText?, rowsOfText?, writeList, Document.read_write hreadable]
  simp [hreadable.isPlain, hrows]

end Progress

end VisualNovel
