import VisualNovel.Event.Source
import VisualNovel.Proofs.Datum.Loose
import VisualNovel.Proofs.Event.RoundTrip

namespace VisualNovel

open Datum

/-- The file holds a list of entries and nothing that could not be read. -/
def Document.Lists (text : String) (entries : List Datum) : Prop :=
  ∃ implicitSome, Document.read text = some ⟨implicitSome, .list entries⟩ ∧
    (Datum.list entries).isPlain = true

theorem Document.lists_write {entries : List Datum}
    (h : ∀ entry ∈ entries, entry.Readable (Scan.stepLimit - 2)) :
    Document.Lists (Datum.list entries).write entries := by
  have hlist : (Datum.list entries).Readable Scan.stepLimit := .list h
  exact ⟨false, Document.read_write hlist, hlist.isPlain⟩

section Entries

variable {α Row : Type}

/-- The rows that entries say, in order. An entry that says none is passed over. -/
inductive RowsOf (Says : α → Row → Prop) : List α → List Row → Prop
  | nil : RowsOf Says [] []
  | kept {entry : α} {row : Row} {entries : List α} {rows : List Row} (h : Says entry row)
      (hrest : RowsOf Says entries rows) : RowsOf Says (entry :: entries) (row :: rows)
  | passed {entry : α} {entries : List α} {rows : List Row} (h : ∀ row, ¬ Says entry row)
      (hrest : RowsOf Says entries rows) : RowsOf Says (entry :: entries) rows

/-- The second list is the first with elements of a kind put in anywhere. -/
inductive MixedIn (kind : α → Prop) : List α → List α → Prop
  | nil : MixedIn kind [] []
  | kept (entry : α) {entries others : List α} (hrest : MixedIn kind entries others) :
      MixedIn kind (entry :: entries) (entry :: others)
  | added {entry : α} {entries others : List α} (h : kind entry)
      (hrest : MixedIn kind entries others) : MixedIn kind entries (entry :: others)

variable {read : α → Option Row} {Says : α → Row → Prop}
  (hread : ∀ entry row, read entry = some row ↔ Says entry row)
include hread

theorem read_eq_none_iff {entry : α} : read entry = none ↔ ∀ row, ¬ Says entry row := by
  simp only [Option.eq_none_iff_forall_ne_some, ne_eq, hread]

theorem filterMap_eq_iff_rowsOf {entries : List α} {rows : List Row} :
    entries.filterMap read = rows ↔ RowsOf Says entries rows := by
  constructor
  · rintro rfl
    induction entries with
    | nil => exact .nil
    | cons entry entries ih =>
        cases hentry : read entry with
        | none =>
            rw [List.filterMap_cons_none hentry]
            exact .passed ((read_eq_none_iff hread).mp hentry) ih
        | some row =>
            rw [List.filterMap_cons_some hentry]
            exact .kept ((hread entry row).mp hentry) ih
  · intro hrows
    induction hrows with
    | nil => rfl
    | kept hentry _ ih => rw [List.filterMap_cons_some ((hread _ _).mpr hentry), ih]
    | passed hentry _ ih => rw [List.filterMap_cons_none ((read_eq_none_iff hread).mpr hentry), ih]

theorem MixedIn.filterMap_eq {entries others : List α}
    (h : MixedIn (fun entry => ∀ row, ¬ Says entry row) entries others) :
    others.filterMap read = entries.filterMap read := by
  induction h with
  | nil => rfl
  | kept entry _ ih => rw [List.filterMap_cons, List.filterMap_cons, ih]
  | added hentry _ ih => rw [List.filterMap_cons_none ((read_eq_none_iff hread).mpr hentry), ih]

end Entries

theorem rowsOfText?_eq_some_iff {Row : Type} {ofDatum? : Datum → Option Row} {text : String}
    {rows : List Row} : rowsOfText? ofDatum? text = some rows ↔
      ∃ entries, Document.Lists text entries ∧ entries.filterMap ofDatum? = rows := by
  constructor
  · intro h
    obtain ⟨⟨implicitSome, root⟩, hread, h⟩ := Option.bind_eq_some_iff.mp h
    cases root with
    | list entries =>
        obtain ⟨hplain, h⟩ := Option.ite_none_right_eq_some.mp h
        exact ⟨entries, ⟨implicitSome, hread, hplain⟩, Option.some.inj h⟩
    | _ => cases h
  · rintro ⟨entries, ⟨implicitSome, hread, hplain⟩, rfl⟩
    rw [rowsOfText?, hread]
    exact if_pos hplain

def Date.SaidBy (fields : List (String × Datum)) (date : Date) : Prop :=
  Gives fields "year" none IsCount date.year ∧ Gives fields "month" none IsCount date.month ∧
    Gives fields "day" none IsCount date.day

/-- A date is complete with year, month and day. -/
abbrev Datum.IsDate : Datum → Date → Prop :=
  IsRecord ["year", "month", "day"] Date.SaidBy

theorem Date.ofDatum?_eq_some_iff {datum : Datum} {date : Date} :
    Date.ofDatum? datum = some date ↔ IsDate datum date := by
  rw [Date.ofDatum?]
  refine bind_looseFields?_eq_some_iff (by decide) (fun found fields hlookup => ?_)
    (fun fields date => ?_)
  · simp only [looseFieldOr?, hlookup]
  · simp only [Option.bind_eq_bind, Option.bind_eq_some_iff,
      looseFieldOr?_eq_some_iff fun _ _ => looseCount?_eq_some_iff]
    constructor
    · rintro ⟨year, hyear, month, hmonth, day, hday, ⟨⟩⟩
      exact ⟨hyear, hmonth, hday⟩
    · rintro ⟨hyear, hmonth, hday⟩
      exact ⟨_, hyear, _, hmonth, _, hday, rfl⟩

def Moment.SaidBy (fields : List (String × Datum)) (moment : Moment) : Prop :=
  Gives fields "date" none IsDate moment.date ∧ Gives fields "slot" none IsText moment.slot

/-- A moment is complete with a date and a slot. -/
abbrev Datum.IsMoment : Datum → Moment → Prop :=
  IsRecord ["date", "slot"] Moment.SaidBy

theorem Moment.ofDatum?_eq_some_iff {datum : Datum} {moment : Moment} :
    Moment.ofDatum? datum = some moment ↔ IsMoment datum moment := by
  rw [Moment.ofDatum?]
  refine bind_looseFields?_eq_some_iff (by decide) (fun found fields hlookup => ?_)
    (fun fields moment => ?_)
  · simp only [looseFieldOr?, hlookup]
  · simp only [Option.bind_eq_bind, Option.bind_eq_some_iff,
      looseFieldOr?_eq_some_iff fun _ _ => Date.ofDatum?_eq_some_iff,
      looseFieldOr?_eq_some_iff fun _ _ => looseText?_eq_some_iff]
    constructor
    · rintro ⟨date, hdate, slot, hslot, ⟨⟩⟩
      exact ⟨hdate, hslot⟩
    · rintro ⟨hdate, hslot⟩
      exact ⟨_, hdate, _, hslot, rfl⟩

namespace Progress

/-- What fields say about an event. Its id they have to give; what else they leave out is as if
nobody had played the event. -/
structure SaidBy (fields : List (String × Datum)) (row : Progress) : Prop where
  id : Gives fields "id" none IsText row.id
  completionCount : Gives fields "completion_count" (some 0) IsCount row.completionCount
  active : Gives fields "active" (some true) IsTruth row.active
  lastPlayed : Gives fields "last_executed_at" (some none) (IsOption IsMoment) row.lastPlayed

theorem saidBy_congr {fields others : List (String × Datum)} {row : Progress}
    (hsame : ∀ name ∈ fieldNames, ∀ datum, IsLastWith Prod.fst others (name, datum) ↔
      IsLastWith Prod.fst fields (name, datum)) : row.SaidBy others ↔ row.SaidBy fields := by
  have hgives {α : Type} {name : String} (hname : name ∈ fieldNames) {default : Option α}
      {Says : Datum → α → Prop} {value : α} :
      Gives others name default Says value ↔ Gives fields name default Says value :=
    gives_congr (hsame name hname)
  constructor
  · rintro ⟨hid, hcount, hactive, hlast⟩
    exact ⟨(hgives (by decide)).mp hid, (hgives (by decide)).mp hcount,
      (hgives (by decide)).mp hactive, (hgives (by decide)).mp hlast⟩
  · rintro ⟨hid, hcount, hactive, hlast⟩
    exact ⟨(hgives (by decide)).mpr hid, (hgives (by decide)).mpr hcount,
      (hgives (by decide)).mpr hactive, (hgives (by decide)).mpr hlast⟩

end Progress

abbrev Datum.IsProgress : Datum → Progress → Prop :=
  IsRecord Progress.fieldNames Progress.SaidBy

theorem Progress.ofDatum?_eq_some_iff {datum : Datum} {row : Progress} :
    Progress.ofDatum? datum = some row ↔ IsProgress datum row := by
  rw [Progress.ofDatum?]
  refine bind_looseFields?_eq_some_iff (by decide) (fun found fields hlookup => ?_)
    (fun fields row => ?_)
  · simp only [looseFieldOr?, hlookup]
  · simp only [Option.bind_eq_bind, Option.bind_eq_some_iff,
      looseFieldOr?_eq_some_iff fun _ _ => looseText?_eq_some_iff,
      looseFieldOr?_eq_some_iff fun _ _ => looseCount?_eq_some_iff,
      looseFieldOr?_eq_some_iff fun _ _ => looseTruth?_eq_some_iff,
      looseFieldOr?_eq_some_iff fun _ _ =>
        looseOption?_eq_some_iff fun _ _ => Moment.ofDatum?_eq_some_iff]
    constructor
    · rintro ⟨id, hid, count, hcount, active, hactive, last, hlast, ⟨⟩⟩
      exact ⟨hid, hcount, hactive, hlast⟩
    · rintro ⟨hid, hcount, hactive, hlast⟩
      exact ⟨_, hid, _, hcount, _, hactive, _, hlast, rfl⟩

theorem Progress.listOfText?_eq_some_iff {text : String} {rows : List Progress} :
    Progress.listOfText? text = some rows ↔
      ∃ entries, Document.Lists text entries ∧ RowsOf IsProgress entries rows := by
  simp only [Progress.listOfText?, rowsOfText?_eq_some_iff,
    filterMap_eq_iff_rowsOf fun _ _ => Progress.ofDatum?_eq_some_iff]

namespace Progress

/-- A file of progress rows holds the rows of those entries that are rows, in order. Entries that
are none can be put in and taken out anywhere, and the rows of the others stay. An entry of named
fields is a row if the last field of each name that is asked for holds what it should, be there
other names or not, and only the id has to be there; the row has what these fields hold. -/
theorem corrupt_entries_are_isolated :
    (∀ entry row, ofDatum? entry = some row ↔ IsProgress entry row) ∧
    (∀ text rows, listOfText? text = some rows ↔
      ∃ entries, Document.Lists text entries ∧ RowsOf IsProgress entries rows) ∧
    (∀ text other entries others, Document.Lists text entries → Document.Lists other others →
      MixedIn (fun entry => ∀ row, ¬ IsProgress entry row) entries others →
      ∃ rows, listOfText? text = some rows ∧ listOfText? other = some rows) ∧
    ∀ entry fields, NamedFields entry fields →
      ((∃ row, IsProgress entry row) ↔
        (∃ datum id, IsLastWith Prod.fst fields ("id", datum) ∧ IsText datum id) ∧
        (∀ datum, IsLastWith Prod.fst fields ("completion_count", datum) →
          ∃ count, IsCount datum count) ∧
        (∀ datum, IsLastWith Prod.fst fields ("active", datum) → ∃ active, IsTruth datum active) ∧
        ∀ datum, IsLastWith Prod.fst fields ("last_executed_at", datum) →
          ∃ last, IsOption IsMoment datum last) ∧
      (∀ row, IsProgress entry row ↔ row.SaidBy fields) ∧
      ∀ other others, NamedFields other others →
        (∀ name ∈ fieldNames, ∀ datum, IsLastWith Prod.fst others (name, datum) ↔
          IsLastWith Prod.fst fields (name, datum)) →
        ∀ row, IsProgress other row ↔ IsProgress entry row := by
  refine ⟨fun _ _ => ofDatum?_eq_some_iff, fun _ _ => listOfText?_eq_some_iff, ?_, ?_⟩
  · intro text other entries others htext hother hmixed
    refine ⟨entries.filterMap ofDatum?, ?_, ?_⟩
    · exact rowsOfText?_eq_some_iff.mpr ⟨entries, htext, rfl⟩
    · exact rowsOfText?_eq_some_iff.mpr
        ⟨others, hother, hmixed.filterMap_eq fun _ _ => ofDatum?_eq_some_iff⟩
  · intro entry fields hfields
    refine ⟨?_, fun row => hfields.isRecord_iff, ?_⟩
    · rw [← exists_gives_none_iff, ← exists_gives_some_iff 0, ← exists_gives_some_iff true,
        ← exists_gives_some_iff none]
      simp only [hfields.isRecord_iff]
      constructor
      · rintro ⟨row, hid, hcount, hactive, hlast⟩
        exact ⟨⟨_, hid⟩, ⟨_, hcount⟩, ⟨_, hactive⟩, ⟨_, hlast⟩⟩
      · rintro ⟨⟨id, hid⟩, ⟨count, hcount⟩, ⟨active, hactive⟩, ⟨last, hlast⟩⟩
        exact ⟨⟨id, count, active, last⟩, hid, hcount, hactive, hlast⟩
    · intro other others hothers hsame row
      exact hothers.isRecord_iff.trans ((saidBy_congr hsame).trans hfields.isRecord_iff.symm)

/-- An entry with a field given twice. -/
def lake : Datum :=
  .record none [("id", .text "lake"), ("completion_count", .ofCount 2), ("active", .truth false),
    ("completion_count", .ofCount 3)]

/-- An entry in an order of its own, with a field that nobody asks for. -/
def cave : Datum :=
  .record none [("last_executed_at", .present (.record none [("slot", .text "noon"),
    ("date", .list [.ofCount 1, .ofCount 8, .ofCount 3])])), ("mood", .absent),
    ("id", .text "cave")]

/-- An entry whose count is no number. -/
def manyTimes : Datum :=
  .record none [("id", .text "roof"), ("completion_count", .text "many")]

def nameless : Datum :=
  .record none [("active", .truth true)]

theorem readable_entries : ∀ entry ∈ [manyTimes, lake, nameless, cave],
    entry.Readable (Scan.stepLimit - 2) := by
  have hdate : (Datum.list [.ofCount 1, .ofCount 8, .ofCount 3]).Readable 121 := by
    refine .list ?_
    simp only [List.mem_cons, List.not_mem_nil, or_false, forall_eq_or_imp, forall_eq]
    exact ⟨readable_ofCount _ 1, readable_ofCount _ 8, readable_ofCount _ 3⟩
  have hmoment : (Datum.record none [("slot", .text "noon"),
      ("date", .list [.ofCount 1, .ofCount 8, .ofCount 3])]).Readable 123 := by
    refine .record (by simp) (by decide) ?_
    simp only [List.mem_cons, List.not_mem_nil, or_false, forall_eq_or_imp, forall_eq]
    exact ⟨.text _, hdate⟩
  simp only [List.mem_cons, List.not_mem_nil, or_false, forall_eq_or_imp, forall_eq]
  refine ⟨?_, ?_, ?_, ?_⟩ <;> refine .record (by simp) (by decide) ?_ <;>
    simp only [List.mem_cons, List.not_mem_nil, or_false, forall_eq_or_imp, forall_eq]
  · exact ⟨.text _, .text _⟩
  · exact ⟨.text _, readable_ofCount _ 2, .truth _, readable_ofCount _ 3⟩
  · exact .truth _
  · exact ⟨.present hmoment, .absent, .text _⟩

/-- Two rows stay with a corrupt entry put before them and another between them. -/
theorem lake_and_cave_survive_corrupt_entries :
    ∃ rows, rows = [⟨"lake", 3, false, none⟩, ⟨"cave", 0, true, some ⟨⟨1, 8, 3⟩, "noon"⟩⟩] ∧
      listOfText? (Datum.list [lake, cave]).write = some rows ∧
      listOfText? (Datum.list [manyTimes, lake, nameless, cave]).write = some rows := by
  obtain ⟨hentry, hrows, hmixed, -⟩ := corrupt_entries_are_isolated
  have hmany : ∀ row, ¬ IsProgress manyTimes row := by
    intro row hrow
    cases ((hentry manyTimes row).mpr hrow).symm.trans (by decide +kernel : _ = none)
  have hnameless : ∀ row, ¬ IsProgress nameless row := by
    intro row hrow
    cases ((hentry nameless row).mpr hrow).symm.trans (by decide +kernel : _ = none)
  have hsay : RowsOf IsProgress [lake, cave]
      [⟨"lake", 3, false, none⟩, ⟨"cave", 0, true, some ⟨⟨1, 8, 3⟩, "noon"⟩⟩] :=
    .kept ((hentry _ _).mp (by decide +kernel)) (.kept ((hentry _ _).mp (by decide +kernel)) .nil)
  have hgood : Document.Lists (Datum.list [lake, cave]).write [lake, cave] :=
    Document.lists_write fun entry hentry => readable_entries entry (by grind)
  obtain ⟨rows, hbefore, hafter⟩ := hmixed _ _ _ _ hgood (Document.lists_write readable_entries)
    (.added hmany (.kept _ (.added hnameless (.kept _ .nil))))
  have htext := (hrows _ _).mpr ⟨_, hgood, hsay⟩
  exact ⟨rows, Option.some.inj (hbefore.symm.trans htext), hbefore, hafter⟩

end Progress

end VisualNovel
