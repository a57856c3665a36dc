import Mathlib.Data.List.Perm.Basic
import VisualNovel.Proofs.EventTable.Progress
import VisualNovel.Proofs.EventTable.Run

namespace VisualNovel

/-- The row stands in the list, and behind it no other row with its key. -/
def IsLastWith {Row : Type} (key : Row → String) (rows : List Row) (row : Row) : Prop :=
  ∃ before after, rows = before ++ row :: after ∧ ∀ later ∈ after, key later ≠ key row

theorem isLastWith_iff_find? {Row : Type} {key : Row → String} {rows : List Row} {row : Row} :
    IsLastWith key rows row ↔ rows.reverse.find? (key · == key row) = some row := by
  rw [List.find?_eq_some_iff_append]
  constructor
  · rintro ⟨before, after, rfl, hafter⟩
    refine ⟨by simp, after.reverse, before.reverse, by simp, ?_⟩
    simpa using hafter
  · rintro ⟨-, after, before, hrows, hafter⟩
    refine ⟨before.reverse, after.reverse, ?_, by simpa using hafter⟩
    simpa using congrArg List.reverse hrows

namespace Progress

variable {id : String} {rows others : List Progress}

theorem lastOf_of_isLastWith {progress : Progress} (h : IsLastWith Progress.id rows progress) :
    lastOf progress.id rows = progress := by
  rw [lastOf, isLastWith_iff_find?.mp h, Option.getD_some]

theorem lastOf_eq_fresh (h : ∀ progress ∈ rows, progress.id ≠ id) :
    lastOf id rows = .fresh id := by
  have hnone : rows.reverse.find? (·.id == id) = none := by simpa using h
  rw [lastOf, hnone, Option.getD_none]

theorem lastOf_congr (h : others.filter (·.id == id) = rows.filter (·.id == id)) :
    lastOf id others = lastOf id rows := by
  rw [lastOf, lastOf, ← List.getLast?_filter, ← List.getLast?_filter, h]

theorem filter_eq_of_perm (hperm : others.Perm rows) (hnodup : (rows.map Progress.id).Nodup)
    (id : String) : others.filter (·.id == id) = rows.filter (·.id == id) := by
  have hpairwise : rows.Pairwise (·.id ≠ ·.id) := List.pairwise_map.mp hnodup
  have hothers : others.Pairwise (·.id ≠ ·.id) :=
    List.pairwise_map.mp ((hperm.map Progress.id).nodup_iff.mpr hnodup)
  refine (hperm.filter _).eq_of_pairwise ?_ (hothers.filter _) (hpairwise.filter _)
  intro first second hfirst hsecond hne _
  have hfirstid : first.id = id := by simpa using (List.mem_filter.mp hfirst).2
  have hsecondid : second.id = id := by simpa using (List.mem_filter.mp hsecond).2
  exact absurd (hfirstid.trans hsecondid.symm) hne

end Progress

namespace EventTable

/-- The table of a catalog, with all events fresh. -/
def ofCatalog (slots : SlotTable) (catalog : List CatalogRow) : EventTable :=
  catalog.foldl addRow (empty slots)

theorem ofCatalog_concat (slots : SlotTable) (catalog : List CatalogRow) (row : CatalogRow) :
    ofCatalog slots (catalog ++ [row]) = (ofCatalog slots catalog).addRow row := by
  simp [ofCatalog]

theorem indexed_ofCatalog (slots : SlotTable) (catalog : List CatalogRow) :
    (ofCatalog slots catalog).Indexed :=
  List.foldlRecOn (motive := Indexed) catalog _ (indexed_empty slots) fun _ h row _ => h.addRow row

theorem load_eq (table : EventTable) (catalog : List CatalogRow) (rows : List Progress) :
    table.load catalog rows = (ofCatalog table.slots catalog).applyProgress rows := rfl

section AddRow

variable {table : EventTable}

theorem slots_addRow (table : EventTable) (row : CatalogRow) :
    (table.addRow row).slots = table.slots := by
  rw [addRow]
  split <;> rfl

theorem Indexed.ids_addRow (h : table.Indexed) (row : CatalogRow) :
    (table.addRow row).events.toList.map Event.id =
      if row.id ∈ table.events.toList.map Event.id then table.events.toList.map Event.id
      else table.events.toList.map Event.id ++ [row.id] := by
  cases hindex : table.index[row.id]? with
  | none =>
      have hnew : row.id ∉ table.events.toList.map Event.id := by
        rw [← h.mem_keys_iff, Std.ExtTreeMap.mem_keys, ← Std.ExtTreeMap.isSome_getElem?_iff_mem,
          hindex]
        simp
      rw [if_neg hnew, EventTable.addRow, hindex]
      simp
  | some i =>
      obtain ⟨event, hevent, hid⟩ := (h.index_eq_some_iff row.id i).mp hindex
      have hplace : (table.events.toList.map Event.id)[i]? = some row.id := by
        simp [hevent, hid]
      rw [if_pos (List.mem_of_getElem? hplace), EventTable.addRow, hindex]
      simp only [Array.toList_setIfInBounds, List.map_set, Event.ofRow_id]
      rw [List.getElem?_eq_some_iff] at hplace
      obtain ⟨hi, hplace⟩ := hplace
      rw [← hplace, List.set_getElem_self]

theorem Indexed.find?_addRow (h : table.Indexed) (row : CatalogRow) (id : String) :
    (table.addRow row).find? id =
      if row.id = id then some (Event.ofRow table.slots row) else table.find? id := by
  have hadded := h.addRow row
  cases hindex : table.index[row.id]? with
  | none =>
      by_cases hid : row.id = id
      · rw [if_pos hid, hadded.find?_eq_some_iff, EventTable.addRow, hindex]
        simp [hid]
      · have hcompare : compare row.id id ≠ .eq := by simpa using hid
        rw [if_neg hid, EventTable.addRow, hindex, find?, find?, Std.ExtTreeMap.getElem?_insert,
          if_neg hcompare]
        apply Option.bind_congr
        intro i hi
        obtain ⟨event, hevent, -⟩ := (h.index_eq_some_iff id i).mp hi
        have hlt : i < table.events.size := (Array.getElem?_eq_some_iff.mp hevent).1
        rw [Array.getElem?_push, if_neg (Nat.ne_of_lt hlt)]
  | some place =>
      obtain ⟨event, hevent, hevid⟩ := (h.index_eq_some_iff row.id place).mp hindex
      have hlt : place < table.events.size := (Array.getElem?_eq_some_iff.mp hevent).1
      by_cases hid : row.id = id
      · subst hid
        rw [if_pos rfl, EventTable.addRow, hindex, find?, hindex]
        simp [hlt]
      · rw [if_neg hid, EventTable.addRow, hindex, find?, find?]
        apply Option.bind_congr
        intro i hi
        obtain ⟨other, hother, hotherid⟩ := (h.index_eq_some_iff id i).mp hi
        have hne : place ≠ i := by
          rintro rfl
          rw [hevent] at hother
          cases hother
          exact hid (hevid.symm.trans hotherid)
        simp [hne]

end AddRow

@[simp] theorem slots_ofCatalog (slots : SlotTable) (catalog : List CatalogRow) :
    (ofCatalog slots catalog).slots = slots :=
  List.foldlRecOn (motive := fun table : EventTable => table.slots = slots) catalog _ rfl
    fun table h row _ => (slots_addRow table row).trans h

theorem ids_ofCatalog (slots : SlotTable) (catalog : List CatalogRow) :
    (ofCatalog slots catalog).events.toList.map Event.id =
      (catalog.map CatalogRow.id).eraseDups := by
  -- The table grows with the last row, so the catalog is taken apart from its end.
  induction catalog using List.reverseRecOn with
  | nil => rfl
  | append_singleton catalog row ih =>
      rw [ofCatalog_concat, (indexed_ofCatalog slots catalog).ids_addRow, ih, List.map_append,
        List.eraseDups_append]
      by_cases hid : row.id ∈ catalog.map CatalogRow.id
      · have hremoved : [row.id].removeAll (catalog.map CatalogRow.id) = [] := by
          simpa [List.removeAll] using hid
        rw [if_pos (List.mem_eraseDups.mpr hid), List.map_singleton, hremoved]
        simp
      · have hkept : [row.id].removeAll (catalog.map CatalogRow.id) = [row.id] := by
          simpa [List.removeAll] using hid
        rw [if_neg (fun h => hid (List.mem_eraseDups.mp h)), List.map_singleton, hkept]
        simp [List.eraseDups_cons]

theorem find?_ofCatalog (slots : SlotTable) (catalog : List CatalogRow) (id : String) :
    (ofCatalog slots catalog).find? id =
      (catalog.reverse.find? (·.id == id)).map (Event.ofRow slots) := by
  induction catalog using List.reverseRecOn with
  | nil => simp [ofCatalog, empty, find?]
  | append_singleton catalog row ih =>
      rw [ofCatalog_concat, (indexed_ofCatalog slots catalog).find?_addRow, ih, slots_ofCatalog]
      by_cases hid : row.id = id
      · simp [hid]
      · simp [hid]

theorem Indexed.applyProgress_congr {table : EventTable} (h : table.Indexed)
    {rows others : List Progress}
    (hsame : ∀ event ∈ table.events,
      Progress.lastOf event.id others = Progress.lastOf event.id rows) :
    table.applyProgress others = table.applyProgress rows := by
  rw [h.applyProgress_eq, h.applyProgress_eq]
  congr 1
  apply Array.map_congr_left
  intro event hevent
  rw [hsame event hevent]

theorem Indexed.applyProgress_applyProgress {table : EventTable} (h : table.Indexed)
    (first second : List Progress) :
    (table.applyProgress first).applyProgress second = table.applyProgress second := by
  rw [(h.applyProgress first).applyProgress_eq, h.applyProgress_eq, h.applyProgress_eq,
    Array.map_map]
  rfl

theorem Indexed.ids_applyProgress {table : EventTable} (h : table.Indexed)
    (rows : List Progress) : (table.applyProgress rows).events.toList.map Event.id =
      table.events.toList.map Event.id := by
  rw [h.applyProgress_eq, Array.toList_map, List.map_map]
  rfl

theorem find?_load (table : EventTable) (catalog : List CatalogRow) (rows : List Progress)
    (id : String) : (table.load catalog rows).find? id =
      (catalog.reverse.find? (·.id == id)).map fun row =>
        (Event.ofRow table.slots row).withProgress (Progress.lastOf id rows) := by
  rw [load_eq, (indexed_ofCatalog table.slots catalog).find?_applyProgress, find?_ofCatalog,
    Option.map_map]
  rfl

/-- Progress rows count for a loaded table by what they say about the ids of its catalog. -/
theorem load_congr (table : EventTable) (catalog : List CatalogRow) {rows others : List Progress}
    (hsame : ∀ id ∈ catalog.map CatalogRow.id,
      others.filter (·.id == id) = rows.filter (·.id == id)) :
    table.load catalog others = table.load catalog rows := by
  rw [load_eq, load_eq]
  apply (indexed_ofCatalog table.slots catalog).applyProgress_congr
  intro event hevent
  apply Progress.lastOf_congr
  apply hsame
  rw [← List.mem_eraseDups, ← ids_ofCatalog table.slots]
  exact List.mem_map_of_mem (by simpa using hevent)

/-- A loaded table holds what the catalog and the progress rows say, and of the table before nothing
but the slots. Its events have the ids of the catalog, each once, in the order in which they come
first. Each of them has the fields of the last catalog row with its id and the progress of the last
progress row with its id, or none. So rows with other ids do not count, rows may change places with
rows of other ids, and the progress may as well be taken over afterwards. -/
theorem load_takes_last_rows (table : EventTable) (catalog : List CatalogRow)
    (rows : List Progress) {loaded : EventTable} (hloaded : table.load catalog rows = loaded) :
    loaded.slots = table.slots ∧
    loaded.events.toList.map Event.id = (catalog.map CatalogRow.id).eraseDups ∧
    (loaded.events.toList.map Event.id).Nodup ∧
    (∀ row, IsLastWith CatalogRow.id catalog row → ∃ event ∈ loaded.events,
      event.id = row.id ∧ loaded.find? row.id = some event ∧
      event.start = .readLenient table.slots row.start ∧
      event.stop = .readLenient table.slots row.stop ∧
      event.slots = slotSet row.slots ∧ event.heroine = row.heroine ∧
      event.location = row.location ∧ event.title = row.title ∧
      (∀ progress, IsLastWith Progress.id rows progress → progress.id = row.id →
        event.completionCount = progress.completionCount ∧ event.active = progress.active ∧
        event.lastPlayed = progress.lastPlayed) ∧
      ((∀ progress ∈ rows, progress.id ≠ row.id) →
        event.completionCount = 0 ∧ event.active = true ∧ event.lastPlayed = none)) ∧
    table.load catalog (rows.filter fun progress => progress.id ∈ catalog.map CatalogRow.id) =
      loaded ∧
    (∀ others, (∀ id, others.filter (·.id == id) = rows.filter (·.id == id)) →
      table.load catalog others = loaded) ∧
    (∀ others, others.Perm rows → (rows.map Progress.id).Nodup →
      table.load catalog others = loaded) ∧
    (table.load catalog []).applyProgress rows = loaded := by
  have h : loaded.Indexed := hloaded ▸ Indexed.load table catalog rows
  have hcatalog := indexed_ofCatalog table.slots catalog
  have hids : loaded.events.toList.map Event.id = (catalog.map CatalogRow.id).eraseDups := by
    rw [← hloaded, load_eq, hcatalog.ids_applyProgress, ids_ofCatalog]
  subst hloaded
  refine ⟨?_, hids, h.nodup_ids, ?_, ?_, ?_, ?_, ?_⟩
  · rw [load_eq, hcatalog.applyProgress_eq, slots_ofCatalog]
  · intro row hrow
    have hfound : (table.load catalog rows).find? row.id = some
        ((Event.ofRow table.slots row).withProgress (Progress.lastOf row.id rows)) := by
      rw [find?_load, isLastWith_iff_find?.mp hrow, Option.map_some]
    refine ⟨_, (h.find?_eq_some_iff.mp hfound).1, rfl, hfound, rfl, rfl, rfl, rfl, rfl, rfl, ?_, ?_⟩
    · intro progress hprogress hid
      rw [← hid, Progress.lastOf_of_isLastWith hprogress]
      exact ⟨rfl, rfl, rfl⟩
    · intro hnone
      rw [Progress.lastOf_eq_fresh hnone]
      exact ⟨rfl, rfl, rfl⟩
  · apply load_congr
    intro id hid
    rw [List.filter_filter]
    apply List.filter_congr
    intro progress _
    by_cases hsame : progress.id = id
    · simp only [hsame, hid, decide_true, Bool.and_true]
    · simp [hsame]
  · intro others hothers
    exact load_congr table catalog fun id _ => hothers id
  · intro others hperm hnodup
    exact load_congr table catalog fun id _ => Progress.filter_eq_of_perm hperm hnodup id
  · rw [load_eq, load_eq]
    exact hcatalog.applyProgress_applyProgress [] rows

/-- A catalog that has one id twice and a progress file that has both ids twice. -/
def lakeCatalog : List CatalogRow := [
  { id := "lake", start := "7 1 noon", stop := "7 9 noon", slots := "noon", heroine := "Aoi"
    location := "shore", title := "By the lake" },
  { id := "roof", start := "5 1 noon", stop := "5 30 noon", slots := "noon;dusk", heroine := "Ren"
    location := "school", title := "On the roof" },
  { id := "lake", start := "8 1 dusk", stop := "8 31 dusk", slots := " dusk ;", heroine := "Mio"
    location := "pier", title := "On the pier" }]

def lakeProgress : List Progress := [
  { id := "lake", completionCount := 4, active := false },
  { id := "roof", completionCount := 1 },
  { id := "cave", completionCount := 9 },
  { id := "lake", completionCount := 2, lastPlayed := some ⟨⟨1, 8, 3⟩, "dusk"⟩ }]

def lakeProgressSwapped : List Progress := [
  { id := "roof", completionCount := 1 },
  { id := "lake", completionCount := 4, active := false },
  { id := "cave", completionCount := 9 },
  { id := "lake", completionCount := 2, lastPlayed := some ⟨⟨1, 8, 3⟩, "dusk"⟩ }]

theorem load_lakeCatalog_takes_last_rows :
    let loaded := (empty .standard).load lakeCatalog lakeProgress
    loaded.events.toList.map Event.id = ["lake", "roof"] ∧
    (∃ event ∈ loaded.events, event.id = "lake" ∧ event.heroine = "Mio" ∧
      event.completionCount = 2 ∧ event.active = true ∧
      event.lastPlayed = some ⟨⟨1, 8, 3⟩, "dusk"⟩) ∧
    (empty .standard).load lakeCatalog lakeProgressSwapped = loaded ∧
    (empty .standard).load lakeCatalog (lakeProgress.take 3).reverse =
      (empty .standard).load lakeCatalog (lakeProgress.take 3) := by
  obtain ⟨-, hids, -, hevents, -, hswap, -⟩ :=
    load_takes_last_rows (empty .standard) lakeCatalog lakeProgress rfl
  obtain ⟨-, -, -, -, -, -, hperm, -⟩ :=
    load_takes_last_rows (empty .standard) lakeCatalog (lakeProgress.take 3) rfl
  refine ⟨hids.trans (by decide), ?_, ?_, ?_⟩
  · obtain ⟨event, hmem, hid, -, -, -, -, hheroine, -, -, hprogress, -⟩ :=
      hevents _ ⟨lakeCatalog.take 2, [], rfl, by simp⟩
    obtain ⟨hcount, hactive, hlast⟩ := hprogress _ ⟨lakeProgress.take 3, [], rfl, by simp⟩ rfl
    exact ⟨event, hmem, hid, hheroine, hcount, hactive, hlast⟩
  · apply hswap
    intro id
    by_cases hroof : "roof" = id
    · subst hroof
      decide
    · simp [lakeProgress, lakeProgressSwapped, List.filter_cons, hroof]
  · exact hperm _ (List.reverse_perm _) (by decide)

end EventTable

end VisualNovel
