import VisualNovel.Proofs.EventTable.Load
import VisualNovel.Proofs.Store.Laws

namespace VisualNovel

theorem Event.unplayed_withProgress (event : Event) (progress : Progress) :
    (event.withProgress progress).unplayed = event.unplayed := rfl

@[simp] theorem Event.withProgress_progress (event : Event) :
    event.withProgress event.progress = event := rfl

namespace EventTable

/-- The catalog that an operation fills the table from, if it does so. -/
def Operation.catalog? {σ : Type} : Operation σ → Option (List CatalogRow)
  | .load catalog _ => some catalog
  | _ => none

/-- The catalog of a table on which the operations were done. An empty table has the empty one. -/
def lastCatalog {σ : Type} (operations : List (Operation σ)) : List CatalogRow :=
  operations.foldl (fun catalog operation => operation.catalog?.getD catalog) []

theorem lastCatalog_concat {σ : Type} (operations : List (Operation σ))
    (operation : Operation σ) :
    lastCatalog (operations ++ [operation]) =
      operation.catalog?.getD (lastCatalog operations) := by
  simp [lastCatalog]

section Reset

variable {table : EventTable}

theorem reset_eq (table : EventTable) :
    table.reset = { table with events := table.events.map Event.unplayed } := rfl

theorem reset_map (table : EventTable) {change : Event → Event}
    (hchange : ∀ event, (change event).unplayed = event.unplayed) :
    reset { table with events := table.events.map change } = table.reset := by
  rw [reset_eq, reset_eq, Array.map_map]
  congr 1
  exact Array.map_congr_left fun event _ => hchange event

@[simp] theorem reset_empty (slots : SlotTable) : (empty slots).reset = empty slots := by
  simp [reset_eq, empty]

theorem reset_addRow (table : EventTable) (row : CatalogRow) :
    (table.addRow row).reset = table.reset.addRow row := by
  have hfresh : (Event.ofRow table.slots row).unplayed = Event.ofRow table.slots row := rfl
  rw [addRow, addRow]
  simp only [reset_eq]
  cases table.index[row.id]? with
  | none => simp [hfresh]
  | some i => simp [Array.map_setIfInBounds, hfresh]

theorem reset_ofCatalog (slots : SlotTable) (catalog : List CatalogRow) :
    (ofCatalog slots catalog).reset = ofCatalog slots catalog := by
  induction catalog using List.reverseRecOn with
  | nil => exact reset_empty slots
  | append_singleton catalog row ih => rw [ofCatalog_concat, reset_addRow, ih]

theorem Indexed.reset_modify (h : table.Indexed) (id : String) {change : Event → Event}
    (hchange : ∀ event, (change event).unplayed = event.unplayed) :
    (table.modify id change).reset = table.reset := by
  rw [h.modify_eq]
  apply reset_map
  intro event
  split
  · exact hchange event
  · rfl

theorem Indexed.reset_applyProgress (h : table.Indexed) (rows : List Progress) :
    (table.applyProgress rows).reset = table.reset := by
  rw [h.applyProgress_eq]
  exact table.reset_map fun event => event.unplayed_withProgress _

theorem applyProgress_congr {table other : EventTable} (h : other.reset = table.reset)
    (rows : List Progress) : other.applyProgress rows = table.applyProgress rows := by
  rw [applyProgress, applyProgress, h]

theorem Indexed.applyProgress_progress (h : table.Indexed) :
    table.applyProgress table.progress = table := by
  have hevent : ∀ event ∈ table.events,
      event.withProgress (Progress.lastOf event.id table.progress) = event := by
    intro event hevent
    rw [h.lastOf_progress (h.find?_eq_some_iff.mpr ⟨hevent, rfl⟩), event.withProgress_progress]
  rw [h.applyProgress_eq, Array.map_congr_left hevent, Array.map_id']

end Reset

section Perform

variable {σ : Type} [ProgressStore σ] {table : EventTable}

theorem Indexed.reset_reload (h : table.Indexed) (store : σ) :
    (table.reload store).reset = table.reset := by
  rw [EventTable.reload]
  split
  · exact h.reset_applyProgress _
  · exact h.reset_applyProgress _

/-- Without the progress, a table is changed by a load alone. -/
theorem Indexed.reset_perform (h : table.Indexed) (operation : Operation σ) :
    (table.perform operation).reset =
      (operation.catalog?.map (ofCatalog table.slots)).getD table.reset := by
  cases hedit : operation.edit? with
  | some edit =>
      have hcatalog : operation.catalog? = none := by
        cases operation with
        | load => cases hedit
        | _ => rfl
      rw [perform_of_edit? hedit, hcatalog]
      exact h.reset_modify _ fun event => (unplayed_of_edit? hedit event).2
  | none =>
      cases operation with
      | load catalog rows =>
          exact ((indexed_ofCatalog table.slots catalog).reset_applyProgress rows).trans
            (reset_ofCatalog table.slots catalog)
      | applyProgress rows => exact h.reset_applyProgress rows
      | reload store => exact h.reset_reload store
      | complete | completeAt | setActive => cases hedit

theorem reset_performAll (slots : SlotTable) (operations : List (Operation σ)) :
    (performAll (.empty slots) operations).reset = ofCatalog slots (lastCatalog operations) := by
  induction operations using List.reverseRecOn with
  | nil => exact reset_empty slots
  | append_singleton operations operation ih =>
      have h := (indexed_empty slots).performAll operations
      have hslots : (performAll (.empty slots) operations).slots = slots := by
        have := congrArg EventTable.slots ih
        rwa [slots_ofCatalog] at this
      have hstep : performAll (.empty slots) (operations ++ [operation]) =
          (performAll (.empty slots) operations).perform operation := by
        simp [performAll]
      rw [hstep, h.reset_perform, lastCatalog_concat, ih, hslots]
      cases operation.catalog? <;> rfl

theorem reset_eq_of_lastCatalog_eq {ρ : Type} [ProgressStore ρ] (slots : SlotTable)
    {operations : List (Operation σ)} {others : List (Operation ρ)}
    (hcatalog : lastCatalog others = lastCatalog operations) :
    (performAll (.empty slots) others).reset = (performAll (.empty slots) operations).reset := by
  rw [reset_performAll, reset_performAll, hcatalog]

theorem reload_of_load_eq {store : σ} {rows : List Progress}
    (hload : ProgressStore.load store = .ok rows) :
    table.reload store = table.applyProgress rows := by
  rw [EventTable.reload, hload]

end Perform

/-- What a table persists brings it back, in every table of the same catalog and slots: whatever was
done with either, all fields of all events are as they were, so that the same events are offered.
For this the rows of a table are enough; and rows that are taken over leave nothing of the progress
that was there before. -/
theorem reload_restores_persisted {σ ρ τ : Type} [ProgressStore σ] [ProgressStore ρ]
    [ProgressStore τ] (slots : SlotTable) (operations : List (Operation ρ))
    (others : List (Operation τ)) {table other : EventTable}
    (htable : performAll (.empty slots) operations = table)
    (hother : performAll (.empty slots) others = other)
    (hcatalog : lastCatalog others = lastCatalog operations)
    (hstore : ∀ (store : σ) rows, (ProgressStore.save store rows).1 = .ok () →
      ProgressStore.load (ProgressStore.save store rows).2 = .ok rows) :
    (∀ store next : σ, table.persist store = (.ok (), next) →
      other.reload next = table ∧
      ∀ moment filter,
        (other.reload next).available moment filter = table.available moment filter) ∧
    table.applyProgress table.progress = table ∧
    (∀ rows, other.applyProgress rows = table.applyProgress rows) ∧
    ∀ first second,
      (table.applyProgress first).applyProgress second = table.applyProgress second := by
  have h : table.Indexed := htable ▸ (indexed_empty slots).performAll operations
  have hreset : other.reset = table.reset := by
    rw [← htable, ← hother]
    exact reset_eq_of_lastCatalog_eq slots hcatalog
  have hrestore : ∀ store next : σ, table.persist store = (.ok (), next) →
      other.reload next = table := by
    intro store next hpersist
    have hload : ProgressStore.load next = .ok table.progress := by
      have hsaved := hstore store table.progress
      rw [persist] at hpersist
      rw [hpersist] at hsaved
      exact hsaved rfl
    rw [reload_of_load_eq hload, applyProgress_congr hreset, h.applyProgress_progress]
  refine ⟨?_, h.applyProgress_progress, applyProgress_congr hreset, h.applyProgress_applyProgress⟩
  intro store next hpersist
  have hsame := hrestore store next hpersist
  exact ⟨hsame, fun moment filter => by rw [hsame]⟩

/-- A story in which the lake was visited once more and the roof was closed. -/
def lakeRun : List (Operation MemoryStore) := [
  .load lakeCatalog lakeProgress,
  .completeAt "lake" ⟨⟨1, 8, 5⟩, "dusk"⟩,
  .setActive "roof" false]

/-- The same catalog, after another one, in a story that took another course. -/
def otherLakeRun : List (Operation FileStore) := [
  .load [{ id := "gate", start := "4 1 noon", stop := "4 30 noon", slots := "noon"
           heroine := "Aoi", location := "school", title := "At the gate" }] [],
  .load lakeCatalog [],
  .complete "roof",
  .setActive "lake" false]

theorem reload_restores_lakeRun : ∃ table other next,
    performAll (.empty .standard) lakeRun = table ∧
    performAll (.empty .standard) otherLakeRun = other ∧
    table.persist (FileStore.mk .empty "progress.ron") = (.ok (), next) ∧
    (table.find? "lake").map Event.completionCount = some 3 ∧
    (other.find? "lake").map Event.completionCount = some 0 ∧
    other.reload next = table := by
  obtain ⟨hrestore, -, -, -⟩ := reload_restores_persisted (σ := FileStore) .standard lakeRun
    otherLakeRun rfl rfl (by decide) FileStore.load_of_saved
  let saved := (performAll (.empty .standard) lakeRun).persist
    (FileStore.mk .empty "progress.ron")
  have hsaved : saved.1 = .ok () := rfl
  have hpersist : saved = (.ok (), saved.2) := by rw [← hsaved]
  refine ⟨_, _, _, rfl, rfl, hpersist, ?_, ?_, (hrestore _ _ hpersist).1⟩
  · decide +kernel
  · decide +kernel

end EventTable

end VisualNovel
