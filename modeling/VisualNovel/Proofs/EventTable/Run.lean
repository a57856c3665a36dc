import Mathlib.Data.List.Nodup
import VisualNovel.Proofs.EventTable.Index

namespace VisualNovel

/-- The event as its catalog row made it. -/
def Event.unplayed (event : Event) : Event :=
  event.withProgress (.fresh event.id)

namespace EventTable

inductive Operation (σ : Type)
  | load (catalog : List CatalogRow) (rows : List Progress)
  | applyProgress (rows : List Progress)
  | reload (store : σ)
  | complete (id : String)
  | completeAt (id : String) (moment : Moment)
  | setActive (id : String) (active : Bool)

/-- The id that an edit is about, and what it does to the event. -/
def Operation.edit? {σ : Type} : Operation σ → Option (String × (Event → Event))
  | .complete id => some (id, Event.complete)
  | .completeAt id moment =>
      some (id, fun event => { event.complete with lastPlayed := some moment })
  | .setActive id active => some (id, ({ · with active }))
  | _ => none

section Index

variable {table : EventTable}

theorem Indexed.nodup_ids (h : table.Indexed) : (table.events.toList.map Event.id).Nodup := by
  rw [List.nodup_iff_injective_getElem]
  intro i j hij
  have hi : i.val < table.events.size := by simpa using i.isLt
  have hj : j.val < table.events.size := by simpa using j.isLt
  have hid : table.events[i.val].id = table.events[j.val].id := by simpa using hij
  exact Fin.ext
    (h.place_eq (Array.getElem?_eq_getElem hi) (Array.getElem?_eq_getElem hj) hid)

theorem Indexed.mem_keys_iff (h : table.Indexed) (id : String) :
    id ∈ table.index.keys ↔ id ∈ table.events.toList.map Event.id := by
  rw [Std.ExtTreeMap.mem_keys, ← Std.ExtTreeMap.isSome_getElem?_iff_mem, List.mem_map]
  constructor
  · intro hsome
    obtain ⟨i, hi⟩ := Option.isSome_iff_exists.mp hsome
    obtain ⟨event, hevent, hid⟩ := (h.index_eq_some_iff id i).mp hi
    exact ⟨event, by simpa using Array.mem_of_getElem? hevent, hid⟩
  · rintro ⟨event, hevent, hid⟩
    obtain ⟨i, hi⟩ := Array.mem_iff_getElem?.mp (by simpa using hevent)
    rw [(h.index_eq_some_iff id i).mpr ⟨event, hi, hid⟩]
    rfl

theorem Indexed.size_index (h : table.Indexed) : table.index.size = table.events.size := by
  have hperm : table.index.keys.Perm (table.events.toList.map Event.id) :=
    (List.perm_ext_iff_of_nodup Std.ExtTreeMap.nodup_keys h.nodup_ids).mpr h.mem_keys_iff
  simpa using hperm.length_eq

theorem Indexed.find?_eq_none_iff (h : table.Indexed) {id : String} :
    table.find? id = none ↔ ∀ event ∈ table.events, event.id ≠ id := by
  rw [Option.eq_none_iff_forall_ne_some]
  constructor
  · intro hnone event hevent hid
    exact hnone event (h.find?_eq_some_iff.mpr ⟨hevent, hid⟩)
  · intro hnone event hfound
    obtain ⟨hevent, hid⟩ := h.find?_eq_some_iff.mp hfound
    exact hnone event hevent hid

theorem Indexed.isSome_find? (h : table.Indexed) (id : String) :
    (table.find? id).isSome = (table.index[id]?).isSome := by
  cases hindex : table.index[id]? with
  | none => simp [find?, hindex]
  | some i =>
      obtain ⟨event, hevent, -⟩ := (h.index_eq_some_iff id i).mp hindex
      simp [find?, hindex, hevent]

end Index

variable {σ : Type} [ProgressStore σ]

def perform (table : EventTable) : Operation σ → EventTable
  | .load catalog rows => table.load catalog rows
  | .applyProgress rows => table.applyProgress rows
  | .reload store => table.reload store
  | .complete id => (table.complete id).2
  | .completeAt id moment => (table.completeAt id moment).2
  | .setActive id active => (table.setActive id active).2

def performAll (table : EventTable) (operations : List (Operation σ)) : EventTable :=
  operations.foldl perform table

theorem perform_of_edit? {operation : Operation σ} {id : String} {change : Event → Event}
    (hedit : operation.edit? = some (id, change)) (table : EventTable) :
    table.perform operation = table.modify id change := by
  cases operation with
  | load | applyProgress | reload => cases hedit
  | complete | completeAt | setActive =>
      cases hedit
      rfl

omit [ProgressStore σ] in
theorem unplayed_of_edit? {operation : Operation σ} {id : String} {change : Event → Event}
    (hedit : operation.edit? = some (id, change)) (event : Event) :
    (change event).id = event.id ∧ (change event).unplayed = event.unplayed := by
  cases operation with
  | load | applyProgress | reload => cases hedit
  | complete | completeAt | setActive =>
      cases hedit
      exact ⟨rfl, rfl⟩

theorem Indexed.perform {table : EventTable} (h : table.Indexed) (operation : Operation σ) :
    (table.perform operation).Indexed := by
  cases hedit : operation.edit? with
  | some edit =>
      rw [perform_of_edit? hedit]
      exact h.modify _ fun event => (unplayed_of_edit? hedit event).1
  | none =>
      cases operation with
      | load catalog rows => exact .load table catalog rows
      | applyProgress rows => exact h.applyProgress rows
      | reload store => exact h.reload store
      | complete | completeAt | setActive => cases hedit

theorem Indexed.performAll {table : EventTable} (h : table.Indexed)
    (operations : List (Operation σ)) : (table.performAll operations).Indexed :=
  List.foldlRecOn operations _ h fun _ hnext operation _ => hnext.perform operation

/-- Whatever was done with a table, no two of its events have one id and its index is exact. So a
lookup never misses, and finds the one event with its id; and an edit by id changes that event
alone, and of that event only the progress. -/
theorem index_exact_after_operations (slots : SlotTable) (operations : List (Operation σ))
    {table : EventTable} (htable : performAll (.empty slots) operations = table) :
    (table.events.toList.map Event.id).Nodup ∧
    table.index.size = table.events.size ∧
    (∀ id i, table.index[id]? = some i ↔
      ∃ hi : i < table.events.size, table.events[i].id = id) ∧
    (∀ id, (table.find? id).isSome = (table.index[id]?).isSome) ∧
    (∀ id event, table.find? id = some event ↔ event ∈ table.events ∧ event.id = id) ∧
    (∀ id, table.find? id = none ↔ ∀ event ∈ table.events, event.id ≠ id) ∧
    ∀ (operation : Operation σ) id change, operation.edit? = some (id, change) →
      table.perform operation = { table with
        events := table.events.map fun event => if event.id = id then change event else event } ∧
      (table.perform operation).events.map Event.unplayed = table.events.map Event.unplayed := by
  have h : table.Indexed := htable ▸ (indexed_empty slots).performAll operations
  refine ⟨h.nodup_ids, h.size_index, ?_, h.isSome_find?, fun _ _ => h.find?_eq_some_iff,
    fun _ => h.find?_eq_none_iff, ?_⟩
  · intro id i
    rw [h.index_eq_some_iff]
    simp only [Array.getElem?_eq_some_iff]
    constructor
    · rintro ⟨_, ⟨hi, rfl⟩, hid⟩
      exact ⟨hi, hid⟩
    · rintro ⟨hi, hid⟩
      exact ⟨table.events[i], ⟨hi, rfl⟩, hid⟩
  · intro operation id change hedit
    have hperform : table.perform operation = { table with events := _ } :=
      (perform_of_edit? hedit table).trans (h.modify_eq id change)
    refine ⟨hperform, ?_⟩
    rw [hperform, Array.map_map]
    apply Array.map_congr_left
    intro event _
    simp only [Function.comp_apply]
    split
    · exact (unplayed_of_edit? hedit event).2
    · rfl

/-- A catalog in which the first id comes once more, and edits of both of its events. -/
def doubledCatalogRun : List (Operation MemoryStore) := [
  .load [
    { id := "gate", start := "4 1 noon", stop := "4 30 noon", slots := "noon"
      heroine := "Aoi", location := "school", title := "At the gate" },
    { id := "roof", start := "5 1 noon", stop := "5 30 noon", slots := "noon"
      heroine := "Ren", location := "school", title := "On the roof" },
    { id := "gate", start := "4 1 dusk", stop := "4 30 dusk", slots := "dusk"
      heroine := "Mio", location := "school", title := "At the gate again" }] [],
  .setActive "gate" false,
  .reload { rows := [{ id := "roof", completionCount := 2 }] },
  .completeAt "gate" ⟨⟨1, 4, 2⟩, "dusk"⟩]

theorem index_exact_after_doubledCatalogRun : ∃ table gate,
    performAll (.empty .standard) doubledCatalogRun = table ∧
    table.find? "gate" = some gate ∧ gate.heroine = "Mio" ∧ gate ∈ table.events ∧
    table.index.size = 2 ∧ (table.find? "lake").isNone ∧
    table.perform (.setActive "roof" false : Operation MemoryStore) = { table with
      events := table.events.map fun event =>
        if event.id = "roof" then { event with active := false } else event } := by
  have hend : (performAll (.empty .standard) doubledCatalogRun).events.size = 2 ∧
      ((performAll (.empty .standard) doubledCatalogRun).find? "gate").map Event.heroine =
        some "Mio" ∧
      (performAll (.empty .standard) doubledCatalogRun).events.all (·.id != "lake") = true := by
    decide +kernel
  obtain ⟨hsize, hgate, hlake⟩ := hend
  obtain ⟨gate, hfound, hheroine⟩ := Option.map_eq_some_iff.mp hgate
  obtain ⟨-, hindex, -, -, hfind, hnone, hedits⟩ :=
    index_exact_after_operations .standard doubledCatalogRun rfl
  refine ⟨_, gate, rfl, hfound, hheroine, ((hfind _ _).mp hfound).1, hindex.trans hsize, ?_,
    (hedits (.setActive "roof" false) "roof" _ rfl).1⟩
  rw [Option.isNone_iff_eq_none, hnone]
  intro event hevent hid
  simpa [hid] using Array.all_eq_true_iff_forall_mem.mp hlake event hevent

end EventTable

end VisualNovel
