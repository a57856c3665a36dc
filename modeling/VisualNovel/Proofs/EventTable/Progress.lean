import Mathlib.Data.List.Induction
import VisualNovel.Proofs.EventTable.Index

namespace VisualNovel

/-- What the rows say about an event. One without a row is fresh. -/
def Progress.lastOf (id : String) (rows : List Progress) : Progress :=
  (rows.reverse.find? (·.id == id)).getD (.fresh id)

theorem Progress.lastOf_concat (id : String) (rows : List Progress) (row : Progress) :
    lastOf id (rows ++ [row]) = if row.id = id then row else lastOf id rows := by
  by_cases hid : row.id = id
  · simp [lastOf, hid]
  · simp [lastOf, hid]

namespace EventTable

variable {table : EventTable}

theorem applyProgress_concat (table : EventTable) (rows : List Progress) (row : Progress) :
    table.applyProgress (rows ++ [row]) =
      (table.applyProgress rows).modify row.id (·.withProgress row) := by
  simp [applyProgress]

theorem Indexed.applyProgress_eq (h : table.Indexed) (rows : List Progress) :
    table.applyProgress rows = { table with
      events := table.events.map fun event =>
        event.withProgress (Progress.lastOf event.id rows) } := by
  induction rows using List.reverseRecOn with
  | nil => rfl
  | append_singleton rows row ih =>
      rw [applyProgress_concat, (h.applyProgress rows).modify_eq, ih, Array.map_map]
      congr 1
      apply Array.map_congr_left
      intro event _
      have hid : (event.withProgress (Progress.lastOf event.id rows)).id = event.id := rfl
      simp only [Function.comp_apply, hid, Progress.lastOf_concat, eq_comm (a := row.id)]
      split <;> rfl

theorem Indexed.find?_applyProgress (h : table.Indexed) (rows : List Progress) (id : String) :
    (table.applyProgress rows).find? id =
      (table.find? id).map (·.withProgress (Progress.lastOf id rows)) := by
  rw [h.applyProgress_eq, find?_map]
  apply Option.map_congr
  intro event hevent
  rw [(h.find?_eq_some_iff.mp hevent).2]

theorem Indexed.lastOf_progress (h : table.Indexed) {id : String} {event : Event}
    (hfound : table.find? id = some event) :
    Progress.lastOf id table.progress = event.progress := by
  obtain ⟨hevent, hid⟩ := h.find?_eq_some_iff.mp hfound
  have hsame : ∀ row ∈ table.progress.reverse, row.id == id → row = event.progress := by
    intro row hrow hrowid
    simp only [progress, List.mem_reverse, List.mem_map, Array.mem_toList_iff] at hrow
    obtain ⟨other, hother, rfl⟩ := hrow
    have hfoundother : table.find? id = some other :=
      h.find?_eq_some_iff.mpr ⟨hother, by simpa [Event.progress] using hrowid⟩
    rw [Option.some.inj (hfoundother.symm.trans hfound)]
  have hsome : (table.progress.reverse.find? (·.id == id)).isSome := by
    rw [List.find?_isSome]
    refine ⟨event.progress, ?_, by simpa [Event.progress] using hid⟩
    simp only [progress, List.mem_reverse, List.mem_map, Array.mem_toList_iff]
    exact ⟨event, hevent, rfl⟩
  obtain ⟨row, hrow⟩ := Option.isSome_iff_exists.mp hsome
  rw [Progress.lastOf, hrow, Option.getD_some]
  have hrowid : (row.id == id) = true :=
    List.find?_some (p := fun other : Progress => other.id == id) hrow
  exact hsame row (List.mem_of_find?_eq_some hrow) hrowid

end EventTable

end VisualNovel
