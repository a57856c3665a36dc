import VisualNovel.Proofs.EventTable.Run

namespace VisualNovel

theorem Filter.matches_iff (filter : Filter) (event : Event) : filter.matches event = true ↔
    (∀ location, filter.location = some location → event.location = location) ∧
    ∀ heroine, filter.heroine = some heroine → event.heroine = heroine := by
  simp only [Filter.matches, Bool.and_eq_true, Option.all_eq_true, beq_iff_eq]
  exact and_congr (forall₂_congr fun _ _ => eq_comm) (forall₂_congr fun _ _ => eq_comm)

namespace EventTable

/-- The table came about by operations on an empty one. -/
def Reached (σ : Type) [ProgressStore σ] (table : EventTable) : Prop :=
  ∃ (slots : SlotTable) (operations : List (Operation σ)),
    performAll (.empty slots) operations = table

section Reached

variable {σ : Type} [ProgressStore σ] {table : EventTable}

theorem Reached.perform (h : table.Reached σ) (operation : Operation σ) :
    (table.perform operation).Reached σ := by
  obtain ⟨slots, operations, rfl⟩ := h
  refine ⟨slots, operations ++ [operation], ?_⟩
  rw [performAll, List.foldl_append]
  rfl

theorem Reached.indexed (h : table.Reached σ) : table.Indexed := by
  obtain ⟨slots, operations, rfl⟩ := h
  exact (indexed_empty slots).performAll operations

end Reached

section Available

variable {table : EventTable} {moment : Moment} {filter : Filter} {event : Event}

theorem Indexed.isOfferable_id (h : table.Indexed) (hevent : event ∈ table.events)
    (moment : Moment) : table.isOfferable event.id moment = event.isOfferable moment := by
  have hfound : table.find? event.id = some event := h.find?_eq_some_iff.mpr ⟨hevent, rfl⟩
  rw [isOfferable, hfound, Option.any_some]

theorem Indexed.mem_available_iff (h : table.Indexed) : event ∈ table.available moment filter ↔
    event ∈ table.events ∧ table.isOfferable event.id moment = true ∧
    (∀ location, filter.location = some location → event.location = location) ∧
    ∀ heroine, filter.heroine = some heroine → event.heroine = heroine := by
  rw [available, List.mem_filter, Array.mem_toList_iff, Bool.and_eq_true, filter.matches_iff]
  refine and_congr_right fun hevent => ?_
  rw [h.isOfferable_id hevent]

theorem available_eq_filter (table : EventTable) (moment : Moment) (filter : Filter) :
    table.available moment filter = (table.available moment {}).filter filter.matches := by
  rw [available, available, List.filter_filter]
  refine List.filter_congr fun event _ => ?_
  simp [Filter.matches, Bool.and_comm]

theorem available_sublist_of_matches {narrow wide : Filter}
    (hnarrow : ∀ event, narrow.matches event = true → wide.matches event = true) :
    (table.available moment narrow).Sublist (table.available moment wide) := by
  rw [available_eq_filter, available_eq_filter table moment wide]
  exact List.monotone_filter_right _ hnarrow

end Available

end EventTable

end VisualNovel
