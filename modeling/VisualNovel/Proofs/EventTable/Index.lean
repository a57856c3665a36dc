import VisualNovel.EventTable

namespace VisualNovel

@[simp] theorem Event.ofRow_id (table : SlotTable) (row : CatalogRow) :
    (Event.ofRow table row).id = row.id := rfl

namespace EventTable

/-- The index gives a place for an id if and only if the event at that place has the id. -/
structure Indexed (table : EventTable) : Prop where
  index_eq_some_iff : ∀ (id : String) (i : Nat), table.index[id]? = some i ↔
    ∃ event : Event, table.events[i]? = some event ∧ event.id = id

theorem indexed_empty (slots : SlotTable) : (empty slots).Indexed where
  index_eq_some_iff := by simp [empty]

variable {table : EventTable}

theorem Indexed.place_eq (h : table.Indexed) {i j : Nat} {first second : Event}
    (hfirst : table.events[i]? = some first) (hsecond : table.events[j]? = some second)
    (hid : first.id = second.id) : i = j := by
  have hi := (h.index_eq_some_iff second.id i).mpr ⟨first, hfirst, hid⟩
  have hj := (h.index_eq_some_iff second.id j).mpr ⟨second, hsecond, rfl⟩
  exact Option.some.inj (hi.symm.trans hj)

theorem Indexed.find?_eq_some_iff (h : table.Indexed) {id : String} {event : Event} :
    table.find? id = some event ↔ event ∈ table.events ∧ event.id = id := by
  rw [find?, Option.bind_eq_some_iff, Array.mem_iff_getElem?]
  constructor
  · rintro ⟨i, hindex, hevent⟩
    obtain ⟨found, hfound, hid⟩ := (h.index_eq_some_iff id i).mp hindex
    obtain rfl : found = event := Option.some.inj (hfound.symm.trans hevent)
    exact ⟨⟨i, hevent⟩, hid⟩
  · rintro ⟨⟨i, hevent⟩, hid⟩
    exact ⟨i, (h.index_eq_some_iff id i).mpr ⟨event, hevent, hid⟩, hevent⟩

/-- An edit by id is an edit of every event with that id, of which there is at most one. -/
theorem Indexed.events_modify (h : table.Indexed) (id : String) (change : Event → Event) :
    (table.modify id change).events =
      table.events.map fun event => if event.id = id then change event else event := by
  cases hindex : table.index[id]? with
  | none =>
      have hnone : ∀ event ∈ table.events, event.id ≠ id := by
        intro event hevent hid
        obtain ⟨i, hi⟩ := Array.mem_iff_getElem?.mp hevent
        rw [(h.index_eq_some_iff id i).mpr ⟨event, hi, hid⟩] at hindex
        cases hindex
      rw [modify, hindex]
      apply Array.ext
      · simp
      · intro i hi _
        simp [hnone _ (Array.getElem_mem hi)]
  | some place =>
      obtain ⟨event, hevent, hid⟩ := (h.index_eq_some_iff id place).mp hindex
      rw [modify, hindex]
      apply Array.ext
      · simp
      · intro i hi _
        have hlt : i < table.events.size := by simpa using hi
        have hplace : place = i ↔ table.events[i].id = id := by
          constructor
          · rintro rfl
            rw [Array.getElem?_eq_getElem hlt] at hevent
            cases hevent
            exact hid
          · intro hsame
            exact h.place_eq hevent (Array.getElem?_eq_getElem hlt) (hid.trans hsame.symm)
        simp [Array.getElem_modify, hplace]

theorem Indexed.map (h : table.Indexed) {change : Event → Event}
    (hid : ∀ event, (change event).id = event.id) :
    Indexed { table with events := table.events.map change } where
  index_eq_some_iff := by
    intro id i
    rw [h.index_eq_some_iff id i]
    simp only [Array.getElem?_map, Option.map_eq_some_iff]
    constructor
    · rintro ⟨event, hevent, rfl⟩
      exact ⟨change event, ⟨event, hevent, rfl⟩, hid event⟩
    · rintro ⟨_, ⟨event, hevent, rfl⟩, rfl⟩
      exact ⟨event, hevent, (hid event).symm⟩

theorem Indexed.modify_eq (h : table.Indexed) (id : String) (change : Event → Event) :
    table.modify id change = { table with
      events := table.events.map fun event => if event.id = id then change event else event } := by
  rw [← h.events_modify id change]
  cases hindex : table.index[id]? <;> simp [modify, hindex]

theorem Indexed.modify (h : table.Indexed) (id : String) {change : Event → Event}
    (hid : ∀ event, (change event).id = event.id) : (table.modify id change).Indexed := by
  rw [h.modify_eq]
  refine h.map fun event => ?_
  split
  · exact hid event
  · rfl

theorem Indexed.reset (h : table.Indexed) : table.reset.Indexed :=
  h.map fun _ => rfl

theorem Indexed.applyProgress (h : table.Indexed) (rows : List Progress) :
    (table.applyProgress rows).Indexed := by
  refine List.foldlRecOn (motive := Indexed) rows _ h.reset ?_
  intro table h row _
  exact h.modify row.id fun _ => rfl

theorem Indexed.addRow (h : table.Indexed) (row : CatalogRow) : (table.addRow row).Indexed := by
  cases hindex : table.index[row.id]? with
  | none =>
      rw [EventTable.addRow, hindex]
      constructor
      intro id i
      rw [Std.ExtTreeMap.getElem?_insert, Array.getElem?_push]
      by_cases hid : row.id = id
      · subst hid
        have hnone : ∀ event, table.events[i]? = some event → event.id ≠ row.id := by
          intro event hevent hsame
          rw [(h.index_eq_some_iff row.id i).mpr ⟨event, hevent, hsame⟩] at hindex
          cases hindex
        by_cases hi : i = table.events.size
        · simp [hi]
        · simp [hi, Ne.symm hi]
          exact hnone
      · have hcompare : compare row.id id ≠ .eq := by simpa using hid
        rw [if_neg hcompare, h.index_eq_some_iff id i]
        by_cases hi : i = table.events.size
        · simp [hi, hid]
        · simp [hi]
  | some place =>
      obtain ⟨event, hevent, hid⟩ := (h.index_eq_some_iff row.id place).mp hindex
      have hlt : place < table.events.size := (Array.getElem?_eq_some_iff.mp hevent).1
      rw [EventTable.addRow, hindex]
      constructor
      intro id i
      rw [h.index_eq_some_iff id i, Array.getElem?_setIfInBounds]
      by_cases hi : place = i
      · subst hi
        rw [hevent]
        simp [hlt, hid]
      · simp [hi]

theorem Indexed.load (table : EventTable) (catalog : List CatalogRow) (rows : List Progress) :
    (table.load catalog rows).Indexed := by
  refine Indexed.applyProgress ?_ rows
  refine List.foldlRecOn (motive := Indexed) catalog _ (indexed_empty table.slots) ?_
  intro table h row _
  exact h.addRow row

theorem Indexed.reload {σ : Type} [ProgressStore σ] (h : table.Indexed) (store : σ) :
    (table.reload store).Indexed := by
  rw [EventTable.reload]
  split
  · exact h.applyProgress _
  · exact h.applyProgress _

theorem find?_map (table : EventTable) (change : Event → Event) (id : String) :
    find? { table with events := table.events.map change } id = (table.find? id).map change := by
  simp only [find?, Array.getElem?_map, Option.map_bind]
  rfl

theorem Indexed.find?_modify (h : table.Indexed) (target : String) (change : Event → Event)
    (id : String) : (table.modify target change).find? id =
      (table.find? id).map fun event => if event.id = target then change event else event := by
  rw [h.modify_eq, find?_map]

@[simp] theorem isSome_find?_modify (table : EventTable) (target : String)
    (change : Event → Event) (id : String) :
    ((table.modify target change).find? id).isSome = (table.find? id).isSome := by
  rw [modify]
  split
  · cases hindex : table.index[id]? with
    | none => simp [find?, hindex]
    | some i =>
        simp only [find?, hindex, Option.bind_some, Array.getElem?_modify]
        split <;> simp
  · rfl

@[simp] theorem isSome_find?_applyProgress (table : EventTable) (rows : List Progress)
    (id : String) : ((table.applyProgress rows).find? id).isSome = (table.find? id).isSome := by
  refine List.foldlRecOn
    (motive := fun result : EventTable => (result.find? id).isSome = (table.find? id).isSome)
    rows _ ?_ ?_
  · rw [reset, find?_map, Option.isSome_map]
  · intro result hresult row _
    rw [isSome_find?_modify, hresult]

@[simp] theorem isSome_find?_reload {σ : Type} [ProgressStore σ] (table : EventTable) (store : σ)
    (id : String) : ((table.reload store).find? id).isSome = (table.find? id).isSome := by
  rw [EventTable.reload]
  split <;> simp

end EventTable

end VisualNovel
