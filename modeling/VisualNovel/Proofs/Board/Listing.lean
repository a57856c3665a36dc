import VisualNovel.Board
import VisualNovel.Proofs.EventTable.Available

namespace VisualNovel.Board

open EventTable

section Lines

variable {table : EventTable} {moment : Moment} {filter : Filter} {event : Event}

/-- Whether a line of the full listing has a star. -/
def hasStar (line : String) : Bool :=
  Text.startsWith line "*"

theorem hasStar_fullLine (starred : Bool) (event : Event) :
    hasStar (fullLine starred event) = starred := by
  cases starred <;> simp [hasStar, fullLine, Text.startsWith, List.isPrefixOf]

theorem available_eq_filter_isStarred (h : table.Indexed) :
    table.available moment filter =
      table.events.toList.filter (isStarred table moment filter) := by
  refine List.filter_congr fun event hevent => ?_
  rw [isStarred, h.isOfferable_id (Array.mem_toList_iff.mp hevent)]

theorem filter_hasStar_eventLines (h : table.Indexed) :
    (eventLines table moment filter true).filter hasStar =
      (table.available moment filter).map (fullLine true) := by
  have hstar : hasStar ∘ (fun event => fullLine (isStarred table moment filter event) event) =
      isStarred table moment filter := by
    funext event
    rw [Function.comp_apply, hasStar_fullLine]
  rw [eventLines, if_pos rfl, List.filter_map, hstar, available_eq_filter_isStarred h]
  refine List.map_congr_left fun event hevent => ?_
  rw [(List.mem_filter.mp hevent).2]

theorem eventLines_false : eventLines table moment filter false =
    if (table.available moment filter).isEmpty then ["(nothing to offer)"]
    else (table.available moment filter).map offerLine := by
  rw [eventLines, if_neg Bool.false_ne_true]
  cases table.available moment filter <;> rfl

end Lines

section Program

variable {folder after : Folder} {table next : EventTable} {moment : Moment}
  {progress : Option String} {id line : String}

theorem reached_of_markCompleted (h : table.Reached FileStore)
    (hmark : markCompleted folder table moment progress id = .ok (line, next, after)) :
    next.Reached FileStore := by
  have hnext : next = table.perform (.completeAt id moment : EventTable.Operation FileStore) := by
    simp only [markCompleted] at hmark
    split at hmark
    · cases hmark
    · split at hmark
      · cases hmark
        rfl
      · split at hmark
        · cases hmark
          rfl
        · cases hmark
  rw [hnext]
  exact h.perform _

theorem reached_tableOf (folder : Folder) (progress : Option String) (config : Config)
    (rows : List CatalogRow) : (tableOf folder progress config rows).Reached FileStore := by
  have hloaded : ((EventTable.empty config.slots).load rows []).Reached FileStore :=
    ⟨config.slots, [.load rows []], rfl⟩
  cases progress with
  | none => exact hloaded
  | some path => exact hloaded.perform (.reload (FileStore.mk folder path))

theorem list_eq_listTable (folder : Folder) (options : Options) (catalog : String)
    (moment : Moment) :
    (∃ errors, ∀ showAll, list folder { options with showAll } catalog moment =
      (.failure "" errors, folder)) ∨
    ∃ table warnings, table.Reached FileStore ∧ ∀ showAll,
      list folder { options with showAll } catalog moment =
        listTable folder { options with showAll } moment warnings table := by
  have hsettings : ∀ showAll,
      loadConfig folder { options with showAll } = loadConfig folder options := fun _ => rfl
  cases hconfig : loadConfig folder options with
  | error line => exact .inl ⟨[line], fun showAll => by simp only [list, hsettings, hconfig]⟩
  | ok config =>
      cases hcatalog : loadCatalog folder catalog with
      | error line =>
          refine .inl ⟨slotWarning config moment.slot ++ [line], fun showAll => ?_⟩
          simp only [list, hsettings, hconfig, hcatalog]
      | ok loaded =>
          refine .inr ⟨tableOf folder options.progress config loaded.1,
            slotWarning config moment.slot ++ loaded.2,
            reached_tableOf folder options.progress config loaded.1, fun showAll => ?_⟩
          simp only [list, hsettings, hconfig, hcatalog]

/-- With either listing the board fails alike, or lists the events of one table behind the same
lines. -/
def ListsOneTable (folder : Folder) (options : Options) (catalog : String) (moment : Moment) :
    Prop :=
  (∃ errors, ∀ showAll, list folder { options with showAll } catalog moment =
    (.failure "" errors, folder)) ∨
  ∃ table heading warnings after, table.Reached FileStore ∧ ∀ showAll,
    list folder { options with showAll } catalog moment =
      (.success (unlines (heading ++ eventLines table moment options.filter showAll)) warnings,
        after)

theorem listsOneTable (folder : Folder) (options : Options) (catalog : String) (moment : Moment) :
    ListsOneTable folder options catalog moment := by
  rcases list_eq_listTable folder options catalog moment with
    hfails | ⟨table, warnings, hreached, hlist⟩
  · exact .inl hfails
  · simp only [ListsOneTable, hlist, listTable]
    cases options.complete with
    | none =>
        exact .inr ⟨table, heading moment, warnings, folder, hreached, fun _ => rfl⟩
    | some id =>
        cases hmark : markCompleted folder table moment options.progress id with
        | error line => exact .inl ⟨warnings ++ [line], fun _ => by simp only [hmark]⟩
        | ok result =>
            obtain ⟨line, next, after⟩ := result
            refine .inr ⟨next, line :: heading moment, warnings, after,
              reached_of_markCompleted hreached hmark, fun _ => ?_⟩
            simp only [hmark]
            rfl

end Program

/-- A list holds, in the order of the table and each once, the events that may be offered, as asked
by their ids, and that agree with every part of the filter that is set. With both parts set it holds
what the lists for either part share. The board prints that list, or stars it among all events. -/
theorem listed_events_are_offered {σ : Type} [ProgressStore σ] {table : EventTable}
    (htable : table.Reached σ) (moment : Moment) (filter : Filter) :
    (table.available moment filter).Sublist table.events.toList ∧
    ((table.available moment filter).map Event.id).Nodup ∧
    (∀ event, event ∈ table.available moment filter ↔
      event ∈ table.events ∧ table.isOfferable event.id moment = true ∧
      (∀ location, filter.location = some location → event.location = location) ∧
      ∀ heroine, filter.heroine = some heroine → event.heroine = heroine) ∧
    ((table.available moment filter).Sublist
        (table.available moment { filter with heroine := none }) ∧
      (table.available moment filter).Sublist
        (table.available moment { filter with location := none }) ∧
      ∀ event, event ∈ table.available moment filter ↔
        event ∈ table.available moment { filter with heroine := none } ∧
        event ∈ table.available moment { filter with location := none }) ∧
    table.available moment filter = table.events.toList.filter (isStarred table moment filter) ∧
    (eventLines table moment filter true).filter hasStar =
      (table.available moment filter).map (fullLine true) ∧
    eventLines table moment filter false =
      (if (table.available moment filter).isEmpty then ["(nothing to offer)"]
        else (table.available moment filter).map offerLine) ∧
    ∀ folder options catalog moment, ListsOneTable folder options catalog moment := by
  have h := htable.indexed
  have hpart : (table.available moment filter).Sublist table.events.toList := List.filter_sublist
  refine ⟨hpart, h.nodup_ids.sublist (hpart.map _), fun _ => h.mem_available_iff, ⟨?_, ?_, ?_⟩,
    available_eq_filter_isStarred h, filter_hasStar_eventLines h, eventLines_false,
    listsOneTable⟩
  · refine available_sublist_of_matches fun event hmatches => ?_
    rw [Filter.matches_iff] at hmatches ⊢
    exact ⟨hmatches.1, by simp⟩
  · refine available_sublist_of_matches fun event hmatches => ?_
    rw [Filter.matches_iff] at hmatches ⊢
    exact ⟨by simp, hmatches.2⟩
  · intro event
    simp only [h.mem_available_iff]
    constructor
    · rintro ⟨hevent, hoffer, hlocation, hheroine⟩
      exact ⟨⟨hevent, hoffer, hlocation, by simp⟩, hevent, hoffer, by simp, hheroine⟩
    · rintro ⟨⟨hevent, hoffer, hlocation, -⟩, -, -, -, hheroine⟩
      exact ⟨hevent, hoffer, hlocation, hheroine⟩

/-- Two events at school and two of Mio, one of them both; the fifth row takes the place of the
first, and the fourth event was played. -/
def schoolDays : List (EventTable.Operation MemoryStore) := [
  .load [
    { id := "gate", start := "5 1 朝", stop := "5 2 朝", slots := "夜"
      heroine := "Aoi", location := "harbour", title := "At the gate" },
    { id := "roof", start := "4 1 朝", stop := "4 30 朝", slots := "朝;昼"
      heroine := "Ren", location := "school", title := "On the roof" },
    { id := "lake", start := "4 1 朝", stop := "4 30 朝", slots := "昼"
      heroine := "Mio", location := "lake", title := "By the lake" },
    { id := "pool", start := "4 1 朝", stop := "4 30 朝", slots := "昼"
      heroine := "Mio", location := "school", title := "In the pool" },
    { id := "gate", start := "4 1 朝", stop := "4 30 朝", slots := "昼"
      heroine := "Mio", location := "school", title := "At the gate again" }] [],
  .completeAt "pool" ⟨⟨1, 4, 2⟩, "昼"⟩]

theorem schoolDays_listed_events_are_offered :
    ∃ table, table.Reached MemoryStore ∧
      (table.available ⟨⟨1, 4, 10⟩, "昼"⟩ ⟨some "school", none⟩).map Event.id = ["gate", "roof"] ∧
      (table.available ⟨⟨1, 4, 10⟩, "昼"⟩ ⟨none, some "Mio"⟩).map Event.id = ["gate", "lake"] ∧
      (table.available ⟨⟨1, 4, 10⟩, "昼"⟩ ⟨some "school", some "Mio"⟩).map Event.id = ["gate"] ∧
      (∀ event, event ∈ table.available ⟨⟨1, 4, 10⟩, "昼"⟩ ⟨some "school", some "Mio"⟩ ↔
        event ∈ table.available ⟨⟨1, 4, 10⟩, "昼"⟩ ⟨some "school", none⟩ ∧
        event ∈ table.available ⟨⟨1, 4, 10⟩, "昼"⟩ ⟨none, some "Mio"⟩) ∧
      (eventLines table ⟨⟨1, 4, 10⟩, "昼"⟩ ⟨some "school", some "Mio"⟩ true).filter hasStar =
        (table.available ⟨⟨1, 4, 10⟩, "昼"⟩ ⟨some "school", some "Mio"⟩).map (fullLine true) := by
  have hreached : (performAll (.empty .standard) schoolDays).Reached MemoryStore :=
    ⟨.standard, schoolDays, rfl⟩
  obtain ⟨-, -, -, ⟨-, -, hboth⟩, -, hstars, -, -⟩ :=
    listed_events_are_offered hreached ⟨⟨1, 4, 10⟩, "昼"⟩ ⟨some "school", some "Mio"⟩
  have hlists :
      ((performAll (.empty .standard) schoolDays).available ⟨⟨1, 4, 10⟩, "昼"⟩
        ⟨some "school", none⟩).map Event.id = ["gate", "roof"] ∧
      ((performAll (.empty .standard) schoolDays).available ⟨⟨1, 4, 10⟩, "昼"⟩
        ⟨none, some "Mio"⟩).map Event.id = ["gate", "lake"] ∧
      ((performAll (.empty .standard) schoolDays).available ⟨⟨1, 4, 10⟩, "昼"⟩
        ⟨some "school", some "Mio"⟩).map Event.id = ["gate"] := by
    decide +kernel
  exact ⟨_, hreached, hlists.1, hlists.2.1, hlists.2.2, hboth, hstars⟩

end VisualNovel.Board
