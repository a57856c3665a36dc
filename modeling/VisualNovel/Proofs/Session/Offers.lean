import VisualNovel.Proofs.EventTable.Progress
import VisualNovel.Proofs.Session.Completion
import VisualNovel.Proofs.Store.Laws

namespace VisualNovel

theorem Event.completionCount_countedAt_ne_zero (event : Event) (moment : Moment) :
    (event.countedAt moment).completionCount ≠ 0 := by
  intro hzero
  have hcount := event.toNat_completionCount_countedAt moment
  have hnone : (0 : UInt32).toNat = 0 := rfl
  rw [hzero, hnone, UInt32.size] at hcount
  omega

theorem Event.completionCount_complete_ne_zero (event : Event) :
    event.complete.completionCount ≠ 0 := by
  have hcomplete := congrArg completionCount (event.complete_eq_countedAt ⟨⟨0, 0, 0⟩, ""⟩)
  exact fun hzero => event.completionCount_countedAt_ne_zero _ (hcomplete.symm.trans hzero)

namespace Session

variable {σ : Type} [ProgressStore σ] {session next : Session σ} {id : String}

/-- The completion of an event is known to the table and to the store. -/
structure Recorded (id : String) (session : Session σ) : Prop where
  indexed : session.table.Indexed
  played : ∃ event, session.table.find? id = some event ∧ event.completionCount ≠ 0
  saved : ∃ rows, ProgressStore.load session.store = .ok rows ∧
    (Progress.lastOf id rows).completionCount ≠ 0

theorem Recorded.not_available (h : session.Recorded id) (moment : Moment) (filter : Filter) :
    ∀ event ∈ session.available moment filter, event.id ≠ id := by
  intro event hevent hid
  obtain ⟨played, hplayed, hcount⟩ := h.played
  rw [available, EventTable.available, List.mem_filter] at hevent
  have hfound : session.table.find? id = some event :=
    h.indexed.find?_eq_some_iff.mpr ⟨by simpa using hevent.1, hid⟩
  obtain rfl : event = played := Option.some.inj (hfound.symm.trans hplayed)
  simp [Event.isOfferable, hcount] at hevent

theorem Recorded.congr (h : session.Recorded id) (htable : next.table = session.table)
    (hstore : next.store = session.store) : next.Recorded id := by
  refine ⟨?_, ?_, ?_⟩
  · exact htable ▸ h.indexed
  · exact htable ▸ h.played
  · exact hstore ▸ h.saved

theorem Recorded.modify (h : session.Recorded id) (target : String) {change : Event → Event}
    (hid : ∀ event, (change event).id = event.id)
    (hcount : ∀ event, event.completionCount ≠ 0 → (change event).completionCount ≠ 0) :
    Recorded id { session with table := session.table.modify target change } := by
  obtain ⟨event, hevent, hplayed⟩ := h.played
  refine ⟨h.indexed.modify target hid, ?_, h.saved⟩
  refine ⟨if event.id = target then change event else event, ?_, ?_⟩
  · rw [h.indexed.find?_modify, hevent, Option.map_some]
  · split
    · exact hcount event hplayed
    · exact hplayed

theorem Recorded.reload (h : session.Recorded id) : session.reload.Recorded id := by
  obtain ⟨rows, hrows, hcount⟩ := h.saved
  obtain ⟨event, hevent, -⟩ := h.played
  have htable : session.reload.table = session.table.applyProgress rows := by
    rw [Session.reload, EventTable.reload, hrows]
  refine ⟨?_, ?_, rows, hrows, hcount⟩
  · rw [htable]
    exact h.indexed.applyProgress rows
  · refine ⟨event.withProgress (Progress.lastOf id rows), ?_, hcount⟩
    rw [htable, h.indexed.find?_applyProgress, hevent, Option.map_some]

variable [LawfulProgressStore σ]

theorem recorded_of_save {table : EventTable} {saved : Except LoadError Unit} {store : σ}
    (hindexed : table.Indexed)
    (hplayed : ∃ event, table.find? id = some event ∧ event.completionCount ≠ 0)
    (hsave : ProgressStore.save session.store table.progress = (saved, store))
    (hbefore : saved = .ok () ∨ session.Recorded id) (running : Option Running) :
    Recorded id { session with table, store, running } := by
  refine ⟨hindexed, hplayed, ?_⟩
  obtain ⟨event, hevent, hcount⟩ := hplayed
  cases saved with
  | ok _ =>
      have hload := LawfulProgressStore.load_of_saved session.store table.progress (by rw [hsave])
      rw [hsave] at hload
      refine ⟨table.progress, hload, ?_⟩
      rw [hindexed.lastOf_progress hevent]
      exact hcount
  | error reason =>
      -- The store still knows what it knew of before.
      have hload := LawfulProgressStore.load_of_failed session.store table.progress reason
        (by rw [hsave])
      rw [hsave] at hload
      rcases hbefore with hbefore | hbefore
      · cases hbefore
      · exact hload ▸ hbefore.saved

theorem Recorded.finish (h : session.Recorded id) (moment : Moment) :
    (session.finish moment).2.Recorded id := by
  rcases finish_cases session moment with
    ⟨hfinish, -⟩ | ⟨target, saved, store, -, -, hsave, hfinish⟩
  · rw [hfinish]
    exact h
  · rw [hfinish]
    rw [EventTable.completeAt_eq] at hsave
    have htable : Recorded id
        { session with table := session.table.modify target (·.countedAt moment) } :=
      h.modify target (fun _ => rfl) fun event _ => event.completionCount_countedAt_ne_zero moment
    rw [EventTable.completeAt_eq]
    exact recorded_of_save htable.indexed htable.played hsave (.inr h) _

theorem Recorded.step (h : session.Recorded id) {operation : Operation} {answer : Answer}
    (hoperation : ∀ rows, operation ≠ .applyProgress rows)
    (hstep : session.perform operation = .ok (answer, next)) : next.Recorded id := by
  cases operation with
  | applyProgress rows => exact absurd rfl (hoperation rows)
  | available moment filter =>
      cases hstep
      exact h
  | begin target script =>
      rcases begin_cases session target script with ⟨-, hbegin⟩ | ⟨event, -, hbegin⟩
      · rw [hbegin] at hstep
        cases hstep
        exact h
      · rw [hbegin] at hstep
        cases hstep
        exact h.congr rfl rfl
  | advance =>
      obtain ⟨⟨waits, advanced⟩, hadvance, heq⟩ := exists_of_map_eq_ok hstep
      cases heq
      obtain ⟨performance, -, rfl⟩ := advance_eq_ok hadvance
      exact h.congr rfl rfl
  | finish moment =>
      cases hstep
      exact h.finish moment
  | reload =>
      cases hstep
      exact h.reload
  | setActive target active =>
      cases hstep
      exact h.modify target (fun _ => rfl) fun _ hcount => hcount
  | complete target =>
      cases hstep
      exact h.modify target (fun _ => rfl) fun event _ => event.completionCount_complete_ne_zero
  | completeAt target moment =>
      cases hstep
      exact h.modify target (fun _ => rfl) fun event _ => event.completionCount_complete_ne_zero
  | tick now | drainBacklog | setName identity name =>
      cases hstep
      exact h.congr rfl rfl

theorem Recorded.run (h : session.Recorded id) {operations : List Operation}
    {deeds : List (Deed σ)} (hoperations : ∀ rows, .applyProgress rows ∉ operations)
    (hrun : run perform session operations = .ok (deeds, next)) : next.Recorded id := by
  induction operations generalizing session deeds with
  | nil =>
      obtain ⟨-, rfl⟩ := Run.run_nil_eq_ok hrun
      exact h
  | cons operation operations ih =>
      obtain ⟨answer, middle, rest, hstep, hrest, rfl⟩ := Run.run_cons_eq_ok hrun
      refine ih (h.step ?_ hstep) ?_ hrest
      · rintro rows rfl
        exact hoperations rows (by simp)
      · intro rows hrows
        exact hoperations rows (List.mem_cons_of_mem _ hrows)

theorem Counted.recorded {past : List (Deed σ)} (h : Counted past session) {moment : Moment}
    (hrunning : session.runningEvent = some id)
    (hfinish : session.finish moment = (.ok true, next)) : next.Recorded id := by
  rcases h.finish_cases moment with
    ⟨hnothing, -⟩ | ⟨shown, rest, saved, store, hlast, -, hsave, hcounts⟩
  · rw [hnothing] at hfinish
    cases hfinish
  · rw [hcounts, Prod.mk.injEq] at hfinish
    obtain ⟨hanswer, rfl⟩ := hfinish
    have hsaved : saved = .ok () := by
      cases saved with
      | ok _ => rfl
      | error reason => cases hanswer
    obtain rfl : shown = id := by
      simpa [h.runningEvent_eq, hlast] using hrunning
    obtain ⟨event, hevent⟩ := Option.isSome_iff_exists.mp (h.known ⟨shown, 0⟩ (by simp [hlast]))
    have hid := (h.indexed.find?_eq_some_iff.mp hevent).2
    have hindexed : (session.table.modify shown (·.countedAt moment)).Indexed :=
      h.indexed.modify shown fun _ => rfl
    refine recorded_of_save hindexed ?_ hsave (.inl hsaved) _
    refine ⟨event.countedAt moment, ?_, event.completionCount_countedAt_ne_zero moment⟩
    rw [h.indexed.find?_modify, hevent, Option.map_some, if_pos hid]

/-- Once a finish has answered `true`, the event that was running is never offered again, whatever
is performed, finished, switched on or reloaded afterwards; only progress that is applied from
outside can bring it back. -/
theorem finished_event_stays_unavailable {setup : Setup σ}
    {start session next final : Session (Shelf σ)} (hbuild : setup.build = .ok start)
    {before after : List Operation} {past deeds : List (Deed (Shelf σ))}
    (hbefore : run perform start before = .ok (past, session)) {id : String}
    (hrunning : session.runningEvent = some id) {moment : Moment}
    (hfinish : session.finish moment = (.ok true, next))
    (hafter : run perform next after = .ok (deeds, final))
    (hkept : ∀ rows, .applyProgress rows ∉ after) (now : Moment) (filter : Filter) :
    ∀ event ∈ final.available now filter, event.id ≠ id := by
  have hcounted : Counted past session := (counted_of_run hbuild hbefore).1
  have hrecorded : next.Recorded id := hcounted.recorded hrunning hfinish
  exact (hrecorded.run hkept hafter).not_available now filter

def festival : Setup MemoryStore where
  catalog := some [{ id := "festival", start := "4 1 noon", stop := "4 30 noon", slots := "noon"
                     heroine := "Aoi", location := "shrine", title := "Festival" }]

/-- The festival is shown once more, not to its end, and its completion is read back. -/
def festivalAgain : List Operation := [
  .setActive "festival" false, .reload,
  .begin "festival" ⟨[{ speaker := "Aoi", text := "Again!" }]⟩, .finish ⟨⟨1, 4, 9⟩, "noon"⟩,
  .setActive "festival" true, .tick 3, .reload]

theorem festival_stays_unavailable : ∃ start past session next deeds final,
    festival.build = .ok start ∧
    (start.available ⟨⟨1, 4, 2⟩, "noon"⟩ {}).map Event.id = ["festival"] ∧
    run perform start [.begin "festival" ⟨[]⟩] = .ok (past, session) ∧
    session.finish ⟨⟨1, 4, 2⟩, "noon"⟩ = (.ok true, next) ∧
    run perform next festivalAgain = .ok (deeds, final) ∧
    ∀ event ∈ final.available ⟨⟨2, 4, 2⟩, "noon"⟩ {}, event.id ≠ "festival" := by
  obtain ⟨start, hbuild⟩ : ∃ start, festival.build = .ok start := ⟨_, rfl⟩
  have hend : (festival.build.toOption.bind fun start =>
      (run perform start [.begin "festival" ⟨[]⟩]).toOption.bind fun before =>
        (run perform (before.2.finish ⟨⟨1, 4, 2⟩, "noon"⟩).2 festivalAgain).toOption.map fun _ =>
          ((start.available ⟨⟨1, 4, 2⟩, "noon"⟩ {}).map Event.id, before.2.runningEvent,
            (before.2.finish ⟨⟨1, 4, 2⟩, "noon"⟩).1.toOption)) =
      some (["festival"], some "festival", some true) := by decide +kernel
  rw [hbuild] at hend
  cases hbefore : run perform start [.begin "festival" ⟨[]⟩] with
  | error reason => simp [hbefore, Except.toOption] at hend
  | ok before =>
      obtain ⟨past, session⟩ := before
      cases hafter : run perform (session.finish ⟨⟨1, 4, 2⟩, "noon"⟩).2 festivalAgain with
      | error reason => simp [hbefore, hafter, Except.toOption] at hend
      | ok after =>
          simp only [Except.toOption, hbefore, hafter, Option.bind_some, Option.map_some,
            Option.some.injEq, Prod.mk.injEq] at hend
          obtain ⟨hoffered, hrunning, hanswer⟩ := hend
          have hfinish : session.finish ⟨⟨1, 4, 2⟩, "noon"⟩ =
              (.ok true, (session.finish ⟨⟨1, 4, 2⟩, "noon"⟩).2) := by
            refine Prod.ext ?_ rfl
            cases hresult : (session.finish ⟨⟨1, 4, 2⟩, "noon"⟩).1 <;> simp_all
          exact ⟨start, past, session, _, after.1, after.2, hbuild, hoffered, hbefore, hfinish,
            hafter, finished_event_stays_unavailable hbuild hbefore hrunning hfinish hafter
              (by simp [festivalAgain]) _ _⟩

end Session

end VisualNovel
