import VisualNovel.Proofs.Session.Completion

namespace VisualNovel.Session

section Completed

variable {σ : Type} [ProgressStore σ] {session next : Session σ} {id : String}

theorem finish_of_completed (hrunning : session.running = some ⟨id, true⟩) (moment : Moment) :
    session.finish moment = (.ok false, session) := by
  rw [finish, hrunning]
  rfl

theorem completed_of_perform (hrunning : session.running = some ⟨id, true⟩)
    {operation : Operation} {answer : Answer}
    (hbegin : ∀ other script, operation ≠ .begin other script)
    (hstep : session.perform operation = .ok (answer, next)) :
    next.running = some ⟨id, true⟩ ∧ next.store = session.store ∧
      ∀ result, answer = .finished result → result = .ok false := by
  cases operation with
  | begin other script => exact absurd rfl (hbegin other script)
  | advance =>
      obtain ⟨⟨waits, advanced⟩, hadvance, heq⟩ := exists_of_map_eq_ok hstep
      cases heq
      obtain ⟨performance, -, rfl⟩ := advance_eq_ok hadvance
      exact ⟨hrunning, rfl, by simp⟩
  | finish moment =>
      rw [perform, finish_of_completed hrunning] at hstep
      cases hstep
      refine ⟨hrunning, rfl, ?_⟩
      rintro result ⟨⟩
      rfl
  | available | tick | reload | applyProgress | setActive | complete | completeAt | drainBacklog
  | setName =>
      cases hstep
      exact ⟨hrunning, rfl, by simp⟩

theorem completed_of_run (hrunning : session.running = some ⟨id, true⟩)
    {operations : List Operation} {deeds : List (Deed σ)}
    (hbegin : ∀ other script, .begin other script ∉ operations)
    (hrun : run perform session operations = .ok (deeds, next)) :
    next.running = some ⟨id, true⟩ ∧ next.store = session.store ∧
      ∀ deed ∈ deeds, ∀ result, deed.answer = .finished result → result = .ok false := by
  induction operations generalizing session deeds with
  | nil =>
      obtain ⟨rfl, rfl⟩ := Run.run_nil_eq_ok hrun
      exact ⟨hrunning, rfl, by simp⟩
  | cons operation operations ih =>
      obtain ⟨answer, middle, rest, hstep, hrest, rfl⟩ := Run.run_cons_eq_ok hrun
      obtain ⟨hmiddle, hstore, hanswer⟩ := completed_of_perform hrunning
        (fun other script hoperation => hbegin other script (by simp [hoperation])) hstep
      obtain ⟨hnext, hkept, hanswers⟩ := ih hmiddle
        (fun other script hmem => hbegin other script (List.mem_cons_of_mem _ hmem)) hrest
      exact ⟨hnext, hkept.trans hstore, List.forall_mem_cons.mpr ⟨hanswer, hanswers⟩⟩

theorem Counted.failed_finish {past : List (Deed σ)} (h : Counted past session)
    {moment : Moment} {reason : LoadError}
    (hfailed : session.finish moment = (.error (.store reason), next)) :
    ∃ id event, session.running = some ⟨id, false⟩ ∧ next.running = some ⟨id, true⟩ ∧
      session.table.find? id = some event ∧
      next.table.find? id = some (event.countedAt moment) ∧
      ProgressStore.save session.store next.table.progress = (.error reason, next.store) := by
  rcases h.finish_cases moment with
    ⟨hfinish, -⟩ | ⟨id, rest, saved, store, hlast, -, hsave, hfinish⟩
  · rw [hfinish] at hfailed
    cases hfailed
  · rw [hfinish, Prod.mk.injEq] at hfailed
    obtain ⟨hanswer, rfl⟩ := hfailed
    obtain rfl : saved = .error reason := by
      cases saved with
      | ok _ => cases hanswer
      | error other =>
          cases hanswer
          rfl
    obtain ⟨event, hevent⟩ := Option.isSome_iff_exists.mp (h.known ⟨id, 0⟩ (by simp [hlast]))
    refine ⟨id, event, ?_, rfl, hevent, ?_, hsave⟩
    · rw [h.running_eq, hlast]
      rfl
    · rw [h.indexed.find?_modify, hevent, Option.map_some,
        if_pos (h.indexed.find?_eq_some_iff.mp hevent).2]

end Completed

/-- A finish that the store lets fail has counted the completion in the table, and it was the only
one to ask the store for it: whatever store takes its place, even one that works again, until the
next event begins all finishes answer `false` and the store stays as it is. -/
theorem failed_finish_is_not_repeated {σ : Type} [ProgressStore σ] {setup : Setup σ}
    {start session next : Session (Shelf σ)} (hbuild : setup.build = .ok start)
    {operations : List Operation} {deeds : List (Deed (Shelf σ))}
    (hrun : run perform start operations = .ok (deeds, session))
    {moment : Moment} {reason : LoadError}
    (hfailed : session.finish moment = (.error (.store reason), next)) :
    (∃ id event, session.runningEvent = some id ∧ session.table.find? id = some event ∧
      next.table.find? id = some (event.countedAt moment) ∧
      ProgressStore.save session.store next.table.progress = (.error reason, next.store)) ∧
    ∀ mended : Shelf σ,
      (∀ later, { next with store := mended }.finish later =
        (.ok false, { next with store := mended })) ∧
      ∀ operations deeds final,
        run perform { next with store := mended } operations = .ok (deeds, final) →
        (∀ other script, .begin other script ∉ operations) →
        final.store = mended ∧
          ∀ deed ∈ deeds, ∀ result, deed.answer = .finished result → result = .ok false := by
  obtain ⟨h, -⟩ := counted_of_run hbuild hrun
  obtain ⟨id, event, hrunning, hcompleted, hevent, hcounted, hsave⟩ := h.failed_finish hfailed
  refine ⟨⟨id, event, ?_, hevent, hcounted, hsave⟩, ?_⟩
  · rw [runningEvent, hrunning]
    rfl
  · intro mended
    have hmended : { next with store := mended }.running = some ⟨id, true⟩ := hcompleted
    refine ⟨finish_of_completed hmended, ?_⟩
    intro operations deeds final hrun hbegin
    exact (completed_of_run hmended hbegin hrun).2

/-- The folder that the progress is to be saved in is not there yet. -/
def unmadeFolder : Setup MemoryStore where
  progressFile := some "save/events.ron"
  catalog := some [{ id := "opening", start := "4 1 noon", stop := "4 30 noon", slots := "noon"
                     heroine := "Aoi", location := "gate", title := "Opening" }]

/-- The same files, and the folder. -/
def madeFolder : Shelf MemoryStore where
  folder := { Folder.empty with folders := Folder.empty.folders.insert "save" }
  keeping := .file "save/events.ron"

theorem failed_finish_of_opening_is_not_repeated : ∃ start deeds session next,
    unmadeFolder.build = .ok start ∧
    run perform start [.begin "opening" ⟨[]⟩] = .ok (deeds, session) ∧
    session.finish ⟨⟨1, 4, 2⟩, "noon"⟩ = (.error (.store (.file .notFound)), next) ∧
    (session.table.find? "opening").map Event.completionCount = some 0 ∧
    (next.table.find? "opening").map Event.completionCount = some 1 ∧
    (ProgressStore.save madeFolder next.table.progress).1 = .ok () ∧
    { next with store := madeFolder }.finish ⟨⟨1, 4, 2⟩, "noon"⟩ =
      (.ok false, { next with store := madeFolder }) ∧
    ProgressStore.load madeFolder = .ok [] := by
  obtain ⟨start, hbuild⟩ : ∃ start, unmadeFolder.build = .ok start := ⟨_, rfl⟩
  have hend : (unmadeFolder.build.toOption.bind fun start =>
      (run perform start [.begin "opening" ⟨[]⟩]).toOption.map fun result =>
        ((result.2.table.find? "opening").map Event.completionCount,
          ((result.2.finish ⟨⟨1, 4, 2⟩, "noon"⟩).2.table.find? "opening").map
            Event.completionCount,
          match (result.2.finish ⟨⟨1, 4, 2⟩, "noon"⟩).1 with
          | .ok _ => none
          | .error reason => some reason)) =
      some (some 0, some 1, some (.store (.file .notFound))) := by decide +kernel
  rw [hbuild] at hend
  obtain ⟨⟨deeds, session⟩, hrun, hend⟩ := exists_of_toOption_map_eq_some hend
  simp only [Prod.mk.injEq] at hend
  obtain ⟨hbefore, hafter, hanswer⟩ := hend
  have hfailed : session.finish ⟨⟨1, 4, 2⟩, "noon"⟩ =
      (.error (.store (.file .notFound)), (session.finish ⟨⟨1, 4, 2⟩, "noon"⟩).2) := by
    refine Prod.ext ?_ rfl
    cases hresult : (session.finish ⟨⟨1, 4, 2⟩, "noon"⟩).1 <;> simp_all
  have hmended := (failed_finish_is_not_repeated hbuild hrun hfailed).2 madeFolder
  exact ⟨start, deeds, session, _, hbuild, hrun, hfailed, hbefore, hafter, rfl, hmended.1 _, rfl⟩

end VisualNovel.Session
