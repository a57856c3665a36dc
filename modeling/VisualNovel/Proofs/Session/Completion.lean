import VisualNovel.Proofs.EventTable.Index
import VisualNovel.Proofs.Session.Run

namespace VisualNovel

/-- The event with one more completion, which was at the moment. The count stays at its largest
value. -/
def Event.countedAt (event : Event) (moment : Moment) : Event :=
  { event with
    completionCount := .ofNat (min (event.completionCount.toNat + 1) (UInt32.size - 1))
    lastPlayed := some moment }

theorem Event.toNat_completionCount_countedAt (event : Event) (moment : Moment) :
    (event.countedAt moment).completionCount.toNat =
      min (event.completionCount.toNat + 1) (UInt32.size - 1) := by
  rw [countedAt, UInt32.toNat_ofNat']
  exact Nat.mod_eq_of_lt (Nat.lt_of_le_of_lt (Nat.min_le_right _ _) (by decide))

theorem Event.complete_eq_countedAt (event : Event) (moment : Moment) :
    { event.complete with lastPlayed := some moment } = event.countedAt moment := by
  have hsize := event.completionCount.toNat_lt_size
  simp only [complete, countedAt, Event.mk.injEq, and_true, true_and]
  apply UInt32.toNat_inj.mp
  rw [UInt32.toNat_ofNat']
  split
  · rename_i hroom
    rw [UInt32.toNat_add]
    rw [UInt32.size] at *
    simp
    omega
  · rw [UInt32.size] at *
    omega

theorem EventTable.completeAt_eq (table : EventTable) (id : String) (moment : Moment) :
    (table.completeAt id moment).2 = table.modify id (·.countedAt moment) := by
  have hchange : (fun event : Event => { event.complete with lastPlayed := some moment }) =
      (·.countedAt moment) := by
    funext event
    exact event.complete_eq_countedAt moment
  rw [completeAt, modify?, hchange]

/-- A showing of an event, and how often it was counted. -/
structure Showing where
  id : String
  completions : Nat
deriving DecidableEq, Repr

namespace Session

/-- A finish may count and fail: the store is asked after the table was changed. -/
def counts : Except SessionError Bool → Bool
  | .ok finished => finished
  | .error (.store _) => true
  | .error _ => false

/-- Performing the script leaves the events alone. -/
def Operation.isPlay : Operation → Bool
  | .begin .. | .advance | .tick _ => true
  | _ => false

/-- Edits of the counts, other than by finishing. -/
def Operation.setsCounts : Operation → Bool
  | .reload | .applyProgress _ | .complete _ | .completeAt .. => true
  | _ => false

variable {σ : Type}

def addDeed (showings : List Showing) (deed : Deed σ) : List Showing :=
  match deed.operation, deed.answer with
  | .begin id _, .done => ⟨id, 0⟩ :: showings
  | .finish _, .finished result =>
      if counts result then
        showings.modifyHead fun showing => { showing with completions := showing.completions + 1 }
      else showings
  | _, _ => showings

/-- The showings of a run, the last one first. Each finish that counts is put down to the last
one. -/
def showings (deeds : List (Deed σ)) : List Showing :=
  deeds.foldl addDeed []

/-- How often the showings of an event were counted. -/
def completionsOf (id : String) : List Showing → Nat
  | [] => 0
  | showing :: showings =>
      (if showing.id = id then showing.completions else 0) + completionsOf id showings

@[simp] theorem showings_snoc (past : List (Deed σ)) (deed : Deed σ) :
    showings (past ++ [deed]) = addDeed (showings past) deed := by
  simp [showings]

/-- The session knows the last showing and whether it was counted. -/
structure Counted (past : List (Deed σ)) (session : Session σ) : Prop where
  indexed : session.table.Indexed
  running_eq : session.running = (showings past).head?.map fun showing =>
    ⟨showing.id, showing.completions != 0⟩
  completions_le : ∀ showing ∈ showings past, showing.completions ≤ 1
  known : ∀ showing ∈ showings past, (session.table.find? showing.id).isSome

theorem Counted.runningEvent_eq {past : List (Deed σ)} {session : Session σ}
    (h : Counted past session) : session.runningEvent = (showings past).head?.map Showing.id := by
  rw [runningEvent, h.running_eq, Option.map_map]
  rfl

variable [ProgressStore σ]

/-- A finish counts if and only if the last showing is at its end and was not counted yet. -/
theorem Counted.finish_cases {past : List (Deed σ)} {session : Session σ}
    (h : Counted past session) (moment : Moment) :
    (session.finish moment = (.ok false, session) ∧
      ¬ ∃ id rest, showings past = ⟨id, 0⟩ :: rest ∧ session.performance.isFinished = true) ∨
    (∃ id rest saved store, showings past = ⟨id, 0⟩ :: rest ∧
      session.performance.isFinished = true ∧
      ProgressStore.save session.store
        (session.table.modify id (·.countedAt moment)).progress = (saved, store) ∧
      session.finish moment = ((saved.mapError SessionError.store).map fun _ => true,
        { session with
          table := session.table.modify id (·.countedAt moment)
          store
          running := some ⟨id, true⟩ })) := by
  rcases Session.finish_cases session moment with
    ⟨hfinish, hnot⟩ | ⟨id, saved, store, hrunning, hend, hsave, hfinish⟩
  · left
    refine ⟨hfinish, ?_⟩
    rintro ⟨id, rest, hshowings, hend⟩
    have hrunning := h.running_eq
    rw [hshowings] at hrunning
    rcases hnot _ hrunning with hcompleted | hunfinished
    · cases hcompleted
    · rw [hend] at hunfinished
      cases hunfinished
  · right
    have hhead := h.running_eq
    rw [hrunning] at hhead
    cases hshowings : showings past with
    | nil =>
        rw [hshowings] at hhead
        cases hhead
    | cons showing rest =>
        obtain ⟨shown, completions⟩ := showing
        rw [hshowings] at hhead
        simp only [List.head?_cons, Option.map_some, Option.some.injEq, Running.mk.injEq] at hhead
        obtain ⟨rfl, hcompletions⟩ := hhead
        obtain rfl : completions = 0 := by simpa using hcompletions.symm
        rw [EventTable.completeAt_eq] at hsave hfinish
        exact ⟨id, rest, saved, store, rfl, hend, hsave, hfinish⟩

theorem counts_saved (saved : Except LoadError Unit) :
    counts ((saved.mapError SessionError.store).map fun _ => true) = true := by
  cases saved <;> rfl

theorem counts_eq_true_iff (result : Except SessionError Bool) :
    counts result = true ↔ result = .ok true ∨ ∃ reason, result = .error (.store reason) := by
  rcases result with (_ | _ | _ | _ | _) | finished <;> simp [counts]

/-- All that a step can do to the table, the store and the showings. -/
inductive Effect (past : List (Deed σ)) (session : Session σ) (deed : Deed σ) : Prop
  | nothing
      (htable : deed.state.table = session.table)
      (hstore : deed.state.store = session.store)
      (hrunning : deed.state.running = session.running)
      (hshowings : showings (past ++ [deed]) = showings past)
  | shows (id : String)
      (hknown : (session.table.find? id).isSome)
      (htable : deed.state.table = session.table)
      (hstore : deed.state.store = session.store)
      (hrunning : deed.state.running = some ⟨id, false⟩)
      (hshowings : showings (past ++ [deed]) = ⟨id, 0⟩ :: showings past)
  | counts (id : String) (rest : List Showing) (moment : Moment)
      (hoperation : deed.operation = .finish moment)
      (hanswer : deed.answer ≠ .finished (.ok false))
      (hlast : showings past = ⟨id, 0⟩ :: rest)
      (htable : deed.state.table = session.table.modify id (·.countedAt moment))
      (hrunning : deed.state.running = some ⟨id, true⟩)
      (hshowings : showings (past ++ [deed]) = ⟨id, 1⟩ :: rest)
  | edits
      (hoperation : deed.operation.isPlay = false)
      (hanswer : ∀ result, deed.answer ≠ .finished result)
      (hindexed : deed.state.table.Indexed)
      (hknown : ∀ id, (deed.state.table.find? id).isSome = (session.table.find? id).isSome)
      (hcounts : deed.operation.setsCounts = false → ∀ id,
        (deed.state.table.find? id).map Event.completionCount =
          (session.table.find? id).map Event.completionCount)
      (hrunning : deed.state.running = session.running)
      (hshowings : showings (past ++ [deed]) = showings past)

theorem Counted.effect {past : List (Deed σ)} {session : Session σ} (h : Counted past session)
    {operation : Operation} {answer : Answer} {next : Session σ}
    (hstep : session.perform operation = .ok (answer, next)) :
    Effect past session ⟨operation, answer, next⟩ := by
  cases operation with
  | available moment filter =>
      cases hstep
      exact .nothing rfl rfl rfl (showings_snoc ..)
  | begin id script =>
      rcases begin_cases session id script with ⟨-, hbegin⟩ | ⟨event, hfound, hbegin⟩
      · rw [hbegin] at hstep
        cases hstep
        exact .nothing rfl rfl rfl (showings_snoc ..)
      · rw [hbegin] at hstep
        cases hstep
        exact .shows id (by simp [hfound]) rfl rfl rfl (showings_snoc ..)
  | advance =>
      obtain ⟨⟨waits, advanced⟩, hadvance, heq⟩ := exists_of_map_eq_ok hstep
      cases heq
      obtain ⟨performance, -, rfl⟩ := advance_eq_ok hadvance
      exact .nothing rfl rfl rfl (showings_snoc ..)
  | tick now =>
      cases hstep
      exact .nothing rfl rfl rfl (showings_snoc ..)
  | finish moment =>
      rcases h.finish_cases moment with
        ⟨hfinish, -⟩ | ⟨id, rest, saved, store, hlast, -, -, hfinish⟩
      · simp only [perform, hfinish, Except.ok.injEq, Prod.mk.injEq] at hstep
        obtain ⟨rfl, rfl⟩ := hstep
        exact .nothing rfl rfl rfl (showings_snoc ..)
      · simp only [perform, hfinish, Except.ok.injEq, Prod.mk.injEq] at hstep
        obtain ⟨rfl, rfl⟩ := hstep
        have hcounts := counts_saved saved
        refine .counts id rest moment rfl ?_ hlast rfl rfl ?_
        · intro hanswer
          rw [Answer.finished.injEq] at hanswer
          rw [hanswer] at hcounts
          cases hcounts
        · simp [addDeed, hcounts, hlast]
  | reload =>
      cases hstep
      exact .edits rfl (by simp) (h.indexed.reload _) (by simp [reload])
        (by simp [Operation.setsCounts]) rfl (showings_snoc ..)
  | applyProgress rows =>
      cases hstep
      exact .edits rfl (by simp) (h.indexed.applyProgress rows) (by simp)
        (by simp [Operation.setsCounts]) rfl (showings_snoc ..)
  | setActive id active =>
      cases hstep
      refine .edits rfl (by simp) (h.indexed.modify id fun _ => rfl)
        (by simp [EventTable.setActive, EventTable.modify?]) ?_ rfl (showings_snoc ..)
      intro _ other
      simp only [EventTable.setActive, EventTable.modify?, h.indexed.find?_modify,
        Option.map_map]
      congr 1
      funext event
      simp only [Function.comp_apply]
      split <;> rfl
  | complete id =>
      cases hstep
      exact .edits rfl (by simp) (h.indexed.modify id fun _ => rfl)
        (by simp [EventTable.complete, EventTable.modify?]) (by simp [Operation.setsCounts]) rfl
        (showings_snoc ..)
  | completeAt id moment =>
      cases hstep
      exact .edits rfl (by simp) (h.indexed.modify id fun _ => rfl)
        (by simp [EventTable.completeAt, EventTable.modify?]) (by simp [Operation.setsCounts]) rfl
        (showings_snoc ..)
  | drainBacklog =>
      cases hstep
      exact .nothing rfl rfl rfl (showings_snoc ..)
  | setName identity name =>
      cases hstep
      exact .nothing rfl rfl rfl (showings_snoc ..)

theorem counted_build {setup : Setup σ} {start : Session (Shelf σ)}
    (hbuild : setup.build = .ok start) : Counted [] start := by
  obtain ⟨config, -, hbuild⟩ := exists_of_bind_eq_ok hbuild
  obtain ⟨cast, -, hbuild⟩ := exists_of_bind_eq_ok hbuild
  obtain ⟨catalog, -, hbuild⟩ := exists_of_bind_eq_ok hbuild
  cases hbuild
  exact ⟨(EventTable.Indexed.load _ catalog []).reload setup.shelf, rfl, nofun, nofun⟩

theorem Counted.step {past : List (Deed σ)} {session : Session σ} (h : Counted past session)
    {operation : Operation} {answer : Answer} {next : Session σ}
    (hstep : session.perform operation = .ok (answer, next)) :
    Counted (past ++ [⟨operation, answer, next⟩]) next := by
  have hle := h.completions_le
  have hknown := h.known
  cases h.effect hstep with
  | nothing htable _ hrunning hshowings =>
      constructor
      · exact htable ▸ h.indexed
      · rw [hshowings, hrunning, h.running_eq]
      · rwa [hshowings]
      · rwa [hshowings, htable]
  | shows id hid htable _ hrunning hshowings =>
      constructor
      · exact htable ▸ h.indexed
      · rw [hshowings, hrunning]
        rfl
      · rw [hshowings]
        simpa using hle
      · rw [hshowings, htable]
        simpa [hid] using hknown
  | counts id rest moment _ _ hlast htable hrunning hshowings =>
      rw [hlast] at hle hknown
      constructor
      · exact htable ▸ h.indexed.modify id fun _ => rfl
      · rw [hshowings, hrunning]
        rfl
      · rw [hshowings]
        simpa using hle
      · rw [hshowings, htable]
        simpa using hknown
  | edits _ _ hindexed hsame _ hrunning hshowings =>
      constructor
      · exact hindexed
      · rw [hshowings, hrunning, h.running_eq]
      · rwa [hshowings]
      · rw [hshowings]
        intro showing hshowing
        rw [hsame]
        exact hknown showing hshowing

/-- The count of each event is what it was, and the completions of its showings. -/
def CountsSince (start : EventTable) (past : List (Deed σ)) (table : EventTable) : Prop :=
  ∀ id first event, start.find? id = some first → table.find? id = some event →
    event.completionCount.toNat =
      min (first.completionCount.toNat + completionsOf id (showings past)) (UInt32.size - 1)

theorem CountsSince.step {start : EventTable} {past : List (Deed σ)} {session : Session σ}
    (hcounted : Counted past session) (h : CountsSince start past session.table)
    {operation : Operation} {answer : Answer} {next : Session σ}
    (hsets : operation.setsCounts = false)
    (hstep : session.perform operation = .ok (answer, next)) :
    CountsSince start (past ++ [⟨operation, answer, next⟩]) next.table := by
  intro id first event hfirst hevent
  cases hcounted.effect hstep with
  | nothing htable _ _ hshowings =>
      rw [htable] at hevent
      rw [hshowings]
      exact h id first event hfirst hevent
  | shows shown _ htable _ _ hshowings =>
      rw [htable] at hevent
      have hzero : completionsOf id (⟨shown, 0⟩ :: showings past) =
          completionsOf id (showings past) := by
        by_cases hid : shown = id <;> simp [completionsOf, hid]
      rw [hshowings, hzero]
      exact h id first event hfirst hevent
  | counts shown rest moment _ _ hlast htable _ hshowings =>
      rw [htable, hcounted.indexed.find?_modify, Option.map_eq_some_iff] at hevent
      obtain ⟨before, hbefore, hevent⟩ := hevent
      have hid := (hcounted.indexed.find?_eq_some_iff.mp hbefore).2
      have hcount := h id first before hfirst hbefore
      rw [hlast] at hcount
      rw [hshowings]
      by_cases hsame : shown = id
      · rw [if_pos (hid.trans hsame.symm)] at hevent
        subst hevent hsame
        rw [Event.toNat_completionCount_countedAt, hcount]
        simp [completionsOf]
        omega
      · rw [if_neg fun heq => hsame (heq.symm.trans hid)] at hevent
        subst hevent
        simpa [completionsOf, hsame] using hcount
  | edits _ _ _ _ hcounts _ hshowings =>
      have hsame := hcounts hsets id
      rw [hevent, Option.map_some, eq_comm, Option.map_eq_some_iff] at hsame
      obtain ⟨before, hbefore, hsame⟩ := hsame
      rw [hshowings, ← hsame]
      exact h id first before hfirst hbefore

theorem counted_of_run {setup : Setup σ} {start session : Session (Shelf σ)}
    (hbuild : setup.build = .ok start) {operations : List Operation}
    {deeds : List (Deed (Shelf σ))} (hrun : run perform start operations = .ok (deeds, session)) :
    Counted deeds session ∧ ((∀ deed ∈ deeds, deed.operation.setsCounts = false) →
      CountsSince start.table deeds session.table) := by
  refine Run.run_induction (motive := fun deeds session => Counted deeds session ∧
    ((∀ deed ∈ deeds, deed.operation.setsCounts = false) →
      CountsSince start.table deeds session.table)) ?_ ?_ hrun
  · refine ⟨counted_build hbuild, ?_⟩
    intro _ id first event hfirst hevent
    have hsize := event.completionCount.toNat_lt_size
    obtain rfl : first = event := Option.some.inj (hfirst.symm.trans hevent)
    simp only [showings, List.foldl_nil, completionsOf, Nat.add_zero]
    omega
  · rintro past session operation answer next ⟨hcounted, hcounts⟩ hstep
    refine ⟨hcounted.step hstep, ?_⟩
    intro hsets
    have hpast := hcounts fun deed hdeed => hsets deed (by simp [hdeed])
    exact hpast.step hcounted (hsets ⟨operation, answer, next⟩ (by simp)) hstep

theorem Counted.finish_of_last {past : List (Deed σ)} {session : Session σ}
    (h : Counted past session) {id : String} {rest : List Showing}
    (hlast : showings past = ⟨id, 0⟩ :: rest) (hend : session.performance.isFinished = true)
    (moment : Moment) : ∃ place event saved next,
      session.finish moment = ((saved.mapError SessionError.store).map fun _ => true, next) ∧
      session.table.events[place]? = some event ∧ event.id = id ∧
      next.table = { session.table with
        events := session.table.events.modify place (·.countedAt moment) } ∧
      ProgressStore.save session.store next.table.progress = (saved, next.store) := by
  rcases h.finish_cases moment with ⟨-, hnot⟩ | ⟨shown, _, saved, store, hshown, -, hsave, hfinish⟩
  · exact absurd ⟨id, rest, hlast, hend⟩ hnot
  · rw [hlast] at hshown
    cases hshown
    have hknown := h.known ⟨id, 0⟩ (by simp [hlast])
    obtain ⟨event, hevent⟩ := Option.isSome_iff_exists.mp hknown
    obtain ⟨place, hindex, hplace⟩ := Option.bind_eq_some_iff.mp hevent
    refine ⟨place, event, saved, _, hfinish, hplace, ?_, ?_, hsave⟩
    · exact (h.indexed.find?_eq_some_iff.mp hevent).2
    · simp [EventTable.modify, hindex]

/-- What the finishes of a run count. The running event is in the table. Performing it leaves table
and store alone, and so does a finish that answers `false`. A finish that counts is the first one
for the last showing, at the end of its script; it changes the one event with the id of the
showing, and saves the table once. Hence a showing is counted at most once, and never after the
next one began; and the counts are exact as long as nothing else sets them. -/
theorem finish_counts_each_showing_once {setup : Setup σ} {start session : Session (Shelf σ)}
    (hbuild : setup.build = .ok start) {operations : List Operation}
    {deeds : List (Deed (Shelf σ))} (hrun : run perform start operations = .ok (deeds, session)) :
    (∀ id, session.runningEvent = some id → (session.table.find? id).isSome) ∧
    (∀ operation answer next, session.perform operation = .ok (answer, next) →
      operation.isPlay = true ∨ answer = .finished (.ok false) →
      next.table = session.table ∧ next.store = session.store) ∧
    (∀ moment,
      ((session.finish moment).1 = .ok true ∨
        ∃ reason, (session.finish moment).1 = .error (.store reason)) ↔
      ∃ id rest, showings deeds = ⟨id, 0⟩ :: rest ∧ session.performance.isFinished = true) ∧
    (∀ moment id rest, showings deeds = ⟨id, 0⟩ :: rest →
      session.performance.isFinished = true → session.runningEvent = some id ∧
      ∃ place event saved next,
        session.finish moment = ((saved.mapError SessionError.store).map fun _ => true, next) ∧
        session.table.events[place]? = some event ∧ event.id = id ∧
        next.table = { session.table with
          events := session.table.events.modify place (·.countedAt moment) } ∧
        ProgressStore.save session.store next.table.progress = (saved, next.store)) ∧
    (∀ showing ∈ showings deeds, showing.completions ≤ 1) ∧
    ((∀ deed ∈ deeds, deed.operation.setsCounts = false) →
      ∀ id first event, start.table.find? id = some first → session.table.find? id = some event →
        event.completionCount.toNat =
          min (first.completionCount.toNat + completionsOf id (showings deeds))
            (UInt32.size - 1)) := by
  obtain ⟨h, hcounts⟩ := counted_of_run hbuild hrun
  refine ⟨?_, ?_, ?_, ?_, h.completions_le, hcounts⟩
  · intro id hrunning
    rw [h.runningEvent_eq, Option.map_eq_some_iff] at hrunning
    obtain ⟨showing, hshowing, rfl⟩ := hrunning
    exact h.known showing (List.mem_of_head? hshowing)
  · intro operation answer next hstep hplay
    cases h.effect hstep with
    | nothing htable hstore _ _ => exact ⟨htable, hstore⟩
    | shows _ _ htable hstore _ _ => exact ⟨htable, hstore⟩
    | counts id rest moment hoperation hanswer _ _ _ _ =>
        subst hoperation
        rcases hplay with hplay | hplay
        · cases hplay
        · exact absurd hplay hanswer
    | edits hoperation hanswer _ _ _ _ _ =>
        rcases hplay with hplay | hplay
        · rw [hoperation] at hplay
          cases hplay
        · exact absurd hplay (hanswer _)
  · intro moment
    rw [← counts_eq_true_iff]
    rcases h.finish_cases moment with
      ⟨hfinish, hnot⟩ | ⟨id, rest, saved, store, hlast, hend, -, hfinish⟩
    · rw [hfinish]
      exact iff_of_false Bool.false_ne_true hnot
    · rw [hfinish]
      exact iff_of_true (counts_saved saved) ⟨id, rest, hlast, hend⟩
  · intro moment id rest hlast hend
    refine ⟨?_, h.finish_of_last hlast hend moment⟩
    rw [h.runningEvent_eq, hlast]
    rfl

def oneEvent : Setup MemoryStore where
  catalog := some [{ id := "opening", start := "1-4-1", stop := "1-4-30", slots := "noon"
                     heroine := "Aoi", location := "gate", title := "Opening" }]

/-- A showing that is finished too early, at its end, and once again. -/
def openingRun : List Operation :=
  [.begin "opening" { lines := [{ speaker := "Aoi", text := "Hello." }] },
    .finish ⟨⟨1, 4, 2⟩, "noon"⟩, .advance, .finish ⟨⟨1, 4, 2⟩, "noon"⟩,
    .finish ⟨⟨1, 4, 3⟩, "noon"⟩]

theorem finish_counts_opening_once : ∃ start deeds session,
    oneEvent.build = .ok start ∧ run perform start openingRun = .ok (deeds, session) ∧
    showings deeds = [⟨"opening", 1⟩] ∧
    (∃ event, session.table.find? "opening" = some event ∧
      event.completionCount.toNat = 1) ∧
    ∀ moment, (session.finish moment).1 ≠ .ok true := by
  obtain ⟨start, hbuild⟩ : ∃ start, oneEvent.build = .ok start := ⟨_, rfl⟩
  have hend : (oneEvent.build.toOption.bind fun start =>
      (run perform start openingRun).toOption.map fun result =>
        ((start.table.find? "opening").map Event.completionCount,
          result.1.all (!·.operation.setsCounts), showings result.1,
          result.2.runningEvent)) =
      some (some 0, true, [⟨"opening", 1⟩], some "opening") := by decide +kernel
  rw [hbuild] at hend
  cases hrun : run perform start openingRun with
  | error reason =>
      simp [hrun, Except.toOption] at hend
  | ok result =>
      obtain ⟨deeds, session⟩ := result
      simp only [Except.toOption, hrun, Option.bind_some, Option.map_some, Option.some.injEq,
        Prod.mk.injEq, Option.map_eq_some_iff, List.all_eq_true, Bool.not_eq_true'] at hend
      obtain ⟨⟨first, hfirst, hzero⟩, hsets, hshowings, hrunning⟩ := hend
      obtain ⟨hknown, -, hcounts, -, -, hcount⟩ := finish_counts_each_showing_once hbuild hrun
      obtain ⟨event, hevent⟩ := Option.isSome_iff_exists.mp (hknown "opening" hrunning)
      have hone := hcount hsets "opening" first event hfirst hevent
      rw [hzero, hshowings] at hone
      refine ⟨start, deeds, session, hbuild, hrun, hshowings, ⟨event, hevent, hone⟩, ?_⟩
      intro moment hfinish
      obtain ⟨id, rest, hlast, -⟩ := (hcounts moment).mp (.inl hfinish)
      rw [hshowings] at hlast
      cases hlast

end Session

end VisualNovel
