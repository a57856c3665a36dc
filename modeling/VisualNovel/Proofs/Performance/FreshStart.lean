import VisualNovel.Proofs.History
import VisualNovel.Proofs.Performance.Invariant
import VisualNovel.Proofs.Performance.Timeless

namespace VisualNovel

theorem Scroll.stop_append (scroll : Scroll) (entries backlog : List BacklogEntry) :
    scroll.stop (entries ++ backlog) =
      ((scroll.stop backlog).1, (scroll.stop backlog).2.1,
        entries ++ (scroll.stop backlog).2.2) := by
  cases hmode : scroll.mode <;> simp [stop, hmode]

namespace Performance

/-- The performance with entries in its backlog that were there before. -/
def behind (p : Performance) (entries : List BacklogEntry) : Performance :=
  { p with backlog := entries ++ p.backlog }

theorem aside_behind (entries : List BacklogEntry) : Aside (behind · entries) where
  cast := fun _ => rfl
  stage := fun _ => rfl
  setStage := fun _ _ => rfl
  route := by
    intro p command
    cases command with
    | stopScroll => simp only [behind, route, Scroll.stop_append]
    | _ => rfl

theorem present_behind (p : Performance) (entries : List BacklogEntry) (line : Line) :
    (p.behind entries).present line = (p.present line).behind entries := by
  have hremember : ((p.behind entries).remember line).expressions =
      (p.remember line).expressions :=
    remember_expressions_congr rfl rfl rfl
  rw [present_eq, present_eq, hremember]
  by_cases hmode : p.scrollMode <;> simp [behind, hmode, shownName]

theorem alike_behind (entries : List BacklogEntry) : Alike id (behind · entries) where
  moveTo := fun cursor h => congrArg (Performance.moveTo · cursor) h
  present := fun line h => (congrArg (Performance.present · line) h).trans
    (present_behind _ entries line)
  execute := by
    intro p q command h
    obtain rfl : p = q.behind entries := h
    rw [(aside_behind entries).execute, map_then_map]
    rfl

theorem map_perform_behind (p : Performance) (entries : List BacklogEntry) {operation : Operation}
    (h : operation ≠ .drainBacklog) :
    ((p.behind entries).perform operation).map (Prod.map id id) =
      (p.perform operation).map (Prod.map id (behind · entries)) := by
  cases operation with
  | load script => rfl
  | advance => exact map_perform_advance_congr ((alike_behind entries).map_advance rfl rfl rfl)
  | tick now => rfl
  | drainBacklog => exact absurd rfl h
  | setName identity name => rfl

theorem history_behind (p : Performance) (entries : List BacklogEntry)
    {operations : List Operation} (h : .drainBacklog ∉ operations) :
    history perform (p.behind entries) operations =
      (history perform p operations).map (behind · entries) := by
  -- The old entries are seen in one history, and put in front of the new ones in the other.
  have hsame : (history perform (p.behind entries) operations).map id =
      (history perform p operations).map (behind · entries) := by
    refine map_history_congr ?_ rfl
    rintro operation hoperation _ q rfl
    exact map_perform_behind q entries fun hdrain => h (hdrain ▸ hoperation)
  rwa [History.map_id] at hsame

/-- What holds of a performance with the settings and the cast, whatever was done with it: no
scroll is open where dialogue does not go to the scroll, and nothing is left of one that is not
open. -/
structure Orderly (config : Config) (cast : Cast) (p : Performance) : Prop where
  cast : p.cast = cast
  framing : p.stage.framing = .ofConfig config
  closed : p.scrollMode = false → p.scroll.mode = .idle
  blank : p.scroll.mode = .idle → p.scroll = {}

section Orderly

variable {config : Config} {cast : Cast} {p q : Performance}

theorem orderly_ofConfig (config : Config) (cast : Cast) (names : NameBook) :
    (ofConfig config cast names).Orderly config cast where
  cast := rfl
  framing := rfl
  closed := fun _ => rfl
  blank := fun _ => rfl

theorem Orderly.route (h : p.Orderly config cast) (command : Command) :
    (p.route command).Orderly config cast := by
  cases command with
  | startScroll => exact ⟨h.cast, h.framing, fun hmode => (nomatch hmode), h.blank⟩
  | stopScroll =>
      have hstopped : (p.scroll.stop p.backlog).2.1 = {} := by
        cases hmode : p.scroll.mode with
        | idle => simp [Scroll.stop, h.blank hmode]
        | scrolling => simp [Scroll.stop, hmode]
      constructor
      · exact h.cast
      · exact h.framing
      · simp [Performance.route, hstopped]
      · simp [Performance.route, hstopped]
  | _ => exact h

theorem Orderly.execute {command : Command} (h : p.Orderly config cast)
    (hexecute : p.execute command = .ok q) : q.Orderly config cast := by
  rw [execute_eq] at hexecute
  obtain ⟨stage, hact, rfl⟩ := exists_of_map_eq_ok hexecute
  have hroute := h.route command
  exact ⟨hroute.cast, (Command.act_framing hact).trans h.framing, hroute.closed, hroute.blank⟩

theorem Orderly.present (h : p.Orderly config cast) (line : Line) :
    (p.present line).Orderly config cast := by
  rw [present_eq]
  split
  · refine ⟨h.cast, h.framing, fun hfalse => ?_, fun hidle => ?_⟩
    · rename_i hmode
      simp [hmode] at hfalse
    · cases hscroll : p.scroll.mode <;>
        simp [Scroll.isScrolling, Scroll.add, Scroll.start, hscroll] at hidle
  · exact ⟨h.cast, h.framing, h.closed, h.blank⟩

theorem orderly_invariant (config : Config) (cast : Cast) : Invariant (Orderly config cast) where
  load _ _ h := ⟨h.cast, h.framing, h.closed, h.blank⟩
  moveTo _ _ h := ⟨h.cast, h.framing, h.closed, h.blank⟩
  execute _ _ _ _ _ h hexecute := h.execute hexecute
  present _ line h := h.present line
  tick _ _ h := ⟨h.cast, h.framing, h.closed, h.blank⟩
  drain _ h := ⟨h.cast, h.framing, h.closed, h.blank⟩
  setName _ _ _ h := ⟨h.cast, h.framing, h.closed, h.blank⟩

theorem orderly_of_run {names : NameBook} {operations : List Operation} {deeds : List Deed}
    (hrun : run perform (.ofConfig config cast names) operations = .ok (deeds, p)) :
    p.Orderly config cast :=
  (orderly_invariant config cast).of_run (orderly_ofConfig config cast names) hrun

/-- A loaded script finds a new performance that was given the clock, the names and the entries of
the backlog of the old one. -/
theorem Orderly.load_eq (h : p.Orderly config cast) (hmode : p.scrollMode = false)
    (script : Script) :
    p.load script =
      (((ofConfig config cast p.names).tick p.stage.clock).load script).behind p.backlog := by
  have hscroll : p.scroll = {} := h.blank (h.closed hmode)
  have hstage : p.stage.clear = ((Stage.ofConfig config).tick p.stage.clock).clear := by
    simp [Stage.clear, Stage.tick, Stage.ofConfig, h.framing]
  simp [load, behind, ofConfig, tick, hscroll, hmode, hstage, h.cast]

end Orderly

/-- Runs do not leak into each other. Two performances with the same settings, cast, names and
clock, neither of them in scroll mode, perform the script that is loaded next as a new performance
does. As long as nobody empties the backlog, they answer alike and fail alike, and after each
operation they are in the same state, up to the entries that stood in their backlogs before. -/
theorem runs_do_not_leak (config : Config) (cast : Cast) {firstNames secondNames : NameBook}
    {firstPast secondPast : List Operation} {firstDeeds secondDeeds : List Deed}
    {first second : Performance}
    (hfirst : run perform (.ofConfig config cast firstNames) firstPast =
      .ok (firstDeeds, first))
    (hsecond : run perform (.ofConfig config cast secondNames) secondPast =
      .ok (secondDeeds, second))
    (hnames : first.names = second.names) (hclock : first.stage.clock = second.stage.clock)
    (hfirstMode : first.scrollMode = false) (hsecondMode : second.scrollMode = false)
    (script : Script) {operations : List Operation} (hnodrain : .drainBacklog ∉ operations) :
    let fresh := (ofConfig config cast first.names).tick first.stage.clock
    history perform (first.load script) operations =
      (history perform (fresh.load script) operations).map (behind · first.backlog) ∧
    history perform (second.load script) operations =
      (history perform (fresh.load script) operations).map (behind · second.backlog) := by
  refine ⟨?_, ?_⟩
  · rw [(orderly_of_run hfirst).load_eq hfirstMode, history_behind _ _ hnodrain]
  · rw [(orderly_of_run hsecond).load_eq hsecondMode, history_behind _ _ hnodrain, hnames, hclock]

def soloCast : Cast :=
  Cast.ofLists [{ name := "Aoi", spriteExtent := ⟨400, 900⟩ }] []

/-- A performance after a scene that left a character on stage and an entry in the backlog. -/
def usedPast : List Operation := [
  .load ⟨[
    { speaker := "", text := "_CHARA_NEW_Aoi" },
    { speaker := "", text := "_SCROLL_START" },
    { speaker := "Aoi", text := "Hello." },
    { speaker := "", text := "_SCROLL_STOP" },
    { speaker := "Aoi", text := "Bye." }]⟩,
  .advance, .advance, .tick 40]

def nextScene : Script := ⟨[
  { speaker := "", text := "_SCROLL_START" },
  { speaker := "Aoi", text := "Again?" },
  { speaker := "", text := "_SCROLL_STOP" }]⟩

theorem usedPast_does_not_leak : ∃ usedDeeds used newDeeds new,
    run perform (.ofConfig .standard soloCast .empty) usedPast = .ok (usedDeeds, used) ∧
    run perform (.ofConfig .standard soloCast .empty) [.tick 40] = .ok (newDeeds, new) ∧
    used.stage.isOnStage "Aoi" = true ∧ used.backlog = [⟨"Aoi", "Hello."⟩] ∧ new.backlog = [] ∧
    let fresh := (ofConfig .standard soloCast used.names).tick used.stage.clock
    history perform (used.load nextScene) [.advance, .advance] =
      (history perform (fresh.load nextScene) [.advance, .advance]).map (behind · used.backlog) ∧
    history perform (new.load nextScene) [.advance, .advance] =
      (history perform (fresh.load nextScene) [.advance, .advance]).map (behind · new.backlog) := by
  obtain ⟨⟨usedDeeds, used⟩, hused⟩ : ∃ result,
      run perform (.ofConfig .standard soloCast .empty) usedPast = .ok result := ⟨_, rfl⟩
  obtain ⟨⟨newDeeds, new⟩, hnew⟩ : ∃ result,
      run perform (.ofConfig .standard soloCast .empty) [.tick 40] = .ok result := ⟨_, rfl⟩
  have husedEnd : (run perform (.ofConfig .standard soloCast .empty) usedPast).map
      (fun result => (result.2.names, result.2.stage.clock, result.2.scrollMode,
        result.2.stage.isOnStage "Aoi", result.2.backlog)) =
      .ok (.empty, 40, false, true, [⟨"Aoi", "Hello."⟩]) := rfl
  have hnewEnd : (run perform (.ofConfig .standard soloCast .empty) [.tick 40]).map
      (fun result => (result.2.names, result.2.stage.clock, result.2.scrollMode,
        result.2.backlog)) = .ok (.empty, 40, false, []) := rfl
  rw [hused] at husedEnd
  rw [hnew] at hnewEnd
  simp only [Except.map, Except.ok.injEq, Prod.mk.injEq] at husedEnd hnewEnd
  obtain ⟨husedNames, husedClock, husedMode, hstage, husedBacklog⟩ := husedEnd
  obtain ⟨hnewNames, hnewClock, hnewMode, hnewBacklog⟩ := hnewEnd
  exact ⟨usedDeeds, used, newDeeds, new, hused, hnew, hstage, husedBacklog, hnewBacklog,
    runs_do_not_leak .standard soloCast hused hnew (husedNames.trans hnewNames.symm)
      (husedClock.trans hnewClock.symm) husedMode hnewMode nextScene (by decide)⟩

end Performance

end VisualNovel
