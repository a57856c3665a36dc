import VisualNovel.Proofs.History
import VisualNovel.Proofs.Performance.Timeless
import VisualNovel.Proofs.Session.Run

namespace VisualNovel.Session

def Operation.isTick : Operation → Bool
  | .tick _ => true
  | _ => false

variable {σ : Type}

/-- Everything about a session but the clock, the positions, the zooms and the tweens. -/
def timeless (session : Session σ) : Session σ :=
  { session with performance := session.performance.timeless }

theorem exists_of_timeless_eq {first second : Session σ} (h : first.timeless = second.timeless) :
    ∃ performance, second = { first with performance } ∧
      first.performance.timeless = performance.timeless := by
  obtain ⟨config, table, store, p, running⟩ := first
  obtain ⟨_, _, _, q, _⟩ := second
  simp only [timeless, mk.injEq] at h
  obtain ⟨rfl, rfl, rfl, hsame, rfl⟩ := h
  exact ⟨q, rfl, hsame⟩

theorem timeless_congr (session : Session σ) {p q : Performance} (h : p.timeless = q.timeless) :
    timeless { session with performance := p } = timeless { session with performance := q } :=
  congrArg (fun performance => { session with performance }) h

@[simp] theorem timeless_tick (session : Session σ) (now : UInt64) :
    (session.tick now).timeless = session.timeless :=
  timeless_congr session (session.performance.timeless_tick now)

variable [ProgressStore σ]

theorem finish_eq_of_isFinished_eq (session : Session σ) {p : Performance}
    (h : p.isFinished = session.performance.isFinished) (moment : Moment) :
    finish { session with performance := p } moment =
      ((session.finish moment).1, { (session.finish moment).2 with performance := p }) := by
  obtain ⟨config, table, store, performance, running⟩ := session
  cases running with
  | none => rfl
  | some running =>
      simp only at h
      simp only [finish, h]
      split
      · rfl
      · cases (EventTable.completeAt table running.id moment).2.persist store with
        | mk saved store => cases saved <;> rfl

theorem map_perform_congr {first second : Session σ} (h : first.timeless = second.timeless)
    (operation : Operation) :
    (first.perform operation).map (Prod.map id timeless) =
      (second.perform operation).map (Prod.map id timeless) := by
  obtain ⟨p, rfl, hp⟩ := exists_of_timeless_eq h
  cases operation with
  | available moment filter => exact map_ok_congr _ h
  | begin id script =>
      rcases begin_cases first id script with ⟨hnone, hbegin⟩ | ⟨event, hsome, hbegin⟩
      · rw [hbegin]
        simp only [perform, Session.begin, hnone]
        exact map_ok_congr _ h
      · rw [hbegin]
        simp only [perform, Session.begin, hsome]
        exact map_ok_congr Answer.done (timeless_congr { first with running := some ⟨id, false⟩ }
          (Performance.timeless_load_congr hp script))
  | advance =>
      rcases cases_of_map_eq_map (Performance.map_advance_congr hp) with
        ⟨failure, hfirst, hsecond⟩ | ⟨⟨waits, next⟩, ⟨_, other⟩, hfirst, hsecond, hsame⟩
      · simp only [perform, advance, hfirst, hsecond]
      · obtain ⟨rfl, hnext⟩ := Prod.mk.inj hsame
        simp only [perform, advance, hfirst, hsecond]
        exact map_ok_congr _ (timeless_congr first hnext)
  | tick now => exact map_ok_congr Answer.done (by simpa using h)
  | finish moment =>
      have hfinished : p.isFinished = first.performance.isFinished :=
        (congrArg Performance.isFinished hp.symm :)
      have hkept : (first.finish moment).2.performance = first.performance :=
        congrArg (·.2.performance)
          (finish_eq_of_isFinished_eq first (Eq.refl first.performance.isFinished) moment)
      simp only [perform, finish_eq_of_isFinished_eq first hfinished]
      exact map_ok_congr _ (timeless_congr (first.finish moment).2 (hkept ▸ hp))
  | reload =>
      exact map_ok_congr Answer.done (timeless_congr first.reload hp)
  | applyProgress rows =>
      exact map_ok_congr Answer.done
        (timeless_congr { first with table := first.table.applyProgress rows } hp)
  | setActive id active =>
      exact map_ok_congr _ (timeless_congr (first.edit (first.table.setActive id active)).2 hp)
  | complete id =>
      exact map_ok_congr _ (timeless_congr (first.edit (first.table.complete id)).2 hp)
  | completeAt id moment =>
      exact map_ok_congr _ (timeless_congr (first.edit (first.table.completeAt id moment)).2 hp)
  | drainBacklog =>
      have hbacklog : first.performance.backlog = p.backlog :=
        (congrArg Performance.backlog hp :)
      simp only [perform, Performance.drainBacklog, hbacklog]
      refine map_ok_congr _ (timeless_congr first ?_)
      exact congrArg (fun p => { p with backlog := [] }) hp
  | setName identity name =>
      refine map_ok_congr Answer.done (timeless_congr first ?_)
      exact congrArg (·.setName identity name) hp

theorem unseen_ticks : Unseen (perform (σ := σ)) timeless Operation.isTick where
  silent := by
    intro session operation htick
    cases operation with
    | tick now => exact ⟨.done, session.tick now, rfl, session.timeless_tick now⟩
    | _ => cases htick
  loud := fun _ _ operation h => map_perform_congr h operation

/-- The clock does not touch the story. Operations with ticks put in between them, at any times and
in any order, are answered as they are without, fail where they fail without, and leave the same
session behind, clock, positions, zooms and tweens apart. -/
theorem ticks_do_not_touch_story (start : Session σ) {first second : List Operation}
    (hsame : first.filter (!·.isTick) = second.filter (!·.isTick)) :
    (history perform start first).seen timeless Operation.isTick =
      (history perform start second).seen timeless Operation.isTick :=
  unseen_ticks.seen_history_congr rfl hsame

def walk : Setup MemoryStore where
  cast := some (Cast.ofLists [{ name := "Aoi", spriteExtent := ⟨400, 900⟩ }] ["gate"])
  catalog := some [{ id := "walk", start := "4 1 noon", stop := "4 30 noon", slots := "noon"
                     heroine := "Aoi", location := "gate", title := "A walk" }]

def walkScript : Script := ⟨[
  { speaker := "", text := "_BG_SHOW_gate" },
  { speaker := "", text := "_CHARA_NEW_Aoi" },
  { speaker := "Aoi", text := "Let us go!" },
  { speaker := "Aoi", text := "_MOVE_0.9_0.5_600" },
  { speaker := "Aoi", text := "This way." }]⟩

def walkAtOnce : List Operation := [
  .begin "walk" walkScript, .advance, .advance, .finish ⟨⟨1, 4, 2⟩, "noon"⟩]

/-- The clock starts late, runs until the walk is over, and is set back. -/
def walkInTime : List Operation := [
  .tick 900, .begin "walk" walkScript, .tick 100, .advance, .advance, .tick 400, .tick 800,
  .finish ⟨⟨1, 4, 2⟩, "noon"⟩, .tick 50]

/-- The walk is over in one of the runs, and has not begun in the other. -/
theorem walk_is_one_story_at_any_time : ∃ start,
    walk.build = .ok start ∧
    (let ends := (history perform start walkAtOnce).final.performance
     let late := (history perform start walkInTime).final.performance
     ends.isFinished = true ∧
     (ends.stage.transform? "Aoi").map Transform.isTweening = some true ∧
     (late.stage.transform? "Aoi").map Transform.isTweening = some false) ∧
    (history perform start walkAtOnce).failure = none ∧
    (history perform start walkAtOnce).seen timeless Operation.isTick =
      (history perform start walkInTime).seen timeless Operation.isTick := by
  obtain ⟨start, hbuild⟩ : ∃ start, walk.build = .ok start := ⟨_, rfl⟩
  have hwalk : (walk.build.toOption.map fun start =>
      let ends := (history perform start walkAtOnce).final.performance
      let late := (history perform start walkInTime).final.performance
      (ends.isFinished, (ends.stage.transform? "Aoi").map Transform.isTweening,
        (late.stage.transform? "Aoi").map Transform.isTweening,
        (history perform start walkAtOnce).failure)) =
      some (true, some true, some false, none) := by decide +kernel
  simp only [hbuild, Except.toOption, Option.map_some, Option.some.injEq, Prod.mk.injEq] at hwalk
  obtain ⟨hfinished, hends, hlate, hfailure⟩ := hwalk
  exact ⟨start, hbuild, ⟨hfinished, hends, hlate⟩, hfailure,
    ticks_do_not_touch_story start (by decide)⟩

end VisualNovel.Session
