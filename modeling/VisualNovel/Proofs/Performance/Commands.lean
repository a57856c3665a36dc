import VisualNovel.Performance
import VisualNovel.Proofs.Run

namespace VisualNovel

/-- What a command does to the stage. -/
def Command.act (cast : Cast) (stage : Stage) : Command → Except StageError Stage
  | .showCharacter name x y =>
      .ok ((cast.find? name).elim stage (stage.showCharacter · x y))
  | .hideCharacter name =>
      .ok (if cast.contains name then (stage.hideCharacter name).2 else stage)
  | .moveCharacter name x y duration zoom =>
      if cast.contains name then
        (stage.moveCharacter name x y (Performance.milliseconds duration) zoom).map Prod.snd
      else .ok stage
  | .showBackground name x y zoom =>
      if cast.hasBackground name then stage.showBackground name x y zoom else .ok stage
  | .moveBackground dx dy duration zoom =>
      (stage.moveBackground dx dy (Performance.milliseconds duration) zoom).map Prod.snd
  | .startScroll => .ok stage
  | .stopScroll => .ok stage

namespace Performance

def setStage (p : Performance) (stage : Stage) : Performance :=
  { p with stage }

/-- What a command does to the scroll. -/
def route (p : Performance) : Command → Performance
  | .startScroll => { p with scrollMode := true }
  | .stopScroll =>
      { p with
        scroll := (p.scroll.stop p.backlog).2.1
        backlog := (p.scroll.stop p.backlog).2.2
        scrollMode := false }
  | _ => p

theorem execute_eq (p : Performance) (command : Command) :
    p.execute command = (command.act p.cast p.stage).map (p.route command).setStage := by
  cases command with
  | showCharacter name x y =>
      simp only [execute, Command.act]
      cases p.cast.find? name <;> rfl
  | hideCharacter name =>
      simp only [execute, Command.act]
      split <;> rfl
  | moveCharacter name x y duration zoom =>
      simp only [execute, Command.act]
      split
      · cases p.stage.moveCharacter name x y (milliseconds duration) zoom <;> rfl
      · rfl
  | showBackground name x y zoom =>
      simp only [execute, Command.act]
      split
      · cases p.stage.showBackground name x y zoom <;> rfl
      · rfl
  | moveBackground dx dy duration zoom =>
      simp only [execute, Command.act]
      cases p.stage.moveBackground dx dy (milliseconds duration) zoom <;> rfl
  | startScroll => rfl
  | stopScroll => rfl

/-- A change that leaves the cast and the stage alone, and may come before as well as after what
commands do. -/
structure Aside (change : Performance → Performance) : Prop where
  cast : ∀ p, (change p).cast = p.cast
  stage : ∀ p, (change p).stage = p.stage
  setStage : ∀ p stage, change (p.setStage stage) = (change p).setStage stage
  route : ∀ p command, change (p.route command) = (change p).route command

theorem Aside.execute {change : Performance → Performance} (h : Aside change) (p : Performance)
    (command : Command) : (change p).execute command = (p.execute command).map change := by
  rw [execute_eq, execute_eq, h.cast, h.stage]
  cases command.act p.cast p.stage with
  | error reason => rfl
  | ok stage =>
      refine congrArg Except.ok ?_
      rw [h.setStage, h.route]

theorem execute_cases {p q : Performance} {command : Command} (h : p.execute command = .ok q) :
    (∃ stage, q = { p with stage }) ∨ q = { p with scrollMode := true } ∨
    q = { p with
      scroll := (p.scroll.stop p.backlog).2.1
      backlog := (p.scroll.stop p.backlog).2.2
      scrollMode := false } := by
  rw [execute_eq] at h
  obtain ⟨stage, hact, rfl⟩ := exists_of_map_eq_ok h
  cases command with
  | startScroll =>
      cases hact
      exact .inr (.inl rfl)
  | stopScroll =>
      cases hact
      exact .inr (.inr rfl)
  | _ => exact .inl ⟨stage, rfl⟩

end Performance

end VisualNovel
