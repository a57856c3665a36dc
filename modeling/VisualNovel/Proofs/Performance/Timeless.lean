import VisualNovel.Proofs.Performance.Run
import VisualNovel.Proofs.Stage.Timeless

namespace VisualNovel

theorem Command.act_cases {cast : Cast} {stage next : Stage} {command : Command}
    (h : command.act cast stage = .ok next) :
    (∃ name x y identity, command = .showCharacter name x y ∧
      cast.find? name = some identity ∧ next = stage.showCharacter identity x y) ∨
    (∃ name, command = .hideCharacter name ∧ cast.contains name = true ∧
      next = (stage.hideCharacter name).2) ∨
    (∃ name x y zoom, command = .showBackground name x y zoom ∧
      cast.hasBackground name = true ∧
      next.timeless = { stage.timeless with backgroundName := some name }) ∨
    next.timeless = stage.timeless := by
  cases command with
  | showCharacter name x y =>
      simp only [act] at h
      cases hfound : cast.find? name with
      | none =>
          rw [hfound] at h
          cases h
          exact .inr (.inr (.inr rfl))
      | some identity =>
          rw [hfound] at h
          cases h
          exact .inl ⟨name, x, y, identity, rfl, hfound, rfl⟩
  | hideCharacter name =>
      simp only [act] at h
      split at h
      · cases h
        exact .inr (.inl ⟨name, rfl, ‹_›, rfl⟩)
      · cases h
        exact .inr (.inr (.inr rfl))
  | moveCharacter name x y duration zoom =>
      simp only [act] at h
      split at h
      · obtain ⟨result, hmove, rfl⟩ := exists_of_map_eq_ok h
        have hsame := stage.map_moveCharacter name x y (Performance.milliseconds duration) zoom
        rw [hmove] at hsame
        exact .inr (.inr (.inr (Except.ok.inj hsame)))
      · cases h
        exact .inr (.inr (.inr rfl))
  | showBackground name x y zoom =>
      simp only [act] at h
      split at h
      · have hsame := stage.map_showBackground name x y zoom
        rw [h] at hsame
        split at hsame
        · exact .inr (.inr (.inl ⟨name, x, y, zoom, rfl, ‹_›, Except.ok.inj hsame⟩))
        · cases hsame
      · cases h
        exact .inr (.inr (.inr rfl))
  | moveBackground dx dy duration zoom =>
      obtain ⟨result, hmove, rfl⟩ := exists_of_map_eq_ok h
      have hsame := stage.map_moveBackground dx dy (Performance.milliseconds duration) zoom
      rw [hmove] at hsame
      split at hsame
      · exact .inr (.inr (.inr (Except.ok.inj hsame)))
      · cases hsame
  | startScroll | stopScroll =>
      cases h
      exact .inr (.inr (.inr rfl))

theorem Command.act_framing {cast : Cast} {stage next : Stage} {command : Command}
    (h : command.act cast stage = .ok next) : next.framing = stage.framing := by
  rcases act_cases h with ⟨name, x, y, identity, -, -, rfl⟩ | ⟨name, -, -, rfl⟩ |
    ⟨name, x, y, zoom, -, -, hnext⟩ | hnext
  · rfl
  · exact (congrArg Stage.framing (stage.timeless_hideCharacter name) :)
  · exact (congrArg Stage.framing hnext :)
  · exact (congrArg Stage.framing hnext :)

theorem Command.map_act_timeless (cast : Cast) (stage : Stage) (command : Command) :
    (command.act cast stage.timeless).map Stage.timeless =
      (command.act cast stage).map Stage.timeless := by
  have hsame : (Except.ok stage.timeless : Except StageError Stage).map Stage.timeless =
      (Except.ok stage).map Stage.timeless :=
    congrArg Except.ok stage.timeless_timeless
  cases command with
  | showCharacter name x y =>
      simp only [act]
      cases cast.find? name with
      | none => exact hsame
      | some identity =>
          refine congrArg Except.ok ?_
          simp [Stage.timeless_showCharacter]
  | hideCharacter name =>
      simp only [act]
      split
      · refine congrArg Except.ok ?_
        simp [Stage.timeless_hideCharacter]
      · exact hsame
  | moveCharacter name x y duration zoom =>
      simp only [act]
      split
      · rw [map_then_map, map_then_map]
        refine (stage.timeless.map_moveCharacter name x y _ zoom).trans ?_
        rw [Stage.timeless_timeless]
        exact (stage.map_moveCharacter name x y _ zoom).symm
      · exact hsame
  | showBackground name x y zoom =>
      simp only [act]
      split
      · simp [Stage.map_showBackground]
      · exact hsame
  | moveBackground dx dy duration zoom =>
      simp only [act, map_then_map]
      refine (stage.timeless.map_moveBackground dx dy _ zoom).trans ?_
      rw [Stage.timeless_timeless, Stage.timeless_framing]
      exact (stage.map_moveBackground dx dy _ zoom).symm
  | startScroll => exact hsame
  | stopScroll => exact hsame

namespace Performance

def timeless (p : Performance) : Performance :=
  { p with stage := p.stage.timeless }

variable (p : Performance)

@[simp] theorem timeless_tick (now : UInt64) : (p.tick now).timeless = p.timeless := by
  simp [timeless, tick]

theorem timeless_load (script : Script) :
    (p.timeless.load script).timeless = (p.load script).timeless := by
  simp [timeless, load, Stage.timeless_clear]

theorem timeless_present (line : Line) :
    (p.timeless.present line).timeless = (p.present line).timeless := by
  have hremember : (p.timeless.remember line).expressions = (p.remember line).expressions :=
    remember_expressions_congr rfl rfl rfl
  simp only [present_eq, hremember]
  by_cases hmode : p.scrollMode
  · simp [timeless, hmode, shownName]
  · simp [timeless, hmode, shownName]

theorem map_execute_timeless (command : Command) :
    (p.timeless.execute command).map timeless = (p.execute command).map timeless := by
  calc (p.timeless.execute command).map timeless
      = ((command.act p.cast p.stage.timeless).map Stage.timeless).map
          (p.route command).setStage := by
        rw [execute_eq, map_then_map, map_then_map]
        cases command <;> rfl
    _ = ((command.act p.cast p.stage).map Stage.timeless).map (p.route command).setStage := by
        rw [Command.map_act_timeless]
    _ = (p.execute command).map timeless := by
        rw [execute_eq, map_then_map, map_then_map]
        cases command <;> rfl

theorem timeless_load_congr {first second : Performance} (h : first.timeless = second.timeless)
    (script : Script) : (first.load script).timeless = (second.load script).timeless := by
  rw [← timeless_load first, h, timeless_load second]

theorem alike_timeless : Alike timeless timeless where
  moveTo := fun cursor h => congrArg (Performance.moveTo · cursor) h
  present := by
    intro p q line h
    rw [← timeless_present, h, timeless_present]
  execute := by
    intro p q command h
    rw [← map_execute_timeless, h, map_execute_timeless]

theorem map_advance_congr {first second : Performance} (h : first.timeless = second.timeless) :
    first.advance.map (Prod.map id timeless) = second.advance.map (Prod.map id timeless) :=
  alike_timeless.map_advance (congrArg script h :) (congrArg cursor h :) h

end Performance

end VisualNovel
