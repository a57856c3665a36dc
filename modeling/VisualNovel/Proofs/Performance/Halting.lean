import VisualNovel.Config.Source
import VisualNovel.Proofs.Performance.FreshStart
import VisualNovel.Proofs.Stage.Panning

namespace VisualNovel

theorem Command.exists_act_eq_ok (cast : Cast) {stage : Stage}
    (hpan : ∀ zoom, stage.framing.canPan zoom = true) (command : Command) :
    ∃ next, command.act cast stage = .ok next := by
  cases command with
  | showCharacter name x y => exact ⟨_, rfl⟩
  | hideCharacter name => exact ⟨_, rfl⟩
  | moveCharacter name x y duration zoom =>
      obtain ⟨result, hmove⟩ :=
        stage.exists_moveCharacter_eq_ok name x y (Performance.milliseconds duration) zoom
      simp only [act, hmove]
      split
      · exact ⟨_, rfl⟩
      · exact ⟨_, rfl⟩
  | showBackground name x y zoom =>
      obtain ⟨next, hshow⟩ := Stage.exists_showBackground_eq_ok hpan name x y zoom
      simp only [act, hshow]
      split
      · exact ⟨_, rfl⟩
      · exact ⟨_, rfl⟩
  | moveBackground dx dy duration zoom =>
      obtain ⟨result, hmove⟩ :=
        Stage.exists_moveBackground_eq_ok hpan dx dy (Performance.milliseconds duration) zoom
      exact ⟨result.2, by simp only [act, hmove, Except.map]⟩
  | startScroll => exact ⟨_, rfl⟩
  | stopScroll => exact ⟨_, rfl⟩

namespace Performance

section Unrefused

variable {p : Performance}

theorem exists_executeAll_eq_ok (hpan : ∀ zoom, p.stage.framing.canPan zoom = true)
    (commands : List Command) : ∃ q, p.executeAll commands = .ok q := by
  induction commands generalizing p with
  | nil => exact ⟨p, rfl⟩
  | cons command commands ih =>
      obtain ⟨stage, hact⟩ := Command.exists_act_eq_ok p.cast hpan command
      -- The framing is nothing that a command can change.
      have hnext : ∀ zoom, ((p.route command).setStage stage).stage.framing.canPan zoom = true := by
        intro zoom
        rw [setStage, Command.act_framing hact]
        exact hpan zoom
      obtain ⟨q, hrest⟩ := ih hnext
      refine ⟨q, ?_⟩
      rw [executeAll_cons, execute_eq, hact]
      exact hrest

theorem exists_advance_eq_ok (hpan : ∀ zoom, p.stage.framing.canPan zoom = true) :
    ∃ result, p.advance = .ok result := by
  rcases exists_first_dialogue (p.script.lines.drop p.next) with
    hnone | ⟨before, line, after, hlines, hbefore, hline⟩
  · obtain ⟨q, hexecute⟩ := exists_executeAll_eq_ok hpan
      ((p.script.lines.drop p.next).filterMap Line.command?)
    exact ⟨_, by rw [advance_of_no_dialogue hnone, hexecute]; rfl⟩
  · obtain ⟨q, hexecute⟩ := exists_executeAll_eq_ok hpan (before.filterMap Line.command?)
    exact ⟨_, by rw [advance_of_dialogue hlines hbefore hline, hexecute]; rfl⟩

theorem exists_perform_eq_ok (hpan : ∀ zoom, p.stage.framing.canPan zoom = true)
    (operation : Operation) : ∃ answer q, p.perform operation = .ok (answer, q) := by
  cases operation with
  | advance =>
      obtain ⟨⟨waits, q⟩, hadvance⟩ := exists_advance_eq_ok hpan
      exact ⟨.waits waits, q, by simp only [perform, hadvance, Except.map]⟩
  | _ => exact ⟨_, _, rfl⟩

end Unrefused

/-- A script that asks for the background to stay where it is. -/
def restingPan : Script :=
  ⟨[{ speaker := "", text := "_BG_MOVE_0_0_0" }]⟩

theorem restingPan_lines :
    (∀ line ∈ restingPan.lines, line.isDialogue = false) ∧
    restingPan.lines.filterMap Line.command? = [.moveBackground 0 0 0 1] := by
  decide +kernel

theorem canPan_one_of_advance {p : Performance} {result : Bool × Performance}
    (hlines : p.script.lines.drop p.next = restingPan.lines) (hadvance : p.advance = .ok result) :
    p.stage.framing.canPan 1 = true := by
  obtain ⟨hnone, hcommands⟩ := restingPan_lines
  rw [← hlines] at hnone
  rw [advance_of_no_dialogue hnone, hlines, hcommands, executeAll_cons, execute_eq] at hadvance
  obtain ⟨q, hexecute, -⟩ := exists_of_map_eq_ok hadvance
  obtain ⟨r, hfirst, -⟩ := exists_of_bind_eq_ok hexecute
  obtain ⟨stage, hact, -⟩ := exists_of_map_eq_ok hfirst
  obtain ⟨moved, hmove, -⟩ := exists_of_map_eq_ok hact
  -- Nothing is to move, and yet the limits have to bound an interval.
  have hsame := p.stage.map_moveBackground 0 0 (milliseconds 0) 1
  have hzoom : clampZoom 1 = 1 := by decide +kernel
  rw [hmove, hzoom] at hsame
  by_contra hnot
  rw [if_neg hnot] at hsame
  cases hsame

/-- A performance is never halted, whatever is performed by it, if and only if the virtual extent and
the scale of the viewport are finite. -/
theorem never_halts_iff (config : Config) (cast : Cast) (names : NameBook) :
    (∀ operations, ∃ deeds p,
      run perform (.ofConfig config cast names) operations = .ok (deeds, p)) ↔
    config.virtualExtent.IsFinite ∧ config.viewportScale.IsFinite := by
  constructor
  · intro hnever
    obtain ⟨deeds, p, hrun⟩ := hnever [.load restingPan, .advance]
    obtain ⟨answer, loaded, rest, hload, hrun, -⟩ := Run.run_cons_eq_ok hrun
    cases hload
    obtain ⟨answer, q, rest, hperform, -, -⟩ := Run.run_cons_eq_ok hrun
    obtain ⟨result, hadvance, -⟩ := exists_of_map_eq_ok hperform
    have hcan : (Framing.ofConfig config).canPan 1 = true :=
      canPan_one_of_advance (p := (ofConfig config cast names).load restingPan) rfl hadvance
    exact (Framing.ofConfig config).canPan_one_iff.mp hcan
  · rintro ⟨hextent, hscale⟩ operations
    have hpan : ∀ zoom, (Framing.ofConfig config).canPan zoom = true :=
      Framing.canPan_of_isFinite hextent hscale
    have hstep : ∀ p : Performance, ∀ operation ∈ operations, p.Orderly config cast →
        ∃ answer q, p.perform operation = .ok (answer, q) ∧ q.Orderly config cast := by
      intro p operation _ h
      obtain ⟨answer, q, hperform⟩ := exists_perform_eq_ok (h.framing ▸ hpan) operation
      exact ⟨answer, q, hperform, (orderly_invariant config cast).perform h hperform⟩
    obtain ⟨deeds, p, hrun, -⟩ :=
      Run.exists_run_eq_ok hstep (orderly_ofConfig config cast names)
    exact ⟨deeds, p, hrun⟩

/-- Settings whose scale of the viewport overflows. -/
def slimSettings : String :=
  "(virtual_extent: (1e-306, 1080.0))"

def parkScene : Script :=
  ⟨[{ speaker := "", text := "_BG_SHOW_park_0.5_0.5_1" }]⟩

/-- Settings are accepted that halt a performance on its first background. -/
theorem slimSettings_halt : ∃ config, Config.ofText? slimSettings = some config ∧
    run perform (.ofConfig config (Cast.ofLists [] ["park"]) .empty)
      [.load parkScene, .advance] = .error .noPanRange := by
  have hhalt : (Config.ofText? slimSettings).map (fun config =>
      (run perform (.ofConfig config (Cast.ofLists [] ["park"]) .empty)
        [.load parkScene, .advance]).toOption.isNone) = some true := by decide +kernel
  obtain ⟨config, hconfig, hnone⟩ := Option.map_eq_some_iff.mp hhalt
  refine ⟨config, hconfig, ?_⟩
  cases hrun : run perform (.ofConfig config (Cast.ofLists [] ["park"]) .empty)
      [.load parkScene, .advance] with
  | ok result => simp [hrun, Except.toOption] at hnone
  | error reason =>
      cases reason
      rfl

end Performance

end VisualNovel
