import VisualNovel.Player
import VisualNovel.Proofs.Performance.Advance
import VisualNovel.Proofs.Stage.Arrival
import VisualNovel.Proofs.Stage.Run

namespace VisualNovel

theorem Command.act_perform {cast : Cast} {stage next : Stage} {command : Command}
    (h : command.act cast stage = .ok next) : next = stage ∨
      ∃ operation answer, (∀ now, operation ≠ .tick now) ∧
        stage.perform operation = .ok (answer, next) := by
  cases command with
  | showCharacter name x y =>
      cases hfound : cast.find? name with
      | none =>
          rw [act, hfound] at h
          cases h
          exact .inl rfl
      | some identity =>
          rw [act, hfound] at h
          cases h
          exact .inr ⟨.showCharacter identity x y, .done, by simp, rfl⟩
  | hideCharacter name =>
      simp only [act] at h
      split at h
      · cases h
        exact .inr ⟨.hideCharacter name, _, by simp, rfl⟩
      · cases h
        exact .inl rfl
  | moveCharacter name x y duration zoom =>
      simp only [act] at h
      split at h
      · obtain ⟨result, hmove, rfl⟩ := exists_of_map_eq_ok h
        refine .inr ⟨.moveCharacter name x y (Performance.milliseconds duration) zoom,
          .found result.1, by simp, ?_⟩
        rw [Stage.perform, hmove]
        rfl
      · cases h
        exact .inl rfl
  | showBackground name x y zoom =>
      simp only [act] at h
      split at h
      · refine .inr ⟨.showBackground name x y zoom, .done, by simp, ?_⟩
        rw [Stage.perform, h]
        rfl
      · cases h
        exact .inl rfl
  | moveBackground dx dy duration zoom =>
      obtain ⟨result, hmove, rfl⟩ := exists_of_map_eq_ok h
      refine .inr ⟨.moveBackground dx dy (Performance.milliseconds duration) zoom,
        .found result.1, by simp, ?_⟩
      rw [Stage.perform, hmove]
      rfl
  | startScroll | stopScroll =>
      cases h
      exact .inl rfl

theorem Performance.holds_stage_of_advance (holds : Stage → Prop)
    (hperform : ∀ stage next operation answer, (∀ now, operation ≠ Stage.Operation.tick now) →
      holds stage → stage.perform operation = .ok (answer, next) → holds next)
    {p q : Performance} {waits : Bool} (h : holds p.stage) (hadvance : p.advance = .ok (waits, q)) :
    holds q.stage := by
  have hexecute {commands : List Command} {r : Performance}
      (hcommands : p.executeAll commands = .ok r) : holds r.stage := by
    refine executeAll_induction (motive := fun p => holds p.stage) h ?_ hcommands
    intro q r command _ hq hr
    rw [execute_eq] at hr
    obtain ⟨stage, hact, rfl⟩ := exists_of_map_eq_ok hr
    rcases Command.act_perform hact with hsame | ⟨operation, answer, htick, hoperation⟩
    · exact hsame ▸ hq
    · exact hperform _ _ operation answer htick hq hoperation
  rcases advance_cases hadvance with
    ⟨before, line, after, r, -, -, -, hcommands, -, rfl⟩ | ⟨r, -, hcommands, -, rfl⟩
  · rw [present_stage]
    exact hexecute (r := r) hcommands
  · exact hexecute (r := r) hcommands

namespace Transform

/-- No tween starts after the time. -/
def StartedBy (clock : UInt64) (transform : Transform) : Prop :=
  ∀ tween, transform.tween = some tween → tween.startTime ≤ clock

theorem invariantAt_startedBy (clock : UInt64) : InvariantAt clock (StartedBy clock) where
  start := nofun
  framed := fun _ _ => nofun
  settleAt := fun _ _ _ => nofun
  retarget := by
    rintro transform position zoom duration - tween ⟨⟩
    exact UInt64.le_refl clock

theorem StartedBy.sample {clock later : UInt64} {transform : Transform}
    (h : transform.StartedBy clock) (hlater : clock ≤ later) (now : UInt64) :
    (transform.sample now).StartedBy later := fun tween htween =>
  UInt64.le_trans (h tween (tween_sample_eq_some_iff.mp htween).1) hlater

end Transform

namespace Stage

theorem everywhere_iff_standing? {holds : Transform → Prop} {stage : Stage} :
    stage.Everywhere holds ↔
      ∀ target transform, stage.standing? target = some transform → holds transform := by
  constructor
  · rintro h (name | _) transform htransform
    · exact h.transform htransform
    · cases htransform
      exact h.background
  · intro h
    refine ⟨h .background stage.background rfl, fun name actor hactor => ?_⟩
    refine h (.character name) actor.transform ?_
    rw [standing?, transform?, hactor, Option.map_some]

end Stage

namespace Player

/-- The first word of a line of input, whose letter case does not matter. -/
def commandOf (input : String) : String :=
  ((Text.words input).head?.map Text.lowercase).getD ""

/-- The milliseconds that a tick is asked for. -/
def ticked (input : String) : UInt64 :=
  ((Text.words input)[1]?.bind Numeral.read64).getD frame

/-- What the player does on a line of input, if it goes on. -/
inductive Does (player : Player) (input : String) : Player → Prop
  | tick (h : commandOf input = "tick") : Does player input (player.tick (ticked input))
  | settle (h : commandOf input = "settle") : Does player input player.settle
  | advance (htick : commandOf input ≠ "tick") (hsettle : commandOf input ≠ "settle") {waits : Bool}
      {performance : Performance} (h : player.performance.advance = .ok (waits, performance)) :
      Does player input { player with performance }
  | look (htick : commandOf input ≠ "tick") (hsettle : commandOf input ≠ "settle") :
      Does player input player

theorem does_of_respond {player next : Player} {input : String} {lines : List String}
    (h : player.respond input = .ok (.goOn lines next)) : Does player input next := by
  have hnext (htick : commandOf input ≠ "tick") (hsettle : commandOf input ≠ "settle")
      (h : player.next = .ok (.goOn lines next)) : Does player input next := by
    rw [Player.next] at h
    split at h
    · cases h
      exact .look htick hsettle
    · split at h
      · cases h
      · cases h
        exact .advance htick hsettle ‹_›
  have hcommand : ((Text.words input).head?.map Text.lowercase).getD "" = commandOf input := rfl
  simp only [respond, hcommand] at h
  split at h
  case h_4 _ hword =>
    cases h
    exact .tick hword
  case h_5 _ hword =>
    cases h
    exact .settle hword
  case h_1 _ hword | h_2 _ hword | h_3 _ hword =>
    exact hnext (by simp [hword]) (by simp [hword]) h
  case h_12 | h_13 | h_14 => cases h
  case h_15 =>
    cases h
    exact .look ‹_› ‹_›
  -- The other words only show something.
  all_goals
    rename_i hword
    cases h
    exact .look (by simp [hword]) (by simp [hword])

theorem respond_settle {player : Player} {input : String} (h : commandOf input = "settle") :
    player.respond input = .ok (.goOn [player.settle.clockLine] player.settle) := by
  rw [commandOf] at h
  simp only [respond, h]

/-- The player and its stage go by the same clock, and no tween starts later than now. -/
structure Timed (player : Player) : Prop where
  clock : player.performance.stage.clock = player.clock
  started : player.performance.stage.Everywhere (Transform.StartedBy player.clock)

theorem toNat_clock_tick {player : Player} {ms : UInt64}
    (hroom : player.clock.toNat + ms.toNat < UInt64.size) :
    (player.tick ms).clock.toNat = player.clock.toNat + ms.toNat := by
  rw [tick, UInt64.toNat_add]
  exact Nat.mod_eq_of_lt hroom

theorem clock_le_tick {player : Player} {ms : UInt64}
    (hroom : player.clock.toNat + ms.toNat < UInt64.size) :
    player.clock ≤ (player.tick ms).clock := by
  rw [UInt64.le_iff_toNat_le, toNat_clock_tick hroom]
  exact Nat.le_add_right _ _

theorem Timed.tick {player : Player} (h : player.Timed) {ms : UInt64}
    (hroom : player.clock.toNat + ms.toNat < UInt64.size) : (player.tick ms).Timed where
  clock := rfl
  started := h.started.tick fun _ hstarted => hstarted.sample (clock_le_tick hroom) _

theorem Timed.advance {player : Player} (h : player.Timed) {waits : Bool}
    {performance : Performance} (hadvance : player.performance.advance = .ok (waits, performance)) :
    { player with performance }.Timed := by
  obtain ⟨hclock, hstarted⟩ := Performance.holds_stage_of_advance
    (fun stage => stage.clock = player.clock ∧
      stage.Everywhere (Transform.StartedBy player.clock))
    (fun stage next operation answer htick ⟨hclock, hstarted⟩ hperform =>
      ⟨(Stage.clock_of_perform htick hperform).trans hclock,
        hstarted.performAt (hclock ▸ Transform.invariantAt_startedBy _) htick hperform⟩)
    ⟨h.clock, h.started⟩ hadvance
  exact ⟨hclock, hstarted⟩

theorem timed_open {folder : Folder} {arguments : List String} {start : Player}
    (hopen : open? folder arguments = .ok start) : start.Timed ∧ start.clock = 0 := by
  have hstart : ∃ config cast names script, start =
      ⟨(Performance.ofConfig config cast names).load script, 0⟩ := by
    rw [open?] at hopen
    split at hopen
    · cases hopen
    obtain ⟨options, -, hopen⟩ := exists_of_bind_eq_ok hopen
    split at hopen
    case h_2 => cases hopen
    dsimp only at hopen
    -- Settings and cast come from a file or are the standard ones.
    split at hopen
    all_goals
      obtain ⟨config, -, hopen⟩ := exists_of_bind_eq_ok hopen
      split at hopen
      all_goals
        obtain ⟨cast, -, hopen⟩ := exists_of_bind_eq_ok hopen
        obtain ⟨script, -, hopen⟩ := exists_of_bind_eq_ok hopen
        cases hopen
        exact ⟨config, cast, options.names, script, rfl⟩
  obtain ⟨config, cast, names, script, rfl⟩ := hstart
  exact ⟨⟨rfl, .clear nofun _⟩, rfl⟩

end Player

end VisualNovel
