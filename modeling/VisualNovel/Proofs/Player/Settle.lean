import VisualNovel.Proofs.Player.Clock
import VisualNovel.Proofs.Stage.Ticks

/-!
Settling: frame by frame until nothing moves. The last frame is the first one at or after the end of
the last tween, or an earlier one, and it leaves what one tick at its time would have left.
-/

namespace VisualNovel

theorem any_eq_any_toList {α : Type} (map : Std.ExtTreeMap String α) (p : String → α → Bool) :
    map.any p = map.toList.any fun entry => p entry.1 entry.2 := by
  have hloop : map.any p = Id.run (do
      for (name, value) in map do
        if p name value then return true
      return false) := by
    obtain ⟨inner⟩ := map
    induction inner using Std.ExtDTreeMap.inductionOn with
    | mk tree => rfl
  rw [hloop, Std.ExtTreeMap.forIn_eq_forIn_toList]
  induction map.toList with
  | nil => rfl
  | cons entry entries ih =>
      cases hp : p entry.1 entry.2 with
      | true => simp [hp]
      | false =>
          simp only [List.any_cons, hp, Bool.false_or, ← ih]
          simp [hp]

namespace Transform

/-- The tween, if there is one, is to end at the time or before it. -/
def EndsBy (time : Nat) (transform : Transform) : Prop :=
  ∀ tween, transform.tween = some tween → tween.endTime ≤ time

theorem EndsBy.sample {time : Nat} {transform : Transform} (h : transform.EndsBy time)
    (now : UInt64) : (transform.sample now).EndsBy time := fun tween htween =>
  h tween (tween_sample_eq_some_iff.mp htween).1

theorem EndsBy.tween_sample {now : UInt64} {transform : Transform}
    (h : transform.EndsBy now.toNat) : (transform.sample now).tween = none := by
  rw [Option.eq_none_iff_forall_ne_some]
  intro tween htween
  obtain ⟨hbefore, hnot⟩ := tween_sample_eq_some_iff.mp htween
  exact hnot (tween.one_le_progress_of_endTime_le (h tween hbefore))

theorem sample_of_tween_sample {transform : Transform} {now : UInt64}
    (h : (transform.sample now).tween = none) :
    transform.sample now = (transform.tween.map Tween.arrival).getD transform := by
  cases htween : transform.tween with
  | none => simp [sample, htween]
  | some tween =>
      rw [Option.map_some, Option.getD_some, sample_eq_arrival_iff htween]
      by_contra hnot
      cases h.symm.trans (tween_sample_eq_some_iff.mpr ⟨htween, hnot⟩)

end Transform

namespace Stage

variable {stage : Stage}

theorem isAnimating_eq_false_iff :
    stage.isAnimating = false ↔ stage.Everywhere fun transform => transform.tween = none := by
  have hnone (transform : Transform) : transform.isTweening = false ↔ transform.tween = none := by
    simp [Transform.isTweening]
  rw [isAnimating, Bool.or_eq_false_iff, hnone, any_eq_any_toList, List.any_eq_false]
  constructor
  · rintro ⟨hbackground, hactors⟩
    refine ⟨hbackground, fun name actor hactor => ?_⟩
    have hmem := hactors (name, actor)
      (Std.ExtTreeMap.mem_toList_iff_getElem?_eq_some.mpr hactor)
    simpa [Transform.isTweening] using hmem
  · rintro ⟨hbackground, hactors⟩
    refine ⟨hbackground, fun entry hentry => ?_⟩
    have hactor := Std.ExtTreeMap.mem_toList_iff_getElem?_eq_some.mp hentry
    simp [Transform.isTweening, hactors entry.1 entry.2 hactor]

theorem isAnimating_tick {time : Nat} {now : UInt64} (h : stage.Everywhere (Transform.EndsBy time))
    (htime : time ≤ now.toNat) : (stage.tick now).isAnimating = false :=
  isAnimating_eq_false_iff.mpr (h.tick fun _ hends =>
    Transform.EndsBy.tween_sample fun tween htween => (hends tween htween).trans htime)

theorem tick_clock_of_not_isAnimating (h : stage.isAnimating = false) :
    stage.tick stage.clock = stage := by
  obtain ⟨hbackground, hactors⟩ := isAnimating_eq_false_iff.mp h
  have hsample (transform : Transform) (hnone : transform.tween = none) :
      transform.sample stage.clock = transform := by
    simp [Transform.sample, hnone]
  have hsame : stage.actors.map (fun _ actor =>
      { actor with transform := actor.transform.sample stage.clock }) = stage.actors := by
    apply Std.ExtTreeMap.ext_getElem?
    intro name
    rw [Std.ExtTreeMap.getElem?_map]
    cases hactor : stage.actors[name]? with
    | none => rfl
    | some actor => rw [Option.map_some, hsample _ (hactors name actor hactor)]
  simp only [tick, hsame, hsample _ hbackground]

end Stage

theorem Performance.tick_tick (p : Performance) {now later : UInt64} (h : now ≤ later) :
    (p.tick now).tick later = p.tick later := by
  rw [tick, tick, tick, Stage.tick_tick _ h]

namespace Player

/-- The loop of settling: a frame as long as anything moves. -/
inductive Settles : Player → Nat → Player → Prop
  | rest {player : Player} (h : player.performance.stage.isAnimating = false) :
      Settles player 0 player
  | frame {player final : Player} {frames : Nat}
      (h : player.performance.stage.isAnimating = true)
      (hrest : Settles (player.tick frame) frames final) : Settles player (frames + 1) final

variable {player final : Player} {frames : Nat}

theorem toNat_frame : frame.toNat = 16 := rfl

theorem toNat_clock_frame (player : Player)
    (hroom : player.clock.toNat + 16 < UInt64.size) :
    (player.tick frame).clock.toNat = player.clock.toNat + 16 :=
  toNat_clock_tick hroom

/-- Every tween in flight is to end at the time or before it. -/
def EndsBy (player : Player) (time : Nat) : Prop :=
  player.performance.stage.Everywhere (Transform.EndsBy time)

theorem EndsBy.mono {time later : Nat} (h : player.EndsBy time) (hlater : time ≤ later) :
    player.EndsBy later where
  background := fun tween htween => (h.background tween htween).trans hlater
  actors := fun name actor hactor tween htween =>
    (h.actors name actor hactor tween htween).trans hlater

theorem EndsBy.tick {time : Nat} (h : player.EndsBy time) (ms : UInt64) :
    (player.tick ms).EndsBy time :=
  Stage.Everywhere.tick (fun _ hends => hends.sample _) h

theorem EndsBy.not_isAnimating_tick {time : Nat} (h : player.EndsBy time) (ms : UInt64)
    (htime : time ≤ (player.tick ms).clock.toNat) :
    (player.tick ms).performance.stage.isAnimating = false :=
  Stage.isAnimating_tick h htime

theorem Settles.not_isAnimating (h : Settles player frames final) :
    final.performance.stage.isAnimating = false := by
  induction h with
  | rest h => exact h
  | frame _ _ ih => exact ih

theorem Settles.le (h : Settles player frames final) (most : Nat) (hpos : 1 ≤ most)
    (hroom : player.clock.toNat + 16 * most < UInt64.size)
    (hends : player.EndsBy (player.clock.toNat + 16 * most)) : frames ≤ most := by
  induction h generalizing most with
  | rest => exact Nat.zero_le most
  | @frame player final frames hmoves hrest ih =>
      have hclock : (player.tick Player.frame).clock.toNat = player.clock.toNat + 16 :=
        player.toNat_clock_frame (by omega)
      obtain rfl | hmore := hpos.eq_or_lt
      · have hstill := hends.not_isAnimating_tick Player.frame (by omega)
        cases hrest with
        | rest => exact le_rfl
        | frame hmoves => simp [hstill] at hmoves
      · have hfewer := ih (most - 1) (by omega) (by omega)
          (hclock ▸ (hends.tick _).mono (by omega))
        omega

theorem exists_settles_of_tick (h : player.performance.stage.isAnimating = true →
    ∃ frames final, Settles (player.tick Player.frame) frames final) :
    ∃ frames final, Settles player frames final := by
  cases hmoves : player.performance.stage.isAnimating with
  | false => exact ⟨0, player, .rest hmoves⟩
  | true =>
      obtain ⟨frames, final, hrest⟩ := h hmoves
      exact ⟨frames + 1, final, .frame hmoves hrest⟩

theorem exists_settles {most : Nat} (hroom : player.clock.toNat + 16 * (most + 1) < UInt64.size)
    (hends : player.EndsBy (player.clock.toNat + 16 * (most + 1))) :
    ∃ frames final, Settles player frames final := by
  induction most generalizing player with
  | zero =>
      have hclock := player.toNat_clock_frame (by omega)
      have hstill := hends.not_isAnimating_tick Player.frame (by omega)
      exact exists_settles_of_tick fun _ => ⟨0, _, .rest hstill⟩
  | succ most ih =>
      have hclock := player.toNat_clock_frame (by omega)
      have hlater : ∃ frames final, Settles (player.tick Player.frame) frames final :=
        ih (by omega) ((hends.tick _).mono (by omega))
      exact exists_settles_of_tick fun _ => hlater

/-- After any number of frames the clocks still go together, and the performance is what one tick at
the last frame leaves. -/
theorem Settles.timed (h : Settles player frames final) (htimed : player.Timed)
    (hroom : player.clock.toNat + 16 * frames < UInt64.size) :
    final.Timed ∧ final.clock.toNat = player.clock.toNat + 16 * frames ∧
      final.performance = player.performance.tick final.clock := by
  induction h with
  | @rest player hstill =>
      refine ⟨htimed, rfl, ?_⟩
      rw [Performance.tick, ← htimed.clock, Stage.tick_clock_of_not_isAnimating hstill]
  | @frame player final frames hmoves hrest ih =>
      have hclock := player.toNat_clock_frame (by omega)
      obtain ⟨hfinal, htime, hperformance⟩ :=
        ih (htimed.tick (by rw [toNat_frame]; omega)) (by omega)
      have hlater : (player.tick Player.frame).clock ≤ final.clock := by
        rw [UInt64.le_iff_toNat_le]
        omega
      exact ⟨hfinal, by omega, hperformance.trans (player.performance.tick_tick hlater)⟩

/-- Enough fuel is as good as none. -/
theorem settleFor_of_settles (h : Settles player frames final) {fuel : Nat}
    (hfuel : frames ≤ fuel) : settleFor fuel player = final := by
  induction h generalizing fuel with
  | rest hstill =>
      cases fuel with
      | zero => rfl
      | succ fuel => simp [settleFor, hstill]
  | frame hmoves _ ih =>
      cases fuel with
      | zero => omega
      | succ fuel =>
          rw [settleFor, if_pos hmoves]
          exact ih (by omega)

theorem le_foldl_max {α : Type} (f : α → Nat) (values : List α) (start : Nat) :
    start ≤ values.foldl (fun most value => max most (f value)) start ∧
      ∀ value ∈ values, f value ≤ values.foldl (fun most value => max most (f value)) start := by
  induction values generalizing start with
  | nil => exact ⟨le_rfl, by simp⟩
  | cons first values ih =>
      obtain ⟨hstart, hvalues⟩ := ih (max start (f first))
      rw [List.foldl_cons]
      refine ⟨(Nat.le_max_left _ _).trans hstart, List.forall_mem_cons.mpr ⟨?_, hvalues⟩⟩
      exact (Nat.le_max_right _ _).trans hstart

theorem endsBy_endOf (transform : Transform) : transform.EndsBy (endOf transform) := by
  intro tween htween
  rw [endOf, htween]
  exact le_rfl

theorem endsBy_lastEnd (player : Player) : player.EndsBy (lastEnd player.performance.stage) := by
  have hlast : lastEnd player.performance.stage = player.performance.stage.actors.toList.foldl
      (fun latest entry => max latest (endOf entry.2.transform))
      (endOf player.performance.stage.background) :=
    Std.ExtTreeMap.foldl_eq_foldl_toList
  rw [hlast]
  obtain ⟨hbackground, hactors⟩ := le_foldl_max
    (fun entry : String × Actor => endOf entry.2.transform)
    player.performance.stage.actors.toList (endOf player.performance.stage.background)
  refine ⟨fun tween htween => (endsBy_endOf _ tween htween).trans hbackground, ?_⟩
  intro name actor hactor tween htween
  exact (endsBy_endOf _ tween htween).trans
    (hactors (name, actor) (Std.ExtTreeMap.mem_toList_iff_getElem?_eq_some.mpr hactor))

theorem Settles.settle_eq (h : Settles player frames final)
    (hroom : player.clock.toNat + 16 * frames < UInt64.size) : player.settle = final := by
  refine settleFor_of_settles h ?_
  by_contra hmore
  rw [toNat_frame] at hmore
  have hle := h.le ((lastEnd player.performance.stage - player.clock.toNat) / 16 + 1)
    (by omega) (by omega) (player.endsBy_lastEnd.mono (by omega))
  omega

/-- The milliseconds that a line of input takes on the clock. -/
inductive Takes (player : Player) (input : String) : Nat → Prop
  | tick (h : commandOf input = "tick") : Takes player input (ticked input).toNat
  | settle (h : commandOf input = "settle") {frames : Nat} {final : Player}
      (hloop : Settles player frames final) : Takes player input (16 * frames)
  | nothing (htick : commandOf input ≠ "tick") (hsettle : commandOf input ≠ "settle") :
      Takes player input 0

/-- A player gets from its start to where it is by lines of input that take the time together. -/
inductive Reaches (start : Player) : Nat → Player → Prop
  | start : Reaches start 0 start
  | step {time ms : Nat} {player next : Player} {input : String} {lines : List String}
      (h : Reaches start time player) (htakes : Takes player input ms)
      (hreply : player.respond input = .ok (.goOn lines next)) : Reaches start (time + ms) next

theorem Takes.timed {input : String} {ms : Nat} (h : Takes player input ms)
    (htimed : player.Timed) (hroom : player.clock.toNat + ms < UInt64.size) {next : Player}
    {lines : List String} (hreply : player.respond input = .ok (.goOn lines next)) :
    next.Timed ∧ next.clock.toNat = player.clock.toNat + ms := by
  have hdoes := does_of_respond hreply
  cases h with
  | tick htick =>
      cases hdoes with
      | tick => exact ⟨htimed.tick hroom, toNat_clock_tick hroom⟩
      | settle hsettle => simp [htick] at hsettle
      | advance hnot | look hnot => exact absurd htick hnot
  | settle hsettle hloop =>
      cases hdoes with
      | tick htick => simp [hsettle] at htick
      | settle =>
          obtain ⟨hfinal, htime, -⟩ := hloop.timed htimed hroom
          rw [hloop.settle_eq hroom]
          exact ⟨hfinal, htime⟩
      | advance _ hnot | look _ hnot => exact absurd hsettle hnot
  | nothing hnotTick hnotSettle =>
      cases hdoes with
      | tick htick => exact absurd htick hnotTick
      | settle hsettle => exact absurd hsettle hnotSettle
      | advance _ _ hadvance => exact ⟨htimed.advance hadvance, rfl⟩
      | look => exact ⟨htimed, rfl⟩

theorem Reaches.timed {start : Player} {time : Nat} (hstart : start.Timed)
    (hzero : start.clock = 0) (h : Reaches start time player) (hroom : time < UInt64.size) :
    player.Timed ∧ player.clock.toNat = time := by
  induction h with
  | start => exact ⟨hstart, by rw [hzero]; rfl⟩
  | step _ htakes hreply ih =>
      obtain ⟨htimed, hclock⟩ := ih (by omega)
      obtain ⟨hnext, hlater⟩ := htakes.timed htimed (by omega) hreply
      exact ⟨hnext, by omega⟩

/-- As long as the clock does not run over, a player's clock is that of its stage, and no tween
starts later than now. If there is room for one frame after the end of all tweens, settling ends:
everything that moved has arrived, everything else is where it was, and it took no more frames than
up to the end of the last tween, but one if anything moved at all. One tick at the last frame leaves
the same. -/
theorem settle_arrives {folder : Folder} {arguments : List String} {start : Player}
    (hopen : open? folder arguments = .ok start) {time : Nat} (hreach : Reaches start time player)
    (hroom : time < UInt64.size) :
    (player.clock.toNat = time ∧ player.performance.stage.clock = player.clock ∧
      ∀ target transform, player.performance.stage.standing? target = some transform →
        ∀ tween, transform.tween = some tween → tween.startTime ≤ player.clock) ∧
    ∀ latest, (∀ target transform, player.performance.stage.standing? target = some transform →
        ∀ tween, transform.tween = some tween → tween.endTime ≤ latest) →
      max latest player.clock.toNat + 16 < UInt64.size →
      ∀ input, commandOf input = "settle" → ∃ frames final,
        Settles player frames final ∧
        player.respond input = .ok (.goOn [final.clockLine] final) ∧
        (∀ target transform, final.performance.stage.standing? target = some transform →
          transform.tween = none) ∧
        (∀ target, final.performance.stage.standing? target =
          (player.performance.stage.standing? target).map fun transform =>
            (transform.tween.map Tween.arrival).getD transform) ∧
        final.clock.toNat = player.clock.toNat + 16 * frames ∧
        (frames = 0 ↔ player.performance.stage.isAnimating = false) ∧
        (∀ enough, 1 ≤ enough → latest ≤ player.clock.toNat + 16 * enough → frames ≤ enough) ∧
        final.performance = player.performance.tick final.clock := by
  obtain ⟨hstart, hzero⟩ := timed_open hopen
  obtain ⟨htimed, hclock⟩ := hreach.timed hstart hzero hroom
  refine ⟨⟨hclock, htimed.clock, Stage.everywhere_iff_standing?.mp htimed.started⟩, ?_⟩
  intro latest hlatest hmore input hinput
  have hends : player.EndsBy latest := Stage.everywhere_iff_standing?.mpr hlatest
  -- The first frame at or after the end of all tweens.
  obtain ⟨most, hmost⟩ : ∃ most, most = (latest - player.clock.toNat - 1) / 16 := ⟨_, rfl⟩
  have hlast : player.EndsBy (player.clock.toNat + 16 * (most + 1)) := hends.mono (by omega)
  obtain ⟨frames, final, hloop⟩ := exists_settles (by omega) hlast
  have hframes : frames ≤ most + 1 := hloop.le (most + 1) (by omega) (by omega) hlast
  have hfinish : player.clock.toNat + 16 * frames < UInt64.size := by omega
  obtain ⟨-, hfinal, hperformance⟩ := hloop.timed htimed hfinish
  have hstill := Stage.everywhere_iff_standing?.mp
    (Stage.isAnimating_eq_false_iff.mp hloop.not_isAnimating)
  refine ⟨frames, final, hloop, ?_, hstill, ?_, hfinal, ?_, ?_, hperformance⟩
  · rw [respond_settle hinput, hloop.settle_eq hfinish]
  · intro target
    have htick : final.performance.stage.standing? target =
        (player.performance.stage.standing? target).map (·.sample final.clock) := by
      rw [hperformance]
      exact Stage.standing?_tick _ _ target
    rw [htick]
    apply Option.map_congr
    intro before hbefore
    exact Transform.sample_of_tween_sample
      (hstill target _ (htick.trans (by rw [hbefore, Option.map_some])))
  · cases hloop with
    | rest h => simpa using h
    | frame h => simp [h]
  · intro enough hpos henough
    omega

def Reply.player? : Reply → Option Player
  | .goOn _ player => some player
  | .quit _ => none

/-- A pan of forty milliseconds before the first line of dialogue. -/
def panFolder : Folder where
  files := Std.ExtTreeMap.empty.insert "pan.ron"
    "[(speaker: \"\", text: \"_BG_MOVE_0_0_40_1.5\"), (speaker: \"Aoi\", text: \"Look!\")]"
  folders := Folder.empty.folders

/-- Settling at five milliseconds takes three frames, the last of which is the first one after the
end of the pan. -/
theorem pan_arrives : ∃ start player final,
    open? panFolder ["--script", "pan.ron"] = .ok start ∧ Reaches start 5 player ∧
    Settles player 3 final ∧ player.respond "settle" = .ok (.goOn ["clock: 53ms"] final) ∧
    final.performance = player.performance.tick 53 := by
  have hplay : ((open? panFolder ["--script", "pan.ron"]).toOption.bind fun start =>
      (start.respond "tick 5").toOption.bind fun first => first.player?.bind fun ticked =>
        (ticked.respond "").toOption.bind fun second => second.player?.map fun player =>
          (lastEnd player.performance.stage, player.settle.clock)) = some (45, 53) := by
    decide +kernel
  simp only [Option.bind_eq_some_iff, Option.map_eq_some_iff, Prod.mk.injEq] at hplay
  obtain ⟨start, hstart, first, hfirst, ticked, hticked, second, hsecond, player, hplayer, hend,
    hsettled⟩ := hplay
  have hopen := eq_ok_of_toOption_eq_some hstart
  have hreach : Reaches start 5 player := by
    cases first with
    | quit lines => cases hticked
    | goOn firstLines _ =>
        cases second with
        | quit lines => cases hplayer
        | goOn secondLines _ =>
            cases hticked
            cases hplayer
            have htick : Takes start "tick 5" 5 := .tick (by decide +kernel)
            have hnext : Takes ticked "" 0 := .nothing (by decide +kernel) (by decide +kernel)
            exact (Reaches.start.step htick (eq_ok_of_toOption_eq_some hfirst)).step hnext
              (eq_ok_of_toOption_eq_some hsecond)
  obtain ⟨⟨hclock, -⟩, hsettle⟩ := settle_arrives hopen hreach (by decide)
  obtain ⟨frames, final, hloop, hrespond, -, -, hfinal, -, -, hperformance⟩ :=
    hsettle 45 (Stage.everywhere_iff_standing?.mp (hend ▸ player.endsBy_lastEnd))
      (by rw [hclock]; decide) "settle" (by decide +kernel)
  have hsame := (respond_settle (by decide +kernel)).symm.trans hrespond
  obtain rfl : player.settle = final := (Reply.goOn.inj (Except.ok.inj hsame)).2
  obtain rfl : frames = 3 := by
    rw [hsettled, hclock] at hfinal
    change 53 = 5 + 16 * frames at hfinal
    omega
  have hline : player.settle.clockLine = "clock: 53ms" := by
    rw [clockLine, hsettled]
    decide +kernel
  exact ⟨start, player, player.settle, hopen, hreach, hloop, hline ▸ hrespond,
    hsettled ▸ hperformance⟩

end Player

end VisualNovel
