import Mathlib.Data.Nat.SuccPred
import Mathlib.Order.Bounds.Basic
import VisualNovel.Proofs.Performance.Invariant
import VisualNovel.Proofs.Performance.Steps
import VisualNovel.Proofs.Performance.Timeless
import VisualNovel.Proofs.Stage.Company

namespace VisualNovel

namespace Command

/-- The command puts somebody of the cast on stage. -/
def shows (cast : Cast) (name : String) : Command → Bool
  | .showCharacter other _ _ => cast.contains other && other == name
  | _ => false

/-- The command takes somebody of the cast off stage. -/
def hides (cast : Cast) (name : String) : Command → Bool
  | .hideCharacter other => cast.contains other && other == name
  | _ => false

end Command

theorem Cast.contains_eq_isSome_find? (cast : Cast) (name : String) :
    cast.contains name = (cast.find? name).isSome :=
  Std.ExtTreeMap.contains_eq_isSome_getElem?

theorem Stage.isOnStage_act {cast : Cast} {stage next : Stage} {command : Command}
    (hact : command.act cast stage = .ok next) (name : String) :
    next.isOnStage name =
      (command.shows cast name || !command.hides cast name && stage.isOnStage name) := by
  cases command with
  | showCharacter other x y =>
      cases hact
      simp only [Command.shows, Command.hides, cast.contains_eq_isSome_find?]
      cases hfound : cast.find? other with
      | none => simp
      | some identity =>
          obtain rfl : identity.name = other := cast.name_eq other identity hfound
          simp [isOnStage_showCharacter]
  | hideCharacter other =>
      cases hact
      simp only [Command.shows, Command.hides]
      cases cast.contains other with
      | false => simp
      | true => simp [isOnStage_hideCharacter, bne]
  | moveCharacter _ _ _ _ _ | showBackground _ _ _ _ | moveBackground _ _ _ _ | startScroll
  | stopScroll =>
      -- The other commands leave everybody where they are.
      suffices h : next.isOnStage name = stage.isOnStage name by
        simpa [Command.shows, Command.hides] using h
      rcases Command.act_cases hact with ⟨_, _, _, _, hcommand, -⟩ | ⟨_, hcommand, -⟩ |
        ⟨hung, _, _, _, -, -, hsame⟩ | hsame
      · cases hcommand
      · cases hcommand
      · exact (isOnStage_congr hsame name :
          next.isOnStage name = ({ stage with backgroundName := some hung } : Stage).isOnStage name)
      · exact isOnStage_congr hsame name

def Line.shows (cast : Cast) (name : String) (line : Line) : Bool :=
  line.command?.any (·.shows cast name)

def Line.hides (cast : Cast) (name : String) (line : Line) : Bool :=
  line.command?.any (·.hides cast name)

/-- The line at the index is spoken by somebody who is on stage: the last line before it that shows
or hides the speaker shows them. -/
def Script.SpokenOnStage (script : Script) (cast : Cast) (speaker : String) (index : Nat) : Prop :=
  (∃ line, script.lines[index]? = some line ∧ line.action = .dialogue ∧ line.speaker = speaker) ∧
    Since (Line.shows cast speaker) (Line.hides cast speaker) (script.lines.take index)

namespace Expression

inductive PartFrom (said default : Option String) : Option String → Prop
  | said {part : String} (h : said = some part) : PartFrom said default (some part)
  | default (h : said = none) : PartFrom said default default

/-- Each part of the expression is as it is said to be or, where nothing is said, as by default. -/
structure TakenFrom (said default expression : Expression) : Prop where
  eye : PartFrom said.eye default.eye expression.eye
  mouth : PartFrom said.mouth default.mouth expression.mouth
  brow : PartFrom said.brow default.brow expression.brow
  cheek : PartFrom said.cheek default.cheek expression.cheek

theorem partFrom_iff {said default part : Option String} :
    PartFrom said default part ↔ part = said.or default := by
  constructor
  · intro h
    cases h with
    | said h => rw [h, Option.some_or]
    | default h => rw [h, Option.none_or]
  · rintro rfl
    cases said with
    | none => exact .default rfl
    | some part => exact .said rfl

theorem takenFrom_iff {said default expression : Expression} :
    TakenFrom said default expression ↔ expression = said.orDefault default := by
  constructor
  · rintro ⟨heye, hmouth, hbrow, hcheek⟩
    rw [partFrom_iff] at heye hmouth hbrow hcheek
    cases expression
    simp_all [orDefault]
  · rintro rfl
    exact ⟨partFrom_iff.mpr rfl, partFrom_iff.mpr rfl, partFrom_iff.mpr rfl, partFrom_iff.mpr rfl⟩

end Expression

theorem isGreatest_lt_succ_iff {holds : Nat → Prop} {n m : Nat} :
    IsGreatest {i | i < n + 1 ∧ holds i} m ↔
      holds n ∧ m = n ∨ ¬ holds n ∧ IsGreatest {i | i < n ∧ holds i} m := by
  by_cases hn : holds n
  · have hlast : IsGreatest {i | i < n + 1 ∧ holds i} n :=
      ⟨⟨Nat.lt_succ_self n, hn⟩, fun i hi => Nat.le_of_lt_succ hi.1⟩
    constructor
    · intro hm
      exact .inl ⟨hn, hm.unique hlast⟩
    · rintro (⟨-, rfl⟩ | ⟨hnot, -⟩)
      · exact hlast
      · exact absurd hn hnot
  · have hsame : {i | i < n + 1 ∧ holds i} = {i | i < n ∧ holds i} := by
      ext i
      refine and_congr_left fun hi => ⟨fun hlt => ?_, Nat.lt_succ_of_lt⟩
      refine Nat.lt_of_le_of_ne (Nat.le_of_lt_succ hlt) ?_
      rintro rfl
      exact hn hi
    rw [hsame]
    simp [hn]

namespace Performance

variable {cast : Cast} {p q : Performance}

theorem isOnStage_reach {index : Nat} {line : Line} (hreach : p.reach index line = .ok q)
    (name : String) : q.stage.isOnStage name =
      (line.shows p.cast name || !line.hides p.cast name && p.stage.isOnStage name) := by
  rcases reach_cases hreach with ⟨haction, rfl⟩ | ⟨⟨reason, haction⟩, rfl⟩ |
    ⟨command, stage, haction, hact, rfl⟩
  · simp [Line.shows, Line.hides, Line.command?, haction, moveTo]
  · simp [Line.shows, Line.hides, Line.command?, haction, moveTo]
  · simp only [Line.shows, Line.hides, Line.command?, haction, Option.any_some]
    exact Stage.isOnStage_act hact name

def defaultOf (cast : Cast) (speaker : String) : Expression :=
  ((cast.find? speaker).map Identity.defaultExpression).getD {}

theorem expressions_remember (p : Performance) (line : Line) (speaker : String) :
    (p.remember line).expressions[speaker]? =
      if line.speaker = speaker ∧ p.stage.isOnStage speaker = true then
        some (line.expression.orDefault (defaultOf p.cast speaker))
      else p.expressions[speaker]? := by
  by_cases hspeaker : line.speaker = speaker
  · subst hspeaker
    cases honStage : p.stage.isOnStage line.speaker with
    | false => simp [remember, honStage]
    | true => simp [remember, honStage, defaultOf]
  · cases honStage : p.stage.isOnStage line.speaker with
    | false => simp [remember, honStage, hspeaker]
    | true => simp [remember, honStage, hspeaker, Std.ExtTreeMap.getElem?_insert]

theorem expressions_reach {index : Nat} {line : Line} (hreach : p.reach index line = .ok q)
    (speaker : String) : q.expressions[speaker]? =
      if line.action = .dialogue ∧ line.speaker = speaker ∧ p.stage.isOnStage speaker = true then
        some (line.expression.orDefault (defaultOf p.cast speaker))
      else p.expressions[speaker]? := by
  rcases reach_cases hreach with ⟨haction, rfl⟩ | ⟨⟨reason, haction⟩, rfl⟩ |
    ⟨command, stage, haction, -, rfl⟩
  · rw [present_expressions, expressions_remember]
    simp only [haction, true_and]
    rfl
  · simp [haction, moveTo]
  · have hkept : (((p.moveTo (some index)).route command).setStage stage).expressions =
        p.expressions := by
      cases command <;> rfl
    simp [haction, hkept]

theorem cast_reach {index : Nat} {line : Line} (hreach : p.reach index line = .ok q) :
    q.cast = p.cast := by
  rcases reach_cases hreach with ⟨-, rfl⟩ | ⟨-, rfl⟩ | ⟨command, stage, -, -, rfl⟩
  · exact present_cast _ line
  · rfl
  · cases command <;> rfl

/-- The lines of the script that were gone through tell who is on stage and which expressions are
remembered. -/
structure Mirrors (script : Script) (cast : Cast) (p : Performance) : Prop where
  onStage : ∀ name, p.stage.isOnStage name = true ↔
    Since (Line.shows cast name) (Line.hides cast name) (script.lines.take p.next)
  expressions : ∀ speaker expression, p.expressions[speaker]? = some expression ↔
    ∃ index line, IsGreatest {i | i < p.next ∧ script.SpokenOnStage cast speaker i} index ∧
      script.lines[index]? = some line ∧
      expression = line.expression.orDefault (defaultOf cast speaker)
  script : p.script = script
  cast : p.cast = cast

variable {script : Script}

theorem mirrors_load (p : Performance) (script : Script) :
    (p.load script).Mirrors script p.cast where
  onStage name := by simp [load, next, Stage.clear, Stage.isOnStage, not_since_nil]
  expressions := by simp [load, next, IsGreatest]
  script := rfl
  cast := rfl

theorem Mirrors.spokenOnStage_next_iff (h : p.Mirrors script cast) {line : Line}
    (hline : script.lines[p.next]? = some line) (speaker : String) :
    script.SpokenOnStage cast speaker p.next ↔
      line.action = .dialogue ∧ line.speaker = speaker ∧ p.stage.isOnStage speaker = true := by
  simp [Script.SpokenOnStage, hline, h.onStage, and_assoc]

theorem Mirrors.reach (h : p.Mirrors script cast) {line : Line}
    (hline : p.script.lines[p.next]? = some line) (hreach : p.reach p.next line = .ok q) :
    q.Mirrors script cast where
  onStage name := by
    rw [h.script] at hline
    rw [reach_next hreach, List.take_add_one, hline, Option.toList_some, since_concat,
      ← h.onStage, isOnStage_reach hreach, h.cast]
    simp
  expressions speaker expression := by
    rw [h.script] at hline
    have hnext := h.spokenOnStage_next_iff hline speaker
    rw [reach_next hreach, expressions_reach hreach, h.cast]
    simp only [isGreatest_lt_succ_iff]
    -- Either this line is the last one that the speaker spoke on stage, or the last one stays so.
    by_cases hspoken : script.SpokenOnStage cast speaker p.next
    · rw [if_pos (hnext.mp hspoken)]
      simp [hspoken, hline, eq_comm]
    · rw [if_neg (fun hcondition => hspoken (hnext.mpr hcondition))]
      simpa [hspoken] using h.expressions speaker expression
  script := (reach_script hreach).trans h.script
  cast := (cast_reach hreach).trans h.cast

theorem Mirrors.tick (h : p.Mirrors script cast) (now : UInt64) :
    (p.tick now).Mirrors script cast where
  onStage name :=
    (Bool.eq_iff_iff.mp (Stage.isOnStage_congr (p.stage.timeless_tick now) name)).trans
      (h.onStage name)
  expressions := h.expressions
  script := h.script
  cast := h.cast

theorem Mirrors.perform (h : p.Mirrors script cast) {operation : Operation} {answer : Answer}
    (hload : ∀ other, operation ≠ .load other)
    (hperform : p.perform operation = .ok (answer, q)) : q.Mirrors script cast := by
  rcases perform_cases hperform with ⟨other, hother, -, -⟩ | ⟨waits, -, -, hadvance⟩ |
    ⟨now, -, -, rfl⟩ | ⟨-, -, rfl⟩ | ⟨identity, name, -, -, rfl⟩
  · exact absurd hother (hload other)
  · exact advance_induction (fun _ _ _ hline h hreach => h.reach hline hreach) h hadvance
  · exact h.tick now
  · exact ⟨h.onStage, h.expressions, h.script, h.cast⟩
  · exact ⟨h.onStage, h.expressions, h.script, h.cast⟩

theorem Mirrors.run (h : p.Mirrors script cast) {operations : List Operation} {deeds : List Deed}
    (hloads : ∀ other, .load other ∉ operations)
    (hrun : run Performance.perform p operations = .ok (deeds, q)) : q.Mirrors script cast := by
  induction operations generalizing p deeds with
  | nil =>
      obtain ⟨-, rfl⟩ := Run.run_nil_eq_ok hrun
      exact h
  | cons operation operations ih =>
      obtain ⟨answer, r, rest, hfirst, hrest, -⟩ := Run.run_cons_eq_ok hrun
      refine ih (h.perform (fun other hother => ?_) hfirst) (fun other hother => ?_) hrest
      · exact hloads other (hother ▸ List.mem_cons_self)
      · exact hloads other (List.mem_cons_of_mem _ hother)

theorem exists_identity_of_spokenOnStage {speaker : String} {index : Nat}
    (h : script.SpokenOnStage cast speaker index) :
    ∃ identity, cast.find? speaker = some identity := by
  obtain ⟨-, -, line, -, -, hshows, -⟩ := h
  obtain ⟨command, -, hcommand⟩ := (Option.any_eq_true _ _).mp hshows
  cases command with
  | showCharacter name x y =>
      simp only [Command.shows, Bool.and_eq_true, beq_iff_eq] at hcommand
      obtain ⟨hcontains, rfl⟩ := hcommand
      rwa [cast.contains_eq_isSome_find?, Option.isSome_iff_exists] at hcontains
  | _ => cases hcommand

/-- Since a script was loaded the lines before the cursor were gone through, each once and in order.
Who spoke among them on stage is remembered, and nobody else. What is remembered is the expression
of the last line so spoken, and of that line alone: the parts that it leaves open are as by default
with its speaker. -/
theorem expressions_follow_lines {start : Performance} {operations : List Operation}
    {deeds : List Deed} (hloads : ∀ other, .load other ∉ operations)
    (hrun : run perform start (.load script :: operations) = .ok (deeds, p)) (speaker : String) :
    stepsSinceLoad (beats script 0 operations) = List.range p.next ∧
    ((∃ expression, p.expressions[speaker]? = some expression) ↔
      ∃ index < p.next, script.SpokenOnStage start.cast speaker index) ∧
    ∀ expression, p.expressions[speaker]? = some expression ↔
      ∃ index line identity,
        IsGreatest {i | i < p.next ∧ script.SpokenOnStage start.cast speaker i} index ∧
        script.lines[index]? = some line ∧ start.cast.find? speaker = some identity ∧
        line.expression.TakenFrom identity.defaultExpression expression := by
  obtain ⟨answer, loaded, rest, hload, hrest, -⟩ := Run.run_cons_eq_ok hrun
  cases hload
  have h := (mirrors_load start script).run hloads hrest
  refine ⟨foldl_addBeat_beats hrest, ⟨?_, ?_⟩, fun expression => (h.expressions speaker
    expression).trans ⟨?_, ?_⟩⟩
  · rintro ⟨expression, hexpression⟩
    obtain ⟨index, -, hindex, -⟩ := (h.expressions speaker expression).mp hexpression
    exact ⟨index, hindex.1⟩
  · rintro ⟨index, hindex⟩
    obtain ⟨last, hlast⟩ := BddAbove.exists_isGreatest_of_nonempty
      (S := {i | i < p.next ∧ script.SpokenOnStage start.cast speaker i})
      ⟨p.next, fun i hi => hi.1.le⟩ ⟨index, hindex⟩
    obtain ⟨⟨line, hline, -⟩, -⟩ := hlast.1.2
    exact ⟨_, (h.expressions speaker _).mpr ⟨last, line, hlast, hline, rfl⟩⟩
  · rintro ⟨index, line, hindex, hline, rfl⟩
    obtain ⟨identity, hidentity⟩ := exists_identity_of_spokenOnStage hindex.1.2
    refine ⟨index, line, identity, hindex, hline, hidentity, Expression.takenFrom_iff.mpr ?_⟩
    simp [defaultOf, hidentity]
  · rintro ⟨index, line, identity, hindex, hline, hidentity, htaken⟩
    refine ⟨index, line, hindex, hline, (Expression.takenFrom_iff.mp htaken).trans ?_⟩
    simp [defaultOf, hidentity]

/-- Aoi speaks off stage, on stage, in a scroll, and off stage again; Ren never gets on stage. -/
def letterScene : Script where
  lines := [
    { speaker := "Aoi", text := "Anyone?", expression := { brow := some "low" } },
    { speaker := "", text := "_CHARA_NEW_Aoi_0.5_0.8" },
    { speaker := "Aoi", text := "A letter!", expression := { eye := some "wide" } },
    { speaker := "", text := "_SCROLL_START" },
    { speaker := "Aoi", text := "Dear Aoi,", expression := { mouth := some "flat" } },
    { speaker := "Ren", text := "It is mine.", expression := { eye := some "closed" } },
    { speaker := "", text := "_CHARA_HIDE_Aoi" },
    { speaker := "Aoi", text := "Bye.", expression := { eye := some "shut" } }]

def letterCast : Cast :=
  Cast.ofLists [
    { name := "Aoi"
      spriteExtent := ⟨400, 900⟩
      defaultExpression := { eye := some "open", mouth := some "smile" } }] []

def letterRun : List Operation :=
  [.advance, .tick 40, .advance, .advance, .setName "Aoi" "A", .advance, .tick 90, .advance]

theorem letterRun_expressions_follow_lines : ∃ deeds p,
    run perform (.ofConfig .standard letterCast .empty) (.load letterScene :: letterRun) =
      .ok (deeds, p) ∧
    stepsSinceLoad (beats letterScene 0 letterRun) = List.range 8 ∧
    p.expressions["Aoi"]? = some { eye := some "open", mouth := some "flat" } ∧
    (¬ ∃ index < 8, letterScene.SpokenOnStage letterCast "Ren" index) ∧
    ∃ index line identity,
      IsGreatest {i | i < 8 ∧ letterScene.SpokenOnStage letterCast "Aoi" i} index ∧
      letterScene.lines[index]? = some line ∧ letterCast.find? "Aoi" = some identity ∧
      line.expression.TakenFrom identity.defaultExpression
        { eye := some "open", mouth := some "flat" } := by
  have hend : (run perform (.ofConfig .standard letterCast .empty)
      (.load letterScene :: letterRun)).toOption.map
      (fun result => (result.2.next, result.2.expressions["Aoi"]?, result.2.expressions["Ren"]?)) =
      some (8, some { eye := some "open", mouth := some "flat" }, none) := by decide +kernel
  obtain ⟨⟨deeds, p⟩, hrun, hend⟩ := exists_of_toOption_map_eq_some hend
  simp only [Prod.mk.injEq] at hend
  obtain ⟨hnext, haoi, hren⟩ := hend
  have hloads : ∀ other, Operation.load other ∉ letterRun := by simp [letterRun]
  obtain ⟨hsteps, -, hlast⟩ := expressions_follow_lines hloads hrun "Aoi"
  obtain ⟨-, hspoken, -⟩ := expressions_follow_lines hloads hrun "Ren"
  rw [hnext] at hsteps hlast hspoken
  refine ⟨deeds, p, hrun, hsteps, haoi, ?_, (hlast _).mp haoi⟩
  intro hspoke
  obtain ⟨expression, hexpression⟩ := hspoken.mpr hspoke
  cases hren.symm.trans hexpression

end Performance

end VisualNovel
