import Mathlib.Data.String.Basic
import VisualNovel.Demo
import VisualNovel.Proofs.Command.Classified
import VisualNovel.Proofs.Performance.FreshStart
import VisualNovel.Proofs.Stage.Company

namespace VisualNovel

/-- A name that can be written in a command. -/
def Command.ProperName (name : String) : Prop :=
  name ≠ "" ∧ Text.Trimmed name ∧ '_' ∉ name.toList

theorem Line.sound_of_command? {line : Line} {command : Command}
    (h : line.command? = some command) : command.Sound line.speaker := by
  have hread : Command.read line.text line.speaker = some (.ok command) := by
    unfold Line.command? Line.action at h
    cases hread : Command.read line.text line.speaker with
    | none => simp [hread] at h
    | some result =>
        cases result with
        | error reason => simp [hread] at h
        | ok other => simpa [hread] using h
  exact (Command.heads_and_sound_of_read hread).2

/-- Whoever was shown is one of the cast, and whoever is on stage was shown. -/
structure Stage.WellCast (cast : Cast) (stage : Stage) : Prop where
  onStage : ∀ name, stage.isOnStage name = true → ∃ extent, stage.extent? name = some extent
  shown : ∀ name extent, stage.extent? name = some extent →
    (∃ identity, cast.find? name = some identity ∧ identity.spriteExtent = extent) ∧
      Command.ProperName name
  background : ∀ name, stage.backgroundName = some name → cast.hasBackground name = true

namespace Stage

variable {cast : Cast} {stage next : Stage}

theorem wellCast_clear (cast : Cast) (stage : Stage) : stage.clear.WellCast cast where
  onStage := by simp [clear, isOnStage]
  shown := by simp [clear, extent?, actor?]
  background := by simp [clear]

theorem WellCast.of_extent?_eq (h : stage.WellCast cast)
    (hextent : ∀ name, next.extent? name = stage.extent? name)
    (honStage : ∀ name, next.isOnStage name = true → stage.isOnStage name = true)
    (hbackground : ∀ name, next.backgroundName = some name → cast.hasBackground name = true) :
    next.WellCast cast where
  onStage := by
    intro name hname
    rw [hextent]
    exact h.onStage name (honStage name hname)
  shown := by
    intro name extent hname
    rw [hextent] at hname
    exact h.shown name extent hname
  background := hbackground

theorem WellCast.of_timeless_eq (h : stage.WellCast cast) (hsame : next.timeless = stage.timeless) :
    next.WellCast cast := by
  refine h.of_extent?_eq (extent?_congr hsame) (fun name hname => ?_) fun name hname => ?_
  · rwa [isOnStage_congr hsame] at hname
  · rw [backgroundName_congr hsame] at hname
    exact h.background name hname

theorem WellCast.showCharacter (h : stage.WellCast cast) {identity : Identity}
    (hfound : cast.find? identity.name = some identity)
    (hproper : Command.ProperName identity.name) (x y : Float) :
    (stage.showCharacter identity x y).WellCast cast where
  onStage := by
    intro name hname
    rw [extent?_showCharacter]
    by_cases hsame : identity.name = name
    · exact ⟨_, if_pos hsame⟩
    · rw [isOnStage_showCharacter, beq_eq_false_iff_ne.mpr hsame, Bool.false_or] at hname
      rw [if_neg hsame]
      exact h.onStage name hname
  shown := by
    intro name extent hname
    rw [extent?_showCharacter] at hname
    split at hname
    · rename_i hsame
      subst hsame
      exact ⟨⟨identity, hfound, Option.some.inj hname⟩, hproper⟩
    · exact h.shown name extent hname
  background := h.background

theorem WellCast.act (h : stage.WellCast cast) {command : Command} {speaker : String}
    (hsound : command.Sound speaker) (hact : command.act cast stage = .ok next) :
    next.WellCast cast := by
  rcases Command.act_cases hact with ⟨name, x, y, identity, rfl, hfound, rfl⟩ |
    ⟨name, -, -, rfl⟩ | ⟨name, x, y, zoom, -, hbackground, hsame⟩ | hsame
  · obtain rfl : identity.name = name := cast.name_eq name identity hfound
    exact h.showCharacter hfound (hsound.writtenName _ rfl) x y
  · refine h.of_extent?_eq (stage.extent?_hideCharacter name) (fun other hother => ?_) ?_
    · rw [isOnStage_hideCharacter, Bool.and_eq_true] at hother
      exact hother.2
    · intro other hother
      have hkept := congrArg Stage.backgroundName (stage.timeless_hideCharacter name)
      exact h.background other (hkept.symm.trans hother)
  · have hhung : WellCast cast { stage with backgroundName := some name } := by
      refine ⟨h.onStage, h.shown, ?_⟩
      rintro _ ⟨⟩
      exact hbackground
    exact hhung.of_timeless_eq hsame
  · exact h.of_timeless_eq hsame

theorem exists_extent?_act {command : Command} (hact : command.act cast stage = .ok next)
    {name : String} {extent : Point} (hname : stage.extent? name = some extent) :
    ∃ extent, next.extent? name = some extent := by
  rcases Command.act_cases hact with ⟨other, x, y, identity, -, -, rfl⟩ |
    ⟨other, -, -, rfl⟩ | ⟨other, x, y, zoom, -, -, hsame⟩ | hsame
  · rw [extent?_showCharacter]
    split
    · exact ⟨_, rfl⟩
    · exact ⟨extent, hname⟩
  · exact ⟨extent, (stage.extent?_hideCharacter other name).trans hname⟩
  · have hkept : next.extent? name =
        ({ stage with backgroundName := some other } : Stage).extent? name :=
      extent?_congr hsame name
    exact ⟨extent, hkept.trans hname⟩
  · exact ⟨extent, (extent?_congr hsame name).trans hname⟩

theorem mem_activeNames_iff (stage : Stage) (name : String) :
    name ∈ stage.activeNames ↔ stage.isOnStage name = true := by
  simp [activeNames, isOnStage]

theorem activeNames_sorted (stage : Stage) : stage.activeNames.Pairwise (· < ·) := by
  refine List.Pairwise.imp ?_ Std.ExtTreeSet.ordered_toList
  intro first second hlt
  exact compare_lt_iff_lt.mp hlt

end Stage

namespace Demo

variable (demo : Demo)

theorem mem_frame_characters_iff (character : CharacterFrame) :
    character ∈ demo.frame.characters ↔
      demo.session.performance.stage.isOnStage character.name = true ∧
      demo.session.performance.stage.transform? character.name = some character.transform ∧
      character.expression = demo.session.performance.expressions[character.name]? := by
  simp only [frame, List.mem_filterMap, Stage.mem_activeNames_iff, Option.map_eq_some_iff]
  constructor
  · rintro ⟨name, honStage, transform, htransform, rfl⟩
    exact ⟨honStage, htransform, rfl⟩
  · rintro ⟨honStage, htransform, hexpression⟩
    exact ⟨character.name, honStage, character.transform, htransform, by rw [← hexpression]⟩

theorem map_name_frame_characters
    (h : ∀ name, demo.session.performance.stage.isOnStage name = true →
      ∃ transform, demo.session.performance.stage.transform? name = some transform) :
    demo.frame.characters.map CharacterFrame.name =
      demo.session.performance.stage.activeNames := by
  simp only [frame, List.map_filterMap]
  calc
    _ = demo.session.performance.stage.activeNames.filterMap some := by
        refine List.filterMap_congr fun name hname => ?_
        obtain ⟨transform, htransform⟩ := h name ((Stage.mem_activeNames_iff _ name).mp hname)
        simp [htransform]
    _ = _ := List.filterMap_some

end Demo

namespace Performance

/-- The stage is well cast, and every remembered expression is that of somebody who was shown. -/
structure WellCast (cast : Cast) (p : Performance) : Prop where
  stage : p.stage.WellCast cast
  expressions : ∀ speaker expression, p.expressions[speaker]? = some expression →
    ∃ extent, p.stage.extent? speaker = some extent
  cast : p.cast = cast

section WellCast

variable {cast : Cast} {p q : Performance}

theorem wellCast_ofConfig (config : Config) (cast : Cast) (names : NameBook) :
    (ofConfig config cast names).WellCast cast where
  cast := rfl
  stage := Stage.wellCast_clear cast (.ofConfig config)
  expressions := by simp [ofConfig]

theorem WellCast.tick (h : p.WellCast cast) (now : UInt64) : (p.tick now).WellCast cast where
  cast := h.cast
  stage := h.stage.of_timeless_eq (p.stage.timeless_tick now)
  expressions := by
    intro speaker expression hexpression
    obtain ⟨extent, hextent⟩ := h.expressions speaker expression hexpression
    exact ⟨extent, (Stage.extent?_congr (p.stage.timeless_tick now) speaker).trans hextent⟩

theorem WellCast.execute (h : p.WellCast cast) {command : Command} {speaker : String}
    (hsound : command.Sound speaker) (hexecute : p.execute command = .ok q) :
    q.WellCast cast := by
  rw [execute_eq, h.cast] at hexecute
  obtain ⟨stage, hact, rfl⟩ := exists_of_map_eq_ok hexecute
  refine ⟨h.stage.act hsound hact, ?_, ?_⟩
  · intro other expression hexpression
    have hbefore : p.expressions[other]? = some expression := by
      cases command <;> exact hexpression
    obtain ⟨extent, hextent⟩ := h.expressions other expression hbefore
    exact Stage.exists_extent?_act hact hextent
  · cases command <;> exact h.cast

theorem WellCast.present (h : p.WellCast cast) (line : Line) : (p.present line).WellCast cast where
  cast := (p.present_cast line).trans h.cast
  stage := (p.present_stage line).symm ▸ h.stage
  expressions := by
    intro speaker expression hexpression
    rw [present_stage]
    rw [present_expressions, remember] at hexpression
    split at hexpression
    · rename_i honStage
      rw [Std.ExtTreeMap.getElem?_insert] at hexpression
      split at hexpression
      · rename_i hsame
        -- Whoever speaks on stage has been shown.
        obtain rfl : line.speaker = speaker := Std.LawfulEqCmp.eq_of_compare hsame
        exact h.stage.onStage _ honStage
      · exact h.expressions speaker expression hexpression
    · exact h.expressions speaker expression hexpression

theorem wellCast_invariant (cast : Cast) : Invariant (WellCast cast) where
  load p _ h := ⟨Stage.wellCast_clear cast p.stage, by simp [load], h.cast⟩
  moveTo _ _ h := ⟨h.stage, h.expressions, h.cast⟩
  execute _ _ _ _ hline h hexecute := h.execute (Line.sound_of_command? hline) hexecute
  present _ line h := h.present line
  tick _ now h := h.tick now
  drain _ h := ⟨h.stage, h.expressions, h.cast⟩
  setName _ _ _ h := ⟨h.stage, h.expressions, h.cast⟩

end WellCast

/-- Whatever was performed, whoever is on stage or remembered with an expression has a transform, and
whoever has one is registered in the cast, under a proper name and with the extent of the sprite;
the background is registered too. A frame therefore shows exactly those who are on stage, each once
and in increasing order. -/
theorem stage_belongs_to_cast (config : Config) (cast : Cast) (names : NameBook)
    {operations : List Operation} {deeds : List Deed} {p : Performance}
    (hrun : run perform (.ofConfig config cast names) operations = .ok (deeds, p)) :
    (∀ name, p.stage.isOnStage name = true →
      ∃ transform, p.stage.transform? name = some transform) ∧
    (∀ name actor, p.stage.actor? name = some actor →
      (∃ identity, cast.find? name = some identity ∧ identity.name = name ∧
        actor.extent = identity.spriteExtent) ∧
      name ≠ "" ∧ Text.Trimmed name ∧ '_' ∉ name.toList) ∧
    (∀ speaker expression, p.expressions[speaker]? = some expression →
      ∃ transform, p.stage.transform? speaker = some transform) ∧
    (∀ name, p.stage.backgroundName = some name → cast.hasBackground name = true) ∧
    ∀ demo : Demo, demo.session.performance = p →
      demo.frame.characters.map (·.name) = p.stage.activeNames ∧
      p.stage.activeNames.Pairwise (· < ·) ∧
      (∀ name, name ∈ p.stage.activeNames ↔ p.stage.isOnStage name = true) ∧
      ∀ character ∈ demo.frame.characters,
        p.stage.transform? character.name = some character.transform ∧
        character.expression = p.expressions[character.name]? := by
  have hcast := (wellCast_invariant cast).of_run (wellCast_ofConfig config cast names) hrun
  have htransform : ∀ name extent, p.stage.extent? name = some extent →
      ∃ transform, p.stage.transform? name = some transform := by
    intro name extent hextent
    obtain ⟨actor, hactor, -⟩ := Stage.extent?_eq_some_iff.mp hextent
    exact ⟨actor.transform, Option.map_eq_some_iff.mpr ⟨actor, hactor, rfl⟩⟩
  have honStage : ∀ name, p.stage.isOnStage name = true →
      ∃ transform, p.stage.transform? name = some transform := by
    intro name hname
    obtain ⟨extent, hextent⟩ := hcast.stage.onStage name hname
    exact htransform name extent hextent
  refine ⟨honStage, ?_, ?_, hcast.stage.background, ?_⟩
  · intro name actor hactor
    obtain ⟨⟨identity, hfound, hextent⟩, hproper⟩ :=
      hcast.stage.shown name actor.extent (Stage.extent?_eq_some_iff.mpr ⟨actor, hactor, rfl⟩)
    exact ⟨⟨identity, hfound, cast.name_eq name identity hfound, hextent.symm⟩, hproper⟩
  · intro speaker expression hexpression
    obtain ⟨extent, hextent⟩ := hcast.expressions speaker expression hexpression
    exact htransform speaker extent hextent
  · rintro demo rfl
    refine ⟨demo.map_name_frame_characters honStage, Stage.activeNames_sorted _,
      Stage.mem_activeNames_iff _, ?_⟩
    intro character hcharacter
    exact ((demo.mem_frame_characters_iff character).mp hcharacter).2

/-- Two of three characters are cast, one of them leaves, and one of two backgrounds is there. -/
def castCall : List Operation := [
  .load ⟨[
    { speaker := "", text := "_CHARA_NEW_ Ren _0.2_0.8" },
    { speaker := "", text := "_CHARA_NEW_Aoi_0.8_0.8" },
    { speaker := "", text := "_CHARA_NEW_Kei" },
    { speaker := "", text := "_BG_SHOW_park" },
    { speaker := "", text := "_BG_SHOW_moon" },
    { speaker := "Ren", text := "Wait here." },
    { speaker := "", text := "_CHARA_HIDE_Ren" },
    { speaker := "Kei", text := "..." }]⟩,
  .advance, .tick 40, .setName "Ren" "R", .advance, .drainBacklog]

def castCallCast : Cast :=
  Cast.ofLists [{ name := "Aoi", spriteExtent := ⟨400, 900⟩ },
    { name := "Ren", spriteExtent := ⟨420, 950⟩ }] ["park"]

theorem castCall_stage_belongs_to_cast : ∃ deeds p,
    run perform (.ofConfig .standard castCallCast .empty) castCall = .ok (deeds, p) ∧
    p.stage.activeNames = ["Aoi"] ∧ p.stage.extent? "Ren" = some ⟨420, 950⟩ ∧
    p.expressions.contains "Ren" = true ∧ p.stage.backgroundName = some "park" ∧
    (∀ name, p.stage.isOnStage name = true →
      ∃ transform, p.stage.transform? name = some transform) ∧
    (∀ name, p.stage.backgroundName = some name → castCallCast.hasBackground name = true) ∧
    ∀ demo : Demo, demo.session.performance = p →
      demo.frame.characters.map (·.name) = p.stage.activeNames := by
  have hend : (run perform (.ofConfig .standard castCallCast .empty) castCall).toOption.map
      (fun result => (result.2.stage.activeNames, result.2.stage.extent? "Ren",
        result.2.expressions.contains "Ren", result.2.stage.backgroundName)) =
      some (["Aoi"], some ⟨420, 950⟩, true, some "park") := by decide +kernel
  obtain ⟨⟨deeds, p⟩, hrun, hend⟩ := exists_of_toOption_map_eq_some hend
  simp only [Prod.mk.injEq] at hend
  obtain ⟨hnames, hextent, hexpression, hbackground⟩ := hend
  obtain ⟨honStage, -, -, hregistered, hframe⟩ :=
    stage_belongs_to_cast .standard castCallCast .empty hrun
  exact ⟨deeds, p, hrun, hnames, hextent, hexpression, hbackground, honStage, hregistered,
    fun demo hdemo => (hframe demo hdemo).1⟩

end Performance

end VisualNovel
