import VisualNovel.Proofs.Stage.PanRange
import VisualNovel.Proofs.Stage.Targets

namespace VisualNovel.Stage

namespace Operation

def shows (name : String) : Operation → Bool
  | .showCharacter identity _ _ => identity.name == name
  | _ => false

def hides (name : String) : Operation → Bool
  | .hideCharacter other => other == name
  | _ => false

def clears : Operation → Bool
  | .clear => true
  | _ => false

/-- The operation may change the transform of a hidden character. -/
def stirs (name : String) : Operation → Bool
  | .showCharacter identity _ _ => identity.name == name
  | .moveCharacter other _ _ _ _ => other == name
  | .startTween target _ _ _ => target == .character name
  | .clear => true
  | _ => false

end Operation

/-- Someone was shown since the stage was last cleared. -/
def WasShown (name : String) (history : List Operation) : Prop :=
  Since (Operation.shows name) Operation.clears history

/-- The last time since the stage was cleared that someone was shown or hidden, it was shown. -/
def LastShown (name : String) (history : List Operation) : Prop :=
  Since (Operation.shows name) (fun operation => operation.hides name || operation.clears) history

section Step

variable {stage next : Stage} {operation : Operation} {answer : Answer}

theorem actor?_put_eq_ite (stage : Stage) (name other : String) (actor : Option Actor)
    (onStage : Bool) : (stage.put (.character name) (actor, onStage)).actor? other =
      if name = other then actor else stage.actor? other := by
  split
  · rename_i hsame
    rw [← hsame, actor?_put]
  · rename_i hname
    have hne : Target.character other ≠ .character name := fun h => hname (by cases h; rfl)
    exact congrArg Prod.fst (stage.part_put_of_ne (actor, onStage) hne)

theorem isOnStage_put_eq_ite (stage : Stage) (name other : String) (actor : Option Actor)
    (onStage : Bool) : (stage.put (.character name) (actor, onStage)).isOnStage other =
      if name = other then onStage else stage.isOnStage other := by
  split
  · rename_i hsame
    rw [← hsame, isOnStage_put]
  · rename_i hname
    have hne : Target.character other ≠ .character name := fun h => hname (by cases h; rfl)
    exact congrArg Prod.snd (stage.part_put_of_ne (actor, onStage) hne)

/-- All that an operation does to who was shown and who is on stage. -/
theorem attendance_perform (hperform : stage.perform operation = .ok (answer, next))
    (name : String) :
    (next.actor? name).isSome =
      (operation.shows name || !operation.clears && (stage.actor? name).isSome) ∧
    next.isOnStage name =
      (operation.shows name ||
        !(operation.hides name || operation.clears) && stage.isOnStage name) := by
  -- Only operations on a character change what is known of it, and only of that character.
  cases operation with
  | showCharacter identity x y =>
      cases hperform
      rw [showCharacter_eq_put _ _ _ _ _ rfl, actor?_put_eq_ite, isOnStage_put_eq_ite]
      by_cases hname : identity.name = name
      · simp [Operation.shows, hname]
      · simp [Operation.shows, Operation.hides, Operation.clears, hname]
  | hideCharacter other =>
      cases hperform
      rw [hideCharacter_eq_put, actor?_put_eq_ite, isOnStage_put_eq_ite]
      by_cases hname : other = name
      · simp [Operation.shows, Operation.hides, Operation.clears, hname]
      · simp [Operation.shows, Operation.hides, Operation.clears, hname]
  | moveCharacter other x y duration zoom =>
      rw [perform, moveCharacter_eq_put] at hperform
      cases hperform
      rw [id, actor?_put_eq_ite, isOnStage_put_eq_ite]
      by_cases hname : other = name
      · simp [Operation.shows, Operation.hides, Operation.clears, hname]
      · simp [Operation.shows, Operation.hides, Operation.clears, hname]
  | startTween target position duration zoom =>
      cases target with
      | character other =>
          rw [perform, startTween_character_eq_put] at hperform
          cases hperform
          rw [id, actor?_put_eq_ite, isOnStage_put_eq_ite]
          by_cases hname : other = name
          · simp [Operation.shows, Operation.hides, Operation.clears, hname]
          · simp [Operation.shows, Operation.hides, Operation.clears, hname]
      | background =>
          obtain ⟨part, rfl⟩ := (Operation.actsOn_of_target? rfl).exists_put hperform
          exact ⟨rfl, rfl⟩
  | showBackground _ x y zoom =>
      obtain ⟨part, rfl⟩ := (Operation.actsOn_of_target? rfl).exists_put hperform
      exact ⟨rfl, rfl⟩
  | moveBackground dx dy duration zoom =>
      obtain ⟨part, rfl⟩ := (Operation.actsOn_of_target? rfl).exists_put hperform
      exact ⟨rfl, rfl⟩
  | tick now =>
      cases hperform
      refine ⟨?_, rfl⟩
      simp [Operation.shows, Operation.clears, actor?, tick]
  | clear =>
      cases hperform
      simp [Operation.shows, Operation.clears, actor?, isOnStage, clear]

theorem transform?_hideCharacter (stage : Stage) (name : String) :
    (stage.hideCharacter name).2.transform? name =
      (stage.transform? name).map Transform.still := by
  rw [hideCharacter_eq_put, transform?, actor?_put, transform?, Option.map_map, Option.map_map]
  rfl

theorem transform?_perform_of_still {name : String} {transform : Transform}
    (hstirs : operation.stirs name = false) (htransform : stage.transform? name = some transform)
    (hstill : transform.tween = none) (hperform : stage.perform operation = .ok (answer, next)) :
    next.transform? name = some transform := by
  have hkept : ∀ target, operation.target? = some target → target ≠ .character name →
      next.transform? name = some transform := by
    intro target htarget hne
    obtain ⟨part, rfl⟩ := (Operation.actsOn_of_target? htarget).exists_put hperform
    exact (untouched_put stage part hne.symm).standing.trans htransform
  cases operation with
  | showCharacter identity x y => exact hkept _ rfl (by simpa [Operation.stirs] using hstirs)
  | hideCharacter other =>
      -- Whoever is hidden again has no tween to lose.
      by_cases hname : other = name
      · cases hperform
        have hsame : transform.still = transform := by
          cases transform
          cases hstill
          rfl
        rw [hname, transform?_hideCharacter, htransform, Option.map_some, hsame]
      · exact hkept _ rfl (by simpa using hname)
  | moveCharacter other x y duration zoom =>
      exact hkept _ rfl (by simpa [Operation.stirs] using hstirs)
  | startTween target position duration zoom =>
      exact hkept _ rfl (by simpa [Operation.stirs] using hstirs)
  | showBackground _ x y zoom => exact hkept .background rfl (by simp)
  | moveBackground dx dy duration zoom => exact hkept .background rfl (by simp)
  | tick now =>
      cases hperform
      have hsample : transform.sample now = transform := by
        simp [Transform.sample, hstill]
      have htick := stage.standing?_tick now (.character name)
      simp only [standing?] at htick
      rw [htick, htransform, Option.map_some, hsample]
  | clear => cases hstirs

end Step

section Run

variable {config : Config} {stage next : Stage} {history operations : List Operation}
  {deeds : List Deed}

/-- The history tells who was shown and who is on stage. -/
structure Recalls (config : Config) (history : List Operation) (stage : Stage) : Prop where
  framing : stage.framing = .ofConfig config
  shown : ∀ name, (stage.actor? name).isSome = true ↔ WasShown name history
  onStage : ∀ name, stage.isOnStage name = true ↔ LastShown name history

theorem recalls_ofConfig (config : Config) : Recalls config [] (.ofConfig config) where
  framing := rfl
  shown := by
    intro name
    simp [ofConfig, actor?, WasShown, not_since_nil]
  onStage := by
    intro name
    simp [ofConfig, isOnStage, LastShown, not_since_nil]

theorem Recalls.perform (h : Recalls config history stage) {operation : Operation}
    {answer : Answer} (hperform : stage.perform operation = .ok (answer, next)) :
    Recalls config (history ++ [operation]) next where
  framing := (rebinds_perform hperform).1.trans h.framing
  shown := by
    intro name
    rw [(attendance_perform hperform name).1, WasShown, since_concat, ← WasShown, ← h.shown]
    simp
  onStage := by
    intro name
    rw [(attendance_perform hperform name).2, LastShown, since_concat, ← LastShown, ← h.onStage]
    simp

theorem recalls_of_run (hrun : run perform (.ofConfig config) operations = .ok (deeds, stage)) :
    Recalls config operations stage := by
  rw [← Run.map_operation_run hrun]
  refine Run.run_induction (motive := fun past stage =>
    Recalls config (past.map Deed.operation) stage) (recalls_ofConfig config) ?_ hrun
  intro past stage operation answer next h hstep
  rw [List.map_append]
  exact h.perform hstep

theorem transform?_run_of_still {name : String} {transform : Transform}
    (hstirs : ∀ operation ∈ operations, operation.stirs name = false)
    (htransform : stage.transform? name = some transform) (hstill : transform.tween = none)
    (hrun : run perform stage operations = .ok (deeds, next)) :
    next.transform? name = some transform := by
  induction operations generalizing stage deeds with
  | nil =>
      obtain ⟨-, rfl⟩ := Run.run_nil_eq_ok hrun
      exact htransform
  | cons operation operations ih =>
      obtain ⟨answer, moved, rest, hstep, hrest, -⟩ := Run.run_cons_eq_ok hrun
      have hfirst := hstirs operation List.mem_cons_self
      refine ih (fun other hother => hstirs other (List.mem_cons_of_mem _ hother)) ?_ hrest
      exact transform?_perform_of_still hfirst htransform hstill hstep

/-- After any run, whoever was shown since the stage was last cleared has a transform, and whoever
was shown last rather than hidden is on stage; hiding, moving and tweening answer whether the
character was shown. Showing leaves the zoom as it is and centers the sprite on the point, hiding
leaves the whole transform as it is, and neither leaves a tween. A hidden character is not touched
by time or by what is done with others. -/
theorem attendance_follows_history (config : Config) {operations : List Operation}
    {deeds : List Deed} {stage : Stage}
    (hrun : run perform (.ofConfig config) operations = .ok (deeds, stage)) :
    (∀ name, (∃ transform, stage.transform? name = some transform) ↔ WasShown name operations) ∧
    (∀ name, stage.isOnStage name = true ↔ LastShown name operations) ∧
    (∀ name, ((stage.hideCharacter name).1 = true ↔ WasShown name operations) ∧
      (∀ x y duration zoom, ∃ found next,
        stage.moveCharacter name x y duration zoom = .ok (found, next) ∧
          (found = true ↔ WasShown name operations)) ∧
      ∀ position duration zoom, ∃ found next,
        stage.startTween (.character name) position duration zoom = .ok (found, next) ∧
          (found = true ↔ WasShown name operations)) ∧
    (∀ identity x y, ∃ transform,
      (stage.showCharacter identity x y).transform? identity.name = some transform ∧
      transform.zoom = ((stage.transform? identity.name).map Transform.zoom).getD 1 ∧
      transform.tween = none ∧ transform.position =
        (Framing.ofConfig config).place identity.spriteExtent transform.zoom x y) ∧
    ∀ name transform, stage.transform? name = some transform →
      (stage.hideCharacter name).2.transform? name = some { transform with tween := none } ∧
      ∀ later laterDeeds final, (∀ operation ∈ later, operation.stirs name = false) →
        run perform (stage.hideCharacter name).2 later = .ok (laterDeeds, final) →
        final.transform? name = some { transform with tween := none } := by
  have hrecalls := recalls_of_run hrun
  refine ⟨?_, hrecalls.onStage, ?_, ?_, ?_⟩
  · intro name
    rw [← hrecalls.shown, ← Option.isSome_iff_exists, transform?, Option.isSome_map]
  · intro name
    refine ⟨?_, fun x y duration zoom => ?_, fun position duration zoom => ?_⟩
    · rw [hideCharacter_eq_put]
      exact hrecalls.shown name
    · exact ⟨_, _, stage.moveCharacter_eq_put name x y duration zoom, hrecalls.shown name⟩
    · exact ⟨_, _, stage.startTween_character_eq_put name position duration zoom,
        hrecalls.shown name⟩
  · intro identity x y
    rw [showCharacter_eq_put _ _ _ _ _ rfl, transform?, actor?_put]
    refine ⟨_, rfl, ?_, rfl, ?_⟩
    · cases htransform : stage.transform? identity.name <;> rfl
    · rw [← hrecalls.framing]
      rfl
  · intro name transform htransform
    have hhidden : (stage.hideCharacter name).2.transform? name =
        some { transform with tween := none } := by
      rw [transform?_hideCharacter, htransform]
      rfl
    refine ⟨hhidden, fun later laterDeeds final hstirs hlater => ?_⟩
    exact transform?_run_of_still hstirs hhidden rfl hlater

/-- A character walks off, and the stage fills with others. -/
def exitRun : List Operation := [
  .showCharacter { name := "Ren", spriteExtent := ⟨380, 880⟩ } 0.5 0.5, .clear,
  .showCharacter { name := "Aoi", spriteExtent := ⟨400, 900⟩ } 0.5 0.5,
  .moveCharacter "Aoi" 0.2 0.5 1000 2, .tick 300]

def afterExit : List Operation := [
  .tick 600, .showBackground "park" 0.5 0.5 1.5, .hideCharacter "Aoi", .moveCharacter "Ren" 0 0 9 1,
  .showCharacter { name := "Ren", spriteExtent := ⟨380, 880⟩ } 0.7 0.5, .tick 2000]

theorem exitRun_attendance_follows_history : ∃ deeds stage transform laterDeeds final,
    run perform (.ofConfig .standard) exitRun = .ok (deeds, stage) ∧
    stage.isOnStage "Aoi" = true ∧ (stage.hideCharacter "Aoi").1 = true ∧
    stage.transform? "Aoi" = some transform ∧ transform.isTweening = true ∧
    (∀ operation ∈ afterExit, operation.stirs "Aoi" = false) ∧
    run perform (stage.hideCharacter "Aoi").2 afterExit = .ok (laterDeeds, final) ∧
    final.transform? "Aoi" = some { transform with tween := none } := by
  have hend : (run perform (.ofConfig .standard) exitRun).toOption.map (fun result =>
      ((result.2.transform? "Aoi").map (·.isTweening),
        (run perform (result.2.hideCharacter "Aoi").2 afterExit).toOption.map fun _ => ())) =
      some (some true, some ()) := by decide +kernel
  obtain ⟨⟨deeds, stage⟩, hrun, hend⟩ := exists_of_toOption_map_eq_some hend
  obtain ⟨htransform, hlater⟩ := Prod.mk.inj hend
  obtain ⟨transform, htransform, htween⟩ := Option.map_eq_some_iff.mp htransform
  obtain ⟨⟨laterDeeds, final⟩, hlater, -⟩ := exists_of_toOption_map_eq_some hlater
  obtain ⟨-, honStage, hanswers, -, hhidden⟩ := attendance_follows_history .standard hrun
  have hstirs : ∀ operation ∈ afterExit, operation.stirs "Aoi" = false := by decide
  refine ⟨deeds, stage, transform, laterDeeds, final, hrun, ?_, ?_, htransform, htween, hstirs,
    hlater, (hhidden "Aoi" transform htransform).2 afterExit laterDeeds final hstirs hlater⟩
  · exact (honStage "Aoi").mpr ⟨exitRun.take 2, _, _, rfl, by decide, by decide⟩
  · exact (hanswers "Aoi").1.mpr ⟨exitRun.take 2, _, _, rfl, by decide, by decide⟩

end Run

end VisualNovel.Stage
