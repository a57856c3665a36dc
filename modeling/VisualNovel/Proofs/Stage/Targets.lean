import VisualNovel.Proofs.Stage.Arrival
import VisualNovel.Proofs.Stage.Run

/-!
The parts of a stage, one for each target. An operation with a target reads and changes the part of
that target only, so operations on different targets may be performed in either order.
-/

namespace VisualNovel

/-- What a target consists of: the entry of a character and whether the character is on stage, or
the background with its name. -/
abbrev Target.Part : Target → Type
  | .character _ => Option Actor × Bool
  | .background => Transform × Option String

def Actor.change (actor : Actor) (f : Transform → Transform) : Actor :=
  { actor with transform := f actor.transform }

namespace Stage

def part (stage : Stage) : (target : Target) → target.Part
  | .character name => (stage.actor? name, stage.isOnStage name)
  | .background => (stage.background, stage.backgroundName)

def put (stage : Stage) : (target : Target) → target.Part → Stage
  | .character name, (actor, onStage) =>
      { stage with
        actors := stage.actors.alter name fun _ => actor
        onStage := bif onStage then stage.onStage.insert name else stage.onStage.erase name }
  | .background, (background, backgroundName) => { stage with background, backgroundName }

/-- A stage is its framing, its clock and its parts. -/
theorem ext_part {first second : Stage} (hframing : first.framing = second.framing)
    (hclock : first.clock = second.clock)
    (hpart : ∀ target, first.part target = second.part target) : first = second := by
  have hactors : first.actors = second.actors := by
    apply Std.ExtTreeMap.ext_getElem?
    intro name
    exact congrArg Prod.fst (hpart (.character name))
  have honStage : first.onStage = second.onStage := by
    apply Std.ExtTreeSet.ext_contains
    intro name
    exact congrArg Prod.snd (hpart (.character name))
  obtain ⟨hbackground, hname⟩ := Prod.mk.inj (hpart .background)
  cases first
  cases second
  simp_all

section Put

variable (stage : Stage) {target other : Target} (part : target.Part)

@[simp] theorem framing_put : (stage.put target part).framing = stage.framing := by
  cases target <;> rfl

@[simp] theorem clock_put : (stage.put target part).clock = stage.clock := by
  cases target <;> rfl

@[simp] theorem part_put : (stage.put target part).part target = part := by
  cases target with
  | character name =>
      obtain ⟨actor, onStage⟩ := part
      refine Prod.ext ?_ ?_
      · simp [Stage.part, put, actor?]
      · cases onStage <;> simp [Stage.part, put, isOnStage]
  | background => rfl

theorem part_put_of_ne (hne : other ≠ target) :
    (stage.put target part).part other = stage.part other := by
  cases target with
  | background =>
      cases other with
      | character name => rfl
      | background => exact absurd rfl hne
  | character name =>
      cases other with
      | background => rfl
      | character second =>
          have hname : name ≠ second := fun h => hne (h ▸ rfl)
          obtain ⟨actor, onStage⟩ := part
          refine Prod.ext ?_ ?_
          · simp [Stage.part, put, actor?, Std.ExtTreeMap.getElem?_alter, hname]
          · cases onStage <;>
              simp [Stage.part, put, isOnStage, hname, Std.ExtTreeSet.contains_insert,
                Std.ExtTreeSet.contains_erase]

theorem put_part_comm (hne : other ≠ target) (otherPart : other.Part) :
    (stage.put target part).put other otherPart = (stage.put other otherPart).put target part := by
  apply ext_part
  · simp
  · simp
  · intro third
    by_cases htarget : third = target
    · subst htarget
      rw [part_put, part_put_of_ne _ _ hne.symm, part_put]
    · by_cases hother : third = other
      · subst hother
        rw [part_put, part_put_of_ne _ _ hne, part_put]
      · -- Neither puts anything into a third part.
        simp only [part_put_of_ne, htarget, hother, ne_eq, not_false_eq_true]

end Put

section Operations

variable (stage : Stage) (name : String) (x y : Float)

theorem put_part (target : Target) : stage.put target (stage.part target) = stage := by
  apply ext_part
  · simp
  · simp
  · intro other
    by_cases hsame : other = target
    · subst hsame
      exact stage.part_put _
    · exact stage.part_put_of_ne _ hsame

theorem put_put {target : Target} (first second : target.Part) :
    (stage.put target first).put target second = stage.put target second := by
  apply ext_part
  · simp
  · simp
  · intro other
    by_cases hsame : other = target
    · subst hsame
      simp only [part_put]
    · simp only [part_put_of_ne _ _ hsame]

theorem insert_eq_put (actor : Actor) :
    { stage with actors := stage.actors.insert name actor } =
      stage.put (.character name) (some actor, stage.isOnStage name) := by
  have hactors : stage.actors.insert name actor = stage.actors.alter name fun _ => actor := by
    apply Std.ExtTreeMap.ext_getElem?
    intro other
    simp only [Std.ExtTreeMap.getElem?_insert, Std.ExtTreeMap.getElem?_alter]
  have hkept := congrArg Stage.onStage (stage.put_part (.character name))
  simp only [put, part] at hkept ⊢
  rw [hactors, hkept]

theorem onStage_eq_put (onStage : Bool) :
    { stage with onStage :=
        bif onStage then stage.onStage.insert name else stage.onStage.erase name } =
      stage.put (.character name) (stage.actor? name, onStage) := by
  have hkept := congrArg Stage.actors (stage.put_part (.character name))
  simp only [put, part] at hkept ⊢
  rw [hkept]

theorem actor?_put (actor : Option Actor) (onStage : Bool) :
    (stage.put (.character name) (actor, onStage)).actor? name = actor :=
  congrArg Prod.fst (@part_put stage (.character name) (actor, onStage))

theorem isOnStage_put (actor : Option Actor) (onStage : Bool) :
    (stage.put (.character name) (actor, onStage)).isOnStage name = onStage :=
  congrArg Prod.snd (@part_put stage (.character name) (actor, onStage))

theorem showCharacter_eq_put (identity : Identity) (transform : Transform)
    (htransform : (stage.transform? identity.name).getD {} = transform) :
    stage.showCharacter identity x y = stage.put (.character identity.name)
      (some ⟨transform.settleAt (stage.framing.place identity.spriteExtent transform.zoom x y),
        identity.spriteExtent⟩, true) := by
  have hshown := stage.onStage_eq_put identity.name true
  have hinsert := (stage.put (.character identity.name)
    (stage.actor? identity.name, true)).insert_eq_put identity.name
      ⟨transform.settleAt (stage.framing.place identity.spriteExtent transform.zoom x y),
        identity.spriteExtent⟩
  rw [isOnStage_put, put_put, ← hshown] at hinsert
  rw [showCharacter, htransform]
  exact hinsert

theorem hideCharacter_eq_put :
    stage.hideCharacter name = ((stage.actor? name).isSome, stage.put (.character name)
      ((stage.actor? name).map (·.change Transform.still), false)) := by
  have herased : { stage with onStage := stage.onStage.erase name } =
      stage.put (.character name) (stage.actor? name, false) :=
    stage.onStage_eq_put name false
  simp only [hideCharacter, herased, actor?_put]
  -- Both edits are of one part, and the second puts back what the first one put there.
  cases hactor : stage.actor? name with
  | none => rfl
  | some actor =>
      have hinsert := (stage.put (.character name) (some actor, false)).insert_eq_put name
        (actor.change Transform.still)
      rw [isOnStage_put, put_put, ← hactor, ← herased] at hinsert
      exact congrArg (fun next => (true, next)) hinsert

theorem startTween_character_eq_put (position : Point) (duration : UInt64) (zoom : Float) :
    stage.startTween (.character name) position duration zoom =
      .ok ((stage.actor? name).isSome, stage.put (.character name)
        ((stage.actor? name).map
          (·.change (·.retarget position (clampZoom zoom) stage.clock duration)),
        stage.isOnStage name)) := by
  simp only [startTween]
  cases hactor : stage.actor? name with
  | none =>
      have hkept := stage.put_part (.character name)
      rw [part, hactor] at hkept
      exact congrArg (fun next => Except.ok (false, next)) hkept.symm
  | some actor =>
      simp only [insert_eq_put, Option.isSome_some, Option.map_some, Actor.change]
      rfl

theorem moveCharacter_eq_put (duration : UInt64) (zoom : Float) :
    stage.moveCharacter name x y duration zoom =
      .ok ((stage.actor? name).isSome, stage.put (.character name)
        ((stage.actor? name).map fun actor =>
          actor.change (·.retarget (stage.framing.place actor.extent (clampZoom zoom) x y)
            (clampZoom (clampZoom zoom)) stage.clock duration),
        stage.isOnStage name)) := by
  rw [moveCharacter]
  cases hactor : stage.actor? name with
  | none =>
      have hkept := stage.put_part (.character name)
      rw [part, hactor] at hkept
      exact congrArg (fun next => Except.ok (false, next)) hkept.symm
  | some actor =>
      simp only [startTween_character_eq_put, hactor, Option.isSome_some, Option.map_some]

theorem startTween_background_eq_put (position : Point) (duration : UInt64) (zoom : Float) :
    stage.startTween .background position duration zoom =
      (stage.framing.clampPan position (clampZoom zoom)).map fun offset =>
        (true, stage.put .background
          (stage.background.retarget offset (clampZoom zoom) stage.clock duration,
            stage.backgroundName)) := by
  simp only [startTween]
  cases stage.framing.clampPan position (clampZoom zoom) <;> rfl

theorem showBackground_eq_put (zoom : Float) :
    stage.showBackground name x y zoom =
      (stage.framing.clampPan ⟨(x - 0.5) * stage.framing.viewport.x,
        (y - 0.5) * stage.framing.viewport.y⟩ (clampZoom zoom)).map fun position =>
          stage.put .background ({ position, zoom := clampZoom zoom }, some name) := by
  simp only [showBackground]
  cases stage.framing.clampPan ⟨(x - 0.5) * stage.framing.viewport.x,
    (y - 0.5) * stage.framing.viewport.y⟩ (clampZoom zoom) <;> rfl

end Operations

/-- What an operation is about; time passes for all, and all is cleared. -/
def Operation.target? : Operation → Option Target
  | .showCharacter identity _ _ => some (.character identity.name)
  | .hideCharacter name => some (.character name)
  | .moveCharacter name _ _ _ _ => some (.character name)
  | .startTween target _ _ _ => some target
  | .showBackground _ _ _ _ | .moveBackground _ _ _ _ => some .background
  | .tick _ | .clear => none

/-- The operation edits the part of its target, and what comes of it depends on that part, the
framing and the clock. -/
def Operation.ActsOn (operation : Operation) (target : Target) : Prop :=
  ∃ edit : Framing → UInt64 → target.Part → Except StageError (Answer × target.Part),
    ∀ stage : Stage, stage.perform operation =
      (edit stage.framing stage.clock (stage.part target)).map fun (answer, part) =>
        (answer, stage.put target part)

theorem Operation.actsOn_of_target? {operation : Operation} {target : Target}
    (h : operation.target? = some target) : operation.ActsOn target := by
  cases operation with
  | showCharacter identity x y =>
      cases h
      refine ⟨fun framing _ (actor, _) =>
        let transform := (actor.map Actor.transform).getD {}
        .ok (.done, some ⟨transform.settleAt (framing.place identity.spriteExtent transform.zoom
          x y), identity.spriteExtent⟩, true), fun stage => ?_⟩
      rw [perform, stage.showCharacter_eq_put x y identity _ rfl]
      rfl
  | hideCharacter name =>
      cases h
      refine ⟨fun _ _ (actor, _) =>
        .ok (.found actor.isSome, actor.map (·.change Transform.still), false), fun stage => ?_⟩
      rw [perform, hideCharacter_eq_put]
      rfl
  | moveCharacter name x y duration zoom =>
      cases h
      refine ⟨fun framing clock (actor, onStage) =>
        .ok (.found actor.isSome, actor.map fun actor => actor.change
          (·.retarget (framing.place actor.extent (clampZoom zoom) x y)
            (clampZoom (clampZoom zoom)) clock duration), onStage), fun stage => ?_⟩
      rw [perform, moveCharacter_eq_put]
      rfl
  | startTween target position duration zoom =>
      cases h
      cases target with
      | character name =>
          refine ⟨fun _ clock (actor, onStage) =>
            .ok (.found actor.isSome, actor.map
              (·.change (·.retarget position (clampZoom zoom) clock duration)), onStage),
            fun stage => ?_⟩
          rw [perform, startTween_character_eq_put]
          rfl
      | background =>
          refine ⟨fun framing clock (background, backgroundName) =>
            (framing.clampPan position (clampZoom zoom)).map fun offset =>
              (.found true, background.retarget offset (clampZoom zoom) clock duration,
                backgroundName), fun stage => ?_⟩
          rw [perform, startTween_background_eq_put, map_then_map, map_then_map]
          rfl
  | showBackground name x y zoom =>
      cases h
      refine ⟨fun framing _ _ =>
        (framing.clampPan ⟨(x - 0.5) * framing.viewport.x, (y - 0.5) * framing.viewport.y⟩
          (clampZoom zoom)).map fun position =>
            (.done, { position, zoom := clampZoom zoom }, some name), fun stage => ?_⟩
      rw [perform, showBackground_eq_put, map_then_map, map_then_map]
      rfl
  | moveBackground dx dy duration zoom =>
      cases h
      refine ⟨fun framing clock (background, backgroundName) =>
        (framing.clampPan ⟨background.position.x + dx * framing.viewport.x,
          background.position.y + dy * framing.viewport.y⟩ (clampZoom zoom)).map fun offset =>
            (.found true, background.retarget offset (clampZoom zoom) clock duration,
              backgroundName), fun stage => ?_⟩
      rw [perform, Stage.moveBackground, startTween_background_eq_put, map_then_map, map_then_map]
      rfl
  | tick now => cases h
  | clear => cases h

section Commuting

variable {stage moved shifted : Stage} {first second : Operation} {target other : Target}
  {answer reply : Answer}

/-- What an operation on another target leaves as it was: where the target stands, its tween,
whether it is on stage, and the clock. -/
structure Untouched (before after : Stage) (target : Target) : Prop where
  standing : after.standing? target = before.standing? target
  onStage : ∀ name, target = .character name → after.isOnStage name = before.isOnStage name
  clock : after.clock = before.clock

theorem untouched_put (stage : Stage) (part : target.Part) (hne : other ≠ target) :
    Untouched stage (stage.put target part) other where
  standing := by
    have hpart := stage.part_put_of_ne part hne
    cases other with
    | character name => exact congrArg (fun part => part.1.map Actor.transform) hpart
    | background => exact congrArg (fun part => some part.1) hpart
  onStage := by
    rintro name rfl
    exact congrArg Prod.snd (stage.part_put_of_ne part hne)
  clock := stage.clock_put part

theorem Operation.ActsOn.exists_put (h : first.ActsOn target)
    (hperform : stage.perform first = .ok (answer, moved)) :
    ∃ part, moved = stage.put target part := by
  obtain ⟨edit, hedit⟩ := h
  rw [hedit] at hperform
  obtain ⟨⟨_, part⟩, -, h⟩ := exists_of_map_eq_ok hperform
  cases h
  exact ⟨part, rfl⟩

theorem Operation.ActsOn.perform_put (h : first.ActsOn target) (hne : target ≠ other)
    (otherPart : other.Part) :
    (stage.put other otherPart).perform first = (stage.perform first).map fun (answer, next) =>
      (answer, next.put other otherPart) := by
  obtain ⟨edit, hedit⟩ := h
  rw [hedit, hedit, map_then_map, framing_put, clock_put, part_put_of_ne _ _ hne]
  congr 1
  funext (answer, part)
  exact congrArg (answer, ·) (stage.put_part_comm otherPart hne part)

/-- Operations on different targets may change places: each is carried out as before, answers as
before and leaves the target of the other alone, and the stage is the same in the end. -/
theorem operations_on_different_targets_commute (hfirst : first.target? = some target)
    (hsecond : second.target? = some other) (hne : target ≠ other)
    (hmoved : stage.perform first = .ok (answer, moved))
    (hshifted : stage.perform second = .ok (reply, shifted)) :
    (∃ final, moved.perform second = .ok (reply, final) ∧
      shifted.perform first = .ok (answer, final)) ∧
    Untouched stage moved other ∧ Untouched stage shifted target := by
  have hacts := Operation.actsOn_of_target? hfirst
  have hreacts := Operation.actsOn_of_target? hsecond
  obtain ⟨part, rfl⟩ := hacts.exists_put hmoved
  obtain ⟨otherPart, rfl⟩ := hreacts.exists_put hshifted
  refine ⟨⟨(stage.put target part).put other otherPart, ?_, ?_⟩, untouched_put stage part hne.symm,
    untouched_put stage otherPart hne⟩
  · rw [hreacts.perform_put hne.symm, hshifted]
    exact congrArg (fun next => Except.ok (reply, next)) (stage.put_part_comm otherPart hne part)
  · rw [hacts.perform_put hne, hmoved]
    rfl

end Commuting

theorem marathon_hides_and_pans_in_any_order : ∃ moved shifted final,
    marathon.perform (.hideCharacter "Aoi") = .ok (.found true, moved) ∧
    marathon.perform (.moveBackground 0.25 0 400 2) = .ok (.found true, shifted) ∧
    Target.character "Aoi" ≠ .background ∧
    moved.perform (.moveBackground 0.25 0 400 2) = .ok (.found true, final) ∧
    shifted.perform (.hideCharacter "Aoi") = .ok (.found true, final) ∧
    moved.standing? .background = some { tween := some endlessPan } ∧
    shifted.standing? (.character "Aoi") = some { tween := some longWalk } := by
  have hhide : (marathon.perform (.hideCharacter "Aoi")).toOption.map Prod.fst =
      some (.found true) := by decide +kernel
  have hpan : (marathon.perform (.moveBackground 0.25 0 400 2)).toOption.map Prod.fst =
      some (.found true) := by decide +kernel
  have hwalk : marathon.standing? (.character "Aoi") = some { tween := some longWalk } := by
    decide +kernel
  obtain ⟨⟨_, moved⟩, hmoved, rfl⟩ := exists_of_toOption_map_eq_some hhide
  obtain ⟨⟨_, shifted⟩, hshifted, rfl⟩ := exists_of_toOption_map_eq_some hpan
  have hne : Target.character "Aoi" ≠ .background := by decide
  obtain ⟨⟨final, hthen, hthere⟩, hbackground, hcharacter⟩ :=
    operations_on_different_targets_commute rfl rfl hne hmoved hshifted
  exact ⟨moved, shifted, final, hmoved, hshifted, hne, hthen, hthere, hbackground.standing,
    hcharacter.standing.trans hwalk⟩

end Stage

end VisualNovel
