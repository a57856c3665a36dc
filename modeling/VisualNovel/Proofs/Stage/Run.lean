import VisualNovel.Proofs.Run
import VisualNovel.Stage

namespace VisualNovel

namespace Stage

inductive Operation
  | showCharacter (identity : Identity) (x y : Float)
  | hideCharacter (name : String)
  | moveCharacter (name : String) (x y : Float) (duration : UInt64) (zoom : Float)
  | startTween (target : Target) (position : Point) (duration : UInt64) (zoom : Float)
  | showBackground (name : String) (x y zoom : Float)
  | moveBackground (dx dy : Float) (duration : UInt64) (zoom : Float)
  | tick (now : UInt64)
  | clear
deriving DecidableEq, Repr

inductive Answer
  | done
  | found (found : Bool)
deriving DecidableEq, Repr

def perform (stage : Stage) : Operation → Except StageError (Answer × Stage)
  | .showCharacter identity x y => .ok (.done, stage.showCharacter identity x y)
  | .hideCharacter name => .ok (.found (stage.hideCharacter name).1, (stage.hideCharacter name).2)
  | .moveCharacter name x y duration zoom =>
      (stage.moveCharacter name x y duration zoom).map (Prod.map .found id)
  | .startTween target position duration zoom =>
      (stage.startTween target position duration zoom).map (Prod.map .found id)
  | .showBackground name x y zoom => (stage.showBackground name x y zoom).map fun next =>
      (.done, next)
  | .moveBackground dx dy duration zoom =>
      (stage.moveBackground dx dy duration zoom).map (Prod.map .found id)
  | .tick now => .ok (.done, stage.tick now)
  | .clear => .ok (.done, stage.clear)

abbrev Deed := VisualNovel.Deed Stage Operation Answer

section Operations

variable {stage next : Stage} {found : Bool}

theorem getElem?_insert_cases {actors : Std.ExtTreeMap String Actor} {name other : String}
    {actor result : Actor} (h : (actors.insert name actor)[other]? = some result) :
    (other = name ∧ result = actor) ∨ actors[other]? = some result := by
  rw [Std.ExtTreeMap.getElem?_insert] at h
  split at h
  · rename_i hname
    exact .inl ⟨(Std.LawfulEqCmp.eq_of_compare hname).symm, (Option.some.inj h).symm⟩
  · exact .inr h

/-- A tween starts where its target stands, towards a zoom in range; a background's leads to an
offset that was clamped at that zoom. Nothing happens to a character who was never shown. -/
theorem startTween_cases {target : Target} {position : Point} {duration : UInt64} {zoom : Float}
    (h : stage.startTween target position duration zoom = .ok (found, next)) :
    (∃ offset, stage.framing.clampPan position (clampZoom zoom) = .ok offset ∧ next = { stage with
      background := stage.background.retarget offset (clampZoom zoom) stage.clock duration }) ∨
    next = stage ∨
    ∃ name actor, stage.actor? name = some actor ∧ next = { stage with
      actors := stage.actors.insert name { actor with
        transform :=
          actor.transform.retarget position (clampZoom zoom) stage.clock duration } } := by
  cases target with
  | background =>
      obtain ⟨offset, hclamp, h⟩ := exists_of_bind_eq_ok h
      cases h
      exact .inl ⟨offset, hclamp, rfl⟩
  | character name =>
      simp only [startTween] at h
      split at h
      · cases h
        exact .inr (.inl rfl)
      · rename_i actor hactor
        cases h
        exact .inr (.inr ⟨name, actor, hactor, rfl⟩)

theorem exists_moveCharacter_eq_startTween (stage : Stage) (name : String) (x y : Float)
    (duration : UInt64) (zoom : Float) : ∃ position,
      stage.moveCharacter name x y duration zoom =
        stage.startTween (.character name) position duration (clampZoom zoom) := by
  cases hactor : stage.actor? name with
  | none => exact ⟨.origin, by simp [moveCharacter, startTween, hactor]⟩
  | some actor =>
      exact ⟨stage.framing.place actor.extent (clampZoom zoom) x y,
        by simp [moveCharacter, hactor]⟩

theorem showBackground_cases {name : String} {x y zoom : Float}
    (h : stage.showBackground name x y zoom = .ok next) : ∃ offset position,
      stage.framing.clampPan offset (clampZoom zoom) = .ok position ∧ next = { stage with
        background := { position, zoom := clampZoom zoom }
        backgroundName := some name } := by
  obtain ⟨position, hclamp, h⟩ := exists_of_bind_eq_ok h
  cases h
  exact ⟨_, position, hclamp, rfl⟩

theorem clock_of_perform {operation : Operation} (htick : ∀ now, operation ≠ .tick now)
    {answer : Answer} (hperform : stage.perform operation = .ok (answer, next)) :
    next.clock = stage.clock := by
  have hstart {target : Target} {position : Point} {duration : UInt64} {zoom : Float}
      {result : Bool × Stage} (h : stage.startTween target position duration zoom = .ok result) :
      result.2.clock = stage.clock := by
    rcases startTween_cases h with ⟨offset, -, hnext⟩ | hnext | ⟨name, actor, -, hnext⟩ <;>
      rw [hnext]
  cases operation with
  | showCharacter | clear =>
      cases hperform
      rfl
  | hideCharacter name =>
      cases hperform
      rw [hideCharacter]
      split <;> rfl
  | moveCharacter name x y duration zoom =>
      obtain ⟨result, hmove, hperform⟩ := exists_of_map_eq_ok hperform
      cases hperform
      obtain ⟨position, heq⟩ := stage.exists_moveCharacter_eq_startTween name x y duration zoom
      exact hstart (heq.symm.trans hmove)
  | startTween target position duration zoom =>
      obtain ⟨result, hresult, hperform⟩ := exists_of_map_eq_ok hperform
      cases hperform
      exact hstart hresult
  | showBackground name x y zoom =>
      obtain ⟨result, hshow, hperform⟩ := exists_of_map_eq_ok hperform
      cases hperform
      obtain ⟨offset, position, -, rfl⟩ := showBackground_cases hshow
      rfl
  | moveBackground dx dy duration zoom =>
      obtain ⟨result, hmove, hperform⟩ := exists_of_map_eq_ok hperform
      cases hperform
      have hresult : stage.startTween .background _ duration zoom = .ok result := hmove
      exact hstart hresult
  | tick now => exact absurd rfl (htick now)

end Operations

end Stage

/-- What a change of a transform keeps, whichever change it is. -/
structure Transform.Invariant (holds : Transform → Prop) : Prop where
  start : holds {}
  framed : ∀ position zoom, holds { position, zoom := clampZoom zoom }
  settleAt : ∀ transform position, holds transform → holds (transform.settleAt position)
  retarget : ∀ transform position zoom now duration, holds transform →
    holds (transform.retarget position (clampZoom zoom) now duration)
  sample : ∀ transform now, holds transform → holds (transform.sample now)

/-- What every change of a transform but a sample keeps while the clock stands still. -/
structure Transform.InvariantAt (clock : UInt64) (holds : Transform → Prop) : Prop where
  start : holds {}
  framed : ∀ position zoom, holds { position, zoom := clampZoom zoom }
  settleAt : ∀ transform position, holds transform → holds (transform.settleAt position)
  retarget : ∀ transform position zoom duration, holds transform →
    holds (transform.retarget position (clampZoom zoom) clock duration)

theorem Transform.Invariant.atClock {holds : Transform → Prop} (hinv : Transform.Invariant holds)
    (clock : UInt64) : Transform.InvariantAt clock holds where
  start := hinv.start
  framed := hinv.framed
  settleAt := hinv.settleAt
  retarget := fun transform position zoom duration =>
    hinv.retarget transform position zoom clock duration

namespace Stage

/-- Something holds of the background and of everyone who was ever shown. -/
structure Everywhere (holds : Transform → Prop) (stage : Stage) : Prop where
  background : holds stage.background
  actors : ∀ name actor, stage.actor? name = some actor → holds actor.transform

section Everywhere

variable {holds : Transform → Prop} {stage next : Stage}

theorem Everywhere.transform (h : stage.Everywhere holds) {name : String} {transform : Transform}
    (htransform : stage.transform? name = some transform) : holds transform := by
  obtain ⟨actor, hactor, rfl⟩ := Option.map_eq_some_iff.mp htransform
  exact h.actors name actor hactor

theorem Everywhere.insert (h : stage.Everywhere holds) (name : String) (actor : Actor)
    (hactor : holds actor.transform) :
    Everywhere holds { stage with actors := stage.actors.insert name actor } where
  background := h.background
  actors := by
    intro other result hresult
    rcases getElem?_insert_cases hresult with ⟨-, rfl⟩ | hother
    · exact hactor
    · exact h.actors other result hother

theorem everywhere_ofConfig (hstart : holds {}) (config : Config) :
    (ofConfig config).Everywhere holds where
  background := hstart
  actors := by
    intro name actor hactor
    simp [ofConfig, actor?] at hactor

theorem Everywhere.clear (hstart : holds {}) (stage : Stage) :
    stage.clear.Everywhere holds where
  background := hstart
  actors := by
    intro name actor hactor
    simp [Stage.clear, actor?] at hactor

theorem Everywhere.tick {later : Transform → Prop} {now : UInt64}
    (hsample : ∀ transform, holds transform → later (transform.sample now))
    (h : stage.Everywhere holds) : (stage.tick now).Everywhere later where
  background := hsample _ h.background
  actors := by
    intro name actor hactor
    simp only [Stage.tick, actor?, Std.ExtTreeMap.getElem?_map, Option.map_eq_some_iff] at hactor
    obtain ⟨before, hbefore, rfl⟩ := hactor
    exact hsample _ (h.actors name before hbefore)

section AtClock

variable (hinv : Transform.InvariantAt stage.clock holds)
include hinv

theorem Everywhere.showCharacter (h : stage.Everywhere holds)
    (identity : Identity) (x y : Float) : (stage.showCharacter identity x y).Everywhere holds := by
  have hbefore : holds ((stage.transform? identity.name).getD {}) := by
    cases htransform : stage.transform? identity.name with
    | none => exact hinv.start
    | some transform => exact h.transform htransform
  have hinsert := h.insert identity.name ⟨_, identity.spriteExtent⟩
    (hinv.settleAt _ (stage.framing.place identity.spriteExtent
      ((stage.transform? identity.name).getD {}).zoom x y) hbefore)
  exact ⟨hinsert.background, hinsert.actors⟩

theorem Everywhere.hideCharacter (h : stage.Everywhere holds)
    (name : String) : (stage.hideCharacter name).2.Everywhere holds := by
  rw [Stage.hideCharacter]
  split
  · exact ⟨h.background, h.actors⟩
  · rename_i actor hactor
    -- Standing still is settling where one is.
    have hinsert := h.insert name { actor with transform := actor.transform.still }
      (hinv.settleAt actor.transform actor.transform.position (h.actors name actor hactor))
    exact ⟨hinsert.background, hinsert.actors⟩

theorem Everywhere.startTween (h : stage.Everywhere holds)
    {target : Target} {position : Point} {duration : UInt64} {zoom : Float} {found : Bool}
    (hstart : stage.startTween target position duration zoom = .ok (found, next)) :
    next.Everywhere holds := by
  rcases startTween_cases hstart with ⟨offset, -, rfl⟩ | rfl | ⟨name, actor, hactor, rfl⟩
  · exact ⟨hinv.retarget _ _ _ _ h.background, h.actors⟩
  · exact h
  · exact h.insert name _ (hinv.retarget _ _ _ _ (h.actors name actor hactor))

theorem Everywhere.performAt (h : stage.Everywhere holds) {operation : Operation}
    (htick : ∀ now, operation ≠ .tick now) {answer : Answer}
    (hperform : stage.perform operation = .ok (answer, next)) : next.Everywhere holds := by
  cases operation with
  | showCharacter identity x y =>
      cases hperform
      exact h.showCharacter hinv identity x y
  | hideCharacter name =>
      cases hperform
      exact h.hideCharacter hinv name
  | moveCharacter name x y duration zoom =>
      obtain ⟨⟨found, result⟩, hmove, hperform⟩ := exists_of_map_eq_ok hperform
      cases hperform
      obtain ⟨position, heq⟩ := stage.exists_moveCharacter_eq_startTween name x y duration zoom
      exact h.startTween hinv (heq.symm.trans hmove)
  | startTween target position duration zoom =>
      obtain ⟨⟨found, result⟩, hstart, hperform⟩ := exists_of_map_eq_ok hperform
      cases hperform
      exact h.startTween hinv hstart
  | showBackground name x y zoom =>
      obtain ⟨result, hshow, hperform⟩ := exists_of_map_eq_ok hperform
      cases hperform
      obtain ⟨offset, position, -, rfl⟩ := showBackground_cases hshow
      exact ⟨hinv.framed position zoom, h.actors⟩
  | moveBackground dx dy duration zoom =>
      obtain ⟨⟨found, result⟩, hmove, hperform⟩ := exists_of_map_eq_ok hperform
      cases hperform
      have hstart : stage.startTween .background _ duration zoom = .ok (found, result) := hmove
      exact h.startTween hinv hstart
  | tick now => exact absurd rfl (htick now)
  | clear =>
      cases hperform
      exact .clear hinv.start stage

end AtClock

theorem Everywhere.perform (hinv : Transform.Invariant holds) (h : stage.Everywhere holds)
    {operation : Operation} {answer : Answer}
    (hperform : stage.perform operation = .ok (answer, next)) : next.Everywhere holds := by
  by_cases htick : ∃ now, operation = .tick now
  · obtain ⟨now, rfl⟩ := htick
    cases hperform
    exact h.tick fun transform => hinv.sample transform now
  · exact h.performAt (hinv.atClock _) (not_exists.mp htick) hperform

/-- What every change of a transform keeps holds everywhere on a stage after any run. -/
theorem everywhere_of_run (hinv : Transform.Invariant holds) (config : Config)
    {operations : List Operation} {deeds : List Deed}
    (hrun : run perform (.ofConfig config) operations = .ok (deeds, stage)) :
    stage.Everywhere holds :=
  Run.run_induction (motive := fun _ stage => stage.Everywhere holds)
    (everywhere_ofConfig hinv.start config)
    (fun _ _ _ _ _ h hstep => h.perform hinv hstep) hrun

end Everywhere

end Stage

end VisualNovel
