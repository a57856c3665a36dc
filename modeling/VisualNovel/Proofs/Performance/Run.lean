import VisualNovel.Proofs.Performance.Commands

namespace VisualNovel.Performance

inductive Operation
  | load (script : Script)
  | advance
  | tick (now : UInt64)
  | drainBacklog
  | setName (identity name : String)
deriving DecidableEq, Repr

inductive Answer
  | done
  | waits (waits : Bool)
  | entries (entries : List BacklogEntry)
deriving DecidableEq, Repr

def perform (p : Performance) : Operation → Except StageError (Answer × Performance)
  | .load script => .ok (.done, p.load script)
  | .advance => p.advance.map fun (waits, p) => (.waits waits, p)
  | .tick now => .ok (.done, p.tick now)
  | .drainBacklog => .ok (.entries p.drainBacklog.1, p.drainBacklog.2)
  | .setName identity name => .ok (.done, p.setName identity name)

abbrev Deed := VisualNovel.Deed Performance Operation Answer

theorem perform_cases {p q : Performance} {operation : Operation} {answer : Answer}
    (h : p.perform operation = .ok (answer, q)) :
    (∃ script, operation = .load script ∧ answer = .done ∧ q = p.load script) ∨
    (∃ waits, operation = .advance ∧ answer = .waits waits ∧ p.advance = .ok (waits, q)) ∨
    (∃ now, operation = .tick now ∧ answer = .done ∧ q = p.tick now) ∨
    (operation = .drainBacklog ∧ answer = .entries p.backlog ∧ q = { p with backlog := [] }) ∨
    (∃ identity name, operation = .setName identity name ∧ answer = .done ∧
      q = p.setName identity name) := by
  cases operation with
  | load script =>
      cases h
      exact .inl ⟨script, rfl, rfl, rfl⟩
  | advance =>
      obtain ⟨⟨waits, r⟩, hadvance, h⟩ := exists_of_map_eq_ok h
      cases h
      exact .inr (.inl ⟨waits, rfl, rfl, hadvance⟩)
  | tick now =>
      cases h
      exact .inr (.inr (.inl ⟨now, rfl, rfl, rfl⟩))
  | drainBacklog =>
      cases h
      exact .inr (.inr (.inr (.inl ⟨rfl, rfl, rfl⟩)))
  | setName identity name =>
      cases h
      exact .inr (.inr (.inr (.inr ⟨identity, name, rfl, rfl, rfl⟩)))

theorem map_perform_advance_congr {Seen : Type} {p q : Performance} {f g : Performance → Seen}
    (h : p.advance.map (Prod.map id f) = q.advance.map (Prod.map id g)) :
    (p.perform .advance).map (Prod.map id f) = (q.perform .advance).map (Prod.map id g) := by
  rcases cases_of_map_eq_map h with
    ⟨failure, hp, hq⟩ | ⟨⟨waits, r⟩, ⟨_, s⟩, hp, hq, hsame⟩
  · simp only [perform, hp, hq]
    rfl
  · obtain ⟨rfl, hseen⟩ := Prod.mk.inj hsame
    simp only [perform, hp, hq]
    exact congrArg (fun seen => Except.ok (Answer.waits waits, seen)) hseen

/-- The same performance with its cursor elsewhere. -/
def moveTo (p : Performance) (cursor : Option Nat) : Performance :=
  { p with cursor }

@[simp] theorem moveTo_cursor (p : Performance) : p.moveTo p.cursor = p := rfl

theorem aside_moveTo (cursor : Option Nat) : Aside (moveTo · cursor) where
  cast := fun _ => rfl
  stage := fun _ => rfl
  setStage := fun _ _ => rfl
  route := fun _ command => by cases command <;> rfl

section Present

variable (p : Performance) (line : Line)

theorem remember_expressions_congr {p q : Performance} {line : Line} (hcast : p.cast = q.cast)
    (hstage : p.stage.isOnStage line.speaker = q.stage.isOnStage line.speaker)
    (hexpressions : p.expressions = q.expressions) :
    (p.remember line).expressions = (q.remember line).expressions := by
  simp only [remember, hstage, hcast, hexpressions]
  split <;> simp [hexpressions]

theorem present_eq : p.present line =
    if p.scrollMode then
      { p with
        expressions := (p.remember line).expressions
        scroll :=
          if p.scroll.isScrolling then (p.scroll.add line.text (some (p.shownName line))).2
          else (p.scroll.start (p.shownName line) line.text).2
        current := none }
    else
      { p with
        expressions := (p.remember line).expressions
        current := some ⟨line.speaker, p.shownName line, line.text⟩ } := by
  by_cases hstage : p.stage.isOnStage line.speaker <;> simp [present, remember, hstage]

@[simp] theorem present_script : (p.present line).script = p.script := by
  rw [present_eq]
  split <;> rfl

@[simp] theorem present_cursor : (p.present line).cursor = p.cursor := by
  rw [present_eq]
  split <;> rfl

@[simp] theorem present_cast : (p.present line).cast = p.cast := by
  rw [present_eq]
  split <;> rfl

@[simp] theorem present_names : (p.present line).names = p.names := by
  rw [present_eq]
  split <;> rfl

@[simp] theorem present_stage : (p.present line).stage = p.stage := by
  rw [present_eq]
  split <;> rfl

@[simp] theorem present_expressions :
    (p.present line).expressions = (p.remember line).expressions := by
  rw [present_eq]
  split <;> rfl

@[simp] theorem present_backlog : (p.present line).backlog = p.backlog := by
  rw [present_eq]
  split <;> rfl

@[simp] theorem present_shownName (other : Line) :
    (p.present line).shownName other = p.shownName other := by
  rw [present_eq]
  split <;> rfl

@[simp] theorem present_scrollMode : (p.present line).scrollMode = p.scrollMode := by
  rw [present_eq]
  split <;> rfl

end Present

section Alike

variable {Seen : Type} {f g : Performance → Seen} {p q : Performance}

/-- Performances that look the same through two views look the same after any line. -/
structure Alike (f g : Performance → Seen) : Prop where
  moveTo : ∀ {p q : Performance} (cursor : Option Nat), f p = g q →
    f (p.moveTo cursor) = g (q.moveTo cursor)
  present : ∀ {p q : Performance} (line : Line), f p = g q → f (p.present line) = g (q.present line)
  execute : ∀ {p q : Performance} (command : Command), f p = g q →
    (p.execute command).map f = (q.execute command).map g

theorem Alike.map_playLines (h : Alike f g) (lines : List Line) (index : Nat) (hsame : f p = g q) :
    (playLines lines index p).map (Prod.map id f) =
      (playLines lines index q).map (Prod.map id g) := by
  induction lines generalizing index p q with
  | nil => simp [playLines, Except.map, hsame]
  | cons line lines ih =>
      have hmove := h.moveTo (some index) hsame
      simp only [playLines]
      cases line.action with
      | dialogue => exact congrArg (fun seen => Except.ok (true, seen)) (h.present line hmove)
      | invalid reason => exact ih (index + 1) hmove
      | command command =>
          rcases cases_of_map_eq_map (h.execute command hmove) with
            ⟨failure, hp, hq⟩ | ⟨r, s, hp, hq, hnext⟩
          · simp only [Performance.moveTo] at hp hq
            simp only [hp, hq]
            rfl
          · simp only [Performance.moveTo] at hp hq
            simp only [hp, hq]
            exact ih (index + 1) hnext

theorem Alike.map_advance (h : Alike f g) (hscript : p.script = q.script)
    (hcursor : p.cursor = q.cursor) (hsame : f p = g q) :
    p.advance.map (Prod.map id f) = q.advance.map (Prod.map id g) := by
  have hnext : p.next = q.next := by
    rw [next, next, hcursor]
  rw [advance, advance, hscript, hnext]
  exact h.map_playLines _ _ hsame

end Alike

end VisualNovel.Performance
