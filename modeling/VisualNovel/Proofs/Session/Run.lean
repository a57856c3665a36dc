import VisualNovel.Proofs.Run
import VisualNovel.Session

namespace VisualNovel.Session

inductive Operation
  | available (moment : Moment) (filter : Filter)
  | begin (id : String) (script : Script)
  | advance
  | tick (now : UInt64)
  | finish (moment : Moment)
  | reload
  | applyProgress (rows : List Progress)
  | setActive (id : String) (active : Bool)
  | complete (id : String)
  | completeAt (id : String) (moment : Moment)
  | drainBacklog
  | setName (identity name : String)
deriving DecidableEq, Repr

inductive Answer
  | done
  | refused (reason : SessionError)
  | events (events : List Event)
  | waits (waits : Bool)
  | finished (result : Except SessionError Bool)
  | changed (changed : Bool)
  | entries (entries : List BacklogEntry)

variable {σ : Type} [ProgressStore σ]

/-- The session with an edit of its table, and what the edit answered. -/
def edit (session : Session σ) (result : Bool × EventTable) : Answer × Session σ :=
  (.changed result.1, { session with table := result.2 })

def perform (session : Session σ) : Operation → Except StageError (Answer × Session σ)
  | .available moment filter => .ok (.events (session.available moment filter), session)
  | .begin id script =>
      match session.begin id script with
      | .error reason => .ok (.refused reason, session)
      | .ok session => .ok (.done, session)
  | .advance => session.advance.map fun (waits, session) => (.waits waits, session)
  | .tick now => .ok (.done, session.tick now)
  | .finish moment => .ok (.finished (session.finish moment).1, (session.finish moment).2)
  | .reload => .ok (.done, session.reload)
  | .applyProgress rows => .ok (.done, { session with table := session.table.applyProgress rows })
  | .setActive id active => .ok (session.edit (session.table.setActive id active))
  | .complete id => .ok (session.edit (session.table.complete id))
  | .completeAt id moment => .ok (session.edit (session.table.completeAt id moment))
  | .drainBacklog =>
      .ok (.entries session.performance.drainBacklog.1,
        { session with performance := session.performance.drainBacklog.2 })
  | .setName identity name =>
      .ok (.done, { session with performance := session.performance.setName identity name })

abbrev Deed (σ : Type) := VisualNovel.Deed (Session σ) Operation Answer

theorem begin_cases (session : Session σ) (id : String) (script : Script) :
    (session.table.find? id = none ∧
      session.perform (.begin id script) = .ok (.refused (.unknownEvent id), session)) ∨
    (∃ event, session.table.find? id = some event ∧
      session.perform (.begin id script) = .ok (.done, { session with
        performance := session.performance.load script
        running := some ⟨id, false⟩ })) := by
  cases hfound : session.table.find? id with
  | none => simp [perform, Session.begin, hfound]
  | some event => simp [perform, Session.begin, hfound]

omit [ProgressStore σ] in
theorem advance_eq_ok {session next : Session σ} {waits : Bool}
    (h : session.advance = .ok (waits, next)) : ∃ performance,
      session.performance.advance = .ok (waits, performance) ∧
      next = { session with performance } := by
  obtain ⟨⟨answer, performance⟩, hadvance, h⟩ := exists_of_bind_eq_ok h
  cases h
  exact ⟨performance, hadvance, rfl⟩

theorem finish_cases (session : Session σ) (moment : Moment) :
    (session.finish moment = (.ok false, session) ∧
      ∀ running, session.running = some running →
        running.completed = true ∨ session.performance.isFinished = false) ∨
    (∃ id saved store,
      session.running = some ⟨id, false⟩ ∧ session.performance.isFinished = true ∧
      ProgressStore.save session.store (session.table.completeAt id moment).2.progress =
        (saved, store) ∧
      session.finish moment = ((saved.mapError SessionError.store).map fun _ => true,
        { session with
          table := (session.table.completeAt id moment).2
          store
          running := some ⟨id, true⟩ })) := by
  cases hrunning : session.running with
  | none =>
      left
      simp [finish, hrunning]
  | some running =>
      obtain ⟨id, completed⟩ := running
      by_cases hdone : completed || !session.performance.isFinished
      · left
        simp only [finish, hrunning, hdone, ↓reduceIte, true_and]
        rintro _ ⟨⟩
        simpa using hdone
      · right
        obtain ⟨rfl, hfinished⟩ : completed = false ∧ session.performance.isFinished = true := by
          simpa using hdone
        cases hsave : ProgressStore.save session.store
            (session.table.completeAt id moment).2.progress with
        | mk saved store =>
            refine ⟨id, saved, store, rfl, hfinished, hsave, ?_⟩
            simp only [finish, hrunning, hfinished, EventTable.persist, hsave]
            cases saved <;> rfl

end VisualNovel.Session
