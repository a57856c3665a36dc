/-!
Runs: operations performed one after the other, each with what it answered and the state that it
left. What every step keeps, every run keeps.
-/

namespace VisualNovel

theorem exists_of_bind_eq_ok {Failure α β : Type} {first : Except Failure α}
    {next : α → Except Failure β} {b : β} (h : (first >>= next) = .ok b) :
    ∃ a, first = .ok a ∧ next a = .ok b := by
  cases first with
  | error failure => cases h
  | ok a => exact ⟨a, rfl, h⟩

theorem exists_of_map_eq_ok {Failure α β : Type} {first : Except Failure α} {f : α → β} {b : β}
    (h : first.map f = .ok b) : ∃ a, first = .ok a ∧ f a = b := by
  cases first with
  | error failure => cases h
  | ok a => exact ⟨a, rfl, by simpa [Except.map] using h⟩

theorem eq_ok_of_toOption_eq_some {Failure α : Type} {first : Except Failure α} {a : α}
    (h : first.toOption = some a) : first = .ok a := by
  cases first with
  | error failure => cases h
  | ok b => exact congrArg Except.ok (Option.some.inj h)

theorem exists_of_toOption_map_eq_some {Failure α β : Type} {first : Except Failure α} {f : α → β}
    {b : β} (h : first.toOption.map f = some b) : ∃ a, first = .ok a ∧ f a = b := by
  obtain ⟨a, hfirst, hb⟩ := Option.map_eq_some_iff.mp h
  exact ⟨a, eq_ok_of_toOption_eq_some hfirst, hb⟩

theorem map_then_map {Failure α β γ : Type} (first : Except Failure α) (f : α → β) (g : β → γ) :
    (first.map f).map g = first.map (g ∘ f) := by
  cases first <;> rfl

theorem cases_of_map_eq_map {Failure α β γ : Type} {first : Except Failure α}
    {second : Except Failure β} {f : α → γ} {g : β → γ} (h : first.map f = second.map g) :
    (∃ failure, first = .error failure ∧ second = .error failure) ∨
    ∃ a b, first = .ok a ∧ second = .ok b ∧ f a = g b := by
  cases first with
  | error failure =>
      cases second with
      | error other =>
          cases h
          exact .inl ⟨failure, rfl, rfl⟩
      | ok b => cases h
  | ok a =>
      cases second with
      | error other => cases h
      | ok b => exact .inr ⟨a, b, rfl, rfl, by simpa [Except.map] using h⟩

variable {State Operation Answer Failure : Type}

/-- One step of a run: what was done, what it answered, and the state afterwards. -/
structure Deed (State Operation Answer : Type) where
  operation : Operation
  answer : Answer
  state : State

/-- Performs operations one after the other. The first failure ends the run. -/
def run (perform : State → Operation → Except Failure (Answer × State)) :
    State → List Operation → Except Failure (List (Deed State Operation Answer) × State)
  | state, [] => .ok ([], state)
  | state, operation :: operations => do
      let (answer, next) ← perform state operation
      let (deeds, final) ← run perform next operations
      return (⟨operation, answer, next⟩ :: deeds, final)

namespace Run

variable {perform : State → Operation → Except Failure (Answer × State)}

theorem run_nil_eq_ok {state final : State} {deeds : List (Deed State Operation Answer)}
    (hrun : run perform state [] = .ok (deeds, final)) : deeds = [] ∧ final = state := by
  cases hrun
  exact ⟨rfl, rfl⟩

theorem run_cons_eq_ok {state final : State} {operation : Operation}
    {operations : List Operation} {deeds : List (Deed State Operation Answer)}
    (hrun : run perform state (operation :: operations) = .ok (deeds, final)) :
    ∃ answer next rest, perform state operation = .ok (answer, next) ∧
      run perform next operations = .ok (rest, final) ∧
      deeds = ⟨operation, answer, next⟩ :: rest := by
  rw [run] at hrun
  obtain ⟨⟨answer, next⟩, hstep, hrun⟩ := exists_of_bind_eq_ok hrun
  obtain ⟨⟨rest, last⟩, hrest, hrun⟩ := exists_of_bind_eq_ok hrun
  cases hrun
  exact ⟨answer, next, rest, hstep, hrest, rfl⟩

theorem map_snd_run_cons (state : State) (operation : Operation) (operations : List Operation) :
    (run perform state (operation :: operations)).map Prod.snd =
      (perform state operation).map Prod.snd >>= fun next =>
        (run perform next operations).map Prod.snd := by
  rw [run]
  cases perform state operation with
  | error failure => rfl
  | ok result =>
      change (run perform result.2 operations >>= fun rest => _).map Prod.snd =
        (run perform result.2 operations).map Prod.snd
      cases run perform result.2 operations <;> rfl

/-- What holds of the past and the state at the start of a run, and is kept by every step, holds at
its end. -/
theorem run_induction {motive : List (Deed State Operation Answer) → State → Prop} {start : State}
    (hstart : motive [] start)
    (hstep : ∀ past state operation answer next, motive past state →
      perform state operation = .ok (answer, next) →
      motive (past ++ [⟨operation, answer, next⟩]) next)
    {operations : List Operation} {deeds : List (Deed State Operation Answer)} {final : State}
    (hrun : run perform start operations = .ok (deeds, final)) : motive deeds final := by
  -- The induction moves one operation at a time from the future into the past.
  suffices h : ∀ past state deeds, motive past state →
      run perform state operations = .ok (deeds, final) → motive (past ++ deeds) final from
    h [] start deeds hstart hrun
  clear hrun hstart
  induction operations with
  | nil =>
      intro past state deeds hpast hrun
      obtain ⟨rfl, rfl⟩ := run_nil_eq_ok hrun
      simpa using hpast
  | cons operation operations ih =>
      intro past state deeds hpast hrun
      obtain ⟨answer, next, rest, hfirst, hrest, rfl⟩ := run_cons_eq_ok hrun
      have hnext := ih _ next rest (hstep past state operation answer next hpast hfirst) hrest
      simpa using hnext

/-- Where what holds keeps every operation from failing and is kept by it, the run goes through. -/
theorem exists_run_eq_ok {holds : State → Prop} {operations : List Operation}
    (hstep : ∀ state, ∀ operation ∈ operations, holds state →
      ∃ answer next, perform state operation = .ok (answer, next) ∧ holds next)
    {start : State} (hstart : holds start) :
    ∃ deeds final, run perform start operations = .ok (deeds, final) ∧ holds final := by
  induction operations generalizing start with
  | nil => exact ⟨[], start, rfl, hstart⟩
  | cons operation operations ih =>
      obtain ⟨answer, next, hfirst, hnext⟩ := hstep start operation List.mem_cons_self hstart
      obtain ⟨deeds, final, hrest, hfinal⟩ :=
        ih (fun state other hother => hstep state other (List.mem_cons_of_mem _ hother)) hnext
      refine ⟨⟨operation, answer, next⟩ :: deeds, final, ?_, hfinal⟩
      simp only [run, hfirst, bind, Except.bind, hrest]
      rfl

theorem map_operation_run {start final : State} {operations : List Operation}
    {deeds : List (Deed State Operation Answer)}
    (hrun : run perform start operations = .ok (deeds, final)) :
    deeds.map Deed.operation = operations := by
  induction operations generalizing start deeds with
  | nil => rw [(run_nil_eq_ok hrun).1, List.map_nil]
  | cons operation operations ih =>
      obtain ⟨answer, next, rest, -, hrest, rfl⟩ := run_cons_eq_ok hrun
      rw [List.map_cons, ih hrest]

theorem run_without_idle (holds : State → Prop) {idle : Answer → Bool}
    (hholds : ∀ state operation answer next, holds state →
      perform state operation = .ok (answer, next) → holds next)
    (hidle : ∀ state operation answer next, holds state →
      perform state operation = .ok (answer, next) → idle answer = true → next = state)
    {start final : State} (hstart : holds start) {operations : List Operation}
    {deeds : List (Deed State Operation Answer)}
    (hrun : run perform start operations = .ok (deeds, final)) :
    run perform start ((deeds.filter (!idle ·.answer)).map Deed.operation) =
      .ok (deeds.filter (!idle ·.answer), final) := by
  induction operations generalizing start deeds with
  | nil =>
      obtain ⟨rfl, rfl⟩ := run_nil_eq_ok hrun
      rfl
  | cons operation operations ih =>
      obtain ⟨answer, next, rest, hfirst, hrest, rfl⟩ := run_cons_eq_ok hrun
      have hshort := ih (hholds start operation answer next hstart hfirst) hrest
      cases hanswer : idle answer with
      | true =>
          obtain rfl := hidle start operation answer next hstart hfirst hanswer
          simpa [hanswer] using hshort
      | false =>
          simp only [List.filter_cons, hanswer, Bool.not_false, ↓reduceIte, List.map_cons, run,
            hfirst]
          simp only [bind, Except.bind, hshort]
          rfl

end Run

section Since

variable {α : Type} {starts ends : α → Bool} {past : List α}

/-- Something in the past starts it, and nothing that came later ends it. -/
def Since (starts ends : α → Bool) (past : List α) : Prop :=
  ∃ before first after, past = before ++ first :: after ∧ starts first = true ∧
    ∀ later ∈ after, ends later = false

theorem not_since_nil : ¬ Since starts ends [] := by
  rintro ⟨before, first, after, hpast, -⟩
  exact List.append_ne_nil_of_right_ne_nil before (List.cons_ne_nil first after) hpast.symm

theorem since_concat {last : α} : Since starts ends (past ++ [last]) ↔
    starts last = true ∨ ends last = false ∧ Since starts ends past := by
  constructor
  · rintro ⟨before, first, after, hpast, hstarts, hends⟩
    rcases List.eq_nil_or_concat after with rfl | ⟨after, later, rfl⟩
    · obtain ⟨-, hlast⟩ := List.append_inj' hpast rfl
      cases hlast
      exact .inl hstarts
    · rw [List.concat_eq_append, ← List.cons_append, ← List.append_assoc] at hpast
      obtain ⟨rfl, hlast⟩ := List.append_inj' hpast rfl
      cases hlast
      refine .inr ⟨hends last (by simp), before, first, after, rfl, hstarts, ?_⟩
      intro other hother
      exact hends other (by simp [hother])
  · rintro (hstarts | ⟨hends, before, first, after, rfl, hstarts, hafter⟩)
    · exact ⟨past, last, [], rfl, hstarts, by simp⟩
    · refine ⟨before, first, after ++ [last], by simp, hstarts, ?_⟩
      intro later hlater
      rcases List.mem_append.mp hlater with hafter' | hlast
      · exact hafter later hafter'
      · rw [List.mem_singleton.mp hlast]
        exact hends

end Since

end VisualNovel
