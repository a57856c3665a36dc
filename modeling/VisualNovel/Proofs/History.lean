import VisualNovel.Proofs.Run

/-!
Histories: what comes of a run up to its first failure, and what of it is seen by who sees only a
part of the state. Operations that change nothing of this part can be put in and left out.
-/

namespace VisualNovel

variable {State Other Seen Operation Answer Failure : Type}

/-- The deeds of a run, the state that the last of them left, and the failure that ended the run. -/
structure History (State Operation Answer Failure : Type) where
  deeds : List (Deed State Operation Answer)
  final : State
  failure : Option Failure

namespace History

def cons (deed : Deed State Operation Answer) (history : History State Operation Answer Failure) :
    History State Operation Answer Failure :=
  { history with deeds := deed :: history.deeds }

/-- The history with all of its states looked at through a view. -/
def map (view : State → Seen) (history : History State Operation Answer Failure) :
    History Seen Operation Answer Failure where
  deeds := history.deeds.map fun deed => ⟨deed.operation, deed.answer, view deed.state⟩
  final := view history.final
  failure := history.failure

@[simp] theorem map_id (history : History State Operation Answer Failure) :
    history.map id = history := by
  simp [map]

theorem map_map (f : State → Other) (g : Other → Seen)
    (history : History State Operation Answer Failure) :
    (history.map f).map g = history.map (g ∘ f) := by
  simp [map, Function.comp_def]

/-- What is seen of a history through a view of the states. Silent deeds are left out. -/
def seen (view : State → Seen) (isSilent : Operation → Bool)
    (history : History State Operation Answer Failure) :
    History Seen Operation Answer Failure where
  deeds := (history.deeds.filter (!isSilent ·.operation)).map fun deed =>
    ⟨deed.operation, deed.answer, view deed.state⟩
  final := view history.final
  failure := history.failure

end History

def history (perform : State → Operation → Except Failure (Answer × State)) :
    State → List Operation → History State Operation Answer Failure
  | state, [] => ⟨[], state, none⟩
  | state, operation :: operations =>
      match perform state operation with
      | .error failure => ⟨[], state, some failure⟩
      | .ok (answer, next) => (history perform next operations).cons ⟨operation, answer, next⟩

variable {perform : State → Operation → Except Failure (Answer × State)} {view : State → Seen}
  {isSilent : Operation → Bool}

theorem map_ok_congr {viewOther : Other → Seen} (answer : Answer) {state : State} {other : Other}
    (h : view state = viewOther other) :
    (Except.ok (answer, state) : Except Failure _).map (Prod.map id view) =
      (Except.ok (answer, other) : Except Failure _).map (Prod.map id viewOther) :=
  congrArg (fun seen => Except.ok (answer, seen)) h

/-- Two systems that look the same, and do the same as long as they look the same, have histories
that look the same. -/
theorem map_history_congr {performOther : Other → Operation → Except Failure (Answer × Other)}
    {viewOther : Other → Seen} {operations : List Operation}
    (hstep : ∀ operation ∈ operations, ∀ state other, view state = viewOther other →
      (perform state operation).map (Prod.map id view) =
        (performOther other operation).map (Prod.map id viewOther))
    {state : State} {other : Other} (hview : view state = viewOther other) :
    (history perform state operations).map view =
      (history performOther other operations).map viewOther := by
  induction operations generalizing state other with
  | nil => simp [history, History.map, hview]
  | cons operation operations ih =>
      rcases cases_of_map_eq_map (hstep operation (by simp) state other hview) with
        ⟨failure, hfirst, hsecond⟩ | ⟨⟨answer, next⟩, ⟨_, last⟩, hfirst, hsecond, hsame⟩
      · simp [history, hfirst, hsecond, History.map, hview]
      · obtain ⟨rfl, hnext⟩ := Prod.mk.inj hsame
        have hrest := ih (fun operation hmem => hstep operation (by simp [hmem])) hnext
        simp only [History.map, History.mk.injEq] at hrest
        simp [history, hfirst, hsecond, History.map, History.cons, hrest, hnext]

/-- Silent operations never fail and change nothing that is seen; the others do the same wherever
the same is seen. -/
structure Unseen (perform : State → Operation → Except Failure (Answer × State))
    (view : State → Seen) (isSilent : Operation → Bool) : Prop where
  silent : ∀ state operation, isSilent operation = true →
    ∃ answer next, perform state operation = .ok (answer, next) ∧ view next = view state
  loud : ∀ first second operation, view first = view second →
    (perform first operation).map (Prod.map id view) =
      (perform second operation).map (Prod.map id view)

theorem Unseen.seen_history_filter (h : Unseen perform view isSilent) {first second : State}
    (hview : view first = view second) (operations : List Operation) :
    (history perform first operations).seen view isSilent =
      (history perform second (operations.filter (!isSilent ·))).seen view isSilent := by
  induction operations generalizing first second with
  | nil => simp [history, History.seen, hview]
  | cons operation operations ih =>
      cases hsilent : isSilent operation with
      | true =>
          obtain ⟨answer, next, hperform, hnext⟩ := h.silent first operation hsilent
          simp only [history, hperform, hsilent, Bool.not_true, Bool.false_eq_true,
            not_false_eq_true, List.filter_cons_of_neg]
          rw [← ih (hnext.trans hview)]
          simp [History.seen, History.cons, hsilent]
      | false =>
          simp only [history, hsilent, Bool.not_false, List.filter_cons_of_pos]
          rcases cases_of_map_eq_map (h.loud first second operation hview) with
            ⟨failure, hfirst, hsecond⟩ | ⟨⟨answer, next⟩, ⟨other, last⟩, hfirst, hsecond, hsame⟩
          · simp [hfirst, hsecond, History.seen, hview]
          · obtain ⟨rfl, hnext⟩ : answer = other ∧ view next = view last := by
              simpa using hsame
            have hrest := ih hnext
            simp only [History.seen, History.mk.injEq] at hrest
            simp [hfirst, hsecond, History.seen, History.cons, hsilent, hrest, hnext]

/-- Who sees the same at the start of two runs that differ in silent operations only sees the same
in both. -/
theorem Unseen.seen_history_congr (h : Unseen perform view isSilent) {first second : State}
    (hview : view first = view second) {operations others : List Operation}
    (hsame : operations.filter (!isSilent ·) = others.filter (!isSilent ·)) :
    (history perform first operations).seen view isSilent =
      (history perform second others).seen view isSilent := by
  rw [h.seen_history_filter hview, h.seen_history_filter (Eq.refl (view second)) others, hsame]

end VisualNovel
