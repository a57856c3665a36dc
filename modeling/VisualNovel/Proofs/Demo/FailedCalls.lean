import VisualNovel.Demo
import VisualNovel.Proofs.Performance.Halting
import VisualNovel.Proofs.Session.Run
import VisualNovel.Proofs.Session.Sources

namespace VisualNovel.Demo

inductive Operation
  | available (request : String)
  | begin (id script : String)
  | advance
  | tick (now : Float)
  | frame
  | finish (request : String)
  | progress
deriving DecidableEq, Repr

inductive Answer
  | failed (reason : DemoError)
  | done
  | events (events : List Event)
  | frame (frame : Frame)
  | finished (counted : Bool)
  | progress (rows : List Progress)

def Answer.isFailure : Answer → Bool
  | .failed _ => true
  | _ => false

/-- Begins an event statement by statement. What has been changed stays so if the call fails. -/
def beginInPlace (id script : String) : ExceptT DemoError (StateM Demo) Unit := do
  let some script := Script.ofText? script | throw .script
  let demo ← get
  if (demo.session.table.find? id).isNone then throw (.session (.unknownEvent id))
  set { demo with session.performance := demo.session.performance.load script }
  modify ({ · with session.running := some ⟨id, false⟩ })
  modify ({ · with waits := false })

theorem run_beginInPlace (demo : Demo) (id script : String) :
    (beginInPlace id script).run demo =
      match demo.begin id script with
      | .error reason => (.error reason, demo)
      | .ok next => (.ok (), next) := by
  rw [Demo.begin, beginInPlace]
  cases Script.ofText? script with
  | none => rfl
  | some script =>
      simp only [Session.begin]
      change StateT.run (ExceptT.run (if _ then _ else _)) _ = _
      cases demo.session.table.find? id <;> rfl

/-- The answer to a call that ended in the given way. -/
def answer {α : Type} (value : α → Answer) : Except DemoError α → Answer
  | .error reason => .failed reason
  | .ok result => value result

def perform (demo : Demo) : Operation → Except StageError (Answer × Demo)
  | .available request => .ok (answer .events (demo.available request), demo)
  | .begin id script =>
      let (result, next) := (beginInPlace id script).run demo
      .ok (answer (fun _ => .done) result, next)
  | .advance => demo.advance.map fun next => (.frame next.frame, next)
  | .tick now => .ok (.done, demo.tick now)
  | .frame => .ok (.frame demo.frame, demo)
  | .finish request =>
      let (result, next) := demo.finish request
      .ok (answer .finished result, next)
  | .progress => .ok (.progress demo.progress, demo)

abbrev Deed := VisualNovel.Deed Demo Operation Answer

/-- Why a call fails: what it was given does not say anything, or not of an event of the table. -/
inductive Fails (demo : Demo) : Operation → DemoError → Prop
  | available {request : String} (h : Request.ofText? request = none) :
      Fails demo (.available request) .moment
  | script {id script : String} (h : Script.ofText? script = none) :
      Fails demo (.begin id script) .script
  | unknownEvent {id script : String} {lines : Script}
      (hscript : Script.ofText? script = some lines)
      (h : demo.session.table.find? id = none) :
      Fails demo (.begin id script) (.session (.unknownEvent id))
  | finish {request : String} (h : Request.ofText? request = none) :
      Fails demo (.finish request) .moment

/-- The demo keeps its progress in memory, where it cannot get lost. -/
def InMemory (demo : Demo) : Prop :=
  ∃ store, demo.session.store.keeping = .given store

variable {demo next start : Demo}

theorem inMemory_ofTexts {config cast catalog : String}
    (h : ofTexts config cast catalog = .ok start) : start.InMemory := by
  obtain ⟨config, -, h⟩ := exists_of_bind_eq_ok h
  split at h
  case h_2 => cases h
  split at h
  case h_2 => cases h
  dsimp only at h
  split at h
  case h_2 => cases h
  rename_i session hbuild
  cases h
  obtain ⟨config, cast, catalog, rows, -, -, -, -, rfl⟩ := Setup.build_eq_ok_iff.mp hbuild
  exact ⟨{}, rfl⟩

theorem InMemory.finish (h : demo.InMemory) (moment : Moment) : ∃ counted session,
    demo.session.finish moment = (.ok counted, session) ∧
      ∃ store, session.store.keeping = .given store := by
  obtain ⟨store, hstore⟩ := h
  rcases demo.session.finish_cases moment with
    ⟨hfinish, -⟩ | ⟨id, saved, kept, -, -, hsave, hfinish⟩
  · exact ⟨false, demo.session, hfinish, store, hstore⟩
  · change demo.session.store.save _ = _ at hsave
    rw [Shelf.save, hstore] at hsave
    cases hsave
    exact ⟨true, _, hfinish, _, rfl⟩

theorem readRequest_cases (request : String) :
    (Request.ofText? request = none ∧ readRequest request = .error .moment) ∨
    ∃ found, Request.ofText? request = some found ∧ readRequest request = .ok found := by
  rw [readRequest]
  cases Request.ofText? request with
  | none => exact .inl ⟨rfl, rfl⟩
  | some found => exact .inr ⟨found, rfl, rfl⟩

theorem begin_cases (demo : Demo) (id script : String) :
    (∃ reason, demo.Fails (.begin id script) reason ∧ demo.begin id script = .error reason) ∨
    ∃ lines event, Script.ofText? script = some lines ∧
      demo.session.table.find? id = some event ∧
      demo.begin id script = .ok ⟨{ demo.session with
        performance := demo.session.performance.load lines
        running := some ⟨id, false⟩ }, false⟩ := by
  rw [Demo.begin]
  cases hscript : Script.ofText? script with
  | none => exact .inl ⟨.script, .script hscript, rfl⟩
  | some lines =>
      cases hevent : demo.session.table.find? id with
      | none =>
          refine .inl ⟨.session (.unknownEvent id), .unknownEvent hscript hevent, ?_⟩
          simp [Session.begin, hevent]
      | some event =>
          refine .inr ⟨lines, event, rfl, rfl, ?_⟩
          simp [Session.begin, hevent]

/-- How a call ends: it fails and leaves the demo as it was, it ends well, or the stage halts it. -/
inductive Ends (demo : Demo) (operation : Operation) : Except StageError (Answer × Demo) → Prop
  | failed {reason : DemoError} (h : demo.Fails operation reason) :
      Ends demo operation (.ok (.failed reason, demo))
  | well {answer : Answer} {next : Demo} (hfails : ∀ reason, ¬ demo.Fails operation reason)
      (hanswer : ∀ reason, answer ≠ .failed reason) (hmemory : next.InMemory) :
      Ends demo operation (.ok (answer, next))
  | halted (h : operation = .advance) : Ends demo operation (.error .noPanRange)

theorem InMemory.ends (h : demo.InMemory) (operation : Operation) :
    Ends demo operation (demo.perform operation) := by
  cases operation with
  | available request =>
      rw [perform, Demo.available]
      rcases readRequest_cases request with ⟨hnone, hread⟩ | ⟨found, hfound, hread⟩
      · rw [hread]
        exact .failed (.available hnone)
      · rw [hread]
        refine .well (fun reason hfails => ?_) (fun _ => nofun) h
        cases hfails with
        | available hnone => simp [hnone] at hfound
  | begin id script =>
      rw [perform, run_beginInPlace]
      rcases demo.begin_cases id script with
        ⟨reason, hfails, hbegin⟩ | ⟨lines, event, hscript, hevent, hbegin⟩
      · rw [hbegin]
        exact .failed hfails
      · rw [hbegin]
        refine .well (fun reason hfails => ?_) (fun _ => nofun) h
        cases hfails with
        | script hnone => simp [hnone] at hscript
        | unknownEvent _ hnone => simp [hnone] at hevent
  | advance =>
      rw [perform]
      cases hadvance : demo.advance with
      | error reason =>
          cases reason
          exact .halted rfl
      | ok next =>
          obtain ⟨⟨waits, session⟩, hsession, hnext⟩ := exists_of_bind_eq_ok hadvance
          obtain ⟨performance, -, rfl⟩ := Session.advance_eq_ok hsession
          cases hnext
          exact .well (fun _ => nofun) (fun _ => nofun) h
  | finish request =>
      rw [perform, Demo.finish]
      rcases readRequest_cases request with ⟨hnone, hread⟩ | ⟨found, hfound, hread⟩
      · rw [hread]
        exact .failed (.finish hnone)
      · obtain ⟨counted, session, hfinish, hmemory⟩ := h.finish found.moment
        simp only [hread, hfinish]
        refine .well (fun reason hfails => ?_) (fun _ => nofun) hmemory
        cases hfails with
        | finish hnone => simp [hnone] at hfound
  | tick | frame | progress => exact .well (fun _ => nofun) (fun _ => nofun) h

theorem Fails.eq {operation : Operation} {reason other : DemoError}
    (h : demo.Fails operation reason) (hother : demo.Fails operation other) : other = reason := by
  cases h with
  | available | finish => cases hother; rfl
  | script hnone =>
      cases hother with
      | script => rfl
      | unknownEvent hscript => simp [hnone] at hscript
  | unknownEvent hscript =>
      cases hother with
      | script hnone => simp [hnone] at hscript
      | unknownEvent => rfl

theorem InMemory.perform_failed_iff (h : demo.InMemory) {operation : Operation}
    {reason : DemoError} : demo.perform operation = .ok (.failed reason, next) ↔
      demo.Fails operation reason ∧ next = demo := by
  have hends := h.ends operation
  constructor
  · intro hperform
    rw [hperform] at hends
    cases hends with
    | failed hfails => exact ⟨hfails, rfl⟩
    | well _ hanswer => exact absurd rfl (hanswer reason)
  · rintro ⟨hfails, rfl⟩
    cases hresult : next.perform operation with
    | error halted =>
        rw [hresult] at hends
        cases hends with
        | halted hadvance =>
            subst hadvance
            cases hfails
    | ok result =>
        rw [hresult] at hends
        cases hends with
        | failed hother => rw [hother.eq hfails]
        | well hnone => exact absurd hfails (hnone reason)

theorem InMemory.perform (h : demo.InMemory) {operation : Operation} {answer : Answer}
    (hperform : demo.perform operation = .ok (answer, next)) : next.InMemory := by
  have hends := h.ends operation
  rw [hperform] at hends
  cases hends with
  | failed => exact h
  | well _ _ hmemory => exact hmemory

theorem InMemory.exists_perform_eq_ok (h : demo.InMemory) {operation : Operation}
    (hpan : operation = .advance →
      ∀ zoom, demo.session.performance.stage.framing.canPan zoom = true) :
    ∃ answer next, demo.perform operation = .ok (answer, next) := by
  have hends := h.ends operation
  cases hresult : demo.perform operation with
  | ok result => exact ⟨result.1, result.2, rfl⟩
  | error reason =>
      rw [hresult] at hends
      cases hends with
      | halted hadvance =>
          subst hadvance
          obtain ⟨⟨waits, performance⟩, hok⟩ := Performance.exists_advance_eq_ok (hpan rfl)
          have hadvance : demo.advance = .ok ⟨{ demo.session with performance }, waits⟩ := by
            rw [Demo.advance, Session.advance, hok]
            rfl
          rw [Demo.perform, hadvance] at hresult
          cases hresult

/-- Whatever a page has done with a demo, a call fails exactly if what it was given cannot be read
or names no event, and then it leaves the demo as it was: a run may as well go without the calls
that failed in it. Advancing, drawing and listing the progress never fail; no call but advancing can
halt, and not where the background can be panned. -/
theorem failed_calls_change_nothing {config cast catalog : String}
    (hstart : ofTexts config cast catalog = .ok start) {operations : List Operation}
    {deeds : List Deed} (hrun : run perform start operations = .ok (deeds, demo)) :
    (∀ operation reason next, demo.perform operation = .ok (.failed reason, next) ↔
      demo.Fails operation reason ∧ next = demo) ∧
    run perform start ((deeds.filter (!·.answer.isFailure)).map Deed.operation) =
      .ok (deeds.filter (!·.answer.isFailure), demo) ∧
    (∀ operation ∈ [Operation.advance, .frame, .progress], ∀ reason next,
      demo.perform operation ≠ .ok (.failed reason, next)) ∧
    ∀ operation, (operation = .advance → ∀ zoom,
        demo.session.performance.stage.framing.canPan zoom = true) →
      ∃ answer next, demo.perform operation = .ok (answer, next) := by
  have hmemory := inMemory_ofTexts hstart
  have hend : demo.InMemory := Run.run_induction (motive := fun _ demo => demo.InMemory) hmemory
    (fun _ _ _ _ _ h hperform => h.perform hperform) hrun
  refine ⟨fun operation reason next => hend.perform_failed_iff, ?_, ?_, ?_⟩
  · refine Run.run_without_idle InMemory (fun _ _ _ _ h hperform => h.perform hperform)
      ?_ hmemory hrun
    intro state operation answer next h hperform hfailure
    cases answer with
    | failed reason => exact (h.perform_failed_iff.mp hperform).2
    | _ => cases hfailure
  · intro operation hoperation reason next hperform
    obtain ⟨hfails, -⟩ := hend.perform_failed_iff.mp hperform
    cases hfails <;> simp at hoperation
  · intro operation hpan
    exact hend.exists_perform_eq_ok hpan

def openingCatalog : String :=
  "[(id: \"opening\", start: \"4 1 noon\", end: \"4 30 noon\", slots: \"noon\", " ++
    "heroine: \"Aoi\", location: \"gate\", title: \"Opening\")]"

def greetingScript : String :=
  "[(speaker: \"Aoi\", text: \"Hello.\")]"

/-- A run with calls that fail before and after its only line. -/
def interruptedOpening : List Operation := [
  .begin "opening" greetingScript, .begin "opening" "[(", .advance, .begin "ending" greetingScript,
  .finish "noon", .advance, .finish "[1, 4, 2, \"noon\", null, null]"]

def plainOpening : List Operation := [
  .begin "opening" greetingScript, .advance, .advance, .finish "[1, 4, 2, \"noon\", null, null]"]

theorem interruptedOpening_changes_like_plainOpening : ∃ start deeds demo,
    ofTexts "" "()" openingCatalog = .ok start ∧
    run perform start interruptedOpening = .ok (deeds, demo) ∧
    deeds.map (·.answer.isFailure) = [false, true, false, true, true, false, false] ∧
    run perform start plainOpening = .ok (deeds.filter (!·.answer.isFailure), demo) ∧
    demo.progress = [⟨"opening", 1, true, some ⟨⟨1, 4, 2⟩, "noon"⟩⟩] := by
  have hend : ((ofTexts "" "()" openingCatalog).toOption.bind fun start =>
      (run perform start interruptedOpening).toOption.map fun result =>
        (result.1.map (·.answer.isFailure),
          (result.1.filter (!·.answer.isFailure)).map Deed.operation, result.2.progress)) =
      some ([false, true, false, true, true, false, false], plainOpening,
        [⟨"opening", 1, true, some ⟨⟨1, 4, 2⟩, "noon"⟩⟩]) := by
    decide +kernel
  obtain ⟨start, hsome, hend⟩ := Option.bind_eq_some_iff.mp hend
  have hstart := eq_ok_of_toOption_eq_some hsome
  obtain ⟨⟨deeds, demo⟩, hrun, hend⟩ := exists_of_toOption_map_eq_some hend
  simp only [Prod.mk.injEq] at hend
  obtain ⟨hfailures, hplain, hprogress⟩ := hend
  obtain ⟨-, hshort, -⟩ := failed_calls_change_nothing hstart hrun
  rw [hplain] at hshort
  exact ⟨start, deeds, demo, hstart, hrun, hfailures, hshort, hprogress⟩

end VisualNovel.Demo
