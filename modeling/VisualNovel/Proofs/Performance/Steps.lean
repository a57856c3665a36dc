import VisualNovel.Proofs.Performance.Advance

/-!
A run of advances as a run of single steps. The step-by-step run has no loop of its own: every beat
of it takes one line of the script, or does something that takes none.
-/

namespace VisualNovel.Performance

/-- A part of a run: a single step of the script, or an operation other than an advance. -/
inductive Beat
  | step (index : Nat)
  | other (operation : Operation)
deriving DecidableEq, Repr

/-- Takes the step of the script at `index`, whatever was taken before. -/
def step (p : Performance) (index : Nat) : Except StageError Performance :=
  match p.script.lines[index]? with
  | none => .ok p
  | some line => p.reach index line

def play (p : Performance) : Beat → Except StageError Performance
  | .step index => p.step index
  | .other operation => (p.perform operation).map Prod.snd

def playAll (p : Performance) (beats : List Beat) : Except StageError Performance :=
  beats.foldlM play p

/-- How many of the lines one advance takes: those up to the first dialogue, with it. -/
def turnLength : List Line → Nat
  | [] => 0
  | line :: lines => if line.isDialogue then 1 else turnLength lines + 1

/-- The beats of a run that goes on at the line `next` of the script. -/
def beats : Script → (next : Nat) → List Operation → List Beat
  | _, _, [] => []
  | script, next, .advance :: operations =>
      let length := turnLength (script.lines.drop next)
      (List.range' next length).map .step ++ beats script (next + length) operations
  | _, _, .load script :: operations => .other (.load script) :: beats script 0 operations
  | script, next, operation :: operations => .other operation :: beats script next operations

def addBeat (steps : List Nat) : Beat → List Nat
  | .step index => steps ++ [index]
  | .other (.load _) => []
  | .other _ => steps

/-- The steps among the beats, in order, from the last time on that a script was loaded. -/
def stepsSinceLoad (beats : List Beat) : List Nat :=
  beats.foldl addBeat []

def addWait (count : Nat) (deed : Deed) : Nat :=
  match deed.operation with
  | .load _ => 0
  | _ => if deed.answer = .waits true then count + 1 else count

/-- How often the player had to act since a script was last loaded. -/
def waitsSinceLoad (deeds : List Deed) : Nat :=
  deeds.foldl addWait 0

theorem playAll_append (p : Performance) (first second : List Beat) :
    p.playAll (first ++ second) = p.playAll first >>= (playAll · second) := by
  simp [playAll]

theorem turnLength_of_no_dialogue {lines : List Line}
    (hlines : ∀ line ∈ lines, line.isDialogue = false) : turnLength lines = lines.length := by
  induction lines with
  | nil => rfl
  | cons line lines ih =>
      have hline : line.isDialogue = false := hlines line (by simp)
      have hrest : ∀ l ∈ lines, l.isDialogue = false := fun l hl => hlines l (by simp [hl])
      simp [turnLength, hline, ih hrest]

theorem turnLength_of_dialogue {before after : List Line} {line : Line}
    (hbefore : ∀ l ∈ before, l.isDialogue = false) (hline : line.isDialogue = true) :
    turnLength (before ++ line :: after) = before.length + 1 := by
  induction before with
  | nil => simp [turnLength, hline]
  | cons first before ih =>
      have hfirst : first.isDialogue = false := hbefore first (by simp)
      have hrest : ∀ l ∈ before, l.isDialogue = false := fun l hl => hbefore l (by simp [hl])
      simp [turnLength, hfirst, ih hrest]

theorem reach_script {p q : Performance} {index : Nat} {line : Line}
    (h : p.reach index line = .ok q) : q.script = p.script := by
  rcases reach_cases h with ⟨-, rfl⟩ | ⟨-, rfl⟩ | ⟨command, stage, -, -, rfl⟩
  · exact present_script _ line
  · rfl
  · cases command <;> rfl

theorem reach_next {p q : Performance} {index : Nat} {line : Line}
    (h : p.reach index line = .ok q) : q.next = index + 1 := by
  have hcursor : q.cursor = some index := by
    rcases reach_cases h with ⟨-, rfl⟩ | ⟨-, rfl⟩ | ⟨command, stage, -, -, rfl⟩
    · exact present_cursor _ line
    · rfl
    · cases command <;> rfl
  rw [next, hcursor]

/-- What every line keeps when it is reached in its turn, an advance keeps. -/
theorem advance_induction {motive : Performance → Prop}
    (hreach : ∀ p q line, p.script.lines[p.next]? = some line → motive p →
      p.reach p.next line = .ok q → motive q)
    {p q : Performance} {waits : Bool} (h : motive p) (hadvance : p.advance = .ok (waits, q)) :
    motive q := by
  suffices hplay : ∀ lines p, p.script.lines.drop p.next = lines → motive p →
      playLines lines p.next p = .ok (waits, q) → motive q from hplay _ p rfl h hadvance
  clear h hadvance
  intro lines
  induction lines with
  | nil =>
      intro p _ hp hplay
      cases hplay
      exact hp
  | cons line lines ih =>
      intro p hlines hp hplay
      have hindex : p.script.lines[p.next]? = some line := by
        rw [← List.head?_drop, hlines, List.head?_cons]
      cases hline : line.isDialogue with
      | true =>
          rw [playLines_cons_of_isDialogue lines p.next p hline] at hplay
          cases hplay
          exact hreach p _ line hindex hp (reach_of_isDialogue p p.next hline)
      | false =>
          rw [playLines_cons_of_not_isDialogue lines p.next p hline] at hplay
          obtain ⟨r, hfirst, hrest⟩ := exists_of_bind_eq_ok hplay
          have hnext := reach_next hfirst
          have hdrop : r.script.lines.drop r.next = lines := by
            rw [reach_script hfirst, hnext, ← List.tail_drop, hlines, List.tail_cons]
          rw [← hnext] at hrest
          exact ih r hdrop (hreach p r line hindex hp hfirst) hrest

theorem map_playLines_eq_playAll (lines : List Line) (index : Nat) (p : Performance)
    (hlines : p.script.lines.drop index = lines) :
    (playLines lines index p).map Prod.snd =
      p.playAll ((List.range' index (turnLength lines)).map .step) := by
  induction lines generalizing index p with
  | nil => rfl
  | cons line lines ih =>
      have hindex : p.script.lines[index]? = some line := by
        rw [← List.head?_drop, hlines, List.head?_cons]
      have hstep : p.play (.step index) = p.reach index line := by
        simp [play, step, hindex]
      cases hline : line.isDialogue with
      | true =>
          rw [playLines_cons_of_isDialogue lines index p hline]
          simp [turnLength, hline, playAll, hstep, reach_of_isDialogue p index hline, Except.map]
      | false =>
          rw [playLines_cons_of_not_isDialogue lines index p hline]
          simp only [turnLength, hline, Bool.false_eq_true, ↓reduceIte, List.range'_succ,
            List.map_cons, playAll, List.foldlM_cons, hstep]
          cases hreach : p.reach index line with
          | error reason => rfl
          | ok q =>
              have hdrop : q.script.lines.drop (index + 1) = lines := by
                rw [reach_script hreach, ← List.tail_drop, hlines, List.tail_cons]
              exact ih (index + 1) q hdrop

theorem map_advance_eq_playAll (p : Performance) :
    p.advance.map Prod.snd =
      p.playAll ((List.range' p.next (turnLength (p.script.lines.drop p.next))).map .step) :=
  map_playLines_eq_playAll _ _ p rfl

theorem advance_next {p q : Performance} {waits : Bool} (h : p.advance = .ok (waits, q)) :
    q.script = p.script ∧ q.next = p.next + turnLength (p.script.lines.drop p.next) := by
  rcases advance_cases h with
    ⟨before, line, after, r, hlines, hbefore, hline, hexecute, -, rfl⟩ |
    ⟨r, hlines, hexecute, -, rfl⟩
  · obtain ⟨stage, scroll, scrollMode, backlog, rfl⟩ := executeAll_frame hexecute
    rw [hlines, turnLength_of_dialogue hbefore hline]
    refine ⟨present_script _ line, ?_⟩
    simp [next, moveTo]
    omega
  · obtain ⟨stage, scroll, scrollMode, backlog, rfl⟩ := executeAll_frame hexecute
    rw [turnLength_of_no_dialogue hlines]
    exact ⟨rfl, next_moveTo_cursorBefore _ _⟩

theorem map_run_eq_playAll (p : Performance) (operations : List Operation) :
    (run perform p operations).map Prod.snd = p.playAll (beats p.script p.next operations) := by
  induction operations generalizing p with
  | nil => rfl
  | cons operation operations ih =>
      rw [Run.map_snd_run_cons]
      cases operation with
      | advance =>
          have hturn : (p.perform .advance).map Prod.snd = p.advance.map Prod.snd := by
            cases hadvance : p.advance <;> simp [perform, hadvance, Except.map]
          rw [hturn, beats, playAll_append, ← map_advance_eq_playAll]
          cases hadvance : p.advance with
          | error reason => rfl
          | ok result =>
              obtain ⟨waits, q⟩ := result
              obtain ⟨hscript, hnext⟩ := advance_next hadvance
              rw [← hnext, ← hscript]
              exact ih q
      | load script => exact ih (p.load script)
      | tick now => exact ih (p.tick now)
      | drainBacklog => exact ih p.drainBacklog.2
      | setName identity name => exact ih (p.setName identity name)

theorem foldl_addBeat_steps (steps indices : List Nat) :
    (indices.map Beat.step).foldl addBeat steps = steps ++ indices := by
  induction indices generalizing steps with
  | nil => simp
  | cons index indices ih => simp [addBeat, ih]

theorem foldl_addBeat_beats {p q : Performance} {operations : List Operation} {deeds : List Deed}
    (hrun : run perform p operations = .ok (deeds, q)) :
    (beats p.script p.next operations).foldl addBeat (List.range p.next) =
      List.range q.next := by
  induction operations generalizing p deeds with
  | nil =>
      obtain ⟨-, rfl⟩ := Run.run_nil_eq_ok hrun
      rfl
  | cons operation operations ih =>
      obtain ⟨answer, r, rest, hstep, hrest, rfl⟩ := Run.run_cons_eq_ok hrun
      rcases perform_cases hstep with ⟨script, rfl, -, rfl⟩ | ⟨waits, rfl, -, hadvance⟩ |
        ⟨now, rfl, -, rfl⟩ | ⟨rfl, -, rfl⟩ | ⟨identity, name, rfl, -, rfl⟩
      · exact ih hrest
      · obtain ⟨hscript, hnext⟩ := advance_next hadvance
        have hrange : List.range p.next ++
            List.range' p.next (turnLength (p.script.lines.drop p.next)) = List.range r.next := by
          rw [hnext, List.range_eq_range', List.range_eq_range']
          simpa using List.range'_append_1 (s := 0) (m := p.next)
        rw [beats, List.foldl_append, foldl_addBeat_steps, hrange, ← hnext, ← hscript]
        exact ih hrest
      · exact ih (p := p.tick now) hrest
      · exact ih (p := p.drainBacklog.2) hrest
      · exact ih (p := p.setName identity name) hrest

theorem turnLength_le_length (lines : List Line) : turnLength lines ≤ lines.length := by
  induction lines with
  | nil => simp [turnLength]
  | cons line lines ih =>
      simp only [turnLength, List.length_cons]
      split <;> omega

theorem turnLength_eq_zero_iff (lines : List Line) : turnLength lines = 0 ↔ lines = [] := by
  cases lines with
  | nil => simp [turnLength]
  | cons line lines =>
      simp only [turnLength, reduceCtorEq, iff_false]
      split <;> omega

theorem countP_take_advance {p q : Performance} {waits : Bool} (h : p.advance = .ok (waits, q)) :
    (p.script.lines.take q.next).countP Line.isDialogue =
      (p.script.lines.take p.next).countP Line.isDialogue + if waits then 1 else 0 := by
  rw [(advance_next h).2, List.take_add, List.countP_append]
  congr 1
  rcases advance_cases h with
    ⟨before, line, after, r, hlines, hbefore, hline, -, rfl, -⟩ | ⟨r, hlines, -, rfl, -⟩
  · have hnone : before.countP Line.isDialogue = 0 := by
      simpa [List.countP_eq_zero] using hbefore
    have htake : (before ++ line :: after).take (before.length + 1) = before ++ [line] := by
      simp [List.take_append, List.take_of_length_le]
    rw [hlines, turnLength_of_dialogue hbefore hline, htake, List.countP_append, hnone]
    simp [hline]
  · have hnone : (p.script.lines.drop p.next).countP Line.isDialogue = 0 := by
      simpa [List.countP_eq_zero] using hlines
    rw [turnLength_of_no_dialogue hlines, List.take_length]
    simpa using hnone

theorem isFinished_iff (p : Performance) : p.isFinished = true ↔ p.script.size ≤ p.next := by
  simp [isFinished]

theorem isFinished_iff_advance (p : Performance) :
    p.isFinished = true ↔ p.advance = .ok (false, p) := by
  rw [isFinished_iff]
  constructor
  · intro hsize
    rw [advance, List.drop_eq_nil_of_le hsize]
    rfl
  · intro hadvance
    have hlength : turnLength (p.script.lines.drop p.next) = 0 := by
      have hnext := (advance_next hadvance).2
      omega
    rw [turnLength_eq_zero_iff, List.drop_eq_nil_iff] at hlength
    exact hlength

theorem next_le_size_and_waits {start p : Performance} {operations : List Operation}
    {deeds : List Deed} (hstart : start.next = 0)
    (hrun : run perform start operations = .ok (deeds, p)) :
    p.next ≤ p.script.size ∧
      waitsSinceLoad deeds = (p.script.lines.take p.next).countP Line.isDialogue := by
  refine Run.run_induction (motive := fun deeds p => p.next ≤ p.script.size ∧
    waitsSinceLoad deeds = (p.script.lines.take p.next).countP Line.isDialogue) ?_ ?_ hrun
  · simp [hstart, waitsSinceLoad]
  · rintro past p operation answer q ⟨hsize, hwaits⟩ hstep
    rw [waitsSinceLoad, List.foldl_append, ← waitsSinceLoad, hwaits]
    rcases perform_cases hstep with ⟨script, rfl, rfl, rfl⟩ | ⟨waits, rfl, rfl, hadvance⟩ |
      ⟨now, rfl, rfl, rfl⟩ | ⟨rfl, rfl, rfl⟩ | ⟨identity, name, rfl, rfl, rfl⟩
    · simp [addWait, load, next]
    · obtain ⟨hscript, hnext⟩ := advance_next hadvance
      rw [hscript, countP_take_advance hadvance]
      constructor
      · have hturn := turnLength_le_length (p.script.lines.drop p.next)
        rw [List.length_drop] at hturn
        rw [Script.size] at hsize ⊢
        omega
      · cases waits <;> simp [addWait]
    · exact ⟨hsize, rfl⟩
    · exact ⟨hsize, rfl⟩
    · exact ⟨hsize, rfl⟩

/-- In every state that a run reaches, an advance carries out the commands up to the next line of
dialogue and presents that line, or carries out all the commands that are left. The run as a whole
takes every step of the script since its loading once and in order, up to the cursor; at the end of
the script the player had to act once for each line of dialogue. -/
theorem run_takes_each_step_once (config : Config) (cast : Cast) (names : NameBook)
    {operations : List Operation} {deeds : List Deed} {p : Performance}
    (hrun : run perform (.ofConfig config cast names) operations = .ok (deeds, p)) :
    (∀ j line, IsLeast {i | p.next ≤ i ∧ p.script.IsDialogue i} j →
      p.script.lines[j]? = some line →
      p.advance = (p.executeAll (p.script.commands p.next j)).map fun q =>
        (true, ({ q with cursor := some j }).present line)) ∧
    ((∀ i, p.next ≤ i → ¬ p.script.IsDialogue i) →
      p.advance = (p.executeAll (p.script.commands p.next p.script.size)).map fun q =>
        (false, { q with
          cursor := if p.next < p.script.size then some (p.script.size - 1) else p.cursor })) ∧
    playAll (.ofConfig config cast names) (beats .empty 0 operations) = .ok p ∧
    stepsSinceLoad (beats .empty 0 operations) = List.range p.next ∧
    (∀ index, p.cursor = some index → index < p.script.size) ∧
    (p.isFinished = true → waitsSinceLoad deeds = p.script.lines.countP Line.isDialogue) ∧
    (p.isFinished = true ↔ p.advance = .ok (false, p)) := by
  have hplay := map_run_eq_playAll (.ofConfig config cast names) operations
  rw [hrun] at hplay
  have hsteps := foldl_addBeat_beats hrun
  obtain ⟨hsize, hwaits⟩ := next_le_size_and_waits rfl hrun
  refine ⟨fun j line => advance_of_isLeast, advance_of_forall_not_isDialogue, hplay.symm, hsteps,
    ?_, ?_, isFinished_iff_advance p⟩
  · intro index hcursor
    rw [next, hcursor] at hsize
    exact hsize
  · intro hfinished
    have hlength : p.script.lines.length ≤ p.next := (isFinished_iff p).mp hfinished
    rw [hwaits, List.take_of_length_le hlength]

/-- A scene with a scroll of one line, a command without a name, and a line in the text box. -/
def scrolledScene : Script where
  lines := [
    { speaker := "", text := "_SCROLL_START" },
    { speaker := "Aoi", text := "Hello." },
    { speaker := "", text := "_MOVE_0.5_0.5" },
    { speaker := "", text := "_SCROLL_STOP" },
    { speaker := "Aoi", text := "Bye." },
    { speaker := "", text := "_CHARA_HIDE_Aoi" }]

def scrolledRun : List Operation :=
  [.load scrolledScene, .advance, .tick 5, .advance, .advance]

theorem run_scrolledScene_takes_each_step_once : ∃ deeds p,
    run perform (.ofConfig .standard .empty .empty) scrolledRun = .ok (deeds, p) ∧
    p.isFinished = true ∧ waitsSinceLoad deeds = 2 ∧ p.advance = .ok (false, p) := by
  obtain ⟨⟨deeds, p⟩, hrun⟩ : ∃ result,
      run perform (.ofConfig .standard .empty .empty) scrolledRun = .ok result := ⟨_, rfl⟩
  have hend : (run perform (.ofConfig .standard .empty .empty) scrolledRun).map
      (fun result => (result.2.isFinished, result.2.script)) = .ok (true, scrolledScene) := rfl
  rw [hrun] at hend
  simp only [Except.map, Except.ok.injEq, Prod.mk.injEq] at hend
  obtain ⟨hfinished, hscript⟩ := hend
  obtain ⟨-, -, -, -, -, hwaits, hadvance⟩ :=
    run_takes_each_step_once .standard .empty .empty hrun
  refine ⟨deeds, p, hrun, hfinished, ?_, hadvance.mp hfinished⟩
  rw [hwaits hfinished, hscript]
  decide

end VisualNovel.Performance
