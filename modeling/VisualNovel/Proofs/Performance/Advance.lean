import Mathlib.Order.Bounds.Defs
import Mathlib.Tactic.ByContra
import VisualNovel.Proofs.Performance.Run

namespace VisualNovel

/-- The command in a line, if it can be executed. -/
def Line.command? (line : Line) : Option Command :=
  match line.action with
  | .command command => some command
  | _ => none

def Line.isDialogue (line : Line) : Bool :=
  line.action == .dialogue

theorem Line.isDialogue_eq_true_iff (line : Line) :
    line.isDialogue = true ↔ line.action = .dialogue := by
  simp [isDialogue]

namespace Script

def IsDialogue (script : Script) (index : Nat) : Prop :=
  ∃ line, script.lines[index]? = some line ∧ line.action = .dialogue

/-- The commands of the lines from `first` on and before `stop`, in order. -/
def commands (script : Script) (first stop : Nat) : List Command :=
  ((script.lines.drop first).take (stop - first)).filterMap Line.command?

theorem isDialogue_eq_false {script : Script} {first : Nat} (stop : Nat)
    (hnone : ∀ index, first ≤ index → index < stop → ¬ script.IsDialogue index) :
    ∀ line ∈ (script.lines.drop first).take (stop - first), line.isDialogue = false := by
  intro line hline
  obtain ⟨i, hi⟩ := List.mem_iff_getElem?.mp hline
  rw [List.getElem?_take] at hi
  split at hi
  · rename_i hlt
    rw [List.getElem?_drop] at hi
    by_contra hdialogue
    have haction : line.action = .dialogue := by
      simpa [Line.isDialogue_eq_true_iff] using hdialogue
    exact hnone (first + i) (by omega) (by omega) ⟨line, hi, haction⟩
  · cases hi

theorem commands_of_drop_eq {script : Script} {first : Nat} {before rest : List Line}
    (hlines : script.lines.drop first = before ++ rest) :
    script.commands first (first + before.length) = before.filterMap Line.command? := by
  simp [commands, hlines]

theorem drop_eq_take_append {script : Script} {first index : Nat} {line : Line}
    (hfirst : first ≤ index) (hline : script.lines[index]? = some line) :
    script.lines.drop first =
      (script.lines.drop first).take (index - first) ++ line :: script.lines.drop (index + 1) := by
  obtain ⟨hindex, rfl⟩ := List.getElem?_eq_some_iff.mp hline
  have hdrop : (script.lines.drop first).drop (index - first) = script.lines.drop index := by
    rw [List.drop_drop]
    congr 1
    omega
  rw [← List.drop_eq_getElem_cons hindex, ← hdrop, List.take_append_drop]

end Script

namespace Performance

/-- Carries out commands one after the other. -/
def executeAll (p : Performance) (commands : List Command) : Except StageError Performance :=
  commands.foldlM execute p

@[simp] theorem executeAll_nil (p : Performance) : p.executeAll [] = .ok p := rfl

theorem executeAll_cons (p : Performance) (command : Command) (commands : List Command) :
    p.executeAll (command :: commands) = p.execute command >>= (executeAll · commands) := by
  simp [executeAll]

theorem Aside.executeAll {change : Performance → Performance} (h : Aside change)
    (p : Performance) (commands : List Command) :
    (change p).executeAll commands = (p.executeAll commands).map change := by
  induction commands generalizing p with
  | nil => rfl
  | cons command commands ih =>
      rw [executeAll_cons, executeAll_cons, h.execute]
      cases p.execute command with
      | error reason => rfl
      | ok q => exact ih q

theorem executeAll_append (p : Performance) (first second : List Command) :
    p.executeAll (first ++ second) = p.executeAll first >>= (executeAll · second) := by
  simp [executeAll]

theorem executeAll_moveTo_bind {α : Type} (p : Performance) (cursor : Option Nat)
    (commands : List Command) (f : Performance → Except StageError α)
    (hf : ∀ q, f (q.moveTo cursor) = f q) :
    (p.moveTo cursor).executeAll commands >>= f = p.executeAll commands >>= f := by
  rw [(aside_moveTo cursor).executeAll]
  cases p.executeAll commands with
  | error reason => rfl
  | ok q => exact hf q

/-- What reaching the line at `index` does. -/
def reach (p : Performance) (index : Nat) (line : Line) : Except StageError Performance :=
  match line.action with
  | .dialogue => .ok ((p.moveTo (some index)).present line)
  | .invalid _ => .ok (p.moveTo (some index))
  | .command command => (p.moveTo (some index)).execute command

theorem reach_cases {p q : Performance} {index : Nat} {line : Line}
    (h : p.reach index line = .ok q) :
    (line.action = .dialogue ∧ q = (p.moveTo (some index)).present line) ∨
    ((∃ reason, line.action = .invalid reason) ∧ q = p.moveTo (some index)) ∨
    ∃ command stage, line.action = .command command ∧ command.act p.cast p.stage = .ok stage ∧
      q = ((p.moveTo (some index)).route command).setStage stage := by
  cases haction : line.action with
  | dialogue =>
      simp only [reach, haction] at h
      cases h
      exact .inl ⟨rfl, rfl⟩
  | invalid reason =>
      simp only [reach, haction] at h
      cases h
      exact .inr (.inl ⟨⟨reason, rfl⟩, rfl⟩)
  | command command =>
      simp only [reach, haction, execute_eq] at h
      obtain ⟨stage, hact, rfl⟩ := exists_of_map_eq_ok h
      exact .inr (.inr ⟨command, stage, rfl, hact, rfl⟩)

theorem reach_of_isDialogue (p : Performance) (index : Nat) {line : Line}
    (hline : line.isDialogue = true) :
    p.reach index line = .ok ((p.moveTo (some index)).present line) := by
  simp [reach, (Line.isDialogue_eq_true_iff line).mp hline]

theorem reach_of_not_isDialogue (p : Performance) (index : Nat) {line : Line}
    (hline : line.isDialogue = false) :
    p.reach index line = (p.executeAll line.command?.toList).map (moveTo · (some index)) := by
  cases haction : line.action with
  | dialogue => simp [Line.isDialogue, haction] at hline
  | invalid reason => simp [reach, Line.command?, haction, Except.map]
  | command command =>
      simp only [reach, Line.command?, haction, Option.toList_some, executeAll_cons,
        executeAll_nil, (aside_moveTo (some index)).execute]
      cases p.execute command <;> rfl

theorem playLines_cons_of_isDialogue {line : Line} (lines : List Line) (index : Nat)
    (p : Performance) (hline : line.isDialogue = true) :
    playLines (line :: lines) index p = .ok (true, (p.moveTo (some index)).present line) := by
  simp [playLines, (Line.isDialogue_eq_true_iff line).mp hline, moveTo]

theorem playLines_cons_of_not_isDialogue {line : Line} (lines : List Line) (index : Nat)
    (p : Performance) (hline : line.isDialogue = false) :
    playLines (line :: lines) index p =
      p.reach index line >>= playLines lines (index + 1) := by
  cases haction : line.action with
  | dialogue => simp [Line.isDialogue, haction] at hline
  | invalid reason => simp [playLines, reach, haction, moveTo, bind, Except.bind]
  | command command =>
      simp only [playLines, reach, haction, moveTo]
      cases execute { p with cursor := some index } command <;> rfl

/-- The cursor of a performance that goes on at the given line. -/
def cursorBefore : Nat → Option Nat
  | 0 => none
  | index + 1 => some index

@[simp] theorem next_moveTo_cursorBefore (p : Performance) (index : Nat) :
    (p.moveTo (cursorBefore index)).next = index := by
  cases index <;> rfl

@[simp] theorem cursorBefore_next (p : Performance) : cursorBefore p.next = p.cursor := by
  cases hcursor : p.cursor <;> simp [next, hcursor, cursorBefore]

theorem filterMap_command?_cons (line : Line) (lines : List Line) :
    (line :: lines).filterMap Line.command? =
      line.command?.toList ++ lines.filterMap Line.command? := by
  cases hcommand : line.command? <;> simp [hcommand]

theorem playLines_append (before rest : List Line) (p : Performance)
    (hbefore : ∀ line ∈ before, line.isDialogue = false) :
    playLines (before ++ rest) p.next p =
      p.executeAll (before.filterMap Line.command?) >>= fun q =>
        playLines rest (p.next + before.length)
          (q.moveTo (cursorBefore (p.next + before.length))) := by
  induction before generalizing p with
  | nil => simp [bind, Except.bind]
  | cons line before ih =>
      have hline : line.isDialogue = false := hbefore line (by simp)
      have hrest : ∀ l ∈ before, l.isDialogue = false := fun l hl => hbefore l (by simp [hl])
      rw [List.cons_append, playLines_cons_of_not_isDialogue _ _ _ hline,
        reach_of_not_isDialogue _ _ hline, filterMap_command?_cons, executeAll_append]
      cases p.executeAll line.command?.toList with
      | error reason => rfl
      | ok q =>
          have hplay := ih (q.moveTo (some p.next)) hrest
          have hnext : (q.moveTo (some p.next)).next = p.next + 1 := rfl
          have hlength : p.next + (line :: before).length = p.next + 1 + before.length := by
            simp only [List.length_cons]
            omega
          rw [hnext] at hplay
          rw [hlength]
          change playLines (before ++ rest) (p.next + 1) (q.moveTo (some p.next)) =
            q.executeAll (before.filterMap Line.command?) >>= _
          rw [hplay]
          exact executeAll_moveTo_bind q _ _ _ fun _ => rfl

theorem exists_first_dialogue (lines : List Line) :
    (∀ line ∈ lines, line.isDialogue = false) ∨
    ∃ before line after, lines = before ++ line :: after ∧
      (∀ l ∈ before, l.isDialogue = false) ∧ line.isDialogue = true := by
  induction lines with
  | nil => simp
  | cons line lines ih =>
      cases hline : line.isDialogue with
      | true => exact .inr ⟨[], line, lines, rfl, by simp, hline⟩
      | false =>
          rcases ih with hnone | ⟨before, first, after, rfl, hbefore, hfirst⟩
          · exact .inl (by simpa [hline] using hnone)
          · exact .inr ⟨line :: before, first, after, rfl, by simpa [hline] using hbefore, hfirst⟩

theorem advance_of_dialogue {p : Performance} {before after : List Line} {line : Line}
    (hlines : p.script.lines.drop p.next = before ++ line :: after)
    (hbefore : ∀ l ∈ before, l.isDialogue = false) (hline : line.isDialogue = true) :
    p.advance = (p.executeAll (before.filterMap Line.command?)).map fun q =>
      (true, (q.moveTo (some (p.next + before.length))).present line) := by
  rw [advance, hlines, playLines_append before (line :: after) p hbefore]
  cases p.executeAll (before.filterMap Line.command?) with
  | error reason => rfl
  | ok q => exact playLines_cons_of_isDialogue after _ _ hline

theorem advance_of_no_dialogue {p : Performance}
    (hlines : ∀ line ∈ p.script.lines.drop p.next, line.isDialogue = false) :
    p.advance = (p.executeAll ((p.script.lines.drop p.next).filterMap Line.command?)).map fun q =>
      (false, q.moveTo (cursorBefore (p.next + (p.script.lines.drop p.next).length))) := by
  have hplay := playLines_append (p.script.lines.drop p.next) [] p hlines
  rw [List.append_nil] at hplay
  rw [advance, hplay]
  cases p.executeAll ((p.script.lines.drop p.next).filterMap Line.command?) <;> rfl

theorem advance_of_isLeast {p : Performance} {j : Nat} {line : Line}
    (hleast : IsLeast {i | p.next ≤ i ∧ p.script.IsDialogue i} j)
    (hline : p.script.lines[j]? = some line) :
    p.advance = (p.executeAll (p.script.commands p.next j)).map fun q =>
      (true, ({ q with cursor := some j }).present line) := by
  obtain ⟨⟨hnext, first, hfirst, haction⟩, hlower⟩ := hleast
  obtain rfl : line = first := Option.some.inj (hline.symm.trans hfirst)
  have hbefore := Script.isDialogue_eq_false j fun i hi hij hdialogue =>
    absurd (hlower ⟨hi, hdialogue⟩) (by omega)
  have hj : j < p.script.lines.length := (List.getElem?_eq_some_iff.mp hline).1
  have hlength : p.next + ((p.script.lines.drop p.next).take (j - p.next)).length = j := by
    rw [List.length_take, List.length_drop]
    omega
  rw [advance_of_dialogue (Script.drop_eq_take_append hnext hline) hbefore
    ((Line.isDialogue_eq_true_iff line).mpr haction), hlength]
  rfl

theorem advance_of_forall_not_isDialogue {p : Performance}
    (hnone : ∀ i, p.next ≤ i → ¬ p.script.IsDialogue i) :
    p.advance = (p.executeAll (p.script.commands p.next p.script.size)).map fun q =>
      (false, { q with
        cursor := if p.next < p.script.size then some (p.script.size - 1) else p.cursor }) := by
  have hlength : (p.script.lines.drop p.next).length ≤ p.script.size - p.next := by
    simp [Script.size]
  have hlines := Script.isDialogue_eq_false p.script.size fun i hi _ => hnone i hi
  rw [List.take_of_length_le hlength] at hlines
  rw [advance_of_no_dialogue hlines, Script.commands, List.take_of_length_le hlength]
  have hcursor : cursorBefore (p.next + (p.script.lines.drop p.next).length) =
      if p.next < p.script.size then some (p.script.size - 1) else p.cursor := by
    rw [List.length_drop, Script.size]
    split
    · rename_i hlt
      obtain ⟨n, hn⟩ : ∃ n, p.script.lines.length = n + 1 := ⟨p.script.lines.length - 1, by omega⟩
      rw [Nat.add_sub_cancel' (Nat.le_of_lt hlt), hn]
      rfl
    · rename_i hge
      rw [Nat.sub_eq_zero_of_le (Nat.le_of_not_lt hge)]
      exact cursorBefore_next p
  rw [hcursor]
  rfl

theorem executeAll_induction {motive : Performance → Prop} {p q : Performance}
    {commands : List Command} (hstart : motive p)
    (hstep : ∀ q r, ∀ command ∈ commands, motive q → q.execute command = .ok r → motive r)
    (h : p.executeAll commands = .ok q) : motive q := by
  induction commands generalizing p with
  | nil =>
      cases h
      exact hstart
  | cons command commands ih =>
      rw [executeAll_cons] at h
      obtain ⟨r, hfirst, hrest⟩ := exists_of_bind_eq_ok h
      exact ih (hstep p r command List.mem_cons_self hstart hfirst)
        (fun q r command hmem => hstep q r command (List.mem_cons_of_mem _ hmem)) hrest

theorem executeAll_frame {p q : Performance} {commands : List Command}
    (h : p.executeAll commands = .ok q) : ∃ stage scroll scrollMode backlog,
      q = { p with stage, scroll, scrollMode, backlog } := by
  refine executeAll_induction
    (motive := fun q => ∃ stage scroll scrollMode backlog,
      q = { p with stage, scroll, scrollMode, backlog }) ⟨_, _, _, _, rfl⟩ ?_ h
  rintro _ r command - ⟨stage, scroll, scrollMode, backlog, rfl⟩ hexecute
  rcases execute_cases hexecute with ⟨stage, rfl⟩ | rfl | rfl
  · exact ⟨_, _, _, _, rfl⟩
  · exact ⟨_, _, _, _, rfl⟩
  · exact ⟨_, _, _, _, rfl⟩

/-- An advance stops on the first line of dialogue ahead, or runs through a rest without any. -/
theorem advance_cases {p q : Performance} {waits : Bool} (h : p.advance = .ok (waits, q)) :
    (∃ before line after r, p.script.lines.drop p.next = before ++ line :: after ∧
      (∀ l ∈ before, l.isDialogue = false) ∧ line.isDialogue = true ∧
      p.executeAll (before.filterMap Line.command?) = .ok r ∧ waits = true ∧
      q = (r.moveTo (some (p.next + before.length))).present line) ∨
    (∃ r, (∀ line ∈ p.script.lines.drop p.next, line.isDialogue = false) ∧
      p.executeAll ((p.script.lines.drop p.next).filterMap Line.command?) = .ok r ∧
      waits = false ∧
      q = r.moveTo (cursorBefore (p.next + (p.script.lines.drop p.next).length))) := by
  rcases exists_first_dialogue (p.script.lines.drop p.next) with
    hnone | ⟨before, line, after, hlines, hbefore, hline⟩
  · right
    rw [advance_of_no_dialogue hnone] at h
    obtain ⟨r, hexecute, h⟩ := exists_of_map_eq_ok h
    cases h
    exact ⟨r, hnone, hexecute, rfl, rfl⟩
  · left
    rw [advance_of_dialogue hlines hbefore hline] at h
    obtain ⟨r, hexecute, h⟩ := exists_of_map_eq_ok h
    cases h
    exact ⟨before, line, after, r, hlines, hbefore, hline, hexecute, rfl, rfl⟩

end Performance

end VisualNovel
