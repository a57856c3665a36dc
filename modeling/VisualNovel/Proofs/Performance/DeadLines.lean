import VisualNovel.Proofs.History
import VisualNovel.Proofs.Performance.Advance

namespace VisualNovel

/-- The command is about a character or a background that is not in the cast. -/
def Command.isUncast (cast : Cast) : Command → Bool
  | .showCharacter name _ _ => !cast.contains name
  | .hideCharacter name => !cast.contains name
  | .moveCharacter name _ _ _ _ => !cast.contains name
  | .showBackground name _ _ _ => !cast.hasBackground name
  | .moveBackground _ _ _ _ => false
  | .startScroll => false
  | .stopScroll => false

/-- Nothing happens at the line: it holds a command that cannot be executed, or one about nobody. -/
def Line.isDead (cast : Cast) (line : Line) : Bool :=
  match line.action with
  | .dialogue => false
  | .invalid _ => true
  | .command command => command.isUncast cast

def Script.withoutDead (cast : Cast) (script : Script) : Script where
  lines := script.lines.filter (!·.isDead cast)

theorem Command.act_of_isUncast {cast : Cast} {command : Command}
    (h : command.isUncast cast = true) (stage : Stage) : command.act cast stage = .ok stage := by
  cases command with
  | showCharacter name x y =>
      have hnone : cast.find? name = none := by
        rw [Cast.find?, ← Option.not_isSome_iff_eq_none,
          Std.ExtTreeMap.isSome_getElem?_eq_contains, Bool.not_eq_true]
        simpa only [isUncast, Cast.contains, Bool.not_eq_true'] using h
      simp [act, hnone]
  | hideCharacter name =>
      have hnone : cast.contains name = false := by simpa [isUncast] using h
      simp [act, hnone]
  | moveCharacter name x y duration zoom =>
      have hnone : cast.contains name = false := by simpa [isUncast] using h
      simp [act, hnone]
  | showBackground name x y zoom =>
      have hnone : cast.hasBackground name = false := by simpa [isUncast] using h
      simp [act, hnone]
  | moveBackground => cases h
  | startScroll => cases h
  | stopScroll => cases h

theorem Line.isDead_of_isDialogue {line : Line} (h : line.isDialogue = true) (cast : Cast) :
    line.isDead cast = false := by
  simp [isDead, (isDialogue_eq_true_iff line).mp h]

namespace Performance

theorem execute_of_isUncast {p : Performance} {command : Command}
    (h : command.isUncast p.cast = true) : p.execute command = .ok p := by
  rw [execute_eq, Command.act_of_isUncast h]
  cases command with
  | startScroll => cases h
  | stopScroll => cases h
  | _ => rfl

theorem executeAll_script_cast {p q : Performance} {commands : List Command}
    (h : p.executeAll commands = .ok q) : q.script = p.script ∧ q.cast = p.cast := by
  obtain ⟨stage, scroll, scrollMode, backlog, rfl⟩ := executeAll_frame h
  exact ⟨rfl, rfl⟩

theorem executeAll_command?_of_isDead {p : Performance} {line : Line}
    (h : line.isDead p.cast = true) : p.executeAll line.command?.toList = .ok p := by
  cases haction : line.action with
  | dialogue => simp [Line.isDead, haction] at h
  | invalid reason => simp [Line.command?, haction]
  | command command =>
      have huncast : command.isUncast p.cast = true := by simpa [Line.isDead, haction] using h
      simp [Line.command?, haction, executeAll_cons, execute_of_isUncast huncast, bind, Except.bind]

theorem executeAll_withoutDead (p : Performance) (lines : List Line) :
    p.executeAll ((lines.filter (!·.isDead p.cast)).filterMap Line.command?) =
      p.executeAll (lines.filterMap Line.command?) := by
  induction lines generalizing p with
  | nil => rfl
  | cons line lines ih =>
      rw [filterMap_command?_cons, executeAll_append]
      cases hdead : line.isDead p.cast with
      | true =>
          rw [executeAll_command?_of_isDead hdead, List.filter_cons_of_neg (by simp [hdead])]
          exact ih p
      | false =>
          rw [List.filter_cons_of_pos (by simp [hdead]), filterMap_command?_cons,
            executeAll_append]
          cases hfirst : p.executeAll line.command?.toList with
          | error reason => rfl
          | ok q =>
              rw [← (executeAll_script_cast hfirst).2]
              exact ih q

/-- The same performance with another script, at another line of it. -/
def rescript (p : Performance) (script : Script) (cursor : Option Nat) : Performance :=
  { p with script, cursor }

theorem aside_rescript (script : Script) (cursor : Option Nat) :
    Aside (rescript · script cursor) where
  cast := fun _ => rfl
  stage := fun _ => rfl
  setStage := fun _ _ => rfl
  route := fun _ command => by cases command <;> rfl

theorem present_rescript (p : Performance) (script : Script) (cursor : Option Nat) (line : Line) :
    (p.rescript script cursor).present line = (p.present line).rescript script cursor := by
  have hremember : ((p.rescript script cursor).remember line).expressions =
      (p.remember line).expressions :=
    remember_expressions_congr rfl rfl rfl
  rw [present_eq, present_eq, hremember]
  by_cases hmode : p.scrollMode <;> simp [rescript, hmode, shownName]

/-- The live lines that are still to come. -/
def linesAhead (p : Performance) : List Line :=
  (p.script.lines.drop p.next).filter (!·.isDead p.cast)

/-- The performance with a script of the lines that are still to come, the dead ones left out. -/
def ahead (p : Performance) : Performance :=
  p.rescript ⟨p.linesAhead⟩ none

theorem linesAhead_rescript (p : Performance) (script : Script) (index : Nat) :
    (p.rescript script (cursorBefore index)).linesAhead =
      (script.lines.drop index).filter (!·.isDead p.cast) := by
  have hnext : (p.rescript script (cursorBefore index)).next = index :=
    next_moveTo_cursorBefore p index
  rw [linesAhead, hnext]
  rfl

theorem ahead_rescript_congr (p : Performance) {first second : Script} {i j : Nat}
    (h : (first.lines.drop i).filter (!·.isDead p.cast) =
      (second.lines.drop j).filter (!·.isDead p.cast)) :
    (p.rescript first (cursorBefore i)).ahead = (p.rescript second (cursorBefore j)).ahead := by
  rw [ahead, ahead, linesAhead_rescript, linesAhead_rescript, h]
  rfl

theorem executeAll_ahead (p : Performance) (lines : List Line) :
    p.ahead.executeAll ((lines.filter (!·.isDead p.cast)).filterMap Line.command?) =
      (p.executeAll (lines.filterMap Line.command?)).map (rescript · ⟨p.linesAhead⟩ none) := by
  rw [ahead, (aside_rescript ⟨p.linesAhead⟩ none).executeAll, executeAll_withoutDead]

theorem drop_of_split {lines before after : List Line} {line : Line} {index : Nat}
    (h : lines.drop index = before ++ line :: after) :
    lines.drop (index + before.length + 1) = after := by
  rw [Nat.add_assoc, ← List.drop_drop, h]
  simp

theorem map_advance_ahead (p : Performance) :
    p.ahead.advance.map (Prod.map id ahead) = p.advance.map (Prod.map id ahead) := by
  have hlive : p.ahead.script.lines.drop p.ahead.next =
    (p.script.lines.drop p.next).filter (!·.isDead p.cast) := rfl
  -- Dialogue is never dead, so the first one is the same line in both scripts.
  rcases exists_first_dialogue (p.script.lines.drop p.next) with
    hnone | ⟨before, line, after, hlines, hbefore, hline⟩
  · have hlivenone : ∀ l ∈ p.ahead.script.lines.drop p.ahead.next, l.isDialogue = false :=
      fun l hl => hnone l (List.mem_filter.mp (hlive ▸ hl)).1
    rw [advance_of_no_dialogue hnone, advance_of_no_dialogue hlivenone, hlive, executeAll_ahead]
    cases hexecute : p.executeAll ((p.script.lines.drop p.next).filterMap Line.command?) with
    | error reason => rfl
    | ok r =>
        refine congrArg (fun q => Except.ok (false, q)) ?_
        change (r.rescript p.ahead.script (cursorBefore _)).ahead =
          (r.rescript r.script (cursorBefore _)).ahead
        apply ahead_rescript_congr
        rw [(executeAll_script_cast hexecute).1, ← hlive, ← List.drop_drop, ← List.drop_drop,
          List.drop_length, List.drop_length]
  · have hsplit : p.ahead.script.lines.drop p.ahead.next =
        before.filter (!·.isDead p.cast) ++ line :: after.filter (!·.isDead p.cast) := by
      rw [hlive, hlines, List.filter_append,
        List.filter_cons_of_pos (by simp [Line.isDead_of_isDialogue hline])]
    have hlivebefore : ∀ l ∈ before.filter (!·.isDead p.cast), l.isDialogue = false :=
      fun l hl => hbefore l (List.mem_filter.mp hl).1
    rw [advance_of_dialogue hlines hbefore hline, advance_of_dialogue hsplit hlivebefore hline,
      executeAll_ahead]
    cases hexecute : p.executeAll (before.filterMap Line.command?) with
    | error reason => rfl
    | ok r =>
        obtain ⟨hscript, hcast⟩ := executeAll_script_cast hexecute
        refine congrArg (fun q => Except.ok (true, q)) ?_
        change ((r.rescript p.ahead.script (cursorBefore
              (p.ahead.next + (before.filter (!·.isDead p.cast)).length + 1))).present line).ahead =
          ((r.rescript r.script (cursorBefore (p.next + before.length + 1))).present line).ahead
        rw [present_rescript, present_rescript]
        apply ahead_rescript_congr
        rw [present_cast, hcast, hscript, drop_of_split hsplit, drop_of_split hlines,
          List.filter_filter]
        simp

theorem ahead_ahead (p : Performance) : p.ahead.ahead = p.ahead := by
  have h : (p.rescript ⟨p.linesAhead⟩ (cursorBefore 0)).ahead =
      (p.rescript p.script (cursorBefore p.next)).ahead := by
    apply ahead_rescript_congr
    simp [linesAhead]
  rw [cursorBefore_next] at h
  exact h

/-- Who sees a performance only from where it stands is told the same by the live lines alone. -/
theorem map_perform_ahead (p : Performance) (operation : Operation) :
    (p.ahead.perform operation).map (Prod.map id ahead) =
      (p.perform operation).map (Prod.map id ahead) := by
  cases operation with
  | load script => rfl
  | advance => exact map_perform_advance_congr p.map_advance_ahead
  | tick now => exact map_ok_congr Answer.done (p.tick now).ahead_ahead
  | drainBacklog => exact map_ok_congr (Answer.entries p.backlog) p.drainBacklog.2.ahead_ahead
  | setName identity name => exact map_ok_congr Answer.done (p.setName identity name).ahead_ahead

/-- Everything about a performance but its script and where in it the cursor stands. -/
def unscripted (p : Performance) : Performance :=
  p.rescript .empty none

/-- Dead lines can be erased. With the script as it is, and with the script without the lines at
which nothing happens, the same operations are answered alike, fail alike, and leave behind the same
in everything but the script and the cursor, after every single one of them. -/
theorem dead_lines_can_be_erased (p : Performance) (script : Script)
    (operations : List Operation) :
    (history perform (p.load script) operations).map unscripted =
      (history perform (p.load (script.withoutDead p.cast)) operations).map unscripted := by
  have hload : (p.load script).ahead = (p.load (script.withoutDead p.cast)).ahead := by
    have hlines : (script.lines.drop 0).filter (!·.isDead p.cast) =
        ((script.withoutDead p.cast).lines.drop 0).filter (!·.isDead p.cast) := by
      simp [Script.withoutDead, List.filter_filter]
    exact ahead_rescript_congr (p.load script) hlines
  have hahead : (history perform (p.load script) operations).map ahead =
      (history perform (p.load (script.withoutDead p.cast)) operations).map ahead := by
    refine map_history_congr ?_ hload
    intro operation _ first second hsame
    rw [← map_perform_ahead first, hsame, map_perform_ahead second]
  have hunscripted := congrArg (·.map unscripted) hahead
  rw [History.map_map, History.map_map] at hunscripted
  exact hunscripted

/-- A scene whose last lines are dead without a character of that name. -/
def emptyHanded : Script := ⟨[
  { speaker := "Aoi", text := "Who is there?" },
  { speaker := "", text := "_CHARA_NEW_Ghost" },
  { speaker := "", text := "_BG_MOVE_0.1" }]⟩

/-- Only who looks at the script sees that it is at its end. -/
example :
    let p := Performance.ofConfig .standard .empty .empty
    (p.load emptyHanded).advance.toOption.map (·.2.isFinished) = some false ∧
    (p.load (emptyHanded.withoutDead p.cast)).advance.toOption.map (·.2.isFinished) =
      some true := by
  decide +kernel

end Performance

end VisualNovel
