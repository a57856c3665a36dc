import VisualNovel.Proofs.Performance.Advance
import VisualNovel.Proofs.Scroll.Speeches

namespace VisualNovel.Performance

/-- The line at the cursor. -/
def line? (p : Performance) : Option Line :=
  p.cursor.bind (p.script.lines[·]?)

theorem line?_present {p r : Performance} {commands : List Command} {before after : List Line}
    {line : Line} (hlines : p.script.lines.drop p.next = before ++ line :: after)
    (hexecute : p.executeAll commands = .ok r) :
    ((r.moveTo (some (p.next + before.length))).present line).line? = some line := by
  obtain ⟨stage, scroll, scrollMode, backlog, rfl⟩ := executeAll_frame hexecute
  rw [line?, present_cursor, present_script]
  change p.script.lines[p.next + before.length]? = some line
  rw [← List.getElem?_drop, hlines]
  simp

/-- The speech that a step of a run sent to the scroll: the line on which an advance stopped, when
dialogue goes to the scroll. -/
def scrolled? (deed : Deed) : Option Speech :=
  if deed.answer = .waits true ∧ deed.state.scrollMode = true then
    deed.state.line?.map fun line => ⟨deed.state.shownName line, line.text⟩
  else none

/-- The speeches that a run sent to the scroll, in order. -/
def scrolledSpeeches (deeds : List Deed) : List Speech :=
  deeds.filterMap scrolled?

/-- The entries that an answer hands out. -/
def Answer.drained : Answer → List BacklogEntry
  | .entries taken => taken
  | _ => []

/-- The entries that a run took out of the backlog, in order. -/
def drainedEntries (deeds : List Deed) : List BacklogEntry :=
  deeds.flatMap (·.answer.drained)

theorem scrolledSpeeches_concat (past : List Deed) (deed : Deed) :
    scrolledSpeeches (past ++ [deed]) = scrolledSpeeches past ++ (scrolled? deed).toList := by
  cases hdeed : scrolled? deed <;> simp [scrolledSpeeches, hdeed]

theorem drainedEntries_concat (past : List Deed) (deed : Deed) :
    drainedEntries (past ++ [deed]) = drainedEntries past ++ deed.answer.drained := by
  simp [drainedEntries]

/-- The speeches are those of the entries, group by group, and behind them those of the scroll. -/
def Accounts (p : Performance) (speeches : List Speech) (drained : List BacklogEntry) : Prop :=
  ∃ (closed : List (List Speech)) (pending : List Speech),
    speeches = closed.flatten ++ pending ∧ (∀ group ∈ closed, group ≠ []) ∧
    drained ++ p.backlog = closed.map Speech.entryOf ∧ p.scroll.Holds pending

variable {p q : Performance} {speeches : List Speech} {drained : List BacklogEntry}

theorem Accounts.execute {command : Command} (h : p.Accounts speeches drained)
    (hexecute : p.execute command = .ok q) : q.Accounts speeches drained := by
  obtain ⟨closed, pending, hspeeches, hclosed, hentries, hholds⟩ := h
  rcases execute_cases hexecute with ⟨stage, rfl⟩ | rfl | rfl
  · exact ⟨closed, pending, hspeeches, hclosed, hentries, hholds⟩
  · exact ⟨closed, pending, hspeeches, hclosed, hentries, hholds⟩
  · cases pending with
    | nil =>
        rw [hholds.stop_idle]
        exact ⟨closed, [], hspeeches, hclosed, hentries, hholds⟩
    | cons speech pending =>
        -- The open scroll becomes the last closed group.
        rw [hholds.stop (by simp)]
        refine ⟨closed ++ [speech :: pending], [], ?_, ?_, ?_, Scroll.holds_empty⟩
        · simp [hspeeches]
        · simpa [or_imp, forall_and] using hclosed
        · rw [← List.append_assoc, hentries, List.map_append, List.map_singleton]

theorem Accounts.executeAll {commands : List Command} (h : p.Accounts speeches drained)
    (hexecute : p.executeAll commands = .ok q) : q.Accounts speeches drained :=
  executeAll_induction (motive := fun q => q.Accounts speeches drained) h
    (fun _ _ _ _ hq hstep => hq.execute hstep) hexecute

theorem Accounts.moveTo (h : p.Accounts speeches drained) (cursor : Option Nat) :
    (p.moveTo cursor).Accounts speeches drained := h

theorem Accounts.load (h : p.Accounts speeches drained) (script : Script) :
    (p.load script).Accounts speeches drained := h

theorem Accounts.tick (h : p.Accounts speeches drained) (now : UInt64) :
    (p.tick now).Accounts speeches drained := h

theorem Accounts.setName (h : p.Accounts speeches drained) (identity name : String) :
    (p.setName identity name).Accounts speeches drained := h

theorem Accounts.drain (h : p.Accounts speeches drained) :
    Accounts { p with backlog := [] } speeches (drained ++ p.backlog) := by
  obtain ⟨closed, pending, hspeeches, hclosed, hentries, hholds⟩ := h
  exact ⟨closed, pending, hspeeches, hclosed, by simpa using hentries, hholds⟩

theorem Accounts.present_text (h : p.Accounts speeches drained) (line : Line)
    (hmode : p.scrollMode = false) : (p.present line).Accounts speeches drained := by
  rw [present_eq, hmode]
  exact h

theorem Accounts.present_scroll (h : p.Accounts speeches drained) (line : Line)
    (hmode : p.scrollMode = true) :
    (p.present line).Accounts (speeches ++ [⟨p.shownName line, line.text⟩]) drained := by
  obtain ⟨closed, pending, rfl, hclosed, hentries, hholds⟩ := h
  refine ⟨closed, pending ++ [⟨p.shownName line, line.text⟩], by simp, hclosed,
    by simpa using hentries, ?_⟩
  rw [present_eq, hmode]
  cases pending with
  | nil =>
      have hidle : p.scroll.isScrolling = false := by
        simp [Scroll.isScrolling, hholds.mode_eq_idle]
      simpa [hidle] using hholds.start (p.shownName line) line.text
  | cons speech pending =>
      have hscrolling : p.scroll.isScrolling = true := hholds.isScrolling.mpr (by simp)
      simpa [hscrolling] using hholds.add (by simp) (p.shownName line) line.text

theorem Accounts.advance {waits : Bool} (h : p.Accounts speeches drained)
    (hadvance : p.advance = .ok (waits, q)) :
    q.Accounts (speeches ++ (scrolled? ⟨.advance, .waits waits, q⟩).toList) drained := by
  rcases advance_cases hadvance with
    ⟨before, line, after, r, hlines, -, -, hexecute, rfl, rfl⟩ | ⟨r, -, hexecute, rfl, rfl⟩
  · have hr := (h.executeAll hexecute).moveTo (some (p.next + before.length))
    have hline := line?_present hlines hexecute
    cases hmode : (r.moveTo (some (p.next + before.length))).scrollMode with
    | false => simpa [scrolled?, hmode] using hr.present_text line hmode
    | true => simpa [scrolled?, hmode, hline] using hr.present_scroll line hmode
  · simpa [scrolled?] using (h.executeAll hexecute).moveTo _

/-- Scrolled text is neither lost nor doubled nor reordered: the speeches that a run sent to the
scroll fall into groups, of which the closed ones are the entries of the backlog, drained or not,
and the last one is in the open scroll. -/
theorem scrolled_speeches_are_kept (config : Config) (cast : Cast) (names : NameBook)
    {operations : List Operation} {deeds : List Deed} {p : Performance}
    (hrun : run perform (.ofConfig config cast names) operations = .ok (deeds, p)) :
    ∃ (closed : List (List Speech)) (pending : List Speech),
      scrolledSpeeches deeds = closed.flatten ++ pending ∧
      (∀ group ∈ closed, group ≠ []) ∧
      drainedEntries deeds ++ p.backlog = closed.map Speech.entryOf ∧
      p.scroll.session.map Block.speech = pending ∧
      (p.scroll.isScrolling = true ↔ pending ≠ []) := by
  have haccounts : p.Accounts (scrolledSpeeches deeds) (drainedEntries deeds) := by
    refine Run.run_induction
      (motive := fun deeds p => p.Accounts (scrolledSpeeches deeds) (drainedEntries deeds))
      ⟨[], [], rfl, by simp, rfl, Scroll.holds_empty⟩ ?_ hrun
    intro past p operation answer q h hstep
    rw [scrolledSpeeches_concat, drainedEntries_concat]
    rcases perform_cases hstep with ⟨script, rfl, rfl, rfl⟩ | ⟨waits, rfl, rfl, hadvance⟩ |
      ⟨now, rfl, rfl, rfl⟩ | ⟨rfl, rfl, rfl⟩ | ⟨identity, name, rfl, rfl, rfl⟩
    · simpa [scrolled?, Answer.drained] using h.load script
    · simpa [Answer.drained] using h.advance hadvance
    · simpa [scrolled?, Answer.drained] using h.tick now
    · simpa [scrolled?, Answer.drained] using h.drain
    · simpa [scrolled?, Answer.drained] using h.setName identity name
  obtain ⟨closed, pending, hspeeches, hclosed, hentries, hholds⟩ := haccounts
  exact ⟨closed, pending, hspeeches, hclosed, hentries, hholds.session, hholds.isScrolling⟩

/-- A scroll that is opened in one scene and closed in the next. -/
def scrollAcrossScenes : List Operation := [
  .load ⟨[
    { speaker := "", text := "_SCROLL_START" },
    { speaker := "Aoi", text := "Stars " }]⟩,
  .advance,
  .load ⟨[
    { speaker := "Ren", text := "fall." },
    { speaker := "", text := "_SCROLL_STOP" }]⟩,
  .advance,
  .advance,
  .drainBacklog]

theorem scrollAcrossScenes_speeches_are_kept : ∃ deeds p,
    run perform (.ofConfig .standard .empty .empty) scrollAcrossScenes = .ok (deeds, p) ∧
    scrolledSpeeches deeds = [⟨"Aoi", "Stars "⟩, ⟨"Ren", "fall."⟩] ∧
    drainedEntries deeds = [⟨"Ren", "Stars fall."⟩] ∧
    ∃ (closed : List (List Speech)) (pending : List Speech),
      scrolledSpeeches deeds = closed.flatten ++ pending ∧
      drainedEntries deeds ++ p.backlog = closed.map Speech.entryOf := by
  obtain ⟨⟨deeds, p⟩, hrun⟩ : ∃ result,
      run perform (.ofConfig .standard .empty .empty) scrollAcrossScenes = .ok result := ⟨_, rfl⟩
  have htexts : (run perform (.ofConfig .standard .empty .empty) scrollAcrossScenes).map
      (fun result => (scrolledSpeeches result.1, drainedEntries result.1)) =
        .ok ([⟨"Aoi", "Stars "⟩, ⟨"Ren", "fall."⟩], [⟨"Ren", "Stars fall."⟩]) := by rfl
  rw [hrun] at htexts
  simp only [Except.map, Except.ok.injEq, Prod.mk.injEq] at htexts
  obtain ⟨closed, pending, hspeeches, -, hentries, -⟩ :=
    scrolled_speeches_are_kept .standard .empty .empty hrun
  exact ⟨deeds, p, hrun, htexts.1, htexts.2, closed, pending, hspeeches, hentries⟩

end VisualNovel.Performance
