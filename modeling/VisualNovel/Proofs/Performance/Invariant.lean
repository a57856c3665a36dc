import VisualNovel.Proofs.Performance.Advance

namespace VisualNovel.Performance

/-- What everything that can happen to a performance keeps. -/
structure Invariant (holds : Performance → Prop) : Prop where
  load : ∀ p script, holds p → holds (p.load script)
  moveTo : ∀ p cursor, holds p → holds (p.moveTo cursor)
  execute : ∀ p q line command, Line.command? line = some command → holds p →
    p.execute command = .ok q → holds q
  present : ∀ p line, holds p → holds (p.present line)
  tick : ∀ p now, holds p → holds (p.tick now)
  drain : ∀ p : Performance, holds p → holds { p with backlog := [] }
  setName : ∀ p identity name, holds p → holds (p.setName identity name)

namespace Invariant

variable {holds : Performance → Prop} {p q : Performance}

theorem executeAll (hinv : Invariant holds) {lines : List Line} (h : holds p)
    (hexecute : p.executeAll (lines.filterMap Line.command?) = .ok q) : holds q := by
  refine executeAll_induction h ?_ hexecute
  intro p q command hcommand hp hstep
  obtain ⟨line, -, hline⟩ := List.mem_filterMap.mp hcommand
  exact hinv.execute p q line command hline hp hstep

theorem advance (hinv : Invariant holds) {waits : Bool} (h : holds p)
    (hadvance : p.advance = .ok (waits, q)) : holds q := by
  rcases advance_cases hadvance with
    ⟨before, line, after, r, -, -, -, hexecute, -, rfl⟩ | ⟨r, -, hexecute, -, rfl⟩
  · exact hinv.present _ line (hinv.moveTo r _ (hinv.executeAll h hexecute))
  · exact hinv.moveTo r _ (hinv.executeAll h hexecute)

theorem perform (hinv : Invariant holds) {operation : Operation} {answer : Answer} (h : holds p)
    (hperform : p.perform operation = .ok (answer, q)) : holds q := by
  rcases perform_cases hperform with ⟨script, -, -, rfl⟩ | ⟨waits, -, -, hadvance⟩ |
    ⟨now, -, -, rfl⟩ | ⟨-, -, rfl⟩ | ⟨identity, name, -, -, rfl⟩
  · exact hinv.load p script h
  · exact hinv.advance h hadvance
  · exact hinv.tick p now h
  · exact hinv.drain p h
  · exact hinv.setName p identity name h

theorem of_run (hinv : Invariant holds) {start : Performance} (hstart : holds start)
    {operations : List Operation} {deeds : List Deed}
    (hrun : run Performance.perform start operations = .ok (deeds, p)) : holds p :=
  Run.run_induction (motive := fun _ p => holds p) hstart
    (fun _ _ _ _ _ h hstep => hinv.perform h hstep) hrun

end Invariant

end VisualNovel.Performance
