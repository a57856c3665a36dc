import Mathlib.Data.List.Chain
import VisualNovel.Scroll

namespace VisualNovel.Scroll

inductive Operation
  | start (speaker text : String)
  | add (text : String) (speaker : Option String)
  | stop
deriving DecidableEq, Repr

namespace Operation

/-- The mode that an operation is meant for; in the other one it is refused. -/
def mode : Operation → ScrollMode
  | start .. => .idle
  | add .. => .scrolling
  | stop => .scrolling

end Operation

def perform (scroll : Scroll) (backlog : List BacklogEntry) :
    Operation → Bool × Scroll × List BacklogEntry
  | .start speaker text =>
      ((scroll.start speaker text).1, (scroll.start speaker text).2, backlog)
  | .add text speaker => ((scroll.add text speaker).1, (scroll.add text speaker).2, backlog)
  | .stop => scroll.stop backlog

def performAll (scroll : Scroll) (backlog : List BacklogEntry) (operations : List Operation) :
    Scroll × List BacklogEntry :=
  operations.foldl (fun state operation => (perform state.1 state.2 operation).2) (scroll, backlog)

/-- A block is marked if its speaker is not the one of the block before it. -/
def Marked (before block : Block) : Prop :=
  block.isFirstLine = true ↔ block.speaker ≠ before.speaker

/-- The block that an open scroll appends. -/
def nextBlock (scroll : Scroll) (text : String) (speaker : Option String) : Block where
  text := text
  speaker := speaker.getD scroll.currentSpeaker
  isFirstLine := speaker.getD scroll.currentSpeaker != scroll.lastSpeaker

/-- What holds of an open scroll and its last block. -/
structure EndsWith (scroll : Scroll) (last : Block) : Prop where
  mode : scroll.mode = .scrolling
  getLast? : scroll.session.getLast? = some last
  visible : scroll.visible <:+ scroll.session
  length_visible : scroll.visible.length = min 3 scroll.session.length
  currentSpeaker : scroll.currentSpeaker = last.speaker
  lastSpeaker : scroll.lastSpeaker = last.speaker
  first : ∀ block ∈ scroll.session.head?, block.isFirstLine = true
  marked : scroll.session.IsChain Marked

section Operations

variable {scroll : Scroll} {last : Block} {operation : Operation}

theorem start_eq (h : scroll.mode = .idle) (speaker text : String) :
    scroll.start speaker text =
      (true, ⟨.scrolling, [⟨text, speaker, true⟩], [⟨text, speaker, true⟩], speaker, speaker⟩) := by
  rw [start, h]

theorem add_eq (h : scroll.mode = .scrolling) (text : String) (speaker : Option String) :
    scroll.add text speaker = (true, { scroll with
      visible := lastBlocks (scroll.visible ++ [scroll.nextBlock text speaker])
      session := scroll.session ++ [scroll.nextBlock text speaker]
      currentSpeaker := (scroll.nextBlock text speaker).speaker
      lastSpeaker := (scroll.nextBlock text speaker).speaker }) := by
  rw [add, h]
  rfl

theorem stop_eq (h : scroll.mode = .scrolling) (backlog : List BacklogEntry) :
    scroll.stop backlog = (true, {}, backlog ++ [scroll.entry]) := by
  rw [stop, h]

theorem perform_refused (h : operation.mode ≠ scroll.mode) (backlog : List BacklogEntry) :
    scroll.perform backlog operation = (false, scroll, backlog) := by
  cases hmode : scroll.mode with
  | idle =>
      cases operation with
      | start speaker text => exact absurd hmode.symm h
      | add text speaker => simp [perform, add, hmode]
      | stop => simp [perform, stop, hmode]
  | scrolling =>
      cases operation with
      | start speaker text => simp [perform, start, hmode]
      | add text speaker => exact absurd hmode.symm h
      | stop => exact absurd hmode.symm h

theorem perform_accepted (h : operation.mode = scroll.mode) (backlog : List BacklogEntry) :
    (scroll.perform backlog operation).1 = true := by
  cases operation with
  | start speaker text => rw [perform, start_eq h.symm]
  | add text speaker => rw [perform, add_eq h.symm]
  | stop => rw [perform, stop_eq h.symm]

theorem lastBlocks_suffix (blocks : List Block) : lastBlocks blocks <:+ blocks :=
  List.drop_suffix _ _

theorem length_lastBlocks (blocks : List Block) :
    (lastBlocks blocks).length = min 3 blocks.length := by
  rw [lastBlocks, List.length_drop, windowSize]
  omega

theorem endsWith_start (h : scroll.mode = .idle) (speaker text : String) :
    (scroll.start speaker text).2.EndsWith ⟨text, speaker, true⟩ := by
  rw [start_eq h]
  constructor <;> simp

theorem EndsWith.add (h : scroll.EndsWith last) (text : String) (speaker : Option String) :
    (scroll.add text speaker).2.EndsWith (scroll.nextBlock text speaker) := by
  have hne : scroll.session ≠ [] := by
    intro hnil
    have hlast := h.getLast?
    rw [hnil] at hlast
    cases hlast
  rw [add_eq h.mode]
  constructor
  · exact h.mode
  · exact List.getLast?_concat
  · -- The window of the blocks that were visible is one of all blocks.
    exact (lastBlocks_suffix _).trans (List.suffix_append_self_iff.mpr h.visible)
  · simp only [length_lastBlocks, List.length_append, List.length_singleton, h.length_visible]
    omega
  · rfl
  · rfl
  · simpa only [List.head?_append_of_ne_nil _ hne] using h.first
  · refine List.isChain_append.mpr ⟨h.marked, List.isChain_singleton _, ?_⟩
    rintro before hbefore block ⟨⟩
    obtain rfl : last = before := Option.some.inj (h.getLast?.symm.trans hbefore)
    rw [Marked, ← h.lastSpeaker]
    exact bne_iff_ne

end Operations

/-- Idle scrolls are empty ones. -/
def Consistent (scroll : Scroll) : Prop :=
  scroll = {} ∨ ∃ last, scroll.EndsWith last

theorem Consistent.perform {scroll : Scroll} (h : scroll.Consistent) (backlog : List BacklogEntry)
    (operation : Operation) : (scroll.perform backlog operation).2.1.Consistent := by
  by_cases hmode : operation.mode = scroll.mode
  · cases operation with
    | start speaker text => exact .inr ⟨_, endsWith_start hmode.symm speaker text⟩
    | add text speaker =>
        rcases h with rfl | ⟨last, hlast⟩
        · cases hmode
        · exact .inr ⟨_, hlast.add text speaker⟩
    | stop =>
        rw [Scroll.perform, stop_eq hmode.symm]
        exact .inl rfl
  · rw [perform_refused hmode]
    exact h

theorem Consistent.performAll {scroll : Scroll} (h : scroll.Consistent)
    (backlog : List BacklogEntry) (operations : List Operation) :
    (scroll.performAll backlog operations).1.Consistent :=
  List.foldlRecOn (motive := fun state : Scroll × _ => state.1.Consistent) operations _ h
    fun state hstate operation _ => hstate.perform state.2 operation

/-- Whatever was done with a scroll, it is empty while it is idle. While it is open, the last three
of its blocks are visible, or all if there are fewer, the last of them tells who speaks, and each
block is marked that does not continue the speech before it. An operation is refused exactly in the
other mode, and then nothing changes. -/
theorem blocks_fit_together (backlog : List BacklogEntry) (operations : List Operation)
    {scroll : Scroll} {entries : List BacklogEntry}
    (hrun : performAll {} backlog operations = (scroll, entries)) :
    (scroll.mode = .idle → scroll.visible = [] ∧ scroll.session = [] ∧
      scroll.currentSpeaker = "" ∧ scroll.lastSpeaker = "") ∧
    (scroll.mode = .scrolling → ∃ last, scroll.session.getLast? = some last ∧
      scroll.visible <:+ scroll.session ∧
      scroll.visible.length = min 3 scroll.session.length ∧
      scroll.currentSpeaker = last.speaker ∧ scroll.lastSpeaker = last.speaker ∧
      (∀ block ∈ scroll.session.head?, block.isFirstLine = true) ∧
      scroll.session.IsChain Marked) ∧
    ∀ operation : Operation,
      (operation.mode = scroll.mode → (scroll.perform entries operation).1 = true) ∧
      (operation.mode ≠ scroll.mode →
        scroll.perform entries operation = (false, scroll, entries)) := by
  have hconsistent : scroll.Consistent := by
    have hstart : Consistent {} := .inl rfl
    have hend := hstart.performAll backlog operations
    rwa [hrun] at hend
  refine ⟨?_, ?_, ?_⟩
  · intro hidle
    rcases hconsistent with rfl | ⟨last, hlast⟩
    · exact ⟨rfl, rfl, rfl, rfl⟩
    · rw [hlast.mode] at hidle
      cases hidle
  · intro hscrolling
    rcases hconsistent with rfl | ⟨last, hlast⟩
    · cases hscrolling
    · exact ⟨last, hlast.getLast?, hlast.visible, hlast.length_visible, hlast.currentSpeaker,
        hlast.lastSpeaker, hlast.first, hlast.marked⟩
  · intro operation
    exact ⟨fun hmode => perform_accepted hmode entries,
      fun hmode => perform_refused hmode entries⟩

/-- A scroll that is closed once, opened again, and outgrows its window. -/
def longTalk : List Operation := [
  .add "Lost." none, .start "Aoi" "Hm.", .stop, .stop,
  .start "Ren" "Look, ", .add "stars." none, .add "Where?" (some "Aoi"), .start "Mio" "Hi!",
  .add "There, " (some "Ren"), .add "above." none]

theorem longTalk_fits_together : ∃ scroll entries,
    performAll {} [] longTalk = (scroll, entries) ∧ entries = [⟨"Aoi", "Hm."⟩] ∧
    scroll.session.map Block.isFirstLine = [true, false, true, true, false] ∧
    scroll.visible <:+ scroll.session ∧ scroll.visible.length = 3 ∧
    scroll.perform entries (.start "Mio" "Hi!") = (false, scroll, entries) := by
  obtain ⟨⟨scroll, entries⟩, hrun⟩ :
      ∃ state, performAll {} [] longTalk = state := ⟨_, rfl⟩
  obtain ⟨-, hopen, hoperation⟩ := blocks_fit_together [] longTalk hrun
  have hend : (performAll {} [] longTalk).1.mode = .scrolling ∧
      (performAll {} [] longTalk).2 = [⟨"Aoi", "Hm."⟩] ∧
      (performAll {} [] longTalk).1.session.map Block.isFirstLine =
        [true, false, true, true, false] := by decide
  rw [hrun] at hend
  obtain ⟨hmode, hentries, hmarks⟩ := hend
  obtain ⟨last, -, hvisible, hlength, -⟩ := hopen hmode
  have hblocks : scroll.session.length = 5 := by simpa using congrArg List.length hmarks
  refine ⟨scroll, entries, hrun, hentries, hmarks, hvisible, ?_, ?_⟩
  · rw [hlength, hblocks]
    rfl
  · apply (hoperation (.start "Mio" "Hi!")).2
    rw [hmode]
    decide

end VisualNovel.Scroll
