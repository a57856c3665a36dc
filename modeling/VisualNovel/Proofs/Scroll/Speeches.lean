import VisualNovel.Scroll

namespace VisualNovel

/-- A text and the name under which it was shown. -/
structure Speech where
  name : String
  text : String
deriving DecidableEq, Repr

namespace Speech

/-- The entry of the backlog for speeches that were scrolled together. -/
def entryOf (speeches : List Speech) : BacklogEntry where
  speaker := (speeches.getLast?.map name).getD ""
  text := String.join (speeches.map text)

end Speech

def Block.speech (block : Block) : Speech :=
  ⟨block.speaker, block.text⟩

namespace Scroll

/-- The scroll holds the speeches, and is idle when there are none. -/
structure Holds (scroll : Scroll) (speeches : List Speech) : Prop where
  session : scroll.session.map Block.speech = speeches
  isScrolling : scroll.isScrolling = true ↔ speeches ≠ []
  lastSpeaker : ∀ speech, speeches.getLast? = some speech → scroll.lastSpeaker = speech.name

variable {scroll : Scroll} {speeches : List Speech}

theorem holds_empty : ({} : Scroll).Holds [] where
  session := rfl
  isScrolling := by simp [Scroll.isScrolling]
  lastSpeaker := by simp

theorem Holds.mode_eq_idle (h : scroll.Holds []) : scroll.mode = .idle := by
  cases hmode : scroll.mode with
  | idle => rfl
  | scrolling =>
      have hscrolling : scroll.isScrolling = true := by simp [Scroll.isScrolling, hmode]
      exact absurd rfl (h.isScrolling.mp hscrolling)

theorem Holds.mode_eq_scrolling (h : scroll.Holds speeches) (hne : speeches ≠ []) :
    scroll.mode = .scrolling := by
  simpa [Scroll.isScrolling] using h.isScrolling.mpr hne

theorem Holds.start (h : scroll.Holds []) (name text : String) :
    (scroll.start name text).2.Holds [⟨name, text⟩] := by
  rw [Scroll.start, h.mode_eq_idle]
  constructor
  · rfl
  · simp [Scroll.isScrolling]
  · intro speech hspeech
    cases hspeech
    rfl

theorem Holds.add (h : scroll.Holds speeches) (hne : speeches ≠ []) (name text : String) :
    (scroll.add text (some name)).2.Holds (speeches ++ [⟨name, text⟩]) := by
  rw [Scroll.add, h.mode_eq_scrolling hne]
  constructor
  · simp [h.session, Block.speech]
  · simp [Scroll.isScrolling]
  · intro speech hspeech
    rw [List.getLast?_append] at hspeech
    cases hspeech
    rfl

theorem Holds.stop_idle (h : scroll.Holds []) (backlog : List BacklogEntry) :
    scroll.stop backlog = (false, scroll, backlog) := by
  rw [Scroll.stop, h.mode_eq_idle]

theorem Holds.entry_eq (h : scroll.Holds speeches) (hne : speeches ≠ []) :
    scroll.entry = Speech.entryOf speeches := by
  have hlast := List.getLast?_eq_some_getLast hne
  have htexts : scroll.session.map Block.text = speeches.map Speech.text := by
    rw [← h.session, List.map_map]
    rfl
  rw [Scroll.entry, Speech.entryOf, h.lastSpeaker _ hlast, hlast, htexts]
  rfl

theorem Holds.stop (h : scroll.Holds speeches) (hne : speeches ≠ [])
    (backlog : List BacklogEntry) :
    scroll.stop backlog = (true, {}, backlog ++ [Speech.entryOf speeches]) := by
  rw [Scroll.stop, h.mode_eq_scrolling hne, h.entry_eq hne]

end Scroll

end VisualNovel
