/-!
Scrolled text: a run of dialogue shown as a moving window of blocks, which becomes one entry of the
backlog when the scroll stops.
-/

namespace VisualNovel

inductive ScrollMode
  | idle
  | scrolling
deriving DecidableEq, Repr

/-- One paragraph of scrolled text. -/
structure Block where
  text : String
  speaker : String
  /-- The speaker differs from the one of the block before. -/
  isFirstLine : Bool
deriving DecidableEq, Repr

structure BacklogEntry where
  speaker : String
  text : String
deriving DecidableEq, Repr

structure Scroll where
  mode : ScrollMode := .idle
  /-- The window that the player sees, oldest block first. -/
  visible : List Block := []
  /-- Every block since the scroll was started. -/
  session : List Block := []
  currentSpeaker : String := ""
  lastSpeaker : String := ""
deriving DecidableEq, Repr, Inhabited

namespace Scroll

/-- How many blocks stay visible at once. -/
def windowSize : Nat := 3

def isScrolling (scroll : Scroll) : Bool :=
  scroll.mode == .scrolling

/-- The last blocks that fit into the window. -/
def lastBlocks (blocks : List Block) : List Block :=
  blocks.drop (blocks.length - windowSize)

/-- Opens a scroll with its first block; refused while one is open. -/
def start (scroll : Scroll) (speaker text : String) : Bool × Scroll :=
  match scroll.mode with
  | .scrolling => (false, scroll)
  | .idle =>
      let block : Block := ⟨text, speaker, true⟩
      (true,
        { mode := .scrolling
          visible := [block]
          session := [block]
          currentSpeaker := speaker
          lastSpeaker := speaker })

/-- Appends a block, by the current speaker unless another one is given; refused while idle. -/
def add (scroll : Scroll) (text : String) (speaker : Option String) : Bool × Scroll :=
  match scroll.mode with
  | .idle => (false, scroll)
  | .scrolling =>
      let speaker := speaker.getD scroll.currentSpeaker
      let block : Block := ⟨text, speaker, speaker != scroll.lastSpeaker⟩
      (true,
        { scroll with
          visible := lastBlocks (scroll.visible ++ [block])
          session := scroll.session ++ [block]
          currentSpeaker := speaker
          lastSpeaker := speaker })

/-- Every block of the session as one entry under the last speaker's name. -/
def entry (scroll : Scroll) : BacklogEntry where
  speaker := scroll.lastSpeaker
  text := String.join (scroll.session.map Block.text)

/-- Closes the scroll and hands its text to the end of the backlog; refused while idle. -/
def stop (scroll : Scroll) (backlog : List BacklogEntry) :
    Bool × Scroll × List BacklogEntry :=
  match scroll.mode with
  | .idle => (false, scroll, backlog)
  | .scrolling => (true, {}, backlog ++ [scroll.entry])

end Scroll

end VisualNovel
