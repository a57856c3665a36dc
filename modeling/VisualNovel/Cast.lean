import Std.Data.ExtTreeMap
import Std.Data.ExtTreeSet
import VisualNovel.Expression
import VisualNovel.Geometry

namespace VisualNovel

/-- A character that may be put on stage. -/
structure Identity where
  name : String
  displayName : Option String := none
  /-- Width and height of the sprite in pixels at zoom 1. -/
  spriteExtent : Point
  defaultExpression : Expression := {}
deriving DecidableEq, Repr

/-- The characters by name, and the names of the backgrounds. -/
structure Cast where
  characters : Std.ExtTreeMap String Identity
  backgrounds : Std.ExtTreeSet String
  name_eq : ∀ (name : String) (identity : Identity),
    characters[name]? = some identity → identity.name = name

/-- Names chosen by the player, by identity. -/
structure NameBook where
  names : Std.ExtTreeMap String String

namespace Cast

def empty : Cast where
  characters := ∅
  backgrounds := ∅
  name_eq := by simp

instance : Inhabited Cast := ⟨empty⟩

/-- A later character of the same name replaces the earlier one. -/
def register (cast : Cast) (identity : Identity) : Cast :=
  { cast with
    characters := cast.characters.insert identity.name identity
    name_eq := by
      intro name found h
      rw [Std.ExtTreeMap.getElem?_insert] at h
      split at h
      · rename_i heq
        cases h
        exact Std.LawfulEqCmp.eq_of_compare heq
      · exact cast.name_eq name found h }

def registerBackground (cast : Cast) (name : String) : Cast :=
  { cast with backgrounds := cast.backgrounds.insert name }

def ofLists (characters : List Identity) (backgrounds : List String) : Cast :=
  backgrounds.foldl registerBackground (characters.foldl register empty)

def find? (cast : Cast) (name : String) : Option Identity :=
  cast.characters[name]?

def contains (cast : Cast) (name : String) : Bool :=
  cast.characters.contains name

def hasBackground (cast : Cast) (name : String) : Bool :=
  cast.backgrounds.contains name

def size (cast : Cast) : Nat :=
  cast.characters.size

def isEmpty (cast : Cast) : Bool :=
  cast.characters.isEmpty

end Cast

namespace NameBook

def empty : NameBook := ⟨∅⟩

instance : Inhabited NameBook := ⟨empty⟩

def set (book : NameBook) (identity name : String) : NameBook :=
  ⟨book.names.insert identity name⟩

def get? (book : NameBook) (identity : String) : Option String :=
  book.names[identity]?

/-- The name chosen by the player, else the character's display name, else its identity. -/
def displayName (book : NameBook) (identity : Identity) : String :=
  ((book.get? identity.name).or identity.displayName).getD identity.name

end NameBook

end VisualNovel
