import VisualNovel.Event.Printer
import VisualNovel.Event.Source
import VisualNovel.Folder

namespace VisualNovel

/-- What every store can do. Saving replaces all rows; it answers with the store afterwards, also
when it fails. -/
class ProgressStore (σ : Type) where
  load : σ → Except LoadError (List Progress)
  save : σ → List Progress → Except LoadError Unit × σ

/-- Rows in memory, and how often they were saved. -/
structure MemoryStore where
  rows : List Progress := []
  saves : Nat := 0
deriving DecidableEq, Repr, Inhabited

/-- Rows in a file of a folder. A file that does not exist yet holds no rows. -/
structure FileStore where
  folder : Folder
  name : String

/-- What a session may use as its store: one that it is given, a file of the folder, or memory. -/
inductive Keeping (σ : Type)
  | given (store : σ)
  | file (name : String)
  | memory (store : MemoryStore)

/-- A store together with the folder that the session's files lie in. -/
structure Shelf (σ : Type) where
  folder : Folder
  keeping : Keeping σ

namespace MemoryStore

def load (store : MemoryStore) : Except LoadError (List Progress) :=
  .ok store.rows

def save (store : MemoryStore) (rows : List Progress) : Except LoadError Unit × MemoryStore :=
  (.ok (), ⟨rows, store.saves + 1⟩)

instance : ProgressStore MemoryStore := ⟨load, save⟩

end MemoryStore

namespace FileStore

def load (store : FileStore) : Except LoadError (List Progress) :=
  if store.folder.exists? store.name then store.folder.load Progress.listOfText? store.name
  else .ok []

def save (store : FileStore) (rows : List Progress) : Except LoadError Unit × FileStore :=
  match store.folder.write store.name (Progress.writeList rows) with
  | .ok folder => (.ok (), { store with folder })
  | .error reason => (.error (.file reason), store)

instance : ProgressStore FileStore := ⟨load, save⟩

end FileStore

namespace Shelf

variable {σ : Type} [ProgressStore σ]

def load (shelf : Shelf σ) : Except LoadError (List Progress) :=
  match shelf.keeping with
  | .given store => ProgressStore.load store
  | .file name => FileStore.load ⟨shelf.folder, name⟩
  | .memory store => store.load

def save (shelf : Shelf σ) (rows : List Progress) : Except LoadError Unit × Shelf σ :=
  match shelf.keeping with
  | .given store =>
      let (result, store) := ProgressStore.save store rows
      (result, { shelf with keeping := .given store })
  | .file name =>
      let (result, store) := FileStore.save ⟨shelf.folder, name⟩ rows
      (result, { shelf with folder := store.folder })
  | .memory store =>
      let (result, store) := store.save rows
      (result, { shelf with keeping := .memory store })

instance : ProgressStore (Shelf σ) := ⟨load, save⟩

end Shelf

end VisualNovel
