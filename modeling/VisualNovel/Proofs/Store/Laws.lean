import VisualNovel.Proofs.Event.RoundTrip
import VisualNovel.Store

namespace VisualNovel

/-- A store that gives back what was saved last. -/
class LawfulProgressStore (σ : Type) [ProgressStore σ] : Prop where
  load_of_saved : ∀ (store : σ) (rows : List Progress),
    (ProgressStore.save store rows).1 = .ok () →
      ProgressStore.load (ProgressStore.save store rows).2 = .ok rows
  load_of_failed : ∀ (store : σ) (rows : List Progress) (reason : LoadError),
    (ProgressStore.save store rows).1 = .error reason →
      ProgressStore.load (ProgressStore.save store rows).2 = ProgressStore.load store

instance : LawfulProgressStore MemoryStore where
  load_of_saved := fun _ _ _ => rfl
  load_of_failed := fun _ _ _ hfailed => nomatch hfailed

namespace Folder

/-- The folder with a text at a location. -/
def withFile (folder : Folder) (location text : String) : Folder :=
  { folder with files := folder.files.insert location text }

@[simp] theorem isFolder_withFile (folder : Folder) (location text other : String) :
    (folder.withFile location text).isFolder other = folder.isFolder other := rfl

theorem follow_withFile (folder : Folder) (location text : String) (parts : List String)
    (start : String) (hfollow : folder.follow start parts = .ok (.file location) ∨
      folder.follow start parts = .ok (.free location)) :
    (folder.withFile location text).follow start parts = .ok (.file location) := by
  induction parts generalizing start with
  | nil =>
      rcases hfollow with hfollow | hfollow
      · cases hfollow
      · cases hfollow
  | cons part parts ih =>
      rw [follow] at hfollow ⊢
      by_cases hstay : part = "" ∨ part = "."
      · rw [if_pos hstay] at hfollow ⊢
        exact ih start hfollow
      rw [if_neg hstay] at hfollow ⊢
      by_cases hup : part = ".."
      · rw [if_pos hup] at hfollow ⊢
        exact ih (parent start) hfollow
      rw [if_neg hup] at hfollow ⊢
      by_cases hlong : nameLimit < part.utf8ByteSize
      · simp [hlong] at hfollow
      rw [if_neg hlong] at hfollow ⊢
      by_cases hfolder : folder.isFolder (child start part)
      · simp only [hfolder, isFolder_withFile, ↓reduceIte] at hfollow ⊢
        exact ih (child start part) hfollow
      · -- The path ends here, and what it leads to is the location.
        simp only [hfolder, isFolder_withFile, Bool.false_eq_true, ↓reduceIte] at hfollow ⊢
        by_cases hlast : parts = []
        · have hlocation : child start part = location := by
            simp only [hlast, ↓reduceIte] at hfollow
            split at hfollow <;> simpa using hfollow
          simp [hlast, hlocation, withFile]
        · simp only [hlast, ↓reduceIte] at hfollow
          split at hfollow <;> simp at hfollow

theorem locate_withFile (folder : Folder) (location text path : String)
    (hlocate : folder.locate path = .ok (.file location) ∨
      folder.locate path = .ok (.free location)) :
    (folder.withFile location text).locate path = .ok (.file location) := by
  rw [locate] at hlocate ⊢
  split at hlocate
  · simp at hlocate
  rename_i hempty
  split at hlocate
  · simp at hlocate
  rename_i hzero
  split at hlocate
  · simp at hlocate
  rename_i hlong
  simp only [hempty, hzero, hlong, ↓reduceIte]
  exact follow_withFile folder location text _ _ hlocate

/-- What is written to a path is read from it. -/
theorem read_of_write {folder next : Folder} {path text : String}
    (hwrite : folder.write path text = .ok next) :
    next.exists? path = true ∧ next.read path = .ok text := by
  have hnext : ∃ location, (folder.locate path = .ok (.file location) ∨
      folder.locate path = .ok (.free location)) ∧ next = folder.withFile location text := by
    rw [write] at hwrite
    split at hwrite <;> cases hwrite
    · exact ⟨_, .inl ‹_›, rfl⟩
    · exact ⟨_, .inr ‹_›, rfl⟩
  obtain ⟨location, hlocate, rfl⟩ := hnext
  have hfile := locate_withFile folder location text path hlocate
  have hfound : (folder.withFile location text).files[location]? = some text := by
    simp [withFile]
  constructor
  · simp [exists?, hfile]
  · simp [read, hfile, hfound]

end Folder

theorem rowsOfText?_write {Row : Type} {toDatum : Row → Datum} {ofDatum? : Datum → Option Row}
    {rows : List Row} (hreadable : (Datum.list (rows.map toDatum)).Readable Scan.stepLimit)
    (hread : ∀ row, ofDatum? (toDatum row) = some row) :
    rowsOfText? ofDatum? (Datum.list (rows.map toDatum)).write = some rows := by
  have hrows : (rows.map toDatum).filterMap ofDatum? = rows := by
    have hrow : ofDatum? ∘ toDatum = some := funext hread
    rw [List.filterMap_map, hrow, List.filterMap_some]
  rw [rowsOfText?, Document.read_write hreadable]
  simp [hreadable.isPlain, hrows]

namespace FileStore

theorem load_of_saved (store : FileStore) (rows : List Progress)
    (hsaved : (store.save rows).1 = .ok ()) : (store.save rows).2.load = .ok rows := by
  rw [save] at hsaved ⊢
  split at hsaved
  · rename_i folder hwrite
    obtain ⟨hexists, hread⟩ := Folder.read_of_write hwrite
    have hreadable : (Datum.list (rows.map Progress.toDatum)).Readable Scan.stepLimit := by
      refine .list fun item hitem => ?_
      obtain ⟨row, -, rfl⟩ := List.mem_map.mp hitem
      exact row.readable_toDatum 119
    have hrows : Progress.listOfText? (Progress.writeList rows) = some rows :=
      rowsOfText?_write hreadable Progress.ofDatum?_toDatum
    simp [load, hexists, Folder.load, hread, hrows]
  · cases hsaved

theorem save_of_failed (store : FileStore) (rows : List Progress) (reason : LoadError)
    (hfailed : (store.save rows).1 = .error reason) : (store.save rows).2 = store := by
  rw [save] at hfailed ⊢
  split at hfailed
  · cases hfailed
  · rfl

theorem save_eq (store : FileStore) (rows : List Progress) :
    (store.save rows).2 = ⟨(store.save rows).2.folder, store.name⟩ := by
  rw [save]
  split <;> rfl

end FileStore

namespace Shelf

variable {σ : Type} [ProgressStore σ] (folder : Folder) (rows : List Progress)

theorem load_saved_file (name : String) :
    load (save ⟨folder, .file name⟩ rows : _ × Shelf σ).2 =
      (FileStore.save ⟨folder, name⟩ rows).2.load := by
  rw [FileStore.save_eq]
  rfl

end Shelf

/-- A shelf is as good as the store that it is given; its own file and memory keep what is saved. -/
instance {σ : Type} [ProgressStore σ] [LawfulProgressStore σ] : LawfulProgressStore (Shelf σ) where
  load_of_saved := by
    rintro ⟨folder, store | name | store⟩ rows hsaved
    · exact LawfulProgressStore.load_of_saved store rows hsaved
    · exact (Shelf.load_saved_file folder rows name).trans
        (FileStore.load_of_saved ⟨folder, name⟩ rows hsaved)
    · rfl
  load_of_failed := by
    rintro ⟨folder, store | name | store⟩ rows reason hfailed
    · exact LawfulProgressStore.load_of_failed store rows reason hfailed
    · refine (Shelf.load_saved_file folder rows name).trans ?_
      rw [FileStore.save_of_failed ⟨folder, name⟩ rows reason hfailed]
      rfl
    · cases hfailed

end VisualNovel
