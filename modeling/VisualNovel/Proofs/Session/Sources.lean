import VisualNovel.Proofs.Event.CorruptRows
import VisualNovel.Proofs.Run
import VisualNovel.Session

namespace VisualNovel

namespace Folder

theorem files_of_follow_eq_free {folder : Folder} {parts : List String} {start location : String}
    (hfollow : folder.follow start parts = .ok (.free location)) :
    folder.files[location]? = none := by
  induction parts generalizing start with
  | nil => cases hfollow
  | cons part parts ih =>
      simp only [follow] at hfollow
      split at hfollow
      · exact ih hfollow
      split at hfollow
      · exact ih hfollow
      split at hfollow
      · cases hfollow
      split at hfollow
      · exact ih hfollow
      split at hfollow
      · -- The path ends here, at a file or where none is.
        split at hfollow
        · cases hfollow
        · rename_i hfile
          cases hfollow
          simpa using hfile
      · split at hfollow <;> cases hfollow

theorem exists_of_read_eq_ok {folder : Folder} {path text : String}
    (hread : folder.read path = .ok text) : folder.exists? path = true := by
  rw [exists?]
  cases hlocate : folder.locate path with
  | error reason => simp [read, hlocate] at hread
  | ok place =>
      cases place with
      | file | folder => rfl
      | noFolder reason => simp [read, hlocate] at hread
      | free location =>
          have hnone : folder.files[location]? = none := by
            rw [locate] at hlocate
            split at hlocate
            · cases hlocate
            split at hlocate
            · cases hlocate
            split at hlocate
            · cases hlocate
            exact files_of_follow_eq_free hlocate
          simp [read, hlocate, hnone] at hread

variable {α : Type} {folder other : Folder} {path : String} {ofText? : String → Option α}
  {Says : String → α → Prop}

/-- The file can be read, and its text says the value. -/
def Holds (folder : Folder) (Says : String → α → Prop) (path : String) (value : α) : Prop :=
  ∃ text, folder.read path = .ok text ∧ Says text value

/-- Why a file says no value. -/
inductive Lacks (folder : Folder) (Says : String → α → Prop) (path : String) : LoadError → Prop
  | unread {reason : FileError} (h : folder.read path = .error reason) :
      Lacks folder Says path (.file reason)
  | malformed {text : String} (hread : folder.read path = .ok text)
      (h : ∀ value, ¬ Says text value) : Lacks folder Says path .malformed

theorem load_eq_ok_iff (htells : ∀ text value, ofText? text = some value ↔ Says text value)
    {value : α} : folder.load ofText? path = .ok value ↔ folder.Holds Says path value := by
  rw [load, Holds]
  cases folder.read path with
  | error reason => simp
  | ok text =>
      cases htext : ofText? text with
      | none => simp [← htells, htext]
      | some found => simp [← htells, htext]

theorem load_eq_error_iff (htells : ∀ text value, ofText? text = some value ↔ Says text value)
    {reason : LoadError} :
    folder.load ofText? path = .error reason ↔ folder.Lacks Says path reason := by
  constructor
  · intro h
    rw [load] at h
    split at h
    · cases h
      exact .unread ‹_›
    · rename_i text hread
      split at h
      · cases h
      · rename_i hnone
        cases h
        exact .malformed hread ((read_eq_none_iff htells).mp hnone)
  · rintro (hread | ⟨hread, hnone⟩)
    · rw [load, hread]
    · rw [load, hread]
      simp only [(read_eq_none_iff htells).mpr hnone]

theorem load_congr (hread : other.read path = folder.read path) :
    other.load ofText? path = folder.load ofText? path := by
  rw [load, load, hread]

end Folder

section Except

variable {α Failure Other : Type} {result : Except Failure α} {f : Failure → Other}

theorem mapError_eq_ok_iff {value : α} : result.mapError f = .ok value ↔ result = .ok value := by
  cases result <;> simp [Except.mapError]

theorem mapError_eq_error_iff {failure : Other} :
    result.mapError f = .error failure ↔ ∃ reason, result = .error reason ∧ failure = f reason := by
  cases result <;> simp [Except.mapError, eq_comm]

theorem bind_eq_error_iff {β : Type} {next : α → Except Failure β} {failure : Failure} :
    result.bind next = .error failure ↔
      result = .error failure ∨ ∃ value, result = .ok value ∧ next value = .error failure := by
  cases result <;> simp [Except.bind]

theorem forall_not_iff_exists_ok {Reason : Type} {Fails : Reason → Prop} {fail : Reason → Failure}
    (hfails : ∀ failure, result = .error failure ↔ ∃ reason, Fails reason ∧ failure = fail reason) :
    (∀ reason, ¬ Fails reason) ↔ ∃ value, result = .ok value := by
  cases result with
  | error failure =>
      obtain ⟨reason, hreason, -⟩ := (hfails failure).mp rfl
      simpa using ⟨reason, hreason⟩
  | ok value =>
      have hnone : ∀ reason, ¬ Fails reason := fun reason hreason =>
        nomatch (hfails (fail reason)).mpr ⟨reason, hreason, rfl⟩
      simpa using hnone

end Except

section Source

variable {α Failure : Type}

/-- The path is given, and no direct value goes before it. -/
def UsesFile (direct : Option α) (path : Option String) (used : String) : Prop :=
  direct = none ∧ path = some used

/-- The value of what may be given directly or by the path of a file, or else has a default. -/
inductive Sourced (direct : Option α) (path : Option String) (default : α)
    (FileHolds : String → α → Prop) : α → Prop
  | direct {value : α} (h : direct = some value) : Sourced direct path default FileHolds value
  | file {used : String} {value : α} (hused : UsesFile direct path used)
      (hfile : FileHolds used value) : Sourced direct path default FileHolds value
  | default (hdirect : direct = none) (hpath : path = none) :
      Sourced direct path default FileHolds default

/-- Takes what is given directly, then what a file holds, and then a default. -/
def source (direct : Option α) (path : Option String) (default : α)
    (load : String → Except Failure α) : Except Failure α :=
  match direct, path with
  | some value, _ => .ok value
  | none, some path => load path
  | none, none => .ok default

variable {direct : Option α} {path otherPath : Option String} {default value : α}
  {load otherLoad : String → Except Failure α}

theorem source_eq_ok_iff {FileHolds : String → α → Prop}
    (hload : ∀ path value, load path = .ok value ↔ FileHolds path value) :
    source direct path default load = .ok value ↔ Sourced direct path default FileHolds value := by
  constructor
  · intro h
    cases direct with
    | some given =>
        cases h
        exact .direct rfl
    | none =>
        cases path with
        | some used => exact .file ⟨rfl, rfl⟩ ((hload used value).mp h)
        | none =>
            cases h
            exact .default rfl rfl
  · rintro (rfl | ⟨⟨rfl, rfl⟩, hfile⟩ | ⟨rfl, rfl⟩)
    · rfl
    · exact (hload _ _).mpr hfile
    · rfl

theorem source_eq_error_iff {failure : Failure} {FileFails : String → Failure → Prop}
    (hload : ∀ path failure, load path = .error failure ↔ FileFails path failure) :
    source direct path default load = .error failure ↔
      ∃ used, UsesFile direct path used ∧ FileFails used failure := by
  constructor
  · intro h
    cases direct with
    | some given => cases h
    | none =>
        cases path with
        | some used => exact ⟨used, ⟨rfl, rfl⟩, (hload used failure).mp h⟩
        | none => cases h
  · rintro ⟨used, ⟨rfl, rfl⟩, hfile⟩
    exact (hload used failure).mpr hfile

theorem source_congr (hused : ∀ used, UsesFile direct otherPath used ↔ UsesFile direct path used)
    (hload : ∀ used, UsesFile direct path used → otherLoad used = load used) :
    source direct otherPath default otherLoad = source direct path default load := by
  cases direct with
  | some given => rfl
  | none =>
      obtain rfl : otherPath = path := by
        apply Option.ext
        simpa [UsesFile] using hused
      cases otherPath with
      | some used => exact hload used ⟨rfl, rfl⟩
      | none => rfl

end Source

namespace Setup

variable {σ : Type}

/-- The text says a list of rows: it is a list, and these are the rows among its entries. -/
def SaysRows {Row : Type} (ofDatum? : Datum → Option Row) (text : String) (rows : List Row) :
    Prop :=
  ∃ entries, Document.Lists text entries ∧ entries.filterMap ofDatum? = rows

def HasConfig (setup : Setup σ) : Config → Prop :=
  Sourced setup.config setup.configFile .standard
    (setup.folder.Holds fun text config => Config.ofText? text = some config)

def ConfigFails (setup : Setup σ) (reason : LoadError) : Prop :=
  ∃ used, UsesFile setup.config setup.configFile used ∧
    setup.folder.Lacks (fun text config => Config.ofText? text = some config) used reason

def HasCast (setup : Setup σ) : Cast → Prop :=
  Sourced setup.cast setup.castFile .empty
    (setup.folder.Holds fun text cast => Cast.ofText? text = some cast)

def CastFails (setup : Setup σ) (reason : LoadError) : Prop :=
  ∃ used, UsesFile setup.cast setup.castFile used ∧
    setup.folder.Lacks (fun text cast => Cast.ofText? text = some cast) used reason

/-- A catalog file that is not there holds no rows. -/
def HasCatalog (setup : Setup σ) : List CatalogRow → Prop :=
  Sourced setup.catalog setup.catalogFile [] fun used rows =>
    setup.folder.exists? used = false ∧ rows = [] ∨
    setup.folder.exists? used = true ∧
      setup.folder.Holds (SaysRows CatalogRow.ofDatum?) used rows

def CatalogFails (setup : Setup σ) (reason : LoadError) : Prop :=
  ∃ used, UsesFile setup.catalog setup.catalogFile used ∧ setup.folder.exists? used = true ∧
    setup.folder.Lacks (SaysRows CatalogRow.ofDatum?) used reason

/-- The first of the sources that fails, in the order of settings, cast and catalog. -/
inductive FirstFailure (setup : Setup σ) : SessionError → Prop
  | config {reason : LoadError} (h : setup.ConfigFails reason) : FirstFailure setup (.config reason)
  | cast {reason : LoadError} (hconfig : ∀ earlier, ¬ setup.ConfigFails earlier)
      (h : setup.CastFails reason) : FirstFailure setup (.cast reason)
  | catalog {reason : LoadError} (hconfig : ∀ earlier, ¬ setup.ConfigFails earlier)
      (hcast : ∀ earlier, ¬ setup.CastFails earlier) (h : setup.CatalogFails reason) :
      FirstFailure setup (.catalog reason)

theorem FirstFailure.withSaved {τ : Type} {setup : Setup σ} {failure : SessionError}
    (h : setup.FirstFailure failure) (store : Option τ) (progressFile : Option String) :
    { setup with store, progressFile }.FirstFailure failure := by
  cases h with
  | config h => exact .config h
  | cast hconfig h => exact .cast hconfig h
  | catalog hconfig hcast h => exact .catalog hconfig hcast h

section Saved

variable [ProgressStore σ]

/-- The rows that the store gives, or else the file. -/
inductive Keeps (setup : Setup σ) (rows : List Progress) : Prop
  | store {store : σ} (h : setup.store = some store) (hload : ProgressStore.load store = .ok rows)
  | file {used : String} (hused : UsesFile setup.store setup.progressFile used)
      (hfile : setup.folder.Holds (SaysRows Progress.ofDatum?) used rows)

/-- The rows that a session starts with: none where nothing can be read. -/
inductive SavedRows (setup : Setup σ) : List Progress → Prop
  | kept {rows : List Progress} (h : setup.Keeps rows) : SavedRows setup rows
  | lost (h : ∀ rows, ¬ setup.Keeps rows) : SavedRows setup []

theorem exists_savedRows (setup : Setup σ) : ∃ rows, setup.SavedRows rows := by
  by_cases h : ∃ rows, setup.Keeps rows
  · obtain ⟨rows, hrows⟩ := h
    exact ⟨rows, .kept hrows⟩
  · exact ⟨[], .lost (not_exists.mp h)⟩

end Saved

theorem loadConfig_eq_source (setup : Setup σ) : setup.loadConfig =
    (source setup.config setup.configFile .standard
      (setup.folder.load Config.ofText?)).mapError .config := by
  rw [loadConfig]
  split <;> simp only [source, *] <;> rfl

theorem loadCast_eq_source (setup : Setup σ) : setup.loadCast =
    (source setup.cast setup.castFile .empty (setup.folder.load Cast.ofText?)).mapError .cast := by
  rw [loadCast]
  split <;> simp only [source, *] <;> rfl

def loadCatalogFile (setup : Setup σ) (file : String) : Except LoadError (List CatalogRow) :=
  if setup.folder.exists? file then setup.folder.load CatalogRow.listOfText? file else .ok []

theorem loadCatalog_eq_source (setup : Setup σ) : setup.loadCatalog =
    (source setup.catalog setup.catalogFile [] setup.loadCatalogFile).mapError .catalog := by
  rw [loadCatalog]
  split <;> simp only [source, *]
  · rfl
  · rw [loadCatalogFile]
    split <;> rfl
  · rfl

theorem loadConfig_eq_ok_iff {setup : Setup σ} {config : Config} :
    setup.loadConfig = .ok config ↔ setup.HasConfig config := by
  rw [loadConfig_eq_source, mapError_eq_ok_iff]
  exact source_eq_ok_iff fun _ _ => Folder.load_eq_ok_iff fun _ _ => Iff.rfl

theorem loadConfig_eq_error_iff {setup : Setup σ} {failure : SessionError} :
    setup.loadConfig = .error failure ↔
      ∃ reason, setup.ConfigFails reason ∧ failure = .config reason := by
  rw [loadConfig_eq_source, mapError_eq_error_iff]
  simp only [source_eq_error_iff fun _ _ => Folder.load_eq_error_iff fun _ _ => Iff.rfl]
  rfl

theorem loadCast_eq_ok_iff {setup : Setup σ} {cast : Cast} :
    setup.loadCast = .ok cast ↔ setup.HasCast cast := by
  rw [loadCast_eq_source, mapError_eq_ok_iff]
  exact source_eq_ok_iff fun _ _ => Folder.load_eq_ok_iff fun _ _ => Iff.rfl

theorem loadCast_eq_error_iff {setup : Setup σ} {failure : SessionError} :
    setup.loadCast = .error failure ↔
      ∃ reason, setup.CastFails reason ∧ failure = .cast reason := by
  rw [loadCast_eq_source, mapError_eq_error_iff]
  simp only [source_eq_error_iff fun _ _ => Folder.load_eq_error_iff fun _ _ => Iff.rfl]
  rfl

theorem loadCatalog_eq_ok_iff {setup : Setup σ} {rows : List CatalogRow} :
    setup.loadCatalog = .ok rows ↔ setup.HasCatalog rows := by
  rw [loadCatalog_eq_source, mapError_eq_ok_iff]
  refine source_eq_ok_iff fun file rows => ?_
  rw [loadCatalogFile]
  cases setup.folder.exists? file with
  | false => simp [eq_comm]
  | true =>
      simp only [↓reduceIte, Bool.true_eq_false, false_and, true_and, false_or]
      exact Folder.load_eq_ok_iff fun _ _ => rowsOfText?_eq_some_iff

theorem loadCatalog_eq_error_iff {setup : Setup σ} {failure : SessionError} :
    setup.loadCatalog = .error failure ↔
      ∃ reason, setup.CatalogFails reason ∧ failure = .catalog reason := by
  have hload (file : String) (reason : LoadError) :
      setup.loadCatalogFile file = .error reason ↔ setup.folder.exists? file = true ∧
        setup.folder.Lacks (SaysRows CatalogRow.ofDatum?) file reason := by
    rw [loadCatalogFile]
    cases setup.folder.exists? file with
    | false => simp
    | true =>
        simp only [↓reduceIte, true_and]
        exact Folder.load_eq_error_iff fun _ _ => rowsOfText?_eq_some_iff
  rw [loadCatalog_eq_source, mapError_eq_error_iff]
  simp only [source_eq_error_iff hload]
  rfl

section Build

variable [ProgressStore σ]

/-- The session that is opened from the contents of the sources. -/
def opened (setup : Setup σ) (config : Config) (cast : Cast) (catalog : List CatalogRow)
    (rows : List Progress) : Session (Shelf σ) where
  config := config
  table := (EventTable.empty config.slots).load catalog rows
  store := setup.shelf
  performance := .ofConfig config cast setup.names
  running := none

theorem load_shelf_of_keeps {setup : Setup σ} {rows : List Progress} (h : setup.Keeps rows) :
    ProgressStore.load setup.shelf = .ok rows := by
  change setup.shelf.load = .ok rows
  cases h with
  | store hstore hload =>
      rw [shelf, Shelf.load, hstore]
      exact hload
  | file hused hfile =>
      obtain ⟨hstore, hpath⟩ := hused
      have hexists : setup.folder.exists? _ = true :=
        let ⟨_, hread, _⟩ := hfile
        Folder.exists_of_read_eq_ok hread
      rw [shelf, Shelf.load, hstore, hpath]
      exact (if_pos hexists).trans
        ((Folder.load_eq_ok_iff fun _ _ => rowsOfText?_eq_some_iff).mpr hfile)

theorem keeps_of_load_shelf {setup : Setup σ} {rows : List Progress}
    (hload : ProgressStore.load setup.shelf = .ok rows) : setup.Keeps rows ∨ rows = [] := by
  change setup.shelf.load = .ok rows at hload
  cases hstore : setup.store with
  | some store =>
      rw [shelf, Shelf.load, hstore] at hload
      exact .inl (.store hstore hload)
  | none =>
      cases hpath : setup.progressFile with
      | some file =>
          rw [shelf, Shelf.load, hstore, hpath] at hload
          change (if setup.folder.exists? file then _ else _) = _ at hload
          split at hload
          · exact .inl (.file ⟨hstore, hpath⟩
              ((Folder.load_eq_ok_iff fun _ _ => rowsOfText?_eq_some_iff).mp hload))
          · cases hload
            exact .inr rfl
      | none =>
          rw [shelf, Shelf.load, hstore, hpath] at hload
          cases hload
          exact .inr rfl

theorem reload_shelf {setup : Setup σ} {rows : List Progress} (h : setup.SavedRows rows)
    (table : EventTable) : table.reload setup.shelf = table.applyProgress rows := by
  rw [EventTable.reload]
  cases h with
  | kept h => rw [load_shelf_of_keeps h]
  | lost h =>
      cases hload : ProgressStore.load setup.shelf with
      | error reason => rfl
      | ok found =>
          obtain rfl := (keeps_of_load_shelf hload).resolve_left (h found)
          rfl

theorem build_eq {setup : Setup σ} {rows : List Progress} (h : setup.SavedRows rows) :
    setup.build = setup.loadConfig.bind fun config => setup.loadCast.bind fun cast =>
      setup.loadCatalog.bind fun catalog => .ok (setup.opened config cast catalog rows) := by
  have hload (config : Config) (catalog : List CatalogRow) :
      ((EventTable.empty config.slots).load catalog []).reload setup.shelf =
        (EventTable.empty config.slots).load catalog rows := by
    rw [reload_shelf h, EventTable.load_eq, EventTable.load_eq]
    exact (EventTable.indexed_ofCatalog _ catalog).applyProgress_applyProgress [] rows
  simp only [build, hload]
  rfl

theorem build_eq_ok_iff {setup : Setup σ} {session : Session (Shelf σ)} :
    setup.build = .ok session ↔ ∃ config cast catalog rows, setup.HasConfig config ∧
      setup.HasCast cast ∧ setup.HasCatalog catalog ∧ setup.SavedRows rows ∧
      session = setup.opened config cast catalog rows := by
  constructor
  · intro hbuild
    obtain ⟨rows, hrows⟩ := setup.exists_savedRows
    rw [build_eq hrows] at hbuild
    obtain ⟨config, hconfig, hbuild⟩ := exists_of_bind_eq_ok hbuild
    obtain ⟨cast, hcast, hbuild⟩ := exists_of_bind_eq_ok hbuild
    obtain ⟨catalog, hcatalog, hbuild⟩ := exists_of_bind_eq_ok hbuild
    cases hbuild
    exact ⟨config, cast, catalog, rows, loadConfig_eq_ok_iff.mp hconfig,
      loadCast_eq_ok_iff.mp hcast, loadCatalog_eq_ok_iff.mp hcatalog, hrows, rfl⟩
  · rintro ⟨config, cast, catalog, rows, hconfig, hcast, hcatalog, hrows, rfl⟩
    rw [build_eq hrows, loadConfig_eq_ok_iff.mpr hconfig, loadCast_eq_ok_iff.mpr hcast,
      loadCatalog_eq_ok_iff.mpr hcatalog]
    rfl

theorem build_eq_error_iff {setup : Setup σ} {failure : SessionError} :
    setup.build = .error failure ↔ setup.FirstFailure failure := by
  obtain ⟨rows, hrows⟩ := setup.exists_savedRows
  have hconfigs : (∀ reason, ¬ setup.ConfigFails reason) ↔
      ∃ config, setup.loadConfig = .ok config :=
    forall_not_iff_exists_ok fun _ => loadConfig_eq_error_iff
  have hcasts : (∀ reason, ¬ setup.CastFails reason) ↔ ∃ cast, setup.loadCast = .ok cast :=
    forall_not_iff_exists_ok fun _ => loadCast_eq_error_iff
  simp only [build_eq hrows, bind_eq_error_iff, reduceCtorEq, and_false, exists_false, or_false]
  constructor
  · rintro (hconfig | ⟨config, hconfig, hcast | ⟨cast, hcast, hcatalog⟩⟩)
    · obtain ⟨reason, hreason, rfl⟩ := loadConfig_eq_error_iff.mp hconfig
      exact .config hreason
    · obtain ⟨reason, hreason, rfl⟩ := loadCast_eq_error_iff.mp hcast
      exact .cast (hconfigs.mpr ⟨config, hconfig⟩) hreason
    · obtain ⟨reason, hreason, rfl⟩ := loadCatalog_eq_error_iff.mp hcatalog
      exact .catalog (hconfigs.mpr ⟨config, hconfig⟩) (hcasts.mpr ⟨cast, hcast⟩) hreason
  · rintro (hreason | ⟨hconfig, hreason⟩ | ⟨hconfig, hcast, hreason⟩)
    · exact .inl (loadConfig_eq_error_iff.mpr ⟨_, hreason, rfl⟩)
    · obtain ⟨config, hconfig⟩ := hconfigs.mp hconfig
      exact .inr ⟨config, hconfig, .inl (loadCast_eq_error_iff.mpr ⟨_, hreason, rfl⟩)⟩
    · obtain ⟨config, hconfig⟩ := hconfigs.mp hconfig
      obtain ⟨cast, hcast⟩ := hcasts.mp hcast
      exact .inr ⟨config, hconfig, .inr ⟨cast, hcast,
        loadCatalog_eq_error_iff.mpr ⟨_, hreason, rfl⟩⟩⟩

/-- Some path of the setup leads to the file and counts. -/
def Uses (setup : Setup σ) (used : String) : Prop :=
  UsesFile setup.config setup.configFile used ∨ UsesFile setup.cast setup.castFile used ∨
    UsesFile setup.catalog setup.catalogFile used ∨ UsesFile setup.store setup.progressFile used

/-- Setups with the same direct values, the same paths where no direct value goes before them, and
the same contents of the files that these lead to. -/
structure SameUse (setup other : Setup σ) : Prop where
  config : other.config = setup.config
  cast : other.cast = setup.cast
  names : other.names = setup.names
  catalog : other.catalog = setup.catalog
  store : other.store = setup.store
  configFile : ∀ used, UsesFile setup.config other.configFile used ↔
    UsesFile setup.config setup.configFile used
  castFile : ∀ used, UsesFile setup.cast other.castFile used ↔
    UsesFile setup.cast setup.castFile used
  catalogFile : ∀ used, UsesFile setup.catalog other.catalogFile used ↔
    UsesFile setup.catalog setup.catalogFile used
  progressFile : ∀ used, UsesFile setup.store other.progressFile used ↔
    UsesFile setup.store setup.progressFile used
  exists? : ∀ used, setup.Uses used → other.folder.exists? used = setup.folder.exists? used
  read : ∀ used, setup.Uses used → other.folder.read used = setup.folder.read used

namespace SameUse

variable {setup other : Setup σ} (h : SameUse setup other)
include h

omit [ProgressStore σ] in
theorem loadConfig_eq : other.loadConfig = setup.loadConfig := by
  rw [loadConfig_eq_source, loadConfig_eq_source, h.config, source_congr h.configFile]
  exact fun used hused => Folder.load_congr (h.read used (.inl hused))

omit [ProgressStore σ] in
theorem loadCast_eq : other.loadCast = setup.loadCast := by
  rw [loadCast_eq_source, loadCast_eq_source, h.cast, source_congr h.castFile]
  exact fun used hused => Folder.load_congr (h.read used (.inr (.inl hused)))

omit [ProgressStore σ] in
theorem loadCatalog_eq : other.loadCatalog = setup.loadCatalog := by
  rw [loadCatalog_eq_source, loadCatalog_eq_source, h.catalog, source_congr h.catalogFile]
  intro used hused
  have huses : setup.Uses used := .inr (.inr (.inl hused))
  rw [loadCatalogFile, loadCatalogFile, h.exists? used huses, Folder.load_congr (h.read used huses)]

omit [ProgressStore σ] in
theorem shelf_eq : other.shelf = { setup.shelf with folder := other.folder } := by
  rw [shelf, shelf, h.store]
  cases hstore : setup.store with
  | some store => rfl
  | none =>
      have hpath : other.progressFile = setup.progressFile := by
        apply Option.ext
        simpa [UsesFile, hstore] using h.progressFile
      rw [hpath]

theorem load_shelf_eq : ProgressStore.load other.shelf = ProgressStore.load setup.shelf := by
  change other.shelf.load = setup.shelf.load
  rw [h.shelf_eq, Shelf.load, Shelf.load]
  cases hkeeping : setup.shelf.keeping with
  | given | memory => rfl
  | file name =>
      have huses : setup.Uses name := by
        rw [shelf] at hkeeping
        split at hkeeping
        · cases hkeeping
        · cases hkeeping
          exact .inr (.inr (.inr ⟨‹_›, ‹_›⟩))
        · cases hkeeping
      change (if other.folder.exists? name then _ else _) =
        if setup.folder.exists? name then _ else _
      rw [h.exists? name huses, Folder.load_congr (h.read name huses)]
      rfl

theorem build_eq : other.build =
    setup.build.map fun session =>
      { session with store := { session.store with folder := other.folder } } := by
  have hreload (table : EventTable) : table.reload other.shelf = table.reload setup.shelf := by
    rw [EventTable.reload, EventTable.reload, h.load_shelf_eq]
  simp only [build, h.loadConfig_eq, h.loadCast_eq, h.loadCatalog_eq, hreload, h.names]
  rw [h.shelf_eq]
  cases setup.loadConfig <;> cases setup.loadCast <;> cases setup.loadCatalog <;> rfl

end SameUse

/-- Opening a session fails with the first of settings, cast and catalog that has to be read and
cannot: settings and cast also when their file is not there, a catalog only when its file is there.
The progress never makes it fail. Otherwise the session has the settings' slots and the events of
the catalog with the saved rows, which come from the store and without one from its file, and are
none if they cannot be read. Paths that a direct value goes before are never looked at. -/
theorem build_fails_at_first_broken_source (setup : Setup σ) :
    (∀ failure, setup.build = .error failure ↔ setup.FirstFailure failure) ∧
    (∀ session, setup.build = .ok session ↔ ∃ config cast catalog rows,
      setup.HasConfig config ∧ setup.HasCast cast ∧ setup.HasCatalog catalog ∧
      setup.SavedRows rows ∧
      session = {
        config := config
        table := (EventTable.empty config.slots).load catalog rows
        store := setup.shelf
        performance := .ofConfig config cast setup.names
        running := none }) ∧
    (∀ (τ : Type) [ProgressStore τ] (store : Option τ) (progressFile : Option String) failure,
      { setup with store, progressFile }.build = .error failure ↔
        setup.build = .error failure) ∧
    ∀ other, SameUse setup other → other.build = setup.build.map fun session =>
      { session with store := { session.store with folder := other.folder } } := by
  refine ⟨fun _ => build_eq_error_iff, fun _ => build_eq_ok_iff, ?_, fun _ h => h.build_eq⟩
  intro τ _ store progressFile failure
  rw [build_eq_error_iff, build_eq_error_iff]
  exact ⟨fun h => h.withSaved setup.store setup.progressFile, fun h => h.withSaved _ _⟩

end Build

/-- Of four paths that lead nowhere or to a folder, the first does not count. -/
def lostFiles : Setup MemoryStore where
  configFile := some "nowhere.ron"
  castFile := some "nowhere.ron"
  catalogFile := some "."
  progressFile := some "."
  config := some .standard

example : lostFiles.build = .error (.cast (.file .notFound)) := rfl

example : { lostFiles with cast := some .empty }.build = .error (.catalog (.file .isDirectory)) :=
  rfl

example : ({ lostFiles with cast := some .empty, catalog := some [] }.build.toOption.map
    fun session : Session (Shelf MemoryStore) => session.table.progress) = some [] := by
  decide +kernel

end Setup

end VisualNovel
