import PromptClient.Proofs.CookieFile
import PromptClient.Proofs.History

/-! # Stores that keep what they are given

A field that is written holds what was written, and all others hold what they held before. That
is so of the tables themselves, of storage in memory, and of storage in files as long as the
database is there, whatever becomes of the cookie beside it. -/

namespace PromptClient

namespace FieldStore

variable {σ : Type} [FieldStore σ]

/-- A store that also leaves alone what it is not told to write. -/
structure Faithful (atWork : σ → Prop) : Prop extends Working atWork where
  others : ∀ {place space field other name} (value), atWork place →
    ¬(other = space ∧ name = field) →
    field? (setField space field value place) other name = field? place other name

theorem faithful_fieldTable : Faithful fun _ : FieldTable => True where
  toWorking := working_fieldTable
  others := by
    intro table space field other name value _ different
    exact table.get?_set_other value different

theorem faithful_database : Faithful fun database : Database => database.isOpen = true where
  toWorking := working_database
  others := by
    intro database space field other name value isOpen different
    simp [field?, setField, Database.get?, Database.set, isOpen,
      database.table.get?_set_other value different]

theorem faithful_memory : Faithful fun _ : MemoryStorage => True where
  stays := fun _ _ _ _ => trivial
  finds := fun {storage} space field value _ => storage.fields.get?_set_same space field value
  others := by
    intro storage space field other name value _ different
    exact storage.fields.get?_set_other value different

end FieldStore

/-! ## In files -/

namespace FileStorage

/-- The database is where it should be. -/
def AtWork (storage : FileStorage) : Prop :=
  ∃ place table, storage.files.resolve storage.databasePath = .ok (place, some (.database table))

/-- The cookie is never written over the database, whatever folders there are. -/
def KeepsApart (storage : FileStorage) : Prop :=
  ∀ place entry, storage.files.resolve storage.databasePath = .ok (place, some entry) →
    ∀ (files : FileTree) present, files.resolve storage.cookiePath ≠ .ok (place, present)

/-- Side by side in one folder the cookie and the database keep apart, since they have
different names. -/
theorem keepsApart_of_folder {storage : FileStorage} {folder : String}
    (cookie : storage.cookiePath = FileTree.join folder "session.json")
    (database : storage.databasePath = databaseIn folder) : storage.KeepsApart := by
  intro place entry foundDatabase files present foundCookie
  rw [database, databaseIn] at foundDatabase
  rw [cookie] at foundCookie
  have named := FileTree.resolve_join (by decide) (by decide) foundDatabase
  rw [FileTree.resolve_join (by decide) (by decide) foundCookie] at named
  exact absurd named (by decide)

theorem table_of_resolve {storage : FileStorage} {place : List String} {table : FieldTable}
    (found : storage.files.resolve storage.databasePath = .ok (place, some (.database table))) :
    storage.table = table := by
  simp only [FileStorage.table, found]

theorem resolve_putTable {storage : FileStorage} {place : List String} {table : FieldTable}
    (found : storage.files.resolve storage.databasePath = .ok (place, some (.database table)))
    (next : FieldTable) :
    (storage.putTable next).files.resolve (storage.putTable next).databasePath =
      .ok (place, some (.database next)) := by
  simp only [putTable, found]
  exact FileTree.resolve_put found (by simp) (by simp)

theorem table_putTable {storage : FileStorage} (atWork : storage.AtWork) (next : FieldTable) :
    (storage.putTable next).table = next := by
  rcases atWork with ⟨place, table, found⟩
  exact table_of_resolve (resolve_putTable found next)

theorem faithful : FieldStore.Faithful AtWork where
  stays := by
    rintro storage space field value ⟨place, table, found⟩
    exact ⟨place, _, resolve_putTable found _⟩
  finds := by
    intro storage space field value atWork
    change (storage.putTable _).table.get? space field = some value
    rw [table_putTable atWork]
    exact storage.table.get?_set_same space field value
  others := by
    intro storage space field other name value atWork different
    change (storage.putTable _).table.get? other name = storage.table.get? other name
    rw [table_putTable atWork]
    exact storage.table.get?_set_other value different

theorem resolve_openDatabase {files opened : FileTree} {path : String}
    (opens : openDatabase files path = .ok opened) :
    ∃ place table, opened.resolve path = .ok (place, some (.database table)) := by
  unfold openDatabase at opens
  split at opens
  case h_1 => cases opens
  case h_2 place found =>
    cases opens
    exact ⟨place, _, FileTree.resolve_put found (by simp) (by simp)⟩
  case h_3 place found =>
    cases opens
    exact ⟨place, _, FileTree.resolve_put found (by simp) (by simp)⟩
  case h_4 place table found =>
    cases opens
    exact ⟨place, table, found⟩
  case h_5 => cases opens
  case h_6 => cases opens

theorem start_ok {files : FileTree} {folder cookiePath : String} {storage : FileStorage}
    (started : start files folder cookiePath = .ok storage) :
    ∃ prepared opened, openDatabase prepared (databaseIn folder) = .ok opened ∧
      storage = ⟨opened, cookiePath, databaseIn folder⟩ := by
  cases made : files.makeFolders folder with
  | error fault => simp [start, made, bind, Except.bind, throw, throwThe,
      MonadExceptOf.throw] at started
  | ok prepared =>
      cases opens : openDatabase prepared (databaseIn folder) with
      | error detail => simp [start, made, opens, bind, Except.bind, pure, Except.pure] at started
      | ok opened =>
          have same : (⟨opened, cookiePath, databaseIn folder⟩ : FileStorage) = storage := by
            simpa [start, made, opens, bind, Except.bind, pure, Except.pure] using started
          exact ⟨prepared, opened, opens, same.symm⟩

/-- Storage that has been started has its database, and its cookie apart from that. -/
theorem start_atWork {files : FileTree} {folder : String} {storage : FileStorage}
    (started : start files folder (FileTree.join folder "session.json") = .ok storage) :
    storage.AtWork ∧ storage.KeepsApart := by
  rcases start_ok started with ⟨prepared, opened, opens, rfl⟩
  exact ⟨resolve_openDatabase opens, keepsApart_of_folder rfl rfl⟩

end FileStorage

/-! ## Saving a cookie -/

/-- The expiry is a time of 64 bits, if there is one. -/
def Cookie.Fits (cookie : Cookie) : Prop :=
  ∀ time ∈ cookie.expires, Number.fitsInt64 time = true

namespace CookieFile

variable {files : FileTree} {path : String} {cookie found : Cookie}

theorem resolve_of_load (loads : load files path = some found) :
    ∃ place bytes, files.resolve path = .ok (place, some (.file bytes)) := by
  cases target : files.resolve path with
  | error fault => simp [load, FileTree.readText, target, bind, Except.bind] at loads
  | ok reached =>
      rcases reached with ⟨place, _ | entry⟩
      · simp [load, FileTree.readText, target, bind, Except.bind, throw, throwThe,
          MonadExceptOf.throw] at loads
      · cases entry with
        | file bytes => exact ⟨place, bytes, rfl⟩
        | folder | database table =>
            simp [load, FileTree.readText, target, bind, Except.bind, throw, throwThe,
              MonadExceptOf.throw] at loads

/-- A file can be written at a path, with the folders that it lies in. -/
def canWrite (files : FileTree) (path : String) : Bool :=
  match files.writeWithFolders path [] with
  | .ok _ => true
  | .error _ => false

/-- What is written makes no difference. -/
theorem canWrite_iff :
    canWrite files path = true ↔ ∃ prepared place present,
      files.makeFolders (FileTree.parentPath path) = .ok prepared ∧
        prepared.resolve path = .ok (place, present) ∧ present ≠ some .folder := by
  unfold canWrite FileTree.writeWithFolders
  cases made : files.makeFolders (FileTree.parentPath path) with
  | error fault => simp [bind, Except.bind]
  | ok prepared =>
      simp only [bind, Except.bind]
      constructor
      · intro can
        split at can
        · rcases FileTree.write_ok ‹_› with ⟨place, present, found, notFolder, -⟩
          exact ⟨prepared, place, present, rfl, found, notFolder⟩
        · cases can
      · rintro ⟨_, place, present, ⟨⟩, found, notFolder⟩
        rw [FileTree.write_of_resolve found notFolder]

theorem canWrite_of_resolve {place : List String} {present : Option FileEntry}
    (found : files.resolve path = .ok (place, present)) (notFolder : present ≠ some .folder) :
    canWrite files path = true :=
  canWrite_iff.mpr
    ⟨files, place, present, FileTree.makeFolders_parentPath found, found, notFolder⟩

/-- Nothing is found where nothing can be written. -/
theorem load_of_cannotWrite (cannot : canWrite files path = false) : load files path = none := by
  cases loads : load files path with
  | none => rfl
  | some found =>
      rcases resolve_of_load loads with ⟨place, bytes, target⟩
      rw [canWrite_of_resolve target (by simp)] at cannot
      cases cannot

theorem load_save_of_canWrite (fits : cookie.Fits) (can : canWrite files path = true) :
    load (save files path cookie) path = some cookie := by
  rcases canWrite_iff.mp can with ⟨prepared, place, present, made, found, notFolder⟩
  exact load_save fits made (FileTree.write_of_resolve found notFolder _)

/-- Saving makes no room for a file and takes none. -/
theorem canWrite_save (files : FileTree) (path : String) (cookie : Cookie) :
    canWrite (save files path cookie) path = canWrite files path := by
  unfold save
  cases made : files.makeFolders (FileTree.parentPath path) with
  | error fault => rfl
  | ok prepared =>
      have same : canWrite prepared path = canWrite files path := by
        rw [Bool.eq_iff_iff, canWrite_iff, canWrite_iff, made, FileTree.makeFolders_again made]
      dsimp only
      split
      · rename_i written writes
        rcases FileTree.write_ok writes with ⟨place, present, found, notFolder, rfl⟩
        have there := FileTree.resolve_put found notFolder
          (by simp : FileEntry.file (Text.Utf8.encode cookie.write) ≠ .folder)
        rw [← same, canWrite_of_resolve there (by simp), canWrite_iff.mpr
          ⟨prepared, place, present, FileTree.makeFolders_again made, found, notFolder⟩]
      · exact same

theorem load_save_of_cannotWrite (cannot : canWrite files path = false) (cookie : Cookie) :
    load (save files path cookie) path = load files path := by
  rw [load_of_cannotWrite cannot]
  exact load_of_cannotWrite ((canWrite_save files path cookie).trans cannot)

end CookieFile

namespace FileStorage

end FileStorage

/-! ## Writing a field -/

namespace FileStorage

@[simp] theorem putTable_cookiePath (storage : FileStorage) (next : FieldTable) :
    (storage.putTable next).cookiePath = storage.cookiePath := by
  unfold putTable
  split <;> rfl

@[simp] theorem putTable_databasePath (storage : FileStorage) (next : FieldTable) :
    (storage.putTable next).databasePath = storage.databasePath := by
  unfold putTable
  split <;> rfl

theorem files_putTable (storage : FileStorage) (next : FieldTable) :
    (storage.putTable next).files = storage.files ∨
      ∃ place table, storage.files.entry? place = some (.database table) ∧
        (storage.putTable next).files = storage.files.put place (.database next) := by
  unfold putTable
  split
  case h_1 place table found =>
    exact .inr ⟨place, table, FileTree.resolve_entry? found, rfl⟩
  case h_2 => exact .inl rfl

end FileStorage

namespace CookieFile

/-- A database holds no cookie, before and after something is written into it. -/
theorem load_put_database {files : FileTree} {place : List String} {table : FieldTable}
    (standing : files.entry? place = some (.database table)) (next : FieldTable)
    (path : String) : load (files.put place (.database next)) path = load files path := by
  have plain : FileEntry.database next ≠ .folder := by simp
  have leads := FileTree.resolve_replace standing (by simp) plain path
  simp only [load, FileTree.readText, leads]
  cases target : files.resolve path with
  | error fault => rfl
  | ok found =>
      rcases found with ⟨reached, entry⟩
      by_cases here : reached = place
      · have same := FileTree.resolve_entry? target
        rw [here, standing] at same
        simp [Except.map, here, ← same, bind, Except.bind, throw, throwThe,
          MonadExceptOf.throw]
      · simp [Except.map, here]

end CookieFile

namespace Storage

/-- Fields are kept apart from the cookie, so writing one leaves the cookie as it is. -/
def FieldsApart (σ : Type) [Storage σ] : Prop :=
  ∀ (space field value : String) (storage : σ),
    Storage.cookie? (FieldStore.setField space field value storage) = Storage.cookie? storage

theorem fieldsApart_memory : FieldsApart MemoryStorage :=
  fun _ _ _ _ => rfl

/-- This is so wherever cookie and database are, even if it is at one path. -/
theorem fieldsApart_file : FieldsApart FileStorage := by
  intro space field value storage
  let written := storage.putTable (storage.table.set space field value)
  change CookieFile.load written.files written.cookiePath =
    CookieFile.load storage.files storage.cookiePath
  rw [show written.cookiePath = storage.cookiePath from storage.putTable_cookiePath _]
  rcases storage.files_putTable (storage.table.set space field value) with
    same | ⟨place, table, standing, same⟩
  · rw [show written.files = storage.files from same]
  · rw [show written.files = _ from same]
    exact CookieFile.load_put_database standing _ _

end Storage

end PromptClient
