import PromptClient.Cookie.Text
import PromptClient.FileTree
import PromptClient.Store.FieldStore

/-! # Storage

What a desk keeps outside itself: the session cookie, the fields of each tool's
form, and the files that a user may choose. Any of it may change between two looks,
so it is read afresh each time, and writing never fails for the one who writes.
-/

namespace PromptClient

/-- A place that keeps cookie, fields and files. -/
class Storage (σ : Type) extends FieldStore σ where
  cookie? : σ → Option Cookie
  saveCookie : Cookie → σ → σ
  readText : σ → (path : String) → Except FileFault String

/-! ## In memory -/

/-- Storage that lasts as long as the program. -/
structure MemoryStorage where
  cookie : Option Cookie
  fields : FieldTable
  files : FileTree
deriving Repr, Inhabited

instance : Storage MemoryStorage where
  cookie? storage := storage.cookie
  saveCookie cookie storage := { storage with cookie := some cookie }
  field? storage space field := storage.fields.get? space field
  setField space field value storage :=
    { storage with fields := storage.fields.set space field value }
  readText storage path := storage.files.readText path

/-! ## In files -/

namespace CookieFile

/-- The cookie in the file at a path, if the file holds one. -/
def load (files : FileTree) (path : String) : Option Cookie :=
  match files.readText path with
  | .ok text => Cookie.read? text
  | .error _ => none

/-- The files after a cookie has been saved at a path; the same files if it cannot
be written. -/
def save (files : FileTree) (path : String) (cookie : Cookie) : FileTree :=
  match files.makeFolders (FileTree.parentPath path) with
  | .error _ => files
  | .ok prepared =>
      match prepared.write path (Text.Utf8.encode cookie.write) with
      | .ok written => written
      | .error _ => prepared

end CookieFile

/-- Storage in a file tree: the cookie in a file of its own, the fields in a
database. -/
structure FileStorage where
  files : FileTree
  cookiePath : String
  databasePath : String
deriving Repr

namespace FileStorage

def databaseIn (folder : String) : String :=
  FileTree.join folder "fields.db"

/-- The files with a database at a path, which is made unless it is there. -/
def openDatabase (files : FileTree) (path : String) : Except String FileTree :=
  match files.resolve path with
  | .error fault => .error fault.message
  | .ok (place, none) => .ok (files.put place (.database .empty))
  | .ok (place, some (.file [])) => .ok (files.put place (.database .empty))
  | .ok (_, some (.database _)) => .ok files
  | .ok (_, some (.file _)) =>
      .error "error returned from database: (code: 26) file is not a database"
  | .ok (_, some .folder) =>
      .error "error returned from database: (code: 14) unable to open database file"

/-- The storage in a data folder, which is made unless it is there. -/
def start (files : FileTree) (folder cookiePath : String) : Except String FileStorage := do
  let prepared ← match files.makeFolders folder with
    | .ok prepared => pure prepared
    | .error fault => throw fault.message
  let opened ← openDatabase prepared (databaseIn folder)
  return ⟨opened, cookiePath, databaseIn folder⟩

def table (storage : FileStorage) : FieldTable :=
  match storage.files.resolve storage.databasePath with
  | .ok (_, some (.database table)) => table
  | _ => .empty

def putTable (storage : FileStorage) (table : FieldTable) : FileStorage :=
  match storage.files.resolve storage.databasePath with
  | .ok (place, some (.database _)) =>
      { storage with files := storage.files.put place (.database table) }
  | _ => storage

end FileStorage

instance : Storage FileStorage where
  cookie? storage := CookieFile.load storage.files storage.cookiePath
  saveCookie cookie storage :=
    { storage with files := CookieFile.save storage.files storage.cookiePath cookie }
  field? storage space field := storage.table.get? space field
  setField space field value storage :=
    storage.putTable (storage.table.set space field value)
  readText storage path := storage.files.readText path

end PromptClient
