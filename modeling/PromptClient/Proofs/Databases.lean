import Mathlib.Tactic.Linarith
import PromptClient.Proofs.Stores

/-! # One map in every store

A field table in memory, a hash map of pairs, a database, and a database in a file that is closed
and opened again: all of them answer as one map from pairs to texts would. A snapshot is that map
for one space, in the order of the bytes. -/

namespace PromptClient

/-! ## The order of texts -/

namespace Text.Utf8

theorem ofNat_cons_lt_iff {low high : Nat} (lowBound : low < 256) (highBound : high < 256)
    (first second : List UInt8) :
    UInt8.ofNat low :: first < UInt8.ofNat high :: second ↔
      low < high ∨ low = high ∧ first < second := by
  rw [List.cons_lt_cons_iff, UInt8.lt_iff_toNat_lt, ← UInt8.toNat_inj, UInt8.toNat_ofNat',
    UInt8.toNat_ofNat', Nat.mod_eq_of_lt lowBound, Nat.mod_eq_of_lt highBound]

/-- Where two texts differ first, the lesser character has the lesser bytes. -/
theorem utf8EncodeChar_lt {first second : Char} (before : first < second)
    (low high : List UInt8) :
    String.utf8EncodeChar first ++ low < String.utf8EncodeChar second ++ high := by
  have less : first.val.toNat < second.val.toNat := before
  have bound : second.val.toNat ≤ 0x10FFFF := by
    have valid : second.val.toNat.isValidChar := second.valid
    unfold Nat.isValidChar at valid
    omega
  -- Each byte but the first has six bits of the code.
  have sixes : ∀ code, code / 4096 = code / 64 / 64 ∧ code / 262144 = code / 64 / 64 / 64 := by
    omega
  simp only [String.utf8EncodeChar, (sixes _).1, (sixes _).2]
  generalize first.val.toNat = code at less
  generalize second.val.toNat = other at less bound
  split_ifs <;> try omega
  all_goals
    simp (disch := omega) only [List.cons_append, List.nil_append, ofNat_cons_lt_iff]
    omega

theorem append_lt_append {low high : List UInt8} (before : low < high) (shared : List UInt8) :
    shared ++ low < shared ++ high := by
  induction shared with
  | nil => exact before
  | cons byte rest induction => exact List.cons_lt_cons_self.mpr induction

theorem encode_ofList (chars : List Char) :
    encode (String.ofList chars) = chars.flatMap String.utf8EncodeChar := by
  simp only [encode, String.toUTF8, String.toByteArray_ofList, List.utf8Encode,
    List.toList_data_toByteArray]

/-- The order of texts by their characters is the order by their bytes. -/
theorem encode_lt {first second : String} (before : first < second) :
    encode first < encode second := by
  have before : first.toList < second.toList := before
  rw [← String.ofList_toList (s := first), ← String.ofList_toList (s := second), encode_ofList,
    encode_ofList]
  generalize first.toList = chars at before
  generalize second.toList = others at before
  induction before with
  | @nil char rest =>
      have some : String.utf8EncodeChar char ≠ [] := by
        intro none
        have length := String.length_utf8EncodeChar char
        have positive := char.utf8Size_pos
        rw [none, List.length_nil] at length
        omega
      rw [List.flatMap_cons, List.flatMap_nil]
      cases bytes : String.utf8EncodeChar char with
      | nil => exact absurd bytes some
      | cons byte more => exact List.nil_lt_cons _ _
  | rel less =>
      rw [List.flatMap_cons, List.flatMap_cons]
      exact utf8EncodeChar_lt less _ _
  | cons less induction =>
      rw [List.flatMap_cons, List.flatMap_cons]
      exact append_lt_append induction _

end Text.Utf8

/-! ## Rows in order -/

/-- Comes before another row, by its space and then by its field. -/
def FieldRow.Before (first second : FieldRow) : Prop :=
  first.space < second.space ∨ first.space = second.space ∧ first.field < second.field

theorem FieldRow.Before.trans {first second third : FieldRow} (before : first.Before second)
    (next : second.Before third) : first.Before third := by
  rcases before with less | ⟨same, less⟩
  · rcases next with other | ⟨equal, -⟩
    · exact .inl (String.lt_trans less other)
    · exact .inl (equal ▸ less)
  · rcases next with other | ⟨equal, other⟩
    · exact .inl (same ▸ other)
    · exact .inr ⟨same.trans equal, String.lt_trans less other⟩

theorem FieldRow.Before.different {first second : FieldRow} (before : first.Before second) :
    ¬(first.space = second.space ∧ first.field = second.field) := by
  rintro ⟨same, equal⟩
  rcases before with less | ⟨-, less⟩
  · exact String.lt_irrefl _ (same ▸ less)
  · exact String.lt_irrefl _ (equal ▸ less)

theorem FieldRow.precedes_iff (row : FieldRow) (space field value : String) :
    row.precedes space field = true ↔ row.Before ⟨space, field, value⟩ := by
  simp [precedes, Before]

/-- Of two rows for different fields one comes first. -/
theorem FieldRow.before_of_not_precedes {row : FieldRow} {space field : String}
    (different : ¬(row.space = space ∧ row.field = field))
    (notBefore : ¬row.precedes space field = true) (value : String) :
    FieldRow.Before ⟨space, field, value⟩ row := by
  rw [precedes_iff row space field value] at notBefore
  unfold Before at notBefore ⊢
  by_cases same : row.space = space
  · have least : ¬ row.field < field := fun less => notBefore (.inr ⟨same, less⟩)
    refine .inr ⟨same.symm, ?_⟩
    by_contra notAfter
    exact different ⟨same,
      String.le_antisymm (String.not_lt.mp notAfter) (String.not_lt.mp least)⟩
  · have least : ¬ row.space < space := fun less => notBefore (.inl less)
    refine .inl ?_
    by_contra notAfter
    exact same (String.le_antisymm (String.not_lt.mp notAfter) (String.not_lt.mp least))

namespace FieldTable

/-- Every row comes before those after it, so no field has two rows. -/
def Ordered (table : FieldTable) : Prop :=
  table.rows.Pairwise FieldRow.Before

theorem empty_ordered : empty.Ordered :=
  List.Pairwise.nil

theorem mem_setRow {space field value : String} {row : FieldRow} {rows : List FieldRow}
    (found : row ∈ setRow space field value rows) : row = ⟨space, field, value⟩ ∨ row ∈ rows := by
  induction rows with
  | nil => exact .inl (List.mem_singleton.mp found)
  | cons head rest induction =>
      rw [setRow] at found
      split at found
      · rcases List.mem_cons.mp found with same | found
        · exact .inl same
        · exact .inr (List.mem_cons_of_mem _ found)
      · split at found
        · rcases List.mem_cons.mp found with same | found
          · exact .inr (List.mem_cons.mpr (.inl same))
          · exact (induction found).imp_right (List.mem_cons_of_mem _)
        · exact (List.mem_cons.mp found)

/-- The row that is set stays within the order. -/
theorem set_ordered {table : FieldTable} (ordered : table.Ordered) (space field value : String) :
    (table.set space field value).Ordered := by
  obtain ⟨rows⟩ := table
  change rows.Pairwise FieldRow.Before at ordered
  change (setRow space field value rows).Pairwise FieldRow.Before
  induction rows with
  | nil => exact List.pairwise_singleton _ _
  | cons head rest induction =>
      rcases List.pairwise_cons.mp ordered with ⟨above, ordered⟩
      dsimp only [setRow]
      split
      · rename_i here
        have same : head.space = space ∧ head.field = field := by simpa using here
        refine List.pairwise_cons.mpr ⟨?_, ordered⟩
        intro later found
        simpa [FieldRow.Before, same.1, same.2] using above later found
      · rename_i elsewhere
        have different : ¬(head.space = space ∧ head.field = field) := by simpa using elsewhere
        split
        · rename_i precedes
          refine List.pairwise_cons.mpr ⟨?_, induction ordered⟩
          intro later found
          rcases mem_setRow found with rfl | found
          · exact (head.precedes_iff space field value).mp precedes
          · exact above later found
        · rename_i follows
          have before := FieldRow.before_of_not_precedes different follows value
          refine List.pairwise_cons.mpr ⟨?_, List.pairwise_cons.mpr ⟨above, ordered⟩⟩
          intro later found
          rcases List.mem_cons.mp found with rfl | found
          · exact before
          · exact before.trans (above later found)

/-- A text is found for a field exactly if there is a row with both. -/
theorem mem_rows_iff {table : FieldTable} (ordered : table.Ordered) (space field value : String) :
    ⟨space, field, value⟩ ∈ table.rows ↔ table.get? space field = some value := by
  obtain ⟨rows⟩ := table
  change rows.Pairwise FieldRow.Before at ordered
  change _ ∈ rows ↔ getRow? space field rows = some value
  induction rows with
  | nil => simp [getRow?]
  | cons head rest induction =>
      rcases List.pairwise_cons.mp ordered with ⟨above, ordered⟩
      rw [getRow?, List.mem_cons]
      split
      · rename_i here
        have same : head.space = space ∧ head.field = field := by simpa using here
        -- No later row is for the same field.
        have last : (⟨space, field, value⟩ : FieldRow) ∉ rest :=
          fun found => (above _ found).different same
        obtain ⟨_, _, text⟩ := head
        cases same.1
        cases same.2
        simp [last, eq_comm]
      · rename_i elsewhere
        have different : (⟨space, field, value⟩ : FieldRow) ≠ head := by
          rintro rfl
          simp at elsewhere
        rw [← induction ordered]
        simp [different]

/-- A snapshot has the fields of a space that have a text, each with its text. -/
theorem mem_snapshot_iff {table : FieldTable} (ordered : table.Ordered)
    (space field value : String) :
    (field, value) ∈ table.snapshot space ↔ table.get? space field = some value := by
  rw [← mem_rows_iff ordered, snapshot, List.mem_map]
  constructor
  · rintro ⟨row, found, same⟩
    rcases List.mem_filter.mp found with ⟨present, here⟩
    have space := of_decide_eq_true here
    cases same
    subst space
    exact present
  · intro found
    exact ⟨_, List.mem_filter.mpr ⟨found, decide_eq_true rfl⟩, rfl⟩

theorem snapshot_byteOrder {table : FieldTable} (ordered : table.Ordered) (space : String) :
    (table.snapshot space).Pairwise fun first second =>
      Text.Utf8.encode first.1 < Text.Utf8.encode second.1 := by
  refine List.pairwise_map.mpr ((ordered.filter _).imp_of_mem ?_)
  intro first second firstFound secondFound before
  have firstSpace := of_decide_eq_true (List.mem_filter.mp firstFound).2
  have secondSpace := of_decide_eq_true (List.mem_filter.mp secondFound).2
  rcases before with less | ⟨-, less⟩
  · rw [firstSpace, secondSpace] at less
    exact absurd less (String.lt_irrefl _)
  · exact Text.Utf8.encode_lt less

/-- A snapshot shows exactly the texts of a space, each field once and in the order of the bytes. -/
structure Shows (fields : List (String × String)) (texts : String → Option String) : Prop where
  members : ∀ field value, (field, value) ∈ fields ↔ texts field = some value
  ascending : fields.Pairwise fun first second =>
    Text.Utf8.encode first.1 < Text.Utf8.encode second.1

theorem snapshot_shows {table : FieldTable} (ordered : table.Ordered) (space : String) :
    Shows (table.snapshot space) (table.get? space) :=
  ⟨mem_snapshot_iff ordered space, snapshot_byteOrder ordered space⟩

end FieldTable

/-! ## Reading and writing fields -/

inductive FieldAccess
  | set (space field value : String)
  | get (space field : String)
deriving DecidableEq, Repr

namespace FieldAccess

/-- The text that has been set last for just that field of that space. -/
def lastSet? (accesses : List FieldAccess) (space field : String) : Option String :=
  accesses.reverse.findSome? fun
    | .set other name value => if other = space ∧ name = field then some value else none
    | .get _ _ => none

end FieldAccess

namespace FieldStore

variable {σ : Type} [FieldStore σ] {atWork : σ → Prop}

/-- Reading leaves a store as it is. -/
def access (place : σ) : FieldAccess → σ
  | .set space field value => setField space field value place
  | .get _ _ => place

def accessAll (place : σ) (accesses : List FieldAccess) : σ :=
  accesses.foldl access place

theorem access_stays (faithful : Faithful atWork) {place : σ} (ready : atWork place)
    (access : FieldAccess) : atWork (FieldStore.access place access) := by
  cases access with
  | set space field value => exact faithful.stays space field value ready
  | get space field => exact ready

/-- A store that keeps what it is given holds what has been set last, or else what it has held
at first. -/
theorem accessAll_field? (faithful : Faithful atWork) {place : σ} (ready : atWork place)
    (accesses : List FieldAccess) (space field : String) :
    field? (accessAll place accesses) space field =
      (FieldAccess.lastSet? accesses space field).or (field? place space field) := by
  induction accesses generalizing place with
  | nil => rfl
  | cons access rest induction =>
      have later := induction (access_stays faithful ready access)
      rw [accessAll, List.foldl_cons, ← accessAll, later]
      rw [FieldAccess.lastSet?, FieldAccess.lastSet?, List.reverse_cons, List.findSome?_append,
        Option.or_assoc]
      congr 1
      cases access with
      | get other name => rfl
      | set other name value =>
          by_cases same : other = space ∧ name = field
          · rcases same with ⟨rfl, rfl⟩
            simp [FieldStore.access, faithful.finds _ _ value ready]
          · have apart : ¬(space = other ∧ field = name) := fun equal =>
              same ⟨equal.1.symm, equal.2.symm⟩
            simp [FieldStore.access, faithful.others value ready apart, same]

end FieldStore

/-- A hash map of pairs, as the standard library has it. -/
abbrev PairMap := Std.HashMap (String × String) String

instance : FieldStore PairMap where
  field? texts space field := texts[(space, field)]?
  setField space field value texts := texts.insert (space, field) value

theorem FieldStore.faithful_pairMap : Faithful fun _ : PairMap => True where
  stays := fun _ _ _ _ => trivial
  finds := by
    intro texts space field value _
    simp [field?, setField]
  others := by
    intro texts space field other name value _ different
    have apart : (space, field) ≠ (other, name) := fun same =>
      different ⟨(Prod.mk.inj same).1.symm, (Prod.mk.inj same).2.symm⟩
    simp [field?, setField, Std.HashMap.getElem?_insert, apart]

/-! ## Closing and opening again -/

/-- What is done with a database. -/
inductive Dealing
  | ask (access : FieldAccess)
  | close
  | reopen
deriving DecidableEq, Repr

namespace Dealing

/-- Whether a database is open after all that. -/
def openAfter (isOpen : Bool) : List Dealing → Bool
  | [] => isOpen
  | .ask _ :: rest => openAfter isOpen rest
  | .close :: rest => openAfter false rest
  | .reopen :: rest => openAfter true rest

/-- What is asked of a database while it is open. -/
def heard : (isOpen : Bool) → List Dealing → List FieldAccess
  | _, [] => []
  | true, .ask access :: rest => access :: heard true rest
  | false, .ask _ :: rest => heard false rest
  | _, .close :: rest => heard false rest
  | _, .reopen :: rest => heard true rest

theorem openAfter_append (isOpen : Bool) (first second : List Dealing) :
    openAfter isOpen (first ++ second) = openAfter (openAfter isOpen first) second := by
  induction first generalizing isOpen with
  | nil => rfl
  | cons dealing rest induction => cases dealing <;> exact induction _

theorem heard_append (isOpen : Bool) (first second : List Dealing) :
    heard isOpen (first ++ second) =
      heard isOpen first ++ heard (openAfter isOpen first) second := by
  induction first generalizing isOpen with
  | nil => rfl
  | cons dealing rest induction =>
      cases dealing with
      | ask access =>
          cases isOpen with
          | true => exact congrArg (access :: ·) (induction true)
          | false => exact induction false
      | close => cases isOpen <;> exact induction false
      | reopen => cases isOpen <;> exact induction true

/-- A pause: nothing but closing and opening. -/
def IsPause (dealings : List Dealing) : Prop :=
  ∀ dealing ∈ dealings, dealing = .close ∨ dealing = .reopen

theorem heard_of_pause {dealings : List Dealing} (pause : IsPause dealings) (isOpen : Bool) :
    heard isOpen dealings = [] := by
  induction dealings generalizing isOpen with
  | nil => rfl
  | cons dealing rest induction =>
      rcases List.forall_mem_cons.mp pause with ⟨rfl | rfl, others⟩
      · cases isOpen <;> exact induction others false
      · cases isOpen <;> exact induction others true

end Dealing

/-- A field store that can be closed. -/
class FieldDatabase (σ : Type) extends FieldStore σ where
  snapshot? : σ → (space : String) → Option (List (String × String))
  close : σ → σ
  reopen : σ → σ

namespace FieldDatabase

section

variable {σ : Type} [FieldDatabase σ]

def deal (place : σ) : Dealing → σ
  | .ask access => FieldStore.access place access
  | .close => close place
  | .reopen => reopen place

def dealAll (place : σ) (dealings : List Dealing) : σ :=
  dealings.foldl deal place

end

/-- Nobody can tell the one from the other by asking. -/
structure AnswersLike {σ τ : Type} [FieldDatabase σ] [FieldDatabase τ] (first : σ) (second : τ) :
    Prop where
  fields : ∀ space field,
    FieldStore.field? first space field = FieldStore.field? second space field
  snapshots : ∀ space, snapshot? first space = snapshot? second space

end FieldDatabase

instance : FieldDatabase Database where
  snapshot? := Database.snapshot?
  close := Database.close
  reopen := Database.reopen

namespace Database

open FieldDatabase

/-- A database has heard what was asked of it while it was open, and nothing else. -/
theorem dealAll_eq (table : FieldTable) (isOpen : Bool) (dealings : List Dealing) :
    dealAll (⟨table, isOpen⟩ : Database) dealings =
      ⟨FieldStore.accessAll table (Dealing.heard isOpen dealings),
        Dealing.openAfter isOpen dealings⟩ := by
  induction dealings generalizing table isOpen with
  | nil => rfl
  | cons dealing rest induction =>
      rw [dealAll, List.foldl_cons, ← dealAll]
      cases dealing with
      | ask access =>
          cases isOpen with
          | true => cases access <;> exact induction _ true
          | false => cases access <;> exact induction table false
      | close => cases isOpen <;> exact induction table false
      | reopen => cases isOpen <;> exact induction table true

end Database

/-! ## In a file -/

/-- A data folder with the database in it, which may be closed. -/
structure DataFolder where
  folder : String
  storage : FileStorage
  isOpen : Bool

namespace DataFolder

open FieldDatabase (AnswersLike)

def field? (data : DataFolder) (space field : String) : Option String :=
  if data.isOpen then FieldStore.field? data.storage space field else none

def setField (space field value : String) (data : DataFolder) : DataFolder :=
  if data.isOpen then { data with storage := FieldStore.setField space field value data.storage }
  else data

def snapshot? (data : DataFolder) (space : String) : Option (List (String × String)) :=
  if data.isOpen then some (data.storage.table.snapshot space) else none

def close (data : DataFolder) : DataFolder :=
  { data with isOpen := false }

/-- Start again in the folder, with the files that are there. -/
def reopen (data : DataFolder) : DataFolder :=
  match FileStorage.start data.storage.files data.folder data.storage.cookiePath with
  | .ok storage => { data with storage := storage, isOpen := true }
  | .error _ => data.close

instance : FieldDatabase DataFolder where
  field? := field?
  setField := setField
  snapshot? := snapshot?
  close := close
  reopen := reopen

/-- The storage has been started in the folder. -/
structure Sound (data : DataFolder) : Prop where
  atWork : data.storage.AtWork
  path : data.storage.databasePath = FileStorage.databaseIn data.folder

/-- A folder whose storage has been started can be started in again, with the same result. -/
theorem Sound.restart {data : DataFolder} (sound : data.Sound) :
    FileStorage.start data.storage.files data.folder data.storage.cookiePath =
      .ok data.storage := by
  rcases sound.atWork with ⟨place, table, found⟩
  rw [sound.path] at found
  have folders := FileTree.makeFolders_of_join (by decide) (by decide) found
  have opens : FileStorage.openDatabase data.storage.files (FileStorage.databaseIn data.folder) =
      .ok data.storage.files := by
    simp only [FileStorage.openDatabase, found]
  rw [← sound.path] at opens
  simp [FileStorage.start, folders, ← sound.path, opens, bind, Except.bind, pure, Except.pure]

theorem Sound.reopen_eq {data : DataFolder} (sound : data.Sound) :
    data.reopen = { data with isOpen := true } := by
  simp only [reopen, sound.restart]

theorem Sound.setField {data : DataFolder} (sound : data.Sound) (space field value : String) :
    (data.setField space field value).Sound := by
  unfold DataFolder.setField
  split
  · refine ⟨FileStorage.faithful.stays space field value sound.atWork, ?_⟩
    exact (FileStorage.putTable_databasePath _ _).trans sound.path
  · exact sound

/-- What the folder is as a database, its files apart. -/
def database (data : DataFolder) : Database :=
  ⟨data.storage.table, data.isOpen⟩

theorem database_answersLike (data : DataFolder) : AnswersLike data data.database :=
  ⟨fun _ _ => rfl, fun _ => rfl⟩

/-- Whatever is done with the folder has the effect that it has on the database. -/
theorem Sound.deal {data : DataFolder} (sound : data.Sound) (dealing : Dealing) :
    (FieldDatabase.deal data dealing).Sound ∧
      (FieldDatabase.deal data dealing).database = FieldDatabase.deal data.database dealing := by
  cases dealing with
  | ask access =>
      cases access with
      | get space field => exact ⟨sound, rfl⟩
      | set space field value =>
          refine ⟨sound.setField space field value, ?_⟩
          have written := FileStorage.table_putTable sound.atWork
            (data.storage.table.set space field value)
          obtain ⟨folder, storage, isOpen⟩ := data
          cases isOpen with
          | false => rfl
          | true => exact congrArg (Database.mk · true) written
  | close => exact ⟨⟨sound.atWork, sound.path⟩, rfl⟩
  | reopen =>
      change data.reopen.Sound ∧ data.reopen.database = _
      rw [sound.reopen_eq]
      exact ⟨⟨sound.atWork, sound.path⟩, rfl⟩

theorem Sound.dealAll {data : DataFolder} (sound : data.Sound) (dealings : List Dealing) :
    (FieldDatabase.dealAll data dealings).database =
      FieldDatabase.dealAll data.database dealings := by
  induction dealings generalizing data with
  | nil => rfl
  | cons dealing rest induction =>
      rcases sound.deal dealing with ⟨sound, same⟩
      exact (induction sound).trans (congrArg (FieldDatabase.dealAll · rest) same)

end DataFolder

namespace FileStorage

/-- Storage that is started where there is no database yet has no texts. -/
theorem start_fresh {files prepared : FileTree} {folder : String} {place : List String}
    (made : files.makeFolders folder = .ok prepared)
    (fresh : prepared.resolve (databaseIn folder) = .ok (place, none)) (cookiePath : String) :
    ∃ storage, start files folder cookiePath = .ok storage ∧ storage.table = .empty := by
  have opens : openDatabase prepared (databaseIn folder) =
      .ok (prepared.put place (.database .empty)) := by
    simp only [openDatabase, fresh]
  refine ⟨⟨prepared.put place (.database .empty), cookiePath, databaseIn folder⟩, ?_, ?_⟩
  · simp [start, made, opens, bind, Except.bind, pure, Except.pure]
  · exact table_of_resolve (FileTree.resolve_put fresh (by simp) (by simp))

end FileStorage

/-! ## All stores -/

open FieldStore (accessAll) in
theorem FieldStore.accessAll_ordered {table : FieldTable} (ordered : table.Ordered)
    (accesses : List FieldAccess) : (accessAll table accesses).Ordered := by
  induction accesses generalizing table with
  | nil => exact ordered
  | cons access rest induction =>
      cases access with
      | get space field => exact induction ordered
      | set space field value => exact induction (FieldTable.set_ordered ordered space field value)

namespace FieldDatabase

open FieldStore (field? accessAll)

/-- All stores are the same map. Whatever is read and written: a database, a hash map and a
memory that have nothing at first give for a field the text that was set for it last, or none. A
database with any texts at first that is closed and opened again in between does the same with
what was set while it was open; a snapshot shows all the texts of a space, and while it is closed
it shows nothing. No pause between two moments when it is open makes a difference, nor does what
is asked of it while it is closed. A database in a data folder answers as such a database does,
even though it starts again with the files each time it is opened. -/
theorem stores_are_one_map :
    (∀ (files : FileTree) cookie accesses space field,
      let last := FieldAccess.lastSet? accesses space field
      field? (accessAll Database.empty accesses) space field = last ∧
      field? (accessAll (∅ : PairMap) accesses) space field = last ∧
      field? (accessAll (⟨cookie, .empty, files⟩ : MemoryStorage) accesses) space field = last) ∧
    (∀ (table : FieldTable) (dealings : List Dealing), table.Ordered →
      let before : Database := ⟨table, true⟩
      let after := dealAll before dealings
      let heard := Dealing.heard true dealings
      after.isOpen = Dealing.openAfter true dealings ∧
      (∀ space field, field? after space field =
        if after.isOpen then (FieldAccess.lastSet? heard space field).or (table.get? space field)
        else none) ∧
      (∀ space, if after.isOpen then
          ∃ fields, after.snapshot? space = some fields ∧
            FieldTable.Shows fields (field? after space)
        else after.snapshot? space = none)) ∧
    (∀ (table : FieldTable) (first later : List Dealing),
      let before : Database := ⟨table, true⟩
      (Dealing.openAfter true first = true → ∀ pause, Dealing.IsPause pause →
        dealAll before (first ++ pause ++ .reopen :: later) = dealAll before (first ++ later)) ∧
      (Dealing.openAfter true first = false → ∀ access,
        dealAll before (first ++ .ask access :: later) = dealAll before (first ++ later))) ∧
    ∀ (files : FileTree) folder cookiePath,
      (∀ prepared place, files.makeFolders folder = .ok prepared →
        prepared.resolve (FileStorage.databaseIn folder) = .ok (place, none) →
        ∃ storage, FileStorage.start files folder cookiePath = .ok storage ∧
          storage.table = .empty) ∧
      ∀ storage, FileStorage.start files folder cookiePath = .ok storage → ∀ dealings,
        AnswersLike (dealAll (⟨folder, storage, true⟩ : DataFolder) dealings)
          (dealAll (⟨storage.table, true⟩ : Database) dealings) := by
  refine ⟨?stores, ?database, ?pauses, ?files⟩
  case stores =>
    intro files cookie accesses space field last
    refine ⟨?_, ?_, ?_⟩
    · rw [FieldStore.accessAll_field? FieldStore.faithful_database rfl]
      exact Option.or_none
    · rw [FieldStore.accessAll_field? FieldStore.faithful_pairMap trivial]
      simp [field?, last]
    · rw [FieldStore.accessAll_field? FieldStore.faithful_memory trivial]
      exact Option.or_none
  case database =>
    intro table dealings ordered before after heard
    have whole : after = ⟨accessAll table heard, Dealing.openAfter true dealings⟩ :=
      Database.dealAll_eq table true dealings
    rw [whole]
    refine ⟨rfl, ?_, ?_⟩
    · intro space field
      have held : (accessAll table heard).get? space field =
          (FieldAccess.lastSet? heard space field).or (table.get? space field) :=
        FieldStore.accessAll_field? FieldStore.faithful_fieldTable trivial heard space field
      cases Dealing.openAfter true dealings with
      | false => rfl
      | true => exact held
    · intro space
      have shows := FieldTable.snapshot_shows (FieldStore.accessAll_ordered ordered heard) space
      cases Dealing.openAfter true dealings with
      | false => rfl
      | true => exact ⟨_, rfl, shows⟩
  case pauses =>
    intro table first later before
    refine ⟨?_, ?_⟩
    · intro opened pause quiet
      simp [before, Database.dealAll_eq, Dealing.heard_append, Dealing.openAfter_append, opened,
        Dealing.heard_of_pause quiet, Dealing.heard, Dealing.openAfter]
    · intro closed access
      simp [before, Database.dealAll_eq, Dealing.heard_append, Dealing.openAfter_append, closed,
        Dealing.heard, Dealing.openAfter]
  case files =>
    intro files folder cookiePath
    refine ⟨fun prepared place made fresh => FileStorage.start_fresh made fresh cookiePath, ?_⟩
    intro storage started dealings
    have sound : DataFolder.Sound ⟨folder, storage, true⟩ := by
      rcases FileStorage.start_ok started with ⟨prepared, opened, opens, rfl⟩
      exact ⟨FileStorage.resolve_openDatabase opens, rfl⟩
    have same := sound.dealAll dealings
    rw [show (⟨storage.table, true⟩ : Database) = DataFolder.database ⟨folder, storage, true⟩
      from rfl, ← same]
    exact DataFolder.database_answersLike _

/-- In a new folder, what is set between closing and opening again is lost. What was set before
is still there, and `é` comes after `z`. -/
theorem stores_are_one_map_folder :
    let dealings : List Dealing :=
      [.ask (.set "docs" "é" "1"), .ask (.set "docs" "z" "2"), .close,
        .ask (.set "docs" "z" "lost"), .ask (.get "docs" "z"), .reopen,
        .ask (.set "slack" "z" "3")]
    ∃ storage, FileStorage.start .empty "data" "data/session.json" = .ok storage ∧
      let data := dealAll (⟨"data", storage, true⟩ : DataFolder) dealings
      field? data "docs" "z" = some "2" ∧ field? data "slack" "é" = none ∧
      snapshot? data "docs" = some [("z", "2"), ("é", "1")] ∧
      field? (dealAll data [.close]) "docs" "z" = none ∧
      snapshot? (dealAll data [.close, .reopen]) "docs" = some [("z", "2"), ("é", "1")] := by
  intro dealings
  rcases stores_are_one_map with ⟨-, database, pauses, inFiles⟩
  rcases inFiles .empty "data" "data/session.json" with ⟨fresh, alike⟩
  have made : FileTree.makeFolders .empty "data" = .ok ⟨[(["data"], .folder)]⟩ := rfl
  have missing : FileTree.resolve ⟨[(["data"], .folder)]⟩ (FileStorage.databaseIn "data") =
      .ok (["data", "fields.db"], Option.none) := by decide +kernel
  rcases fresh _ _ made missing with ⟨storage, started, none⟩
  refine ⟨storage, started, ?_⟩
  intro data
  have closes : dealAll data [.close] =
      dealAll (⟨"data", storage, true⟩ : DataFolder) (dealings ++ [.close]) :=
    List.foldl_append.symm
  have reopens : dealAll data [.close, .reopen] =
      dealAll (⟨"data", storage, true⟩ : DataFolder) (dealings ++ [.close, .reopen]) :=
    List.foldl_append.symm
  have here := alike storage started dealings
  have closed := alike storage started (dealings ++ [.close])
  have reopened := alike storage started (dealings ++ [.close, .reopen])
  rw [none] at here closed reopened
  have texts := (database .empty dealings FieldTable.empty_ordered).2.1
  have closedTexts := (database .empty (dealings ++ [.close]) FieldTable.empty_ordered).2.1
  have paused : dealAll (⟨.empty, true⟩ : Database) (dealings ++ [.close, .reopen]) =
      dealAll ⟨.empty, true⟩ (dealings ++ []) :=
    (pauses .empty dealings []).1 rfl [.close] (by simp [Dealing.IsPause])
  rw [closes, reopens, here.fields, here.fields, here.snapshots, closed.fields,
    reopened.snapshots, paused, List.append_nil, texts, texts, closedTexts]
  decide +kernel

end FieldDatabase

end PromptClient
