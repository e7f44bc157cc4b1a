import PromptClient.Store.Fields
import PromptClient.Text.Utf8

/-! # File trees

A tree of folders and files under one root, with paths looked up name by name as an
operating system does it. Every operation either succeeds or names its fault.
-/

namespace PromptClient

/-- What stands at a path. A field database is a file that only the database can
read. -/
inductive FileEntry
  | folder
  | file (bytes : List UInt8)
  | database (table : FieldTable)
deriving DecidableEq, Repr

/-- Why an operation on files failed. -/
inductive FileFault
  | missing
  | taken
  | notAFolder
  | isAFolder
  | notText
deriving DecidableEq, Repr

def FileFault.message : FileFault → String
  | .missing => "No such file or directory (os error 2)"
  | .taken => "File exists (os error 17)"
  | .notAFolder => "Not a directory (os error 20)"
  | .isAFolder => "Is a directory (os error 21)"
  | .notText => "stream did not contain valid UTF-8"

/-- The entries below the root, each at its list of names. -/
structure FileTree where
  entries : List (List String × FileEntry)
deriving Repr, Inhabited

namespace FileTree

/-- A tree with nothing below the root. -/
def empty : FileTree := ⟨[]⟩

/-- What stands at a list of names; the root is a folder. -/
def entry? (tree : FileTree) (names : List String) : Option FileEntry :=
  if names.isEmpty then some .folder else tree.entries.lookup names

def put (tree : FileTree) (names : List String) (entry : FileEntry) : FileTree :=
  ⟨(names, entry) :: tree.entries.filter fun known => known.1 ≠ names⟩

/-! ## Paths -/

private def splitSlashes : List Char → List (List Char)
  | [] => [[]]
  | char :: rest =>
      if char = '/' then [] :: splitSlashes rest
      else match splitSlashes rest with
        | [] => [[char]]
        | part :: parts => (char :: part) :: parts

/-- The names of a path, and whether it must lead to a folder because it ends in a
slash or a dot. -/
def pathNames (path : String) : List String × Bool :=
  let parts := (splitSlashes path.toList).map String.ofList
  let last := parts.getLast?.getD ""
  (parts.filter fun part => part ≠ "" && part ≠ ".",
    last = "" || last = "." || last = "..")

def join (folder name : String) : String :=
  if folder = "" || folder.endsWith "/" then folder ++ name else folder ++ "/" ++ name

def parentPath (path : String) : String :=
  let names := (pathNames path).1
  let start := if path.startsWith "/" then "/" else ""
  start ++ String.intercalate "/" names.dropLast

/-- Where a path leads: to names that have an entry or, their last name apart, at
least to a folder. -/
private def walk (tree : FileTree) (place : List String) :
    List String → Except FileFault (List String)
  | [] => .ok place
  | name :: rest =>
      match tree.entry? place with
      | some .folder =>
          if name = ".." then walk tree place.dropLast rest
          else walk tree (place ++ [name]) rest
      | some _ => .error .notAFolder
      | none => .error .missing

def resolve (tree : FileTree) (path : String) :
    Except FileFault (List String × Option FileEntry) := do
  if path = "" then throw .missing
  let (names, mustBeFolder) := pathNames path
  let place ← walk tree [] names
  match tree.entry? place with
  | some .folder => return (place, some .folder)
  | some entry => if mustBeFolder then throw .notAFolder else return (place, some entry)
  | none => if mustBeFolder then throw .missing else return (place, none)

def hasEntry (tree : FileTree) (path : String) : Bool :=
  match tree.resolve path with
  | .ok (_, some _) => true
  | _ => false

/-! ## Reading and writing -/

def readText (tree : FileTree) (path : String) : Except FileFault String := do
  let (_, entry) ← tree.resolve path
  match entry with
  | none => throw .missing
  | some .folder => throw .isAFolder
  | some (.database _) => throw .notText
  | some (.file bytes) =>
      match Text.Utf8.decode? bytes with
      | some text => return text
      | none => throw .notText

/-- Write a file at a path whose folder is there, in place of the file there. -/
def write (tree : FileTree) (path : String) (bytes : List UInt8) :
    Except FileFault FileTree := do
  let (place, entry) ← tree.resolve path
  match entry with
  | some .folder => throw .isAFolder
  | _ => return tree.put place (.file bytes)

/-- Make the folders along a list of names that are not there yet. -/
private def makeAlong (tree : FileTree) (place : List String) :
    List String → Except FileFault FileTree
  | [] => .ok tree
  | name :: rest =>
      let next := if name = ".." then place.dropLast else place ++ [name]
      match tree.entry? next with
      | some .folder => makeAlong tree next rest
      | some _ => .error (if rest.isEmpty then .taken else .notAFolder)
      | none => makeAlong (tree.put next .folder) next rest

/-- Make the folder at a path with every folder that it lies in. -/
def makeFolders (tree : FileTree) (path : String) : Except FileFault FileTree :=
  makeAlong tree [] (pathNames path).1

def writeWithFolders (tree : FileTree) (path : String) (bytes : List UInt8) :
    Except FileFault FileTree := do
  let prepared ← tree.makeFolders (parentPath path)
  prepared.write path bytes

/-! ## Reading what has been written -/

theorem lookup_filter_other {names other : List String} (different : other ≠ names)
    (entries : List (List String × FileEntry)) :
    (entries.filter fun known => known.1 ≠ names).lookup other = entries.lookup other := by
  induction entries with
  | nil => rfl
  | cons known rest induction =>
      obtain ⟨place, entry⟩ := known
      by_cases same : place = names
      · have apart : (other == place) = false := beq_eq_false_iff_ne.mpr (same ▸ different)
        simpa [same, List.lookup_cons, same ▸ apart] using induction
      · rw [List.filter_cons_of_pos (by simpa using same), List.lookup_cons, List.lookup_cons,
          induction]

theorem entry?_put_same (tree : FileTree) {names : List String} (below : names ≠ [])
    (entry : FileEntry) : entry? (tree.put names entry) names = some entry := by
  simp [ entry?, put, below]

theorem entry?_put_other (tree : FileTree) {names other : List String}
    (different : other ≠ names) (entry : FileEntry) :
    entry? (tree.put names entry) other = tree.entry? other := by
  have kept : (tree.put names entry).entries.lookup other = tree.entries.lookup other := by
    rw [put, List.lookup_cons, beq_eq_false_iff_ne.mpr different]
    exact lookup_filter_other different tree.entries
  simp only [ entry?, kept]

/-- A way leads through folders only, so it leads on past a new file. -/
private theorem walk_put {tree : FileTree} {names : List String}
    (notFolder : tree.entry? names ≠ some .folder) (entry : FileEntry) {place : List String} :
    ∀ {rest last}, walk tree place rest = .ok last →
      walk (tree.put names entry) place rest = .ok last := by
  intro rest
  induction rest generalizing place with
  | nil => exact id
  | cons name rest induction =>
      intro last leads
      rw [walk] at leads ⊢
      cases here : tree.entry? place with
      | none => simp [here] at leads
      | some known =>
          cases known with
          | file bytes | database table => simp [here] at leads
          | folder =>
              have apart : place ≠ names := fun same => notFolder (same ▸ here)
              rw [entry?_put_other tree apart, here]
              simp only [here] at leads ⊢
              split at leads
              · rw [if_pos ‹_›]
                exact induction leads
              · rw [if_neg ‹_›]
                exact induction leads

/-- A path leads to a file, or to nothing yet, exactly if it has a name, its folders are there
and it does not have to lead to a folder. -/
private theorem resolve_eq_ok_iff {tree : FileTree} {path : String} {place : List String}
    {entry : Option FileEntry} (notFolder : entry ≠ some .folder) :
    tree.resolve path = .ok (place, entry) ↔
      path ≠ "" ∧ walk tree [] (pathNames path).1 = .ok place ∧
        (pathNames path).2 = false ∧ tree.entry? place = entry := by
  unfold resolve
  by_cases blank : path = ""
  · simp [blank, bind, Except.bind, throw, throwThe, MonadExceptOf.throw]
  · simp only [blank, if_false, bind, Except.bind, pure, Except.pure]
    cases walk tree [] (pathNames path).1 with
    | error fault => simp
    | ok reached =>
        dsimp only
        cases known : tree.entry? reached with
        | none =>
            cases (pathNames path).2 <;> simp [throw, throwThe, MonadExceptOf.throw, blank]
            rintro rfl
            rw [known]
        | some standing =>
            cases standing with
            | folder =>
                simp [blank, notFolder.symm]
                rintro rfl - same
                exact notFolder (same ▸ known)
            | file bytes | database table =>
                cases (pathNames path).2 <;>
                  simp [throw, throwThe, MonadExceptOf.throw, blank]
                rintro rfl
                rw [known]

/-- A path that leads to a file, or to nothing yet, leads to whatever is put there. -/
theorem resolve_put {tree : FileTree} {path : String} {place : List String}
    {present : Option FileEntry} (found : tree.resolve path = .ok (place, present))
    (notFolder : present ≠ some .folder) {entry : FileEntry} (plain : entry ≠ .folder) :
    (tree.put place entry).resolve path = .ok (place, some entry) := by
  obtain ⟨named, leads, free, rfl⟩ := (resolve_eq_ok_iff notFolder).mp found
  have below : place ≠ [] := by
    rintro rfl
    exact notFolder rfl
  exact (resolve_eq_ok_iff (by simpa using plain)).mpr
    ⟨named, walk_put notFolder entry leads, free, entry?_put_same tree below entry⟩

/-- A file is written where its path leads, unless that is a folder. -/
theorem write_ok {tree written : FileTree} {path : String} {bytes : List UInt8}
    (writes : tree.write path bytes = .ok written) :
    ∃ place present, tree.resolve path = .ok (place, present) ∧ present ≠ some .folder ∧
      written = tree.put place (.file bytes) := by
  cases found : tree.resolve path with
  | error fault => simp [write, found, bind, Except.bind] at writes
  | ok target =>
      obtain ⟨place, present⟩ := target
      have notFolder : present ≠ some .folder := by
        rintro rfl
        simp [write, found, bind, Except.bind, throw, throwThe, MonadExceptOf.throw] at writes
      have put : tree.put place (.file bytes) = written := by
        simpa [write, found, bind, Except.bind, pure, Except.pure, notFolder] using writes
      exact ⟨place, present, rfl, notFolder, put.symm⟩

theorem write_of_resolve {tree : FileTree} {path : String} {place : List String}
    {present : Option FileEntry} (found : tree.resolve path = .ok (place, present))
    (notFolder : present ≠ some .folder) (bytes : List UInt8) :
    tree.write path bytes = .ok (tree.put place (.file bytes)) := by
  simp [write, found, bind, Except.bind, pure, Except.pure]

/-- A written file is read as the text that its bytes are. -/
theorem readText_write {tree written : FileTree} {path text : String} {bytes : List UInt8}
    (writes : tree.write path bytes = .ok written) (decodes : Text.Utf8.decode? bytes = some text) :
    written.readText path = .ok text := by
  rcases write_ok writes with ⟨place, present, found, notFolder, rfl⟩
  have leads := resolve_put found notFolder (by simp : FileEntry.file bytes ≠ .folder)
  simp [readText, leads, decodes, bind, Except.bind, pure, Except.pure]

/-- A path leads where the way along its names leads, and to what stands there. -/
private theorem walk_of_resolve {tree : FileTree} {path : String} {place : List String}
    {entry : Option FileEntry} (found : tree.resolve path = .ok (place, entry)) :
    walk tree [] (pathNames path).1 = .ok place ∧ tree.entry? place = entry := by
  unfold resolve at found
  by_cases blank : path = ""
  · simp [blank, bind, Except.bind, throw, throwThe, MonadExceptOf.throw] at found
  · simp only [blank, if_false, bind, Except.bind, pure, Except.pure] at found
    cases leads : walk tree [] (pathNames path).1 with
    | error fault => simp [leads] at found
    | ok reached =>
        simp only [leads] at found
        split at found
        · cases found
          exact ⟨rfl, ‹_›⟩
        · split at found
          · cases found
          · cases found
            exact ⟨rfl, ‹_›⟩
        · split at found
          · cases found
          · cases found
            exact ⟨rfl, ‹_›⟩

theorem resolve_entry? {tree : FileTree} {path : String} {place : List String}
    {entry : Option FileEntry} (found : tree.resolve path = .ok (place, entry)) :
    tree.entry? place = entry :=
  (walk_of_resolve found).2

/-! ## The folder of a path

The folder of a path has the names of the path except the last, so where a path leads, the
folder is there. -/

private theorem splitSlashes_append {part : List Char} (plain : '/' ∉ part)
    (rest : List Char) : splitSlashes (part ++ '/' :: rest) = part :: splitSlashes rest := by
  induction part with
  | nil => simp [splitSlashes]
  | cons char part induction =>
      have different : char ≠ '/' := by
        rintro rfl
        exact plain List.mem_cons_self
      have later := induction fun found => plain (List.mem_cons_of_mem _ found)
      rw [List.cons_append, splitSlashes, if_neg different, later]

private theorem splitSlashes_of_plain {part : List Char} (plain : '/' ∉ part) :
    splitSlashes part = [part] := by
  induction part with
  | nil => rfl
  | cons char part induction =>
      have different : char ≠ '/' := by
        rintro rfl
        exact plain List.mem_cons_self
      have later := induction fun found => plain (List.mem_cons_of_mem _ found)
      rw [splitSlashes, if_neg different, later]

private theorem splitSlashes_plain (chars : List Char) :
    ∀ part ∈ splitSlashes chars, '/' ∉ part := by
  induction chars with
  | nil => simp [splitSlashes]
  | cons char rest induction =>
      intro part found
      rw [splitSlashes] at found
      split at found
      · rcases List.mem_cons.mp found with rfl | found
        · exact List.not_mem_nil
        · exact induction part found
      · rename_i different
        split at found
        · rw [List.mem_singleton.mp found]
          exact fun slash => different (List.mem_singleton.mp slash).symm
        · rename_i first parts same
          rcases List.mem_cons.mp found with rfl | found
          · intro slash
            rcases List.mem_cons.mp slash with same | slash
            · exact different same.symm
            · exact induction first (by rw [same]; exact List.mem_cons_self) slash
          · exact induction part (by rw [same]; exact List.mem_cons_of_mem _ found)

/-- Parts that are joined by slashes are found again. -/
private theorem splitSlashes_intercalate {parts : List (List Char)} (some : parts ≠ [])
    (plain : ∀ part ∈ parts, '/' ∉ part) :
    splitSlashes (['/'].intercalate parts) = parts := by
  induction parts with
  | nil => exact absurd rfl some
  | cons part parts induction =>
      have first := plain part List.mem_cons_self
      cases parts with
      | nil => simpa [List.intercalate] using splitSlashes_of_plain first
      | cons next parts =>
          have later := induction (List.cons_ne_nil _ _) fun other found =>
            plain other (List.mem_cons_of_mem _ found)
          rw [List.intercalate_cons_cons, List.append_assoc, List.singleton_append,
            splitSlashes_append first, later]

/-- A part of a path that is a name. -/
private def isName (part : String) : Bool :=
  part ≠ "" && part ≠ "."

private theorem pathNames_eq (path : String) :
    (pathNames path).1 = ((splitSlashes path.toList).map String.ofList).filter isName :=
  rfl

private theorem pathNames_slash (path : String) :
    (pathNames ("/" ++ path)).1 = (pathNames path).1 := by
  have split : splitSlashes ("/" ++ path).toList = [] :: splitSlashes path.toList := by
    rw [String.toList_append]
    exact splitSlashes_append List.not_mem_nil path.toList
  rw [pathNames_eq, split]
  simp [pathNames_eq, isName]

private theorem pathNames_intercalate {names : List String}
    (plain : ∀ name ∈ names, '/' ∉ name.toList) (named : ∀ name ∈ names, isName name = true) :
    (pathNames (String.intercalate "/" names)).1 = names := by
  rw [pathNames_eq, String.toList_intercalate]
  cases names with
  | nil => rfl
  | cons name names =>
      have split : splitSlashes (['/'].intercalate ((name :: names).map String.toList)) =
          (name :: names).map String.toList := by
        apply splitSlashes_intercalate (by simp)
        intro part found
        rcases List.mem_map.mp found with ⟨other, present, rfl⟩
        exact plain other present
      have back : ((name :: names).map String.toList).map String.ofList = name :: names := by
        simp
      rw [show "/".toList = ['/'] from rfl, split, back]
      exact List.filter_eq_self.mpr named

private theorem pathNames_parentPath (path : String) :
    (pathNames (parentPath path)).1 = (pathNames path).1.dropLast := by
  have kept : ∀ name ∈ (pathNames path).1.dropLast, name ∈ (pathNames path).1 :=
    fun name found => List.dropLast_subset _ found
  have joined : (pathNames (String.intercalate "/" (pathNames path).1.dropLast)).1 =
      (pathNames path).1.dropLast := by
    apply pathNames_intercalate
    · intro name found
      rcases List.mem_filter.mp (kept name found) with ⟨part, -⟩
      rcases List.mem_map.mp part with ⟨chars, present, rfl⟩
      rw [String.toList_ofList]
      exact splitSlashes_plain path.toList chars present
    · intro name found
      exact (List.mem_filter.mp (kept name found)).2
  unfold parentPath
  dsimp only
  split
  · rw [pathNames_slash, joined]
  · rw [show "" ++ String.intercalate "/" (pathNames path).1.dropLast =
      String.intercalate "/" (pathNames path).1.dropLast from String.empty_append, joined]

/-- On the way to a place every folder but the last is there already. -/
private theorem makeAlong_of_walk {tree : FileTree} {place : List String} {last : String} :
    ∀ {names reached}, walk tree place (names ++ [last]) = .ok reached →
      makeAlong tree place names = .ok tree := by
  intro names
  induction names generalizing place with
  | nil => exact fun _ => rfl
  | cons name names induction =>
      intro reached leads
      -- What follows a name is only looked up in a folder.
      have there : ∀ next, walk tree next (names ++ [last]) = .ok reached →
          tree.entry? next = some .folder := by
        intro next onward
        cases names with
        | nil | cons first names =>
            simp only [List.nil_append, List.cons_append, walk] at onward
            split at onward
            · assumption
            · cases onward
            · cases onward
      rw [List.cons_append, walk] at leads
      split at leads
      · rw [makeAlong]
        split at leads
        · rw [if_pos ‹_›, there _ leads]
          exact induction leads
        · rw [if_neg ‹_›, there _ leads]
          exact induction leads
      · cases leads
      · cases leads

/-- Where a path leads, its folder is there and has not to be made. -/
theorem makeFolders_parentPath {tree : FileTree} {path : String} {place : List String}
    {entry : Option FileEntry} (found : tree.resolve path = .ok (place, entry)) :
    tree.makeFolders (parentPath path) = .ok tree := by
  have leads := (walk_of_resolve found).1
  rw [makeFolders, pathNames_parentPath]
  by_cases blank : (pathNames path).1 = []
  · rw [blank]
    rfl
  · rw [← List.dropLast_concat_getLast blank] at leads
    exact makeAlong_of_walk leads

/-! ## Folders on the way -/

private theorem makeAlong_stands {place : List String} {entry : FileEntry}
    {names spot : List String} :
    ∀ {tree made : FileTree}, tree.entry? place = some entry →
      makeAlong tree spot names = .ok made → made.entry? place = some entry := by
  induction names generalizing spot with
  | nil =>
      intro tree made standing makes
      cases makes
      exact standing
  | cons name names induction =>
      intro tree made standing makes
      simp only [makeAlong] at makes
      split at makes
      · exact induction standing makes
      · cases makes
      · rename_i missing
        refine induction ?_ makes
        rw [entry?_put_other tree, standing]
        rintro rfl
        rw [standing] at missing
        cases missing

/-- Once the folders along a list of names have been made, they are there. -/
private theorem makeAlong_again {names spot : List String} :
    ∀ {tree made : FileTree}, makeAlong tree spot names = .ok made →
      makeAlong made spot names = .ok made := by
  induction names generalizing spot with
  | nil => exact fun _ => rfl
  | cons name names induction =>
      intro tree made makes
      simp only [makeAlong] at makes ⊢
      split at makes
      · rw [makeAlong_stands ‹_› makes]
        exact induction makes
      · cases makes
      · rename_i missing
        have below : (if name = ".." then spot.dropLast else spot ++ [name]) ≠ [] := by
          intro root
          rw [root] at missing
          cases missing
        rw [makeAlong_stands (entry?_put_same tree below .folder) makes]
        exact induction makes

theorem makeFolders_again {tree made : FileTree} {folder : String}
    (makes : tree.makeFolders folder = .ok made) : made.makeFolders folder = .ok made :=
  makeAlong_again makes

/-- The folders in which a path lies, the nearest first. -/
inductive LiesIn (path : String) : (folder : String) → Prop
  | parent : LiesIn path (parentPath path)
  | above {folder : String} (inside : LiesIn path folder) : LiesIn path (parentPath folder)

private theorem LiesIn.names {path folder : String} (inside : LiesIn path folder) :
    (pathNames folder).1 <+: (pathNames path).1.dropLast := by
  induction inside with
  | parent => simp only [pathNames_parentPath, List.prefix_refl]
  | @above folder _ induction =>
      rw [pathNames_parentPath]
      have dropped := List.dropLast_prefix (pathNames folder).1
      exact dropped.trans induction

private theorem splitSlashes_ne_nil (chars : List Char) : splitSlashes chars ≠ [] := by
  cases chars with
  | nil => exact List.cons_ne_nil _ _
  | cons char rest =>
      rw [splitSlashes]
      split
      · exact List.cons_ne_nil _ _
      · split <;> exact List.cons_ne_nil _ _

private theorem splitSlashes_concat {last : List Char} (plain : '/' ∉ last) (chars : List Char) :
    splitSlashes (chars ++ '/' :: last) = splitSlashes chars ++ [last] := by
  induction chars with
  | nil => simp [splitSlashes, splitSlashes_of_plain plain]
  | cons char rest induction =>
      rw [List.cons_append, splitSlashes, splitSlashes, induction]
      split
      · rfl
      · cases parts : splitSlashes rest with
        | nil => exact absurd parts (splitSlashes_ne_nil rest)
        | cons part parts => rfl

/-- The names of a file in a folder are those of the folder and its own. -/
private theorem pathNames_join (folder : String) {name : String} (plain : '/' ∉ name.toList)
    (named : isName name = true) :
    (pathNames (join folder name)).1 = (pathNames folder).1 ++ [name] := by
  have own : [name].filter isName = [name] := List.filter_cons_of_pos named
  unfold join
  split
  · rename_i ended
    rcases (Bool.or_eq_true _ _).mp ended with blank | ends
    · rw [of_decide_eq_true blank, String.empty_append, pathNames_eq,
        splitSlashes_of_plain plain, List.map_singleton, String.ofList_toList, own]
      rfl
    · rw [String.endsWith_eq_endsWith_toSlice, String.Slice.endsWith_string_iff] at ends
      rcases ends with ⟨chars, same⟩
      have whole : folder.toList = chars ++ ['/'] := by simpa using same.symm
      -- What follows the last slash of the folder is no name.
      have nothing : [String.ofList []].filter isName = [] := rfl
      rw [pathNames_eq, pathNames_eq, String.toList_append, whole, List.append_assoc,
        List.singleton_append, splitSlashes_concat plain, splitSlashes_concat List.not_mem_nil,
        List.map_append, List.map_append, List.map_singleton, List.map_singleton,
        String.ofList_toList, List.filter_append, List.filter_append, own, nothing,
        List.append_nil]
  · rw [pathNames_eq, pathNames_eq, String.toList_append, String.toList_append,
      List.append_assoc, show "/".toList ++ name.toList = '/' :: name.toList from rfl,
      splitSlashes_concat plain, List.map_append, List.map_singleton, String.ofList_toList,
      List.filter_append, own]

private theorem walk_getLast? {tree : FileTree} {place reached : List String} {last : String}
    (down : last ≠ "..") :
    ∀ {names}, walk tree place (names ++ [last]) = .ok reached →
      reached.getLast? = some last := by
  intro names
  induction names generalizing place with
  | nil =>
      intro leads
      simp only [List.nil_append, walk, if_neg down] at leads
      split at leads
      · cases leads
        exact List.getLast?_concat
      · cases leads
      · cases leads
  | cons name names induction =>
      intro leads
      rw [List.cons_append, walk] at leads
      split at leads
      · split at leads
        · exact induction leads
        · exact induction leads
      · cases leads
      · cases leads

/-- A path to a file in a folder leads to a place of the file's name. -/
theorem resolve_join {tree : FileTree} {folder name : String} {place : List String}
    {entry : Option FileEntry} (plain : '/' ∉ name.toList)
    (named : name ≠ "" ∧ name ≠ "." ∧ name ≠ "..")
    (found : tree.resolve (join folder name) = .ok (place, entry)) :
    place.getLast? = some name := by
  have leads := (walk_of_resolve found).1
  have proper : isName name = true := by simp [isName, named.1, named.2.1]
  rw [pathNames_join folder plain proper] at leads
  exact walk_getLast? named.2.2 leads

/-- Where there is a file in a folder, there is the folder. -/
theorem makeFolders_of_join {tree : FileTree} {folder name : String} {place : List String}
    {entry : Option FileEntry} (plain : '/' ∉ name.toList) (named : name ≠ "" ∧ name ≠ ".")
    (found : tree.resolve (join folder name) = .ok (place, entry)) :
    tree.makeFolders folder = .ok tree := by
  have leads := (walk_of_resolve found).1
  have proper : isName name = true := by simp [isName, named.1, named.2]
  rw [pathNames_join folder plain proper] at leads
  exact makeAlong_of_walk leads

/-! ## What writing leaves alone -/

/-- No way leads through a file, whatever is in it. -/
private theorem walk_replace {tree : FileTree} {names : List String} {known entry : FileEntry}
    (standing : tree.entry? names = some known) (plain : known ≠ .folder)
    (also : entry ≠ .folder) (place rest : List String) :
    walk (tree.put names entry) place rest = walk tree place rest := by
  have below : names ≠ [] := by
    rintro rfl
    exact plain (Option.some.inj standing).symm
  induction rest generalizing place with
  | nil => rfl
  | cons name rest induction =>
      rw [walk, walk]
      by_cases here : place = names
      · rw [here, entry?_put_same tree below, standing]
        cases known with
        | folder => exact absurd rfl plain
        | file bytes | database table =>
            cases entry with
            | folder => exact absurd rfl also
            | file bytes | database table => rfl
      · rw [entry?_put_other tree here]
        split
        · split
          · exact induction _
          · exact induction _
        · rfl
        · rfl

/-- When a file takes the place of another, every path leads where it has led before. -/
theorem resolve_replace {tree : FileTree} {names : List String} {known entry : FileEntry}
    (standing : tree.entry? names = some known) (plain : known ≠ .folder)
    (also : entry ≠ .folder) (path : String) :
    (tree.put names entry).resolve path =
      (tree.resolve path).map fun found =>
        if found.1 = names then (names, some entry) else found := by
  have below : names ≠ [] := by
    rintro rfl
    exact plain (Option.some.inj standing).symm
  unfold resolve
  by_cases blank : path = ""
  · simp [blank, bind, Except.bind, throw, throwThe, MonadExceptOf.throw, Except.map]
  · simp only [blank, if_false, bind, Except.bind, pure, Except.pure,
      walk_replace standing plain also]
    cases walk tree [] (pathNames path).1 with
    | error fault => rfl
    | ok reached =>
        dsimp only
        by_cases here : reached = names
        · rw [here, entry?_put_same tree below, standing]
          cases known with
          | folder => exact absurd rfl plain
          | file bytes | database table =>
              cases entry with
              | folder => exact absurd rfl also
              | file bytes | database table =>
                  cases (pathNames path).2 <;>
                    simp [throw, throwThe, MonadExceptOf.throw, Except.map]
        · rw [entry?_put_other tree here]
          cases tree.entry? reached with
          | none => cases (pathNames path).2 <;>
              simp [throw, throwThe, MonadExceptOf.throw, Except.map, here]
          | some standing =>
              cases standing with
              | folder => simp [Except.map, here]
              | file bytes | database table =>
                  cases (pathNames path).2 <;>
                    simp [throw, throwThe, MonadExceptOf.throw, Except.map, here]

end FileTree

end PromptClient
