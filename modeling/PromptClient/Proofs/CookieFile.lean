import PromptClient.Proofs.Json
import PromptClient.Proofs.Login

/-! # Cookies in files

A cookie is written on two lines of JSON and read from them again. Once its file has been
written, it is the cookie that the storage has. -/

namespace PromptClient

namespace Cookie

open Json

/-! ## The written form -/

/-- The expiry as it is written. -/
def expiryChars : Option Int → List Char
  | none => Json.null.chars
  | some time => (Json.number (.whole time)).chars

/-- The second line of a written cookie, and what follows it. -/
def expiresLine (expires : Option Int) : List Char :=
  quoted "expires" ++ ':' :: ' ' :: (expiryChars expires ++ ['\n', '\x7d'])

/-- Both lines of a written cookie. -/
def valueLine (cookie : Cookie) : List Char :=
  quoted "value" ++ ':' :: ' ' :: (quoted cookie.value ++ ',' :: '\n' :: ' ' :: ' ' ::
    expiresLine cookie.expires)

theorem toList_write (cookie : Cookie) :
    cookie.write.toList = '\x7b' :: '\n' :: ' ' :: ' ' :: cookie.valueLine := by
  obtain ⟨value, expires⟩ := cookie
  cases expires <;>
    simp [write, indentedObject, chars, valueLine, expiresLine, expiryChars]

/-! ## Read again -/

theorem expiry?_expiryChars {expires : Option Int}
    (fits : ∀ time ∈ expires, Number.fitsInt64 time = true) :
    expiry? (' ' :: (expiryChars expires ++ ['\n', '\x7d'])) = some (expires, ['\n', '\x7d']) := by
  cases expires with
  | none => rfl
  | some time =>
      have read : number? (Text.Decimal.writeInt time ++ ['\n', '\x7d']) =
          some (.whole time, ['\n', '\x7d']) :=
        number?_writeInt (fits time rfl) rfl (by decide) rfl _
      have plain : ∀ char ∈ Text.Decimal.writeInt time, isSpace char = false ∧ char ≠ 'n' :=
        Text.Decimal.writeInt_forall (by decide) (by decide) time
      have written : expiryChars (some time) = Text.Decimal.writeInt time := by
        simp [expiryChars, chars, Numeral.chars]
      rw [written]
      cases some_char : Text.Decimal.writeInt time with
      | nil =>
          rw [some_char] at read
          cases read
      | cons first more =>
          obtain ⟨notSpace, notNull⟩ := plain first (by simp [some_char])
          rw [some_char] at read
          have skipped : skipSpace (' ' :: (first :: more ++ ['\n', '\x7d'])) =
              first :: more ++ ['\n', '\x7d'] := by
            rw [skipSpace_space (by decide)]
            exact skipSpace_cons_of_not_isSpace notSpace _
          rw [expiry?, skipped]
          split
          · exact absurd (List.cons.inj ‹_›).1 notNull
          · rw [read]
            simp [fits time rfl]

theorem membersFrom_expires {expires : Option Int}
    (fits : ∀ time ∈ expires, Number.fitsInt64 time = true) (value : String) (fuel : Nat) :
    membersFrom (fuel + 1) ⟨some value, none⟩ ('\n' :: ' ' :: ' ' :: expiresLine expires) =
      some (⟨some value, some expires⟩, []) := by
  have line : isSpace '\n' = true := by decide
  have blank : isSpace ' ' = true := by decide
  have known := expiry?_expiryChars fits
  rw [expiresLine]
  -- Only the reader of the expiry may look into what is written of it.
  generalize expiryChars expires ++ ['\n', '\x7d'] = written at known ⊢
  simp [membersFrom, skipSpace_space line, skipSpace_space blank, skipSpace_quoted, text?_quoted,
    known, isSpace]

theorem membersFrom_value {cookie : Cookie}
    (fits : ∀ time ∈ cookie.expires, Number.fitsInt64 time = true) (fuel : Nat) :
    membersFrom (fuel + 2) ⟨none, none⟩ cookie.valueLine =
      some (⟨some cookie.value, some cookie.expires⟩, []) := by
  have blank : isSpace ' ' = true := by decide
  have later := membersFrom_expires fits cookie.value fuel
  rw [valueLine]
  generalize '\n' :: ' ' :: ' ' :: expiresLine cookie.expires = written at later ⊢
  rw [membersFrom]
  simp [skipSpace_space blank, skipSpace_quoted, text?_quoted, later, isSpace]

theorem cookieAt_object {inside : List Char}
    (full : ∀ after, skipSpace inside ≠ '\x7d' :: after) :
    cookieAt ('\x7b' :: inside) =
      (membersFrom (skipSpace inside).length ⟨none, none⟩ (skipSpace inside)).bind
        fun found => found.1.value.bind fun value =>
          some (⟨value, found.1.expires.getD none⟩, found.2) := by
  have opened : skipSpace ('\x7b' :: inside) = '\x7b' :: inside :=
    skipSpace_cons_of_not_isSpace rfl _
  rw [cookieAt, opened]
  simp

/-- A written cookie is read again, whatever its text. -/
theorem read?_write {cookie : Cookie}
    (fits : ∀ time ∈ cookie.expires, Number.fitsInt64 time = true) :
    read? cookie.write = some cookie := by
  have blank : isSpace ' ' = true := by decide
  have inside : skipSpace ('\n' :: ' ' :: ' ' :: cookie.valueLine) = cookie.valueLine := by
    rw [skipSpace_space (by decide), skipSpace_space blank, skipSpace_space blank]
    exact skipSpace_quoted _ _
  have full : ∀ after, cookie.valueLine ≠ '\x7d' :: after := by
    intro after closes
    cases closes
  obtain ⟨fuel, enough⟩ : ∃ fuel, cookie.valueLine.length = fuel + 2 := ⟨_, rfl⟩
  rw [read?, toList_write, cookieAt_object (by rwa [inside]), inside, enough,
    membersFrom_value fits]
  rfl

end Cookie

/-! ## In a file -/

theorem CookieFile.load_save {files prepared written : FileTree} {path : String}
    {cookie : Cookie} (fits : ∀ time ∈ cookie.expires, Number.fitsInt64 time = true)
    (folders : files.makeFolders (FileTree.parentPath path) = .ok prepared)
    (writes : prepared.write path (Text.Utf8.encode cookie.write) = .ok written) :
    load (save files path cookie) path = some cookie := by
  have saved : save files path cookie = written := by
    simp only [save, folders, writes]
  have text := FileTree.readText_write writes (Text.Utf8.decode?_encode cookie.write)
  rw [saved, load, text]
  exact Cookie.read?_write fits

/-- Storage in files keeps every cookie that it can write. -/
theorem Storage.keeps_file {storage : FileStorage} {prepared written : FileTree}
    {cookie : Cookie} (fits : ∀ time ∈ cookie.expires, Number.fitsInt64 time = true)
    (folders : storage.files.makeFolders (FileTree.parentPath storage.cookiePath) =
      .ok prepared)
    (writes : prepared.write storage.cookiePath (Text.Utf8.encode cookie.write) =
      .ok written) : Keeps cookie storage :=
  CookieFile.load_save fits folders writes

end PromptClient
