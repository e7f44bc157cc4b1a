import PromptClient.Proofs.CookieJson
import PromptClient.Proofs.Stores

/-! # Cookies in files as cookies in memory

A cookie file gives back what has been saved in it, whatever was there before, as long as a file
can be written there at all. Whether one can be written does not change by saving, so until
somebody else changes the files, a cookie file is a memory of one cookie. -/

namespace PromptClient

namespace CookieFile

/-! ## Where no file can be written -/

variable {files : FileTree} {path : String}

end CookieFile

/-! ## Sequences of uses -/

inductive CookieUse
  | save (cookie : Cookie)
  | load
deriving DecidableEq, Repr

/-- Only cookies whose expiry can be written are saved. -/
def CookieUse.Fits : CookieUse → Prop
  | .save cookie => cookie.Fits
  | .load => True

namespace Storage

variable {σ : Type} [Storage σ]

/-- What each load in a sequence of uses answers. -/
def answers (storage : σ) : List CookieUse → List (Option Cookie)
  | [] => []
  | .save cookie :: rest => answers (saveCookie cookie storage) rest
  | .load :: rest => cookie? storage :: answers storage rest

end Storage

/-- What may happen to the cookie file. -/
inductive Happening
  | used (use : CookieUse)
  /-- Somebody else has changed the files, and they are now these. -/
  | outside (files : FileTree)

def Happening.Fits : Happening → Prop
  | .used use => use.Fits
  | .outside _ => True

namespace FileStorage

def answers (storage : FileStorage) : List Happening → List (Option Cookie)
  | [] => []
  | .used (.save cookie) :: rest => answers (Storage.saveCookie cookie storage) rest
  | .used .load :: rest => Storage.cookie? storage :: answers storage rest
  | .outside files :: rest => answers { storage with files := files } rest

end FileStorage

namespace CookieFile

/-- What is expected at a path of files as somebody else has left them, with the cookie saved last
since then: that cookie, or what there was if none could be written. -/
def expected (path : String) (files : FileTree) (saved : Option Cookie) :
    List Happening → List (Option Cookie)
  | [] => []
  | .used (.save cookie) :: rest =>
      expected path files (if canWrite files path then some cookie else saved) rest
  | .used .load :: rest => saved.or (load files path) :: expected path files saved rest
  | .outside changed :: rest => expected path changed none rest

/-- The files have come from others by saving, with the given cookie as the last one written. -/
structure Follows (path : String) (before : FileTree) (saved : Option Cookie) (now : FileTree) :
    Prop where
  canWrite : canWrite now path = canWrite before path
  load : load now path = saved.or (load before path)

theorem follows_start (path : String) (files : FileTree) : Follows path files none files where
  canWrite := rfl
  load := rfl

variable {path : String} {files before now : FileTree} {saved : Option Cookie}

theorem Follows.save (follows : Follows path before saved now) {cookie : Cookie}
    (fits : cookie.Fits) :
    Follows path before (if CookieFile.canWrite before path then some cookie else saved)
      (CookieFile.save now path cookie) where
  canWrite := (canWrite_save now path cookie).trans follows.canWrite
  load := by
    cases can : CookieFile.canWrite before path with
    | true => exact load_save_of_canWrite fits (follows.canWrite.trans can)
    | false =>
        rw [load_save_of_cannotWrite (follows.canWrite.trans can), follows.load]
        rfl

theorem Follows.answers {storage : FileStorage}
    (follows : Follows storage.cookiePath before saved storage.files) {happenings : List Happening}
    (fits : ∀ happening ∈ happenings, happening.Fits) :
    storage.answers happenings = expected storage.cookiePath before saved happenings := by
  induction happenings generalizing before saved storage with
  | nil => rfl
  | cons happening rest induction =>
      rcases List.forall_mem_cons.mp fits with ⟨here, later⟩
      cases happening with
      | used use =>
          cases use with
          | save cookie =>
              have cookieFits : cookie.Fits := here
              exact induction (follows.save cookieFits) later
          | load => exact congrArg₂ List.cons follows.load (induction follows later)
      | outside changed => exact induction (follows_start storage.cookiePath changed) later

end CookieFile

end PromptClient
