import PromptClient.Json.Printer
import PromptClient.Json.Reader
import PromptClient.Prompt
import PromptClient.Store.FieldStore
import PromptClient.Tool

/-! # Prompt history

The prompts submitted last, oldest first. A prompt occurs once, at the place of its
latest submission, and beyond the capacity the oldest ones are forgotten. The list
is stored as a JSON array; whatever else is found in its field counts as no list,
and prompts that were stored before they were put on one line are tidied up.
-/

namespace PromptClient.History

def capacity : Nat := 5

def field : String := "saved_prompts"

/-- The last members of a list, at most `count` of them. -/
def lastOnes (count : Nat) (members : List α) : List α :=
  members.drop (members.length - count)

/-- The list with a prompt as its last member and nowhere else. -/
def moveToEnd (prompt : String) (entries : List String) : List String :=
  entries.filter (· ≠ prompt) ++ [prompt]

/-- Prompts on one line each, the blank ones dropped, each at its last place. -/
def tidy (prompts : List String) : List String :=
  ((prompts.map Prompt.normalize).filter (· ≠ "")).foldl
    (fun entries prompt => moveToEnd prompt entries) []

def texts? : Json → Option (List String)
  | .array items => items.mapM fun
      | .text value => some value
      | _ => none
  | _ => none

def stored (raw : Option String) : List String :=
  ((raw.bind Json.parse?).bind texts?).getD []

def entriesOf (raw : Option String) : List String :=
  lastOnes capacity (tidy (stored raw))

/-- The entries after a prompt on one line has been submitted. -/
def push (prompt : String) (entries : List String) : List String :=
  lastOnes capacity (moveToEnd prompt entries)

def written (entries : List String) : String :=
  (Json.array (entries.map .text)).compact

/-! ## Over a field store -/

variable {σ : Type} [FieldStore σ]

/-- The entries of a space, most recent last. -/
def list (place : σ) (space : String) : List String :=
  entriesOf (FieldStore.field? place space field)

def store (place : σ) (space : String) (entries : List String) : σ :=
  FieldStore.setField space field (written entries) place

/-- Remember a submitted prompt. A blank one changes nothing. -/
def record (place : σ) (space prompt : String) : List String × σ :=
  let line := Prompt.normalize prompt
  let entries := list place space
  if line = "" then (entries, place)
  else
    let next := push line entries
    (next, store place space next)

/-- Copy an entry into the prompt field; without such an entry nothing changes. -/
def select (place : σ) (space : String) (index : Nat) : Option String × σ :=
  match (list place space)[index]? with
  | none => (none, place)
  | some entry => (some entry, FieldStore.setField space promptField entry place)

end PromptClient.History
