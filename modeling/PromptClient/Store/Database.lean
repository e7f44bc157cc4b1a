import PromptClient.Store.Fields

/-! # The field database

A field table that can be closed. While it is closed nothing can be read, and what
is written is lost. A database in a file keeps its table when it is opened again.
-/

namespace PromptClient

/-- A database and whether it is open. -/
structure Database where
  table : FieldTable
  isOpen : Bool
deriving DecidableEq, Repr

namespace Database

def empty : Database := ⟨.empty, true⟩

/-- The text of a field; none while closed. -/
def get? (database : Database) (space field : String) : Option String :=
  if database.isOpen then database.table.get? space field else none

/-- Give a field a text; without effect while closed. -/
def set (database : Database) (space field value : String) : Database :=
  if database.isOpen then { database with table := database.table.set space field value }
  else database

/-- The fields of a space in order; none while closed. -/
def snapshot? (database : Database) (space : String) : Option (List (String × String)) :=
  if database.isOpen then some (database.table.snapshot space) else none

def close (database : Database) : Database :=
  { database with isOpen := false }

def reopen (database : Database) : Database :=
  { database with isOpen := true }

end Database

end PromptClient
