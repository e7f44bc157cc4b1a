import PromptClient.Toml.Reader

/-! # TOML documents

The lines before the first heading belong to the document itself, all others to the
table of the heading above them. A table is opened once, and a name is given a value
once.
-/

namespace PromptClient.Toml

structure Assignment where
  names : List String
  name : String
  value : Toml

structure Section where
  names : List String
  name : String
  isElement : Bool
  assignments : List Assignment

/-- The values before the first heading, and the sections. -/
def sections : List Line → List Assignment × List Section
  | [] => ([], [])
  | .assignment names name value :: rest =>
      let (first, others) := sections rest
      (⟨names, name, value⟩ :: first, others)
  | .heading names name :: rest =>
      let (first, others) := sections rest
      ([], ⟨names, name, false, first⟩ :: others)
  | .element names name :: rest =>
      let (first, others) := sections rest
      ([], ⟨names, name, true, first⟩ :: others)

def assignAll (members : Members) (assignments : List Assignment) : Option Members :=
  assignments.foldlM (fun members given => assign given.names given.name given.value members)
    members

/-- Open the table of a section in the table that it lies in. A table that others lie
in may still be opened. -/
def openIn (part : Section) (members : Members) : Option Members :=
  match members.lookup part.name with
  | none => do
      let inner ← assignAll [] part.assignments
      some (put part.name (if part.isElement then .tables [inner] else .table .opened inner)
        members)
  | some (.table .passed known) =>
      if part.isElement then none else do
        let inner ← assignAll known part.assignments
        some (put part.name (.table .opened inner) members)
  | some (.tables elements) =>
      if part.isElement then do
        let inner ← assignAll [] part.assignments
        some (put part.name (.tables (elements ++ [inner])) members)
      else none
  | some _ => none

def addSection (document : Members) (part : Section) : Option Members :=
  changeAt .heading (fun _ members => openIn part members) part.names .opened document

def ofLines? (lines : List Line) : Option Members := do
  let (first, others) := sections lines
  let document ← assignAll [] first
  others.foldlM addSection document

/-- The table that a text holds; a byte order mark at the front is skipped. -/
def document? (text : String) : Option Members := do
  let input := match text.toList with
    | '\uFEFF' :: rest => rest
    | other => other
  let lines ← readLines (input.length + 1) input
  ofLines? lines

end PromptClient.Toml
