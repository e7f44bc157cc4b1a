import PromptClient.Number.Shortest
import PromptClient.Text.Decimal

/-! # JSON values

A value keeps the members of an object as they were written, repeated names
included. Looking a name up finds its last member, and `sorted` gives the form in
which each name occurs once, in order.
-/

namespace PromptClient

open Number

namespace Json

/-- A number: an integer that fits 64 bits, signed or unsigned, or a binary
floating-point number. -/
inductive Numeral
  | whole (value : Int)
  | real (value : Binary64)
deriving DecidableEq, Repr

end Json

inductive Json
  | null
  | bool (value : Bool)
  | number (value : Json.Numeral)
  | text (value : String)
  | array (items : List Json)
  | object (members : List (String × Json))
deriving Repr

namespace Json

/-- The value of the last member of that name. -/
def member? (name : String) : List (String × Json) → Option Json
  | [] => none
  | (key, value) :: rest =>
      match member? name rest with
      | some later => some later
      | none => if key = name then some value else none

def putMember (name : String) (value : α) : List (String × α) → List (String × α)
  | [] => [(name, value)]
  | (key, other) :: rest =>
      if key = name then (name, value) :: rest
      else if name < key then (name, value) :: (key, other) :: rest
      else (key, other) :: putMember name value rest

mutual

/-- The value with the members of every object in order of their names, the last
member of each name standing for all of them. -/
def sorted : Json → Json
  | .array items => .array (sortedItems items)
  | .object members => .object (sortedMembers members [])
  | other => other

def sortedItems : List Json → List Json
  | [] => []
  | item :: rest => sorted item :: sortedItems rest

def sortedMembers : List (String × Json) → List (String × Json) → List (String × Json)
  | [], done => done
  | (name, value) :: rest, done => sortedMembers rest (putMember name (sorted value) done)

end

end Json

end PromptClient
