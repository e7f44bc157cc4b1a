/-! # TOML values

A document is a table. Tables remember how they came into being, because that
decides which later lines may still add to them.
-/

namespace PromptClient

/-- How a table came into being. -/
inductive Toml.Origin
  /-- A line of its own opened it, or it is an element of a list of tables. -/
  | opened
  /-- It lies on the way to a table that was opened. -/
  | passed
  /-- It lies on the way to a value with a dotted key. -/
  | dotted
  /-- It was written in one piece as a value. -/
  | sealed
deriving DecidableEq, Repr

/-- A value. Of numbers with a point and of times only their being there is kept. -/
inductive Toml where
  | text (value : String)
  | integer (value : Int)
  | real
  | moment
  | boolean (value : Bool)
  | array (items : List Toml)
  | table (origin : Toml.Origin) (members : List (String × Toml))
  /-- Tables under one name, each opened by a line of its own. -/
  | tables (elements : List (List (String × Toml)))
deriving Repr, Inhabited

namespace Toml

/-- The named values of a table, in order. -/
abbrev Members := List (String × Toml)

def put (name : String) (value : Toml) : Members → Members
  | [] => [(name, value)]
  | (known, old) :: rest =>
      if known = name then (name, value) :: rest else (known, old) :: put name value rest

theorem lookup_put (name : String) (value : Toml) (members : Members) :
    (put name value members).lookup name = some value := by
  induction members with
  | nil => simp [put]
  | cons head rest induction =>
      obtain ⟨known, old⟩ := head
      by_cases equal : known = name
      · simp [put, equal]
      · simp [put, equal, List.lookup_cons, beq_eq_false_iff_ne.mpr (Ne.symm equal), induction]

theorem lookup_put_other (name other : String) (value : Toml) (members : Members)
    (different : other ≠ name) :
    (put name value members).lookup other = members.lookup other := by
  induction members with
  | nil => simp [put, List.lookup_cons, beq_eq_false_iff_ne.mpr different]
  | cons head rest induction =>
      obtain ⟨known, old⟩ := head
      by_cases equal : known = name
      · subst equal
        simp [put, List.lookup_cons, beq_eq_false_iff_ne.mpr different]
      · simp [put, equal, List.lookup_cons, induction]

/-- Which lines are on their way through a table. -/
inductive Route
  | heading
  | dottedKey
deriving DecidableEq, Repr

/-- What a table is that comes into being on the way. -/
def Route.origin : Route → Origin
  | .heading => .passed
  | .dottedKey => .dotted

/-- Whether a route may lead through a table. What was opened or written in one piece
is closed to dotted keys, and what was written in one piece to headings too. -/
def Route.mayPass : Route → Origin → Bool
  | .heading, origin => origin ≠ .sealed
  | .dottedKey, origin => origin = .passed || origin = .dotted

/-- Change the members of the table that a route leads to. Tables missing on the way
come into being; a list of tables is entered at its last element. -/
def changeAt (route : Route) (change : Origin → Members → Option Members) :
    (names : List String) → Origin → Members → Option Members
  | [], origin, members => change origin members
  | name :: names, _, members =>
      match members.lookup name with
      | none => do
          let inner ← changeAt route change names route.origin []
          some (put name (.table route.origin inner) members)
      | some (.table origin inner) =>
          if route.mayPass origin then do
            let inner ← changeAt route change names origin inner
            some (put name (.table origin inner) members)
          else none
      | some (.tables elements) =>
          match elements.getLast? with
          | some last => do
              let last ← changeAt route change names .opened last
              some (put name (.tables (elements.dropLast ++ [last])) members)
          | none => none
      | some _ => none

def insertNew (name : String) (value : Toml) (members : Members) : Option Members :=
  match members.lookup name with
  | some _ => none
  | none => some (members ++ [(name, value)])

/-- Put a value at a dotted key into a table. A name is given a value once, and only
tables that dotted keys made are added to. -/
def assign (names : List String) (name : String) (value : Toml) (members : Members) :
    Option Members :=
  changeAt .dottedKey (fun origin members =>
      if names.isEmpty || origin = .dotted then insertNew name value members else none)
    names .opened members

end Toml

end PromptClient
