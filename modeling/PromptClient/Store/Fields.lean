/-! # Field tables

A table holds at most one text for each pair of a space and a field. Its rows are
kept in order of space and field, so one space's fields come out in order.
-/

namespace PromptClient

/-- One stored field. -/
structure FieldRow where
  space : String
  field : String
  value : String
deriving DecidableEq, Repr

/-- Comes before the place of that space and field. -/
def FieldRow.precedes (row : FieldRow) (space field : String) : Bool :=
  decide (row.space < space) || (row.space = space && decide (row.field < field))

/-- The rows of a table, in order of space and field. -/
structure FieldTable where
  rows : List FieldRow
deriving DecidableEq, Repr, Inhabited

namespace FieldTable

/-- A table without rows. -/
def empty : FieldTable := ⟨[]⟩

def getRow? (space field : String) : List FieldRow → Option String
  | [] => none
  | row :: rest =>
      if row.space = space && row.field = field then some row.value
      else getRow? space field rest

/-- Put a row into its place, in place of the one of the same field. -/
def setRow (space field value : String) : List FieldRow → List FieldRow
  | [] => [⟨space, field, value⟩]
  | row :: rest =>
      if row.space = space && row.field = field then ⟨space, field, value⟩ :: rest
      else if row.precedes space field then row :: setRow space field value rest
      else ⟨space, field, value⟩ :: row :: rest

/-- The text of a field, if it has been set. -/
def get? (table : FieldTable) (space field : String) : Option String :=
  getRow? space field table.rows

/-- The table after a field has been given a text. -/
def set (table : FieldTable) (space field value : String) : FieldTable :=
  ⟨setRow space field value table.rows⟩

def snapshot (table : FieldTable) (space : String) : List (String × String) :=
  (table.rows.filter (·.space = space)).map fun row => (row.field, row.value)

@[simp] theorem get?_set_same (table : FieldTable) (space field value : String) :
    (table.set space field value).get? space field = some value := by
  simp only [get?, set]
  induction table.rows with
  | nil => simp [setRow, getRow?]
  | cons row rest later =>
    simp only [setRow]
    split
    · simp [getRow?]
    · split
      · simp [getRow?, *]
      · simp [getRow?]

theorem getRow?_setRow_other {space field other name : String} (value : String)
    (different : ¬(other = space ∧ name = field)) (rows : List FieldRow) :
    getRow? other name (setRow space field value rows) = getRow? other name rows := by
  have apart : (decide (space = other) && decide (field = name)) = false := by
    simp only [Bool.and_eq_false_iff, decide_eq_false_iff_not]
    by_cases same : space = other
    · exact Or.inr fun equal => different ⟨same.symm, equal.symm⟩
    · exact Or.inl same
  induction rows with
  | nil => simp [setRow, getRow?, apart]
  | cons row rest later =>
    simp only [setRow]
    split
    · rename_i here
      simp only [Bool.and_eq_true, decide_eq_true_eq] at here
      simp [getRow?, apart, here.1, here.2]
    · split
      · simp only [getRow?, later]
      · simp [getRow?, apart]

theorem get?_set_other {space field other name : String} (table : FieldTable) (value : String)
    (different : ¬(other = space ∧ name = field)) :
    (table.set space field value).get? other name = table.get? other name :=
  getRow?_setRow_other value different table.rows

end FieldTable

end PromptClient
