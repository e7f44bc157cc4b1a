import PromptClient.Json.Printer
import PromptClient.Json.Reader
import PromptClient.Store.Fields

/-! # The written form of a field table

A table is written as a JSON array with three texts for each row: the space, the
field and its value.
-/

namespace PromptClient.FieldTable

def rowJson (row : FieldRow) : Json :=
  .array [.text row.space, .text row.field, .text row.value]

def row? : Json → Option FieldRow
  | .array [.text space, .text field, .text value] => some ⟨space, field, value⟩
  | _ => none

def write (table : FieldTable) : String :=
  (Json.array (table.rows.map rowJson)).compact

def read? (text : String) : Option FieldTable :=
  match Json.parse? text with
  | some (.array items) =>
      (items.mapM row?).map fun rows =>
        rows.foldl (fun table row => table.set row.space row.field row.value) .empty
  | _ => none

@[simp] theorem row?_rowJson (row : FieldRow) : row? (rowJson row) = some row := rfl

end PromptClient.FieldTable
