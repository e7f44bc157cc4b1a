import PromptClient.Desk
import PromptClient.Proofs.RequestBody

/-! # What a form is filled with

Loading a form gives every field of the tool what is stored for it, or else its default, and
gives it no other field. -/

namespace PromptClient

namespace FormValues

variable {name query value : String}

theorem get?_set_same (values : FormValues) (name value : String) :
    (values.set name value).get? name = some value := by
  unfold set get?
  split
  · rfl
  · split
    · rfl
    · split
      · rfl
      · exact Json.lookup_putMember_same name value values.toolFields

theorem get?_set_other (different : query ≠ name) (values : FormValues) (value : String) :
    (values.set name value).get? query = values.get? query := by
  unfold set
  split
  · subst name
    simp [get?, different]
  · split
    · subst name
      simp [get?, different]
    · split
      · subst name
        simp [get?, different]
      · simp only [get?, Json.lookup_putMember_other different]

/-- A field that is filled in with the others holds what is meant for it. -/
theorem get?_fill (fill : String → String) {names : List String} (values : FormValues)
    (named : name ∈ names) :
    (names.foldl (fun values name => values.set name (fill name)) values).get? name =
      some (fill name) := by
  induction names using List.reverseRecOn with
  | nil => cases named
  | append_singleton names last induction =>
      rw [List.foldl_append, List.foldl_cons, List.foldl_nil]
      by_cases same : name = last
      · subst same
        exact get?_set_same _ _ _
      · rw [get?_set_other same]
        apply induction
        rcases List.mem_append.mp named with named | named
        · exact named
        · exact absurd (List.mem_singleton.mp named) same

end FormValues

namespace Tool

theorem promptField_mem_fieldNames (tool : Tool) : promptField ∈ tool.fieldNames :=
  List.mem_cons_self

/-- The history is no field of a form. -/
theorem history_not_mem_fieldNames (tool : Tool) : History.field ∉ tool.fieldNames := by
  cases tool <;> decide

theorem storageSpace_inj {first second : Tool} :
    first.storageSpace = second.storageSpace ↔ first = second := by
  cases first <;> cases second <;> decide

/-- What a field that has never been stored holds: its default, and for the prompt the text that
stands in for it unless that is blank. -/
def unstored (tool : Tool) (substitute : Option String) (name : String) : String :=
  if name = promptField then
    ((substitute.map Prompt.normalize).filter (· ≠ "")).getD tool.defaultPrompt
  else (tool.defaultValue? name).getD ""

end Tool

namespace Desk

variable {σ : Type} [Storage σ] (desk : Desk σ) (substitute : Option String)

theorem fieldValue_eq (name : String) :
    desk.fieldValue substitute name =
      (FieldStore.field? desk.storage desk.tool.storageSpace name).getD
        (desk.tool.unstored substitute name) := by
  unfold fieldValue
  cases FieldStore.field? desk.storage desk.tool.storageSpace name with
  | some value => rfl
  | none =>
      unfold Tool.unstored
      cases substitute with
      | none => rfl
      | some text =>
          by_cases blank : Prompt.normalize text = "" <;>
            simp [Option.filter, blank]

theorem load_get? {name : String} (named : name ∈ desk.tool.fieldNames) :
    (desk.load substitute).get? name = some (desk.fieldValue substitute name) :=
  FormValues.get?_fill (desk.fieldValue substitute) .blank named

theorem load_toolFields :
    (desk.load substitute).toolFields =
      desk.tool.fields.map fun field => (field.name, desk.fieldValue substitute field.name) := by
  unfold load
  generalize desk.fieldValue substitute = fill
  cases desk.tool <;> rfl

theorem updateField_of_mem {name : String} (named : name ∈ desk.tool.fieldNames)
    (value : String) :
    desk.updateField name value = .ok (desk.withStorage
      (FieldStore.setField desk.tool.storageSpace name value desk.storage)) := by
  simp [updateField, named]

theorem updateField_of_not_mem {name : String} (unknown : name ∉ desk.tool.fieldNames)
    (value : String) :
    desk.updateField name value = .error (.unknownField desk.tool.id name) := by
  simp [updateField, unknown]

theorem select_of_none {index : Nat} (missing : desk.history[index]? = none) :
    desk.select index = (none, desk) := by
  unfold history at missing
  simp only [select, History.select, missing]
  rfl

theorem select_of_some {index : Nat} {entry : String}
    (found : desk.history[index]? = some entry) :
    desk.select index = (some entry, desk.withStorage
      (FieldStore.setField desk.tool.storageSpace promptField entry desk.storage)) := by
  unfold history at found
  simp only [select, History.select, found]

theorem select_entry (index : Nat) : (desk.select index).1 = desk.history[index]? := by
  cases found : desk.history[index]? with
  | none => rw [select_of_none _ found]
  | some entry => rw [select_of_some _ found]

end Desk

end PromptClient
