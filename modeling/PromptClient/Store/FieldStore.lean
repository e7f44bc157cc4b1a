import PromptClient.Store.Database

/-! # Field stores

Whatever keeps texts by space and field. A field that cannot be read has no text,
and a text that cannot be written is lost without a word.
-/

namespace PromptClient

/-- A place that keeps texts by space and field. -/
class FieldStore (σ : Type) where
  field? : σ → (space field : String) → Option String
  setField : (space field value : String) → σ → σ

instance : FieldStore FieldTable where
  field? table space field := table.get? space field
  setField space field value table := table.set space field value

instance : FieldStore Database where
  field? database space field := database.get? space field
  setField space field value database := database.set space field value

end PromptClient
