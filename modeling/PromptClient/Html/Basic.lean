/-! # HTML fragments

A fragment is a list of nodes: texts, and elements with attributes and nodes of their
own. An element belongs to HTML, to vector graphics or to mathematics.
-/

namespace PromptClient.Html

/-- The vocabulary that an element belongs to. -/
inductive Vocabulary
  | html
  | svg
  | math
deriving DecidableEq, Repr, Inhabited

structure Attribute where
  name : String
  value : List Char
deriving DecidableEq, Repr

inductive Node where
  | text (value : List Char)
  | element (vocabulary : Vocabulary) (name : String) (attributes : List Attribute)
      (children : List Node)
deriving Repr, Inhabited

structure Tag where
  name : String
  attributes : List Attribute
  isClosed : Bool
deriving DecidableEq, Repr, Inhabited

/-- What a source consists of. Comments and declarations mean nothing. -/
inductive Token
  | text (value : List Char)
  | opening (tag : Tag)
  | closing (name : String)
deriving Repr

end PromptClient.Html
