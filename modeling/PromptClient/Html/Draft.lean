import PromptClient.Html.Basic

/-! # Drafts of a tree

While a fragment is being read its nodes may still move, so they are kept in a list by
number. Node zero is the root.
-/

namespace PromptClient.Html

/-- What a node is, without what it holds. -/
inductive Label
  | text (value : List Char)
  | element (vocabulary : Vocabulary) (tag : Tag)
deriving Repr, Inhabited

/-- A node that may still move. Its children are in reverse. -/
structure DraftNode where
  label : Label
  parent : Option Nat
  children : List Nat
deriving Repr, Inhabited

structure Draft where
  nodes : Array DraftNode
deriving Repr

namespace Draft

def start : Draft :=
  ⟨#[⟨.element .html ⟨"html", [], false⟩, none, []⟩]⟩

def create (draft : Draft) (label : Label) : Draft × Nat :=
  (⟨draft.nodes.push ⟨label, none, []⟩⟩, draft.nodes.size)

def change (draft : Draft) (node : Nat) (f : DraftNode → DraftNode) : Draft :=
  ⟨draft.nodes.modify node f⟩

def parent? (draft : Draft) (node : Nat) : Option Nat :=
  draft.nodes[node]? >>= (·.parent)

def children (draft : Draft) (node : Nat) : List Nat :=
  (draft.nodes[node]?.map (·.children)).getD []

def detach (draft : Draft) (node : Nat) : Draft :=
  match draft.parent? node with
  | none => draft
  | some parent =>
      (draft.change parent fun holder =>
        { holder with children := holder.children.filter (· ≠ node) }).change node fun moved =>
          { moved with parent := none }

def append (draft : Draft) (parent node : Nat) : Draft :=
  ((draft.detach node).change parent fun holder =>
    { holder with children := node :: holder.children }).change node fun moved =>
      { moved with parent := some parent }

/-- Put a node before another that has a place. -/
def insertBefore (draft : Draft) (sibling node : Nat) : Draft :=
  let draft := draft.detach node
  match draft.parent? sibling with
  | none => draft
  | some parent =>
      (draft.change parent fun holder =>
        { holder with
          children := holder.children.flatMap fun child =>
            if child = sibling then [sibling, node] else [child] }).change node fun moved =>
              { moved with parent := some parent }

def moveChildren (draft : Draft) (source target : Nat) : Draft :=
  (draft.children source).reverse.foldl (fun draft child => draft.append target child) draft

mutual

/-- A node with all that it holds, as far as `fuel` reaches down. What stands in a
template is not part of the fragment. -/
def tree (draft : Draft) : (fuel : Nat) → Nat → Option Node
  | 0, _ => none
  | fuel + 1, node =>
      match draft.nodes[node]? with
      | none => none
      | some found =>
          match found.label with
          | .text value => some (.text value)
          | .element vocabulary tag =>
              some (.element vocabulary tag.name tag.attributes
                (if vocabulary = .html && tag.name = "template" then []
                  else trees draft fuel found.children []))

def trees (draft : Draft) : (fuel : Nat) → List Nat → List Node → List Node
  | 0, _, after => after
  | _ + 1, [], after => after
  | fuel + 1, node :: rest, after =>
      trees draft fuel rest (match tree draft fuel node with
        | some found => found :: after
        | none => after)

end

def nodesOf (draft : Draft) : List Node :=
  trees draft (2 * draft.nodes.size + 2) (draft.children 0) []

end Draft

end PromptClient.Html
