import ApiStubs.Markup.Builder.Run

/-!
# Markup forests

The tree of a markup text without its root: a list of texts, comments and
elements, each element with a forest inside it.  An element is told by a label, in
the forest of a text by its name.
-/

namespace ApiStubs
namespace Markup

/-- Each node stands with the nodes that follow it. -/
inductive Forest (α : Type) where
  | nil
  | text (content : String) (rest : Forest α)
  | comment (content : String) (rest : Forest α)
  | element (label : α) (inside rest : Forest α)
  deriving DecidableEq, Repr

namespace Forest

variable {α : Type}

def append : Forest α → Forest α → Forest α
  | nil, other => other
  | text content rest, other => text content (append rest other)
  | comment content rest, other => comment content (append rest other)
  | element label inside rest, other => element label inside (append rest other)

/-- All texts of the forest, in order. -/
def texts : Forest α → List Char
  | nil => []
  | text content rest => content.toList ++ texts rest
  | comment _ rest => texts rest
  | element _ inside rest => texts inside ++ texts rest

def toText (forest : Forest α) : String :=
  String.ofList (texts forest)

/-- The labels of all elements, in document order. -/
def elements : Forest α → List α
  | nil => []
  | text _ rest => elements rest
  | comment _ rest => elements rest
  | element label inside rest => label :: (elements inside ++ elements rest)

/-- The nodes of a draft, down to a depth that no draft exceeds: its size. -/
def ofNodes (draft : Draft) : (depth : Nat) → List Nat → Forest String
  | 0, _ => nil
  | depth + 1, nodes =>
      nodes.foldr (fun (node : Nat) (rest : Forest String) =>
        match draft[node]? with
        | none => rest
        | some ⟨.text content, _, _⟩ => text content rest
        | some ⟨.comment content, _, _⟩ => comment content rest
        | some ⟨.element name, _, children⟩ =>
            element name (ofNodes draft depth children.toList) rest) nil

def ofDraft (draft : Draft) : Forest String :=
  ofNodes draft (draft.size + 1) (draft.children 0).toList

/-- The forest that a markup text describes. -/
def ofText (text : String) : Forest String :=
  ofDraft (Builder.build text)

@[simp]
theorem elements_append (a b : Forest α) :
    elements (append a b) = elements a ++ elements b := by
  induction a with
  | nil => rfl
  | text content rest ih => simp [append, elements, ih]
  | comment content rest ih => simp [append, elements, ih]
  | element label inside rest _ ih => simp [append, elements, ih]

end Forest
end Markup
end ApiStubs
