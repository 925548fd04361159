/-!
# Drafts of a markup tree

While a text is read its tree is a draft: nodes in the order of their creation,
each with its parent and its children.  Node 0 is the root.  Nodes are moved by
taking them out of their parent and putting them elsewhere.
-/

namespace ApiStubs
namespace Markup

inductive Content where
  | text (content : String)
  | comment (content : String)
  | element (name : String)
  deriving Repr

structure DraftNode where
  content : Content
  parent : Option Nat := none
  children : Array Nat := #[]
  deriving Repr

abbrev Draft := Array DraftNode

namespace Draft

def start : Draft := #[⟨.element "html", none, #[]⟩]

/-- A new node outside the tree, and its number. -/
def add (draft : Draft) (content : Content) : Draft × Nat :=
  (draft.push ⟨content, none, #[]⟩, draft.size)

def parent? (draft : Draft) (node : Nat) : Option Nat :=
  draft[node]?.bind (·.parent)

def children (draft : Draft) (node : Nat) : Array Nat :=
  (draft[node]?.map (·.children)).getD #[]

def setParent (draft : Draft) (node : Nat) (parent : Option Nat) : Draft :=
  draft.modify node (fun n => { n with parent := parent })

def changeChildren (draft : Draft) (node : Nat) (f : Array Nat → Array Nat) : Draft :=
  draft.modify node (fun n => { n with children := f n.children })

/-- Puts a node that is outside the tree at the end of a parent. -/
def append (draft : Draft) (parent node : Nat) : Draft :=
  (draft.changeChildren parent (·.push node)).setParent node (some parent)

def insertBefore (draft : Draft) (parent node sibling : Nat) : Draft :=
  (draft.changeChildren parent (fun children =>
    match children.idxOf? sibling with
    | some i => children.insertIdxIfInBounds i node
    | none => children.push node)).setParent node (some parent)

/-- Takes a node out of its parent. -/
def detach (draft : Draft) (node : Nat) : Draft :=
  match draft.parent? node with
  | none => draft
  | some parent =>
      (draft.changeChildren parent (fun children =>
        children.filter (· != node))).setParent node none

def moveChildren (draft : Draft) (source target : Nat) : Draft :=
  (draft.children source).foldl
    (fun draft child => (draft.detach child).append target child) draft

def addToText (draft : Draft) (node : Nat) (c : Char) : Draft :=
  draft.modify node (fun n =>
    match n with
    | ⟨.text content, parent, children⟩ => ⟨.text (content.push c), parent, children⟩
    | other => other)

def isText (draft : Draft) (node : Nat) : Bool :=
  match draft[node]? with
  | some ⟨.text _, _, _⟩ => true
  | _ => false

/-- Puts a character at the end of a parent, into a last text if there is one. -/
def appendChar (draft : Draft) (parent : Nat) (c : Char) : Draft :=
  match (draft.children parent).back? with
  | some last =>
      if draft.isText last then draft.addToText last c
      else
        let (draft, node) := draft.add (.text (String.singleton c))
        draft.append parent node
  | none =>
      let (draft, node) := draft.add (.text (String.singleton c))
      draft.append parent node

def previous? (draft : Draft) (parent sibling : Nat) : Option Nat :=
  let children := draft.children parent
  (children.idxOf? sibling).bind (fun i => if i = 0 then none else children[i - 1]?)

def insertCharBefore (draft : Draft) (parent sibling : Nat) (c : Char) : Draft :=
  match (draft.previous? parent sibling).filter draft.isText with
  | some node => draft.addToText node c
  | none =>
      let (draft, node) := draft.add (.text (String.singleton c))
      draft.insertBefore parent node sibling

end Draft
end Markup
end ApiStubs
