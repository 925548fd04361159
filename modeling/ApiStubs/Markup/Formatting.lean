import ApiStubs.Markup.Token

/-!
# Formatting in force

Formatting elements that are closed by the end of a block are opened again in
the next one.  They are kept in a list, the newest first, with marks that keep
the formatting of a cell, a caption or a template apart.
-/

namespace ApiStubs
namespace Markup

inductive FormattingEntry where
  | mark
  | element (node : Nat) (tag : Tag)
  deriving Repr

abbrev Formatting := List FormattingEntry

namespace Formatting

/-- The entries after the last mark. -/
def sinceMark (entries : Formatting) : List (Nat × Tag) :=
  match entries with
  | [] => []
  | .mark :: _ => []
  | .element node tag :: rest => (node, tag) :: sinceMark rest

def find? (name : String) (entries : Formatting) : Option (Nat × Tag) :=
  (sinceMark entries).find? (fun entry => entry.2.name = name)

def dropThroughMark : Formatting → Formatting
  | [] => []
  | .mark :: rest => rest
  | .element _ _ :: rest => dropThroughMark rest

def tagOf? (node : Nat) : Formatting → Option Tag
  | [] => none
  | .mark :: rest => tagOf? node rest
  | .element other tag :: rest => if other = node then some tag else tagOf? node rest

def remove (node : Nat) : Formatting → Formatting
  | [] => []
  | .mark :: rest => .mark :: remove node rest
  | .element other tag :: rest =>
      if other = node then rest else .element other tag :: remove node rest

def renumber (old new : Nat) : Formatting → Formatting
  | [] => []
  | .mark :: rest => .mark :: renumber old new rest
  | .element node tag :: rest =>
      .element (if node = old then new else node) tag :: renumber old new rest

/-- Puts an entry right after the one of a node. -/
def insertAfter (bookmark node : Nat) (tag : Tag) : Formatting → Formatting
  | [] => []
  | .mark :: rest => .mark :: insertAfter bookmark node tag rest
  | .element other old :: rest =>
      if other = bookmark then .element node tag :: .element other old :: rest
      else .element other old :: insertAfter bookmark node tag rest

/-- Same name and the same attributes, in whatever order. -/
def alike (a b : Tag) : Bool :=
  a.name = b.name && a.attributes.length = b.attributes.length &&
    a.attributes.all (fun pair => b.attribute? pair.1 = some pair.2)

/-- At most three elements that are alike stay in force. -/
def push (node : Nat) (tag : Tag) (entries : Formatting) : Formatting :=
  let kept :=
    match ((sinceMark entries).filter (fun entry => alike entry.2 tag))[2]? with
    | some (third, _) => remove third entries
    | none => entries
  .element node tag :: kept

end Formatting
end Markup
end ApiStubs
