import ApiStubs.Markup.Forest

/-!
# Marks for inline elements

Inline elements of a description become marks around their text.  The elements are
numbered first.  Then the rules are applied one after the other; each chooses the
elements of its name in document order, and only then puts its marks around the content
of every one of them and dissolves it.
-/

namespace ApiStubs
namespace Markup

/-- A closing mark that is empty is not written. -/
structure InlineRule where
  name : String
  opening : String
  closing : String
  deriving DecidableEq, Repr

def inlineRules : List InlineRule := [
  ⟨"code", "`", "`"⟩,
  ⟨"strong", "**", "**"⟩,
  ⟨"b", "**", "**"⟩,
  ⟨"em", "*", "*"⟩,
  ⟨"i", "*", "*"⟩,
  ⟨"li", "- ", ""⟩]

/-- An element of a tree that changes; the number tells it from all others. -/
structure Numbered where
  number : Nat
  name : String
  deriving DecidableEq, Repr

namespace InlineRule

variable {α : Type}

/-- The content of an element between the marks. -/
def marked (rule : InlineRule) (inside : Forest α) : Forest α :=
  .text rule.opening
    (if rule.closing = "" then inside
     else inside.append (.text rule.closing .nil))

/-- The numbers of the elements that the rule is about. -/
def chosen (rule : InlineRule) (forest : Forest Numbered) : List Nat :=
  (forest.elements.filter (fun element => element.name = rule.name)).map (·.number)

end InlineRule

namespace Forest

/-- Numbers the elements in document order; the next free number is returned as well. -/
def numberFrom : Nat → Forest String → Forest Numbered × Nat
  | next, nil => (nil, next)
  | next, text content rest =>
      let (rest, free) := numberFrom next rest
      (text content rest, free)
  | next, comment content rest =>
      let (rest, free) := numberFrom next rest
      (comment content rest, free)
  | next, element name inside rest =>
      let (inside, between) := numberFrom (next + 1) inside
      let (rest, free) := numberFrom between rest
      (element ⟨next, name⟩ inside rest, free)

def numbered (forest : Forest String) : Forest Numbered :=
  (numberFrom 0 forest).1

/-- Leaves the content of one element, between the marks of the rule, in its place. -/
def dissolve (rule : InlineRule) (number : Nat) : Forest Numbered → Forest Numbered
  | nil => nil
  | text content rest => text content (dissolve rule number rest)
  | comment content rest => comment content (dissolve rule number rest)
  | element label inside rest =>
      if label.number = number then (rule.marked inside).append rest
      else element label (dissolve rule number inside) (dissolve rule number rest)

/-- Dissolves the elements that the rule has chosen, one after the other. -/
def dissolveAll (rule : InlineRule) (forest : Forest Numbered) : Forest Numbered :=
  (rule.chosen forest).foldl (fun forest number => forest.dissolve rule number) forest

def applyRules (rules : List InlineRule) (forest : Forest Numbered) : Forest Numbered :=
  rules.foldl (fun forest rule => forest.dissolveAll rule) forest

/-- The text of a forest with marks for its inline elements. -/
def plain (forest : Forest String) : String :=
  (forest.numbered.applyRules inlineRules).toText

end Forest

/-- The text of a description with marks for its inline elements. -/
def plainText (text : String) : String :=
  (Forest.ofText text).plain

end Markup
end ApiStubs
