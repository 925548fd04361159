import ApiStubs.Markup.Builder

/-!
# Formatting elements closed out of order

An end tag of a formatting element may come while blocks are open inside it.
The element is then split: what lies between it and the outermost of these
blocks is copied, and a copy of the element takes over the content of the block.
-/

namespace ApiStubs
namespace Markup
namespace Builder

/-- The elements below the nearest one of the name, unless a special one is nearer. -/
def belowNamed? (name : String) : Stack → Option Stack
  | [] => none
  | [_] => none
  | element :: rest =>
      if element.name = name then some rest
      else if element.isSpecial then none
      else belowNamed? name rest

def closeNamed (name : String) (stack : Stack) : Stack :=
  (belowNamed? name stack).getD stack

/-- The state of a split: the node moved last and the place of the new entry. -/
structure Split where
  builder : Builder
  moved : Nat
  bookmark : Nat
  steps : Nat

/--
One element between the block and the formatting element.  It is copied if it is
formatting in force and among the first three, and dropped otherwise.
-/
def Split.pass (block : Nat) (split : Split) (element : OpenElement) : Split :=
  let b := split.builder
  match b.formatting.tagOf? element.node with
  | some tag =>
      if split.steps < 3 then
        let (draft, copy) := b.draft.add (.element tag.name)
        { builder :=
            { b with
              draft := (draft.detach split.moved).append copy split.moved
              stack := b.stack.renumber element.node copy
              formatting := b.formatting.renumber element.node copy }
          moved := copy
          bookmark := if split.moved = block then copy else split.bookmark
          steps := split.steps + 1 }
      else
        { split with
          builder :=
            { b with
              stack := b.stack.removeNode element.node
              formatting := b.formatting.remove element.node }
          steps := split.steps + 1 }
  | none =>
      { split with
        builder := b.onStack (Stack.removeNode element.node)
        steps := split.steps + 1 }

/-- Puts the node moved last into the element that the formatting element stands in. -/
def placeMoved (target : OpenElement) (node : Nat) (b : Builder) : Builder :=
  let b := { b with draft := b.draft.detach node }
  if Names.tableParts.contains target.name then b.putBeforeTable node
  else { b with draft := b.draft.append target.node node }

/-- Splits a formatting element around a block that is open inside it. -/
def splitAround (formatting : Nat) (tag : Tag) (block : Nat) (b : Builder) : Builder :=
  let between :=
    ((b.stack.dropWhile (·.node != block)).drop 1).takeWhile
      (·.node != formatting)
  let split := between.foldl (Split.pass block) ⟨b, block, formatting, 0⟩
  let b := split.builder
  let b :=
    match b.stack.below? formatting with
    | some target => b.placeMoved target split.moved
    | none => { b with draft := b.draft.detach split.moved }
  let (draft, copy) := b.draft.add (.element tag.name)
  { b with
    draft := (draft.moveChildren block copy).append block copy
    stack := (b.stack.removeNode formatting).insertAbove block ⟨copy, .html, tag⟩
    formatting :=
      (b.formatting.insertAfter split.bookmark copy tag).remove formatting }

/-- One round of closing; the flag tells whether another round may follow. -/
def adoptionRound (name : String) (b : Builder) : Builder × Bool :=
  match b.formatting.find? name with
  | none => (b.onStack (closeNamed name), false)
  | some (node, tag) =>
      if !b.stack.holdsNode node then
        ({ b with formatting := b.formatting.remove node }, false)
      else if !b.stack.inScope name then (b, false)
      else
        let above := b.stack.takeWhile (·.node != node)
        match (above.filter (·.isSpecial)).getLast? with
        | none =>
            ({ b with
                stack := (b.stack.dropWhile (·.node != node)).drop 1
                formatting := b.formatting.remove node }, false)
        | some block => (b.splitAround node tag block.node, true)

def adoptionRounds (name : String) : Nat → Builder → Builder
  | 0, b => b
  | rounds + 1, b =>
      match b.adoptionRound name with
      | (b, true) => adoptionRounds name rounds b
      | (b, false) => b

/-- Closes a formatting element in at most eight rounds. -/
def closeFormatting (name : String) (b : Builder) : Builder :=
  adoptionRounds name 8 b

end Builder
end Markup
end ApiStubs
