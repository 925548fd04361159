import ApiStubs.Markup.Draft
import ApiStubs.Markup.Formatting
import ApiStubs.Markup.Stack

/-!
# Building a tree from tokens

The state between two tokens: the draft, the open elements, the formatting in
force and the mode.  A tree is built as if the text stood in a template, so the
outermost mode is that of template content.
-/

namespace ApiStubs
namespace Markup

/-- What the open elements say about the next token. -/
inductive Mode where
  | template
  | body
  | rawText
  | table
  | tableText
  | caption
  | columnGroup
  | tableBody
  | row
  | cell
  | select
  | selectInTable
  deriving DecidableEq, Repr

/--
`templateModes` holds the mode of each open template, the innermost first.
`returnMode` is taken up after raw text and after the text of a table, whose
characters wait in `pending`, the last first.  While `fostering`, content that
may not stand in a table is put before it.  `afterNull` tells that the last token
was a null character.  `raw` asks for raw text next.
-/
structure Builder where
  draft : Draft := Draft.start
  stack : Stack := [⟨0, .html, ⟨"html", [], false⟩⟩]
  formatting : Formatting := []
  mode : Mode := .template
  templateModes : List Mode := [.template]
  returnMode : Mode := .template
  pending : List Char := []
  form : Option Nat := none
  fostering : Bool := false
  skipsLineFeed : Bool := false
  afterNull : Bool := false
  raw : Option (RawText × String) := none

namespace Builder

def onStack (f : Stack → Stack) (b : Builder) : Builder :=
  { b with stack := f b.stack }

def pop (b : Builder) : Builder :=
  b.onStack (·.drop 1)

def withMode (mode : Mode) (b : Builder) : Builder :=
  { b with mode := mode }

def currentNode (b : Builder) : Nat :=
  (b.stack.head?.map (·.node)).getD 0

/-- The current element belongs to another vocabulary than HTML. -/
def inOtherVocabulary (b : Builder) : Bool :=
  b.stack.head?.any (!·.isHtml)

/-- The next token follows the rules of the other vocabularies. -/
def inForeign (b : Builder) : Bool :=
  b.stack.head?.any (fun element => !element.isHtml && !element.takesText)

def inTemplate (b : Builder) : Bool :=
  b.stack.any (·.isOneOf ["template"])

/-- Where content goes that may not stand in a table: a parent, and what follows. -/
def fosterPlace (draft : Draft) : Stack → Nat × Option Nat
  | [] => (0, none)
  | element :: rest =>
      if element.isOneOf ["template"] then (element.node, none)
      else if element.name = "table" then
        match draft.parent? element.node with
        | some parent => (parent, some element.node)
        | none => ((rest.head?.map (·.node)).getD 0, none)
      else fosterPlace draft rest

def putBeforeTable (node : Nat) (b : Builder) : Builder :=
  match fosterPlace b.draft b.stack with
  | (parent, some sibling) =>
      { b with draft := b.draft.insertBefore parent node sibling }
  | (parent, none) => { b with draft := b.draft.append parent node }

def mustFoster (b : Builder) : Bool :=
  b.fostering && b.stack.currentIs Names.tableParts

def attach (node : Nat) (b : Builder) : Builder :=
  if b.mustFoster then b.putBeforeTable node
  else { b with draft := b.draft.append b.currentNode node }

/-- Adds an element without opening it; its number is returned. -/
def addElement (tag : Tag) (b : Builder) : Builder × Nat :=
  let (draft, node) := b.draft.add (.element tag.name)
  (attach node { b with draft := draft }, node)

def addClosed (tag : Tag) (b : Builder) : Builder :=
  (b.addElement tag).1

/-- Adds an element and opens it. -/
def openElement (vocabulary : Vocabulary) (tag : Tag) (b : Builder) : Builder :=
  let (b, node) := b.addElement tag
  b.onStack (⟨node, vocabulary, tag⟩ :: ·)

def openHtml : Tag → Builder → Builder :=
  openElement .html

/-- Opens an element whose start tag was left out. -/
def openImplied (name : String) : Builder → Builder :=
  openHtml ⟨name, [], false⟩

def insertChar (c : Char) (b : Builder) : Builder :=
  if b.mustFoster then
    match fosterPlace b.draft b.stack with
    | (parent, some sibling) =>
        { b with draft := b.draft.insertCharBefore parent sibling c }
    | (parent, none) => { b with draft := b.draft.appendChar parent c }
  else { b with draft := b.draft.appendChar b.currentNode c }

def insertComment (content : String) (b : Builder) : Builder :=
  let (draft, node) := b.draft.add (.comment content)
  { b with draft := draft.append b.currentNode node }

/-- Opens a formatting element and puts it in force. -/
def openFormatting (tag : Tag) (b : Builder) : Builder :=
  let b := b.openHtml tag
  { b with formatting := b.formatting.push b.currentNode tag }

def addMark (b : Builder) : Builder :=
  { b with formatting := .mark :: b.formatting }

def dropMark (b : Builder) : Builder :=
  { b with formatting := b.formatting.dropThroughMark }

/-- The newest entries that are not open, the oldest of them first. -/
def closedFormatting (stack : Stack) (entries : Formatting) : List (Nat × Tag) :=
  (entries.sinceMark.takeWhile (fun entry => !stack.holdsNode entry.1)).reverse

/-- Opens the formatting in force again that a block has closed. -/
def reopenFormatting (b : Builder) : Builder :=
  (closedFormatting b.stack b.formatting).foldl
    (fun b entry =>
      let b := b.openHtml entry.2
      { b with formatting := b.formatting.renumber entry.1 b.currentNode }) b

def closeParagraphInScope (b : Builder) : Builder :=
  if b.stack.inButtonScope "p" then b.onStack Stack.closeParagraph else b

/-- Opens an element whose content is read as raw text. -/
def openRaw (kind : RawText) (tag : Tag) (b : Builder) : Builder :=
  { b.openHtml tag with
    raw := some (kind, tag.name)
    returnMode := b.mode
    mode := .rawText }

/-- A select box in a table obeys rules of its own. -/
def selectMode (below : Stack) : Mode :=
  if (below.takeWhile (·.name != "template")).any (·.name = "table") then .selectInTable
  else .select

/-- The mode that the open elements call for. -/
def modeFor (templateMode : Mode) : Stack → Mode
  | [] => .body
  | [_] => templateMode
  | element :: rest =>
      let name := element.name
      if name = "tr" then .row
      else if Names.sections.contains name then .tableBody
      else if name = "caption" then .caption
      else if name = "colgroup" then .columnGroup
      else if name = "table" then .table
      else if name = "select" then selectMode rest
      else if name = "template" then templateMode
      else if Names.cells.contains name then .cell
      else modeFor templateMode rest

def resetMode (b : Builder) : Builder :=
  b.withMode (modeFor (b.templateModes.head?.getD .body) b.stack)

def setTemplateMode (mode : Mode) (b : Builder) : Builder :=
  { b with mode := mode, templateModes := mode :: b.templateModes.drop 1 }

end Builder
end Markup
end ApiStubs
