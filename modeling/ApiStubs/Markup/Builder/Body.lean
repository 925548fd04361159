import ApiStubs.Markup.Builder.Adoption

/-!
# Tags in the body

The rules for tags outside tables and select boxes.
-/

namespace ApiStubs
namespace Markup
namespace Builder

def openTemplate (tag : Tag) (b : Builder) : Builder :=
  let b := (b.openHtml tag).addMark
  { b with mode := .template, templateModes := .template :: b.templateModes }

def closeTemplate (b : Builder) : Builder :=
  if b.inTemplate then
    let b := b.onStack (fun stack =>
      Stack.closeThroughName "template" (Stack.closeAllImplied stack))
    let b := b.dropMark
    resetMode { b with templateModes := b.templateModes.drop 1 }
  else b

/-- The tags of a document head. -/
def startInHead (tag : Tag) (b : Builder) : Builder :=
  match tag.name with
  | "title" => b.openRaw .references tag
  | "style" => b.openRaw .plain tag
  | "noframes" => b.openRaw .plain tag
  | "script" => b.openRaw .script tag
  | "template" => b.openTemplate tag
  | _ => b.addClosed tag

/-- The names of list items that a new item closes. -/
def itemRivals (name : String) : List String :=
  if name = "li" then ["li"] else ["dd", "dt"]

/-- Special elements that do not bound a list item. -/
def plainBlocks : List String := ["address", "div", "p"]

/-- The nearest open item of the list that a new item belongs to. -/
def openItem? (name : String) : Stack → Option String
  | [] => none
  | element :: rest =>
      if (itemRivals name).contains element.name then some element.name
      else if element.isSpecial && !plainBlocks.contains element.name then none
      else openItem? name rest

def closeItem (name : String) (stack : Stack) : Stack :=
  match openItem? name stack with
  | some item => Stack.closeThroughName item (Stack.closeImplied item stack)
  | none => stack

def startSelect (tag : Tag) (b : Builder) : Builder :=
  let mode :=
    if [Mode.table, .caption, .tableBody, .row, .cell].contains b.mode then
      .selectInTable
    else .select
  (b.reopenFormatting.openHtml tag).withMode mode

def startForm (tag : Tag) (b : Builder) : Builder :=
  if b.inTemplate then b.closeParagraphInScope.openHtml tag
  else if b.form.isNone then
    let b := b.closeParagraphInScope.openHtml tag
    { b with form := some b.currentNode }
  else b

/-- A link inside a link closes the outer one. -/
def startLink (tag : Tag) (b : Builder) : Builder :=
  let b :=
    match b.formatting.find? "a" with
    | none => b
    | some (node, _) =>
        let b := b.closeFormatting "a"
        { b with
          stack := b.stack.removeNode node
          formatting := b.formatting.remove node }
  b.reopenFormatting.openFormatting tag

def startUnbroken (tag : Tag) (b : Builder) : Builder :=
  let b := b.reopenFormatting
  let b :=
    if b.stack.inScope "nobr" then (b.closeFormatting "nobr").reopenFormatting else b
  b.openFormatting tag

def startOther (vocabulary : Vocabulary) (tag : Tag) (b : Builder) : Builder :=
  let b := b.reopenFormatting
  if tag.selfClosing then b.addClosed tag else b.openElement vocabulary tag

def startButton (tag : Tag) (b : Builder) : Builder :=
  let b :=
    if b.stack.inScope "button" then
      b.onStack (fun stack => Stack.closeThroughName "button" (Stack.closeImplied "" stack))
    else b
  b.reopenFormatting.openHtml tag

def startRuby (kept : String) (tag : Tag) (b : Builder) : Builder :=
  let b := if b.stack.inScope "ruby" then b.onStack (Stack.closeImplied kept) else b
  b.openHtml tag

def startInBody (tag : Tag) (b : Builder) : Builder :=
  let name := tag.name
  if Names.formatting.contains name then b.reopenFormatting.openFormatting tag
  else if Names.blocks.contains name then b.closeParagraphInScope.openHtml tag
  else if Names.headings.contains name then
    let b := b.closeParagraphInScope
    let b := if b.stack.currentIs Names.headings then b.pop else b
    b.openHtml tag
  else if Names.headParts.contains name then b.startInHead tag
  else match name with
  | "a" => b.startLink tag
  | "li" => ((b.onStack (closeItem name)).closeParagraphInScope).openHtml tag
  | "dd" => ((b.onStack (closeItem name)).closeParagraphInScope).openHtml tag
  | "dt" => ((b.onStack (closeItem name)).closeParagraphInScope).openHtml tag
  | "br" => b.reopenFormatting.addClosed tag
  | "img" => b.reopenFormatting.addClosed tag
  | "image" => b.reopenFormatting.addClosed { tag with name := "img" }
  | "wbr" => b.reopenFormatting.addClosed tag
  | "area" => b.reopenFormatting.addClosed tag
  | "embed" => b.reopenFormatting.addClosed tag
  | "keygen" => b.reopenFormatting.addClosed tag
  | "input" => b.reopenFormatting.addClosed tag
  | "param" => b.addClosed tag
  | "track" => b.addClosed tag
  | "source" => b.addClosed tag
  | "hr" => b.closeParagraphInScope.addClosed tag
  | "rb" => b.startRuby "" tag
  | "rtc" => b.startRuby "" tag
  | "rt" => b.startRuby "rtc" tag
  | "rp" => b.startRuby "rtc" tag
  | "pre" => { b.closeParagraphInScope.openHtml tag with skipsLineFeed := true }
  | "listing" => { b.closeParagraphInScope.openHtml tag with skipsLineFeed := true }
  | "textarea" => { b.openRaw .references tag with skipsLineFeed := true }
  | "xmp" => b.closeParagraphInScope.reopenFormatting.openRaw .plain tag
  | "iframe" => b.openRaw .plain tag
  | "noembed" => b.openRaw .plain tag
  | "noscript" => b.openRaw .plain tag
  | "noframes" => b.openRaw .plain tag
  | "plaintext" =>
      { b.closeParagraphInScope.openHtml tag with raw := some (.endless, name) }
  | "svg" => b.startOther .svg tag
  | "math" => b.startOther .math tag
  | "form" => b.startForm tag
  | "nobr" => b.startUnbroken tag
  | "table" => (b.closeParagraphInScope.openHtml tag).withMode .table
  | "button" => b.startButton tag
  | "applet" => (b.reopenFormatting.openHtml tag).addMark
  | "object" => (b.reopenFormatting.openHtml tag).addMark
  | "marquee" => (b.reopenFormatting.openHtml tag).addMark
  | "select" => b.startSelect tag
  | "option" => (if b.stack.currentIs ["option"] then b.pop else b).reopenFormatting.openHtml tag
  | "optgroup" => (if b.stack.currentIs ["option"] then b.pop else b).reopenFormatting.openHtml tag
  | _ =>
      if ["html", "body", "frameset", "head", "frame"].contains name ||
          Names.structural.contains name then b
      else b.reopenFormatting.openHtml tag

/-- Closes an element of the name in scope, with what is open in it. -/
def closeWhole (name : String) (b : Builder) : Builder :=
  if b.stack.inScope name then
    b.onStack (fun stack => Stack.closeThroughName name (Stack.closeImplied "" stack))
  else b

def endForm (b : Builder) : Builder :=
  if b.inTemplate then b.closeWhole "form"
  else
    match b.form with
    | none => b
    | some node =>
        let b := { b with form := none }
        if b.stack.inScope "form" then
          b.onStack (fun stack => Stack.removeNode node (Stack.closeImplied "" stack))
        else b

def endItem (found : Bool) (name : String) (b : Builder) : Builder :=
  if found then
    b.onStack (fun stack => Stack.closeThroughName name (Stack.closeImplied name stack))
  else b

def endHeading (b : Builder) : Builder :=
  if b.stack.headingInScope then
    b.onStack (fun stack =>
      Stack.closeThrough (·.isOneOf Names.headings) (Stack.closeImplied "" stack))
  else b

def endMarked (name : String) (b : Builder) : Builder :=
  if b.stack.inScope name then (b.closeWhole name).dropMark else b

/-- The end tag of a paragraph that is not open makes an empty one. -/
def endParagraph (b : Builder) : Builder :=
  let b := if b.stack.inButtonScope "p" then b else b.openImplied "p"
  b.onStack Stack.closeParagraph

def endInBody (name : String) (b : Builder) : Builder :=
  if (["a", "nobr"] ++ Names.formatting).contains name then b.closeFormatting name
  else if Names.closedWhole.contains name then b.closeWhole name
  else if Names.headings.contains name then b.endHeading
  else match name with
  | "p" => b.endParagraph
  | "li" => b.endItem (b.stack.inItemScope name) name
  | "dd" => b.endItem (b.stack.inScope name) name
  | "dt" => b.endItem (b.stack.inScope name) name
  | "br" => (b.reopenFormatting.openImplied name).pop
  | "form" => b.endForm
  | "applet" => b.endMarked name
  | "object" => b.endMarked name
  | "marquee" => b.endMarked name
  | "template" => b.closeTemplate
  | "body" => b
  | "html" => b
  | _ => b.onStack (closeNamed name)

def charInBody (c : Char) (b : Builder) : Builder :=
  b.reopenFormatting.insertChar c

end Builder
end Markup
end ApiStubs
