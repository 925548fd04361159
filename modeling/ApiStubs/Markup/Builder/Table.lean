import ApiStubs.Markup.Builder.Body

/-!
# Tags in tables

The rules for tables and their parts.  A rule either is done with a tag or has
closed something and hands the tag to the mode that is now in force.
-/

namespace ApiStubs
namespace Markup

inductive Outcome where
  | done (b : Builder)
  | again (b : Builder)

namespace Builder

/-- Handles content that may not stand in a table. -/
def misplaced (handle : Builder → Builder) (b : Builder) : Outcome :=
  .done { handle { b with fostering := true } with fostering := false }

def closeDownTo (names : List String) (b : Builder) : Builder :=
  b.onStack (Stack.closeDownTo names)

def toTable (b : Builder) : Builder :=
  b.closeDownTo ["table", "template", "html"]

def toTableBody (b : Builder) : Builder :=
  b.closeDownTo (["template", "html"] ++ Names.sections)

def toRow (b : Builder) : Builder :=
  b.closeDownTo ["tr", "template", "html"]

def isHiddenInput (tag : Tag) : Bool :=
  (tag.attribute? "type").any (fun kind => Names.lowered kind = "hidden")

def closeThroughName (name : String) (b : Builder) : Builder :=
  b.onStack (Stack.closeThroughName name)

def closeTable (b : Builder) : Builder :=
  (b.closeThroughName "table").resetMode

def startInTable (tag : Tag) (b : Builder) : Outcome :=
  let name := tag.name
  if (["tr"] ++ Names.cells).contains name then
    .again ((b.toTable.openImplied "tbody").withMode .tableBody)
  else if Names.sections.contains name then
    .done ((b.toTable.openHtml tag).withMode .tableBody)
  else match name with
  | "style" => .done (b.startInHead tag)
  | "script" => .done (b.startInHead tag)
  | "template" => .done (b.startInHead tag)
  | "col" => .again ((b.toTable.openImplied "colgroup").withMode .columnGroup)
  | "colgroup" => .done ((b.toTable.openHtml tag).withMode .columnGroup)
  | "caption" => .done ((b.toTable.addMark.openHtml tag).withMode .caption)
  | "form" =>
      if b.form.isNone && !b.inTemplate then
        let (b, node) := b.addElement tag
        .done { b with form := some node }
      else .done b
  | "table" => if b.stack.inTableScope ["table"] then .again b.closeTable else .done b
  | "input" =>
      if isHiddenInput tag then .done (b.addClosed tag)
      else b.misplaced (startInBody tag)
  | _ => b.misplaced (startInBody tag)

def endInTable (name : String) (b : Builder) : Outcome :=
  if name = "table" then
    .done (if b.stack.inTableScope ["table"] then b.closeTable else b)
  else if name = "template" then .done b.closeTemplate
  else if (["body", "html"] ++ Names.structural).contains name then .done b
  else b.misplaced (endInBody name)

def closeCaption (b : Builder) : Builder :=
  let b := b.onStack (fun stack =>
    Stack.closeThroughName "caption" (Stack.closeImplied "" stack))
  b.dropMark.withMode .table

def startInCaption (tag : Tag) (b : Builder) : Outcome :=
  if Names.structural.contains tag.name then
    if b.stack.inTableScope ["caption"] then .again b.closeCaption else .done b
  else .done (b.startInBody tag)

def endInCaption (name : String) (b : Builder) : Outcome :=
  if name = "caption" ∨ name = "table" then
    if b.stack.inTableScope ["caption"] then
      if name = "table" then .again b.closeCaption else .done b.closeCaption
    else .done b
  else if (["body", "html"] ++ Names.structural).contains name then .done b
  else .done (b.endInBody name)

/-- What is no column ends the column group. -/
def leaveColumnGroup (b : Builder) : Outcome :=
  if b.stack.currentIs ["colgroup"] then .again (b.pop.withMode .table) else .done b

def startInColumnGroup (tag : Tag) (b : Builder) : Outcome :=
  match tag.name with
  | "html" => .done b
  | "col" => .done (b.addClosed tag)
  | "template" => .done (b.startInHead tag)
  | _ => b.leaveColumnGroup

def endInColumnGroup (name : String) (b : Builder) : Outcome :=
  match name with
  | "colgroup" =>
      .done (if b.stack.currentIs ["colgroup"] then b.pop.withMode .table else b)
  | "template" => .done b.closeTemplate
  | "col" => .done b
  | _ => b.leaveColumnGroup

def closeTableBody (b : Builder) : Builder :=
  b.toTableBody.pop.withMode .table

def startInTableBody (tag : Tag) (b : Builder) : Outcome :=
  let name := tag.name
  if name = "tr" then .done ((b.toTableBody.openHtml tag).withMode .row)
  else if Names.cells.contains name then
    .again ((b.toTableBody.openImplied "tr").withMode .row)
  else if Names.structural.contains name then
    if b.stack.inTableScope Names.sections then .again b.closeTableBody else .done b
  else b.startInTable tag

def endInTableBody (name : String) (b : Builder) : Outcome :=
  if Names.sections.contains name then
    .done (if b.stack.inTableScope [name] then b.closeTableBody else b)
  else if name = "table" then
    if b.stack.inTableScope Names.sections then .again b.closeTableBody else .done b
  else b.endInTable name

def closeRow (b : Builder) : Builder :=
  b.toRow.pop.withMode .tableBody

def startInRow (tag : Tag) (b : Builder) : Outcome :=
  if Names.cells.contains tag.name then
    .done ((b.toRow.openHtml tag).withMode .cell).addMark
  else if Names.structural.contains tag.name then
    if b.stack.inTableScope ["tr"] then .again b.closeRow else .done b
  else b.startInTable tag

def endInRow (name : String) (b : Builder) : Outcome :=
  if name = "tr" then
    .done (if b.stack.inTableScope ["tr"] then b.closeRow else b)
  else if name = "table" then
    if b.stack.inTableScope ["tr"] then .again b.closeRow else .done b
  else if Names.sections.contains name then
    if b.stack.inTableScope [name, "tr"] then .again b.closeRow else .done b
  else b.endInTable name

def closeCell (b : Builder) : Builder :=
  let b := b.onStack (fun stack =>
    Stack.closeThrough (·.isOneOf Names.cells) (Stack.closeImplied "" stack))
  b.dropMark.withMode .row

def startInCell (tag : Tag) (b : Builder) : Outcome :=
  if Names.structural.contains tag.name then
    if b.stack.inTableScope Names.cells then .again b.closeCell else .done b
  else .done (b.startInBody tag)

def endInCell (name : String) (b : Builder) : Outcome :=
  if Names.cells.contains name then
    if b.stack.inTableScope [name] then
      let b := b.onStack (fun stack =>
        Stack.closeThroughName name (Stack.closeImplied "" stack))
      .done (b.dropMark.withMode .row)
    else .done b
  else if ("tr" :: "table" :: Names.sections).contains name then
    if b.stack.inTableScope [name] then .again b.closeCell else .done b
  else if ["body", "caption", "col", "colgroup", "html"].contains name then .done b
  else .done (b.endInBody name)

/-- A character among the parts of a table waits until the next tag. -/
def charInTable (c : Char) (b : Builder) : Outcome :=
  if b.stack.currentIs Names.tableParts then
    .done { b with pending := [c], returnMode := b.mode, mode := .tableText }
  else b.misplaced (charInBody c)

/-- The characters that have waited stay in the table only if all are blank. -/
def settlePending (isBlank : Char → Bool) (b : Builder) : Builder :=
  let cs := b.pending.reverse
  let b := { b with pending := [], mode := b.returnMode }
  if cs.all isBlank then cs.foldl (fun b c => b.insertChar c) b
  else
    { cs.foldl (fun b c => b.charInBody c) { b with fostering := true } with
      fostering := false }

end Builder
end Markup
end ApiStubs
