import ApiStubs.Markup.Builder.Foreign
import ApiStubs.Markup.Builder.Select
import ApiStubs.Markup.Token.Lexer

/-!
# Running the builder

A token is handled by the rules of the mode in force.  A rule that hands its
token on has closed an element or moved to a deeper part of a table, so the
number of open elements and the depth of the parts bound the hand-overs.
-/

namespace ApiStubs
namespace Markup
namespace Builder

def startInTemplate (tag : Tag) (b : Builder) : Outcome :=
  let name := tag.name
  if (["noframes"] ++ Names.headParts).contains name then .done (b.startInHead tag)
  else if (["caption", "colgroup"] ++ Names.sections).contains name then
    .again (b.setTemplateMode .table)
  else if name = "col" then .again (b.setTemplateMode .columnGroup)
  else if name = "tr" then .again (b.setTemplateMode .tableBody)
  else if Names.cells.contains name then .again (b.setTemplateMode .row)
  else .again (b.setTemplateMode .body)

def startByMode (tag : Tag) (b : Builder) : Outcome :=
  match b.mode with
  | .template => b.startInTemplate tag
  | .body => .done (b.startInBody tag)
  | .rawText => .done b
  | .table => b.startInTable tag
  | .tableText => .again (b.settlePending isSpace)
  | .caption => b.startInCaption tag
  | .columnGroup => b.startInColumnGroup tag
  | .tableBody => b.startInTableBody tag
  | .row => b.startInRow tag
  | .cell => b.startInCell tag
  | .select => b.startInSelect tag
  | .selectInTable => b.startInSelectInTable tag

def endByMode (name : String) (b : Builder) : Outcome :=
  match b.mode with
  | .template => .done (if name = "template" then b.closeTemplate else b)
  | .body => .done (b.endInBody name)
  | .rawText => .done (b.pop.withMode b.returnMode)
  | .table => b.endInTable name
  | .tableText => .again (b.settlePending isSpace)
  | .caption => b.endInCaption name
  | .columnGroup => b.endInColumnGroup name
  | .tableBody => b.endInTableBody name
  | .row => b.endInRow name
  | .cell => b.endInCell name
  | .select => b.endInSelect name
  | .selectInTable => b.endInSelectInTable name

def charByMode (c : Char) (b : Builder) : Outcome :=
  match b.mode with
  | .template => .done (b.charInBody c)
  | .body => .done (b.charInBody c)
  | .rawText => .done (b.insertChar c)
  | .table => b.charInTable c
  | .tableText => .done { b with pending := c :: b.pending }
  | .caption => .done (b.charInBody c)
  | .columnGroup =>
      if isSpace c then .done (b.insertChar c) else b.leaveColumnGroup
  | .tableBody => b.charInTable c
  | .row => b.charInTable c
  | .cell => .done (b.charInBody c)
  | .select => .done (b.insertChar c)
  | .selectInTable => .done (b.insertChar c)

def foreignStart (tag : Tag) (b : Builder) : Outcome :=
  if breaksOut tag then b.leaveForeign.startByMode tag else .done (b.openForeign tag)

def foreignEndTag (name : String) (b : Builder) : Outcome :=
  if name = "p" ∨ name = "br" then b.leaveForeign.endByMode name
  else
    match foreignEnd name b.stack with
    | .closes rest => .done { b with stack := rest }
    | .leaves => b.endByMode name
    | .nothing => .done b

def handle (token : Token) (b : Builder) : Outcome :=
  match token with
  | .character c => if b.inForeign then .done (b.insertChar c) else b.charByMode c
  | .null =>
      if b.inForeign then .done (b.insertChar replacement)
      else if b.mode = .columnGroup then b.leaveColumnGroup
      else .done b
  | .comment content =>
      if !b.inOtherVocabulary && b.mode = .tableText then
        .again (b.settlePending isSpace)
      else .done (b.insertComment content)
  | .documentType =>
      if b.mode = .tableText then .again (b.settlePending isSpace) else .done b
  | .startTag tag =>
      if b.startsForeign tag then b.foreignStart tag else b.startByMode tag
  | .endTag name =>
      if b.inOtherVocabulary then b.foreignEndTag name else b.endByMode name

def handleAll (token : Token) : Nat → Builder → Builder
  | 0, b => b
  | fuel + 1, b =>
      match b.handle token with
      | .done b => b
      | .again b => handleAll token fuel b

/--
A line feed right after some start tags is left out.  Of null characters with no
other token between them only the first counts.
-/
def leavesOut (b : Builder) : Token → Bool
  | .character c => b.skipsLineFeed && c = '\n'
  | .null => b.afterNull
  | _ => false

def process (b : Builder) (token : Token) : Builder :=
  let next := { b with skipsLineFeed := false, afterNull := token.isNull }
  if b.leavesOut token then next
  else handleAll token (b.stack.length + 16) next

/-- Every round reads a character, so the length of the text bounds the rounds. -/
def run : Nat → Builder → List Char → Builder
  | 0, b, _ => b
  | fuel + 1, b, cs =>
      match nextTokens? b.inForeign cs with
      | none => b
      | some (tokens, rest) =>
          let b := tokens.foldl process b
          match b.raw with
          | none => run fuel b rest
          | some (kind, name) =>
              let (content, rest) := readRawText kind name rest
              let tokens := content.map Token.character
              run fuel (tokens.foldl process { b with raw := none }) rest

def build (text : String) : Draft :=
  let cs := unifyLineEnds text.toList
  let b := run (cs.length + 1) {} cs
  (if b.mode = .tableText then b.settlePending isSpace else b).draft

end Builder
end Markup
end ApiStubs
