import ApiStubs.Markup.Builder.Table

/-!
# Tags in SVG and MathML content

Most tags open elements of the same vocabulary; some tags of HTML lead back out
of it.
-/

namespace ApiStubs
namespace Markup
namespace Builder

/-- Closes elements up to one of HTML or one in which HTML may stand. -/
def leaveForeign (b : Builder) : Builder :=
  b.onStack (·.dropWhile (fun element => !element.isHtml && !element.takesText))

def breaksOut (tag : Tag) : Bool :=
  Names.breakouts.contains tag.name ||
    (tag.name = "font" &&
      tag.attributes.any (fun pair => ["color", "face", "size"].contains pair.1))

/-- Two names are MathML even where text of HTML may stand. -/
def startsForeign (tag : Tag) (b : Builder) : Bool :=
  match b.stack.head? with
  | none => false
  | some current =>
      !current.isHtml &&
        !(tag.name = "svg" && current.vocabulary = .math &&
          current.name = "annotation-xml") &&
        (!current.takesText ||
          (["mglyph", "malignmark"].contains tag.name && !current.takesHtml))

def openForeign (tag : Tag) (b : Builder) : Builder :=
  let vocabulary := (b.stack.head?.map (·.vocabulary)).getD .html
  let tag :=
    if vocabulary = .svg then { tag with name := Names.svgSpelling tag.name } else tag
  if tag.selfClosing then b.addClosed tag else b.openElement vocabulary tag

/-- What an end tag does among elements of other vocabularies. -/
inductive ForeignEnd where
  /-- These elements stay open. -/
  | closes (rest : Stack)
  /-- An element of HTML is nearer. -/
  | leaves
  | nothing

def foreignEnd (name : String) : Stack → ForeignEnd
  | [] => .nothing
  | [_] => .nothing
  | element :: rest =>
      if element.isHtml then .leaves
      else if Names.lowered element.name = name then .closes rest
      else foreignEnd name rest

end Builder
end Markup
end ApiStubs
