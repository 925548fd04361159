import ApiStubs.Markup.Token

/-!
# Kinds of elements

An element belongs to one of three vocabularies.  The rules of a markup text
group the names of elements into classes; a class is a list of names.
-/

namespace ApiStubs
namespace Markup

inductive Vocabulary where
  | html
  | svg
  | math
  deriving DecidableEq, Repr

/-- An element that is still open; `node` is its place in the draft. -/
structure OpenElement where
  node : Nat
  vocabulary : Vocabulary
  tag : Tag
  deriving Repr

def OpenElement.name (element : OpenElement) : String :=
  element.tag.name

namespace Names

def headings : List String := ["h1", "h2", "h3", "h4", "h5", "h6"]

def sections : List String := ["tbody", "tfoot", "thead"]

def cells : List String := ["td", "th"]

/-- Content that may not stand directly in these is put before the table. -/
def tableParts : List String := "table" :: "tr" :: sections

/-- The tags that end a caption or a cell. -/
def structural : List String :=
  ["caption", "col", "colgroup", "tr"] ++ sections ++ cells

/-- Elements that an end tag of another element does not close. -/
def special : List String := [
  "address", "applet", "area", "article", "aside", "base", "basefont", "bgsound",
  "blockquote", "body", "br", "button", "caption", "center", "col", "colgroup", "dd",
  "details", "dir", "div", "dl", "dt", "embed", "fieldset", "figcaption", "figure",
  "footer", "form", "frame", "frameset", "h1", "h2", "h3", "h4", "h5", "h6", "head",
  "header", "hgroup", "hr", "html", "iframe", "img", "input", "li", "link", "listing",
  "main", "marquee", "menu", "meta", "nav", "noembed", "noframes", "noscript",
  "object", "ol", "p", "param", "plaintext", "pre", "script", "section", "select",
  "source", "style", "summary", "table", "tbody", "td", "template", "textarea",
  "tfoot", "th", "thead", "title", "tr", "track", "ul", "wbr", "xmp"]

def mathTexts : List String := ["mi", "mo", "mn", "ms", "mtext"]

def mathLimits : List String := "annotation-xml" :: mathTexts

def svgLimits : List String := ["foreignObject", "desc", "title"]

/-- An element is in scope if none of these is between it and the current one. -/
def scopeLimits : List String :=
  ["applet", "caption", "html", "marquee", "object", "table", "td", "template", "th"]

/-- Elements whose end tags may be left out. -/
def impliedEnds : List String :=
  ["dd", "dt", "li", "optgroup", "option", "p", "rb", "rp", "rt", "rtc"]

def allImpliedEnds : List String :=
  impliedEnds ++ ["caption", "colgroup", "td", "th", "tr"] ++ sections

def formatting : List String := [
  "b", "big", "code", "em", "font", "i", "s", "small", "strike", "strong", "tt", "u"]

/-- Blocks that close an open paragraph. -/
def blocks : List String := [
  "address", "article", "aside", "blockquote", "center", "details", "dialog", "dir",
  "div", "dl", "fieldset", "figcaption", "figure", "footer", "header", "hgroup",
  "main", "menu", "nav", "ol", "p", "search", "section", "summary", "ul"]

/-- Elements closed by an end tag of their own together with what is open in them. -/
def closedWhole : List String :=
  "button" :: "listing" :: "pre" :: blocks.filter (· != "p")

def metadata : List String :=
  ["base", "basefont", "bgsound", "link", "meta"]

/-- Start tags that the rules of the document head handle. -/
def headParts : List String :=
  metadata ++ ["script", "style", "template", "title"]

/-- Tags that leave the SVG and MathML vocabularies. -/
def breakouts : List String := [
  "b", "big", "blockquote", "body", "br", "center", "code", "dd", "div", "dl", "dt",
  "em", "embed", "h1", "h2", "h3", "h4", "h5", "h6", "head", "hr", "i", "img", "li",
  "listing", "menu", "meta", "nobr", "ol", "p", "pre", "ruby", "s", "small", "span",
  "strong", "strike", "sub", "sup", "table", "tt", "u", "ul", "var"]

/-- The names of SVG elements that are not in lower case. -/
def svgSpellings : List String := [
  "altGlyph", "altGlyphDef", "altGlyphItem", "animateColor", "animateMotion",
  "animateTransform", "clipPath", "feBlend", "feColorMatrix", "feComponentTransfer",
  "feComposite", "feConvolveMatrix", "feDiffuseLighting", "feDisplacementMap",
  "feDistantLight", "feFlood", "feFuncA", "feFuncB", "feFuncG", "feFuncR",
  "feGaussianBlur", "feImage", "feMerge", "feMergeNode", "feMorphology", "feOffset",
  "fePointLight", "feSpecularLighting", "feSpotLight", "feTile", "feTurbulence",
  "foreignObject", "glyphRef", "linearGradient", "radialGradient", "textPath"]

def lowered (name : String) : String :=
  String.ofList (name.toList.map Char.toLower)

def svgSpelling (name : String) : String :=
  (svgSpellings.find? (fun spelling => lowered spelling = name)).getD name

end Names

namespace OpenElement

def isHtml (element : OpenElement) : Bool :=
  element.vocabulary = .html

/-- The element has one of the names in the HTML vocabulary. -/
def isOneOf (names : List String) (element : OpenElement) : Bool :=
  element.isHtml && names.contains element.name

/-- HTML content may stand in the element although its vocabulary is another. -/
def takesHtml (element : OpenElement) : Bool :=
  match element.vocabulary with
  | .html => false
  | .svg => Names.svgLimits.contains element.name
  | .math =>
      element.name = "annotation-xml" &&
        (element.tag.attribute? "encoding").any (fun encoding =>
          ["text/html", "application/xhtml+xml"].contains (Names.lowered encoding))

/-- Text and HTML content may stand in the element. -/
def takesText (element : OpenElement) : Bool :=
  element.takesHtml ||
    (element.vocabulary = .math && Names.mathTexts.contains element.name)

/-- The element bounds a scope; `limits` are the HTML names that do. -/
def boundsScope (limits : List String) (element : OpenElement) : Bool :=
  match element.vocabulary with
  | .html => limits.contains element.name
  | .svg => Names.svgLimits.contains element.name
  | .math => Names.mathLimits.contains element.name

/-- An end tag of another element does not close the element. -/
def isSpecial : OpenElement → Bool :=
  boundsScope Names.special

end OpenElement
end Markup
end ApiStubs
