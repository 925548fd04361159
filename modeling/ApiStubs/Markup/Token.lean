/-!
# Tokens of a markup text

Tags, characters, comments and document types.  Null characters have a token of
their own, because most places leave them out.
-/

namespace ApiStubs
namespace Markup

/-- Of attributes with one name only the first is kept. -/
structure Tag where
  name : String
  attributes : List (String × String) := []
  selfClosing : Bool := false
  deriving DecidableEq, Repr

def Tag.attribute? (tag : Tag) (name : String) : Option String :=
  tag.attributes.lookup name

inductive Token where
  | character (c : Char)
  | null
  | comment (content : String)
  | documentType
  | startTag (tag : Tag)
  | endTag (name : String)
  deriving Repr

def Token.isNull : Token → Bool
  | .null => true
  | _ => false

/-- How the text after a start tag is read, if it is no markup. -/
inductive RawText where
  /-- Character references count. -/
  | references
  | plain
  | script
  /-- No end tag ends the text. -/
  | endless
  deriving DecidableEq, Repr

end Markup
end ApiStubs
