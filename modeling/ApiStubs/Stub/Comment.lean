import ApiStubs.Markup.Markdown
import ApiStubs.Text.Blank
import ApiStubs.Text.Search

/-!
# Comments of a stub

A description is turned into plain text, and every line of it gets the mark of
a comment.
-/

namespace ApiStubs
namespace Stub

def commentMark : String := "---"

/-- The lines of a description, each behind the indent. -/
def comment (indent description : String) : String :=
  Text.joinWith "\n" ((Text.lines (Markup.plainText description)).map (indent ++ ·))

/-- A description at the end of a line, which goes on in comment lines. -/
def trailingDescription (description : String) : String :=
  Text.replace "\n" ("\n" ++ commentMark)
    (Text.trimStart (Markup.plainText description))

end Stub
end ApiStubs
