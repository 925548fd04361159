import ApiStubs.Markup.Builder.Table

/-!
# Tags in select boxes

Only options, groups of options and rules may stand in a select box; other
controls end it, and all other tags are left out.
-/

namespace ApiStubs
namespace Markup
namespace Builder

def popIf (names : List String) (b : Builder) : Builder :=
  if b.stack.currentIs names then b.pop else b

def closeSelect (b : Builder) : Builder :=
  (b.closeThroughName "select").resetMode

def startInSelect (tag : Tag) (b : Builder) : Outcome :=
  match tag.name with
  | "option" => .done ((b.popIf ["option"]).openHtml tag)
  | "optgroup" => .done (((b.popIf ["option"]).popIf ["optgroup"]).openHtml tag)
  | "hr" => .done (((b.popIf ["option"]).popIf ["optgroup"]).addClosed tag)
  | "select" =>
      .done (if b.stack.inSelectScope "select" then b.closeSelect else b)
  | "script" => .done (b.startInHead tag)
  | "template" => .done (b.startInHead tag)
  | name =>
      if ["input", "keygen", "textarea"].contains name &&
          b.stack.inSelectScope "select" then .again b.closeSelect
      else .done b

def endInSelect (name : String) (b : Builder) : Outcome :=
  match name with
  | "optgroup" =>
      let inGroup := (b.stack.drop 1).head?.any (·.name = "optgroup")
      .done ((if inGroup then b.popIf ["option"] else b).popIf ["optgroup"])
  | "option" => .done (b.popIf ["option"])
  | "select" =>
      .done (if b.stack.inSelectScope "select" then b.closeSelect else b)
  | "template" => .done b.closeTemplate
  | _ => .done b

/-- Tags of a table end a select box that stands in it. -/
def endsSelectInTable (name : String) : Bool :=
  (["caption", "table", "tr"] ++ Names.sections ++ Names.cells).contains name

def startInSelectInTable (tag : Tag) (b : Builder) : Outcome :=
  if endsSelectInTable tag.name then .again b.closeSelect else b.startInSelect tag

def endInSelectInTable (name : String) (b : Builder) : Outcome :=
  if endsSelectInTable name then
    if b.stack.inTableScope [name] then .again b.closeSelect else .done b
  else b.endInSelect name

end Builder
end Markup
end ApiStubs
