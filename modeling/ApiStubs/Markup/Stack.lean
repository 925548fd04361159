import ApiStubs.Markup.Element

/-!
# The open elements

The open elements are a list with the current element first and the root last.
A search walks the list until it meets its target or a limit.
-/

namespace ApiStubs
namespace Markup

abbrev Stack := List OpenElement

namespace Stack

/-- The current element has one of the names, in whatever vocabulary. -/
def currentIs (names : List String) : Stack → Bool
  | [] => false
  | element :: _ => names.contains element.name

def holdsNode (node : Nat) (stack : Stack) : Bool :=
  stack.any (·.node = node)

/-- One of the targets is open with no limit above it. -/
def finds (isTarget isLimit : OpenElement → Bool) : Stack → Bool
  | [] => false
  | element :: rest =>
      if isTarget element then true
      else if isLimit element then false
      else finds isTarget isLimit rest

def inScope (name : String) : Stack → Bool :=
  finds (·.isOneOf [name]) (·.boundsScope Names.scopeLimits)

def inItemScope (name : String) : Stack → Bool :=
  finds (·.isOneOf [name]) (·.boundsScope ("ol" :: "ul" :: Names.scopeLimits))

def inButtonScope (name : String) : Stack → Bool :=
  finds (·.isOneOf [name]) (·.boundsScope ("button" :: Names.scopeLimits))

def headingInScope : Stack → Bool :=
  finds (·.isOneOf Names.headings) (·.boundsScope Names.scopeLimits)

def inTableScope (names : List String) : Stack → Bool :=
  finds (·.isOneOf names) (·.isOneOf ["table", "html"])

def inSelectScope (name : String) : Stack → Bool :=
  finds (·.isOneOf [name])
    (fun element => element.isHtml && element.name != "option" && element.name != "optgroup")

/-- Closes the elements up to the first one that meets the test, and that one. -/
def closeThrough (test : OpenElement → Bool) (stack : Stack) : Stack :=
  match stack.dropWhile (fun element => !test element) with
  | [] => stack
  | _ :: rest => rest

def closeThroughName (name : String) : Stack → Stack :=
  closeThrough (·.isOneOf [name])

/-- Closes the elements above the first one with one of the names. -/
def closeDownTo (names : List String) (stack : Stack) : Stack :=
  stack.dropWhile (fun element => !element.isOneOf names)

/-- Closes the current elements whose end tags may be left out. -/
def closeImplied (kept : String) : Stack → Stack
  | [] => []
  | element :: rest =>
      if element.name != kept && Names.impliedEnds.contains element.name then
        closeImplied kept rest
      else element :: rest

def closeAllImplied : Stack → Stack
  | [] => []
  | element :: rest =>
      if Names.allImpliedEnds.contains element.name then closeAllImplied rest
      else element :: rest

def closeParagraph (stack : Stack) : Stack :=
  closeThroughName "p" (closeImplied "p" stack)

def removeNode (node : Nat) (stack : Stack) : Stack :=
  stack.filter (·.node != node)

/-- The element below a node, that is, the one it was opened in. -/
def below? (node : Nat) : Stack → Option OpenElement
  | [] => none
  | element :: rest =>
      if element.node = node then rest.head? else below? node rest

def renumber (old new : Nat) (stack : Stack) : Stack :=
  stack.map (fun element =>
    if element.node = old then { element with node := new } else element)

/-- Puts an element right above the node. -/
def insertAbove (node : Nat) (new : OpenElement) : Stack → Stack
  | [] => []
  | element :: rest =>
      if element.node = node then new :: element :: rest
      else element :: insertAbove node new rest

end Stack
end Markup
end ApiStubs
