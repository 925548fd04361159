import ApiStubs.Markup.Reference
import ApiStubs.Markup.Token

/-!
# Reading tokens

Each call reads at least one character and returns the tokens it makes of them:
none for markup that is cut off by the end of the text, two for a reference that
stands for two characters, one otherwise.
-/

namespace ApiStubs
namespace Markup

/-- Every line end becomes a line feed. -/
def unifyLineEnds : List Char → List Char
  | '\r' :: '\n' :: rest => '\n' :: unifyLineEnds rest
  | '\r' :: rest => '\n' :: unifyLineEnds rest
  | c :: rest => c :: unifyLineEnds rest
  | [] => []

/-- The blanks of markup: tab, line feed, form feed and space. -/
def isSpace (c : Char) : Bool :=
  c = '\t' || c = '\n' || c.toNat = 12 || c = ' '

def isNull (c : Char) : Bool :=
  c.toNat = 0

def showNull (c : Char) : Char :=
  if isNull c then replacement else c

def tagNameEnds (c : Char) : Bool :=
  isSpace c || c = '/' || c = '>'

def attributeNameEnds (c : Char) : Bool :=
  tagNameEnds c || c = '='

def unquotedEnds (c : Char) : Bool :=
  isSpace c || c = '>'

def nameOf (cs : List Char) : String :=
  String.ofList (cs.map (fun c => (showNull c).toLower))

def valueOf (cs : List Char) : String :=
  String.ofList (decodeReferences true (cs.map showNull))

def addAttribute (attributes : List (String × String)) (name value : String) :
    List (String × String) :=
  if (attributes.lookup name).isSome then attributes
  else attributes ++ [(name, value)]

/-- A value up to its closing quote. -/
def readQuoted? (quote : Char) (cs : List Char) : Option (String × List Char) :=
  match cs.dropWhile (· != quote) with
  | [] => none
  | _ :: rest => some (valueOf (cs.takeWhile (· != quote)), rest)

/-- The value after an equals sign; `none` if the text ends in it. -/
def readAttributeValue? (cs : List Char) : Option (String × List Char) :=
  match cs.dropWhile isSpace with
  | '"' :: rest => readQuoted? '"' rest
  | '\'' :: rest => readQuoted? '\'' rest
  | other =>
      some (valueOf (other.takeWhile (!unquotedEnds ·)),
        other.dropWhile (!unquotedEnds ·))

/--
The attributes up to the end of a tag, whether the tag closes itself, and what
follows; `none` if the text ends in the tag.
-/
def readAttributes? :
    Nat → List (String × String) → List Char →
      Option (List (String × String) × Bool × List Char)
  | 0, _, _ => none
  | fuel + 1, attributes, cs =>
      match cs.dropWhile isSpace with
      | [] => none
      | '>' :: rest => some (attributes, false, rest)
      | '/' :: '>' :: rest => some (attributes, true, rest)
      | '/' :: rest => readAttributes? fuel attributes rest
      | c :: rest =>
          let name := nameOf (c :: rest.takeWhile (!attributeNameEnds ·))
          let after := rest.dropWhile (!attributeNameEnds ·)
          match after.dropWhile isSpace with
          | '=' :: valued => do
              let (value, rest) ← readAttributeValue? valued
              readAttributes? fuel (addAttribute attributes name value) rest
          | _ => readAttributes? fuel (addAttribute attributes name "") after

def readTag? (cs : List Char) : Option (Tag × List Char) := do
  let (attributes, selfClosing, rest) ←
    readAttributes? (cs.length + 1) [] (cs.dropWhile (!tagNameEnds ·))
  return (⟨nameOf (cs.takeWhile (!tagNameEnds ·)), attributes, selfClosing⟩, rest)

/-- A comment that is no proper one ends at the next bracket. -/
def readBogusComment (cs : List Char) : List Token × List Char :=
  ([.comment (String.ofList (cs.takeWhile (· != '>')))],
    (cs.dropWhile (· != '>')).drop 1)

def readComment : List Char → List Char × List Char
  | [] => ([], [])
  | '-' :: '-' :: '>' :: rest => ([], rest)
  | '-' :: '-' :: '!' :: '>' :: rest => ([], rest)
  | c :: rest =>
      let (content, after) := readComment rest
      (c :: content, after)

/-- The content and the rest after the opening of a comment. -/
def readOpenedComment : List Char → List Char × List Char
  | '>' :: rest => ([], rest)
  | '-' :: '>' :: rest => ([], rest)
  | cs => readComment cs

def readSection : List Char → List Char × List Char
  | [] => ([], [])
  | ']' :: ']' :: '>' :: rest => ([], rest)
  | c :: rest =>
      let (content, after) := readSection rest
      (c :: content, after)

def characterToken (c : Char) : Token :=
  if isNull c then .null else .character c

/-- The characters begin with the word, in whatever case. -/
def beginsWith (word : String) (cs : List Char) : Bool :=
  (cs.take word.length).map Char.toLower = word.toList

/-- Reads on after an opening bracket and an exclamation mark. -/
def readDeclaration (foreign : Bool) : List Char → List Token × List Char
  | '-' :: '-' :: rest =>
      let (content, after) := readOpenedComment rest
      ([.comment (String.ofList content)], after)
  | cs =>
      if beginsWith "doctype" cs then
        ([.documentType], (cs.dropWhile (· != '>')).drop 1)
      else if foreign && "[CDATA[".toList.isPrefixOf cs then
        let (content, after) := readSection (cs.drop 7)
        (content.map characterToken, after)
      else readBogusComment cs

/-- Reads on after an opening bracket. -/
def readMarkup (foreign : Bool) : List Char → List Token × List Char
  | '!' :: rest => readDeclaration foreign rest
  | '?' :: rest => readBogusComment ('?' :: rest)
  | '/' :: c :: rest =>
      if Text.isLetter c then
        match readTag? (c :: rest) with
        | some (tag, after) => ([.endTag tag.name], after)
        | none => ([], [])
      else if c = '>' then ([], rest)
      else readBogusComment (c :: rest)
  | c :: rest =>
      if Text.isLetter c then
        match readTag? (c :: rest) with
        | some (tag, after) => ([.startTag tag], after)
        | none => ([], [])
      else ([.character '<'], c :: rest)
  | [] => ([.character '<'], [])

/--
The next tokens and the rest of the text; `none` at its end.  `foreign` tells
that sections of plain characters may be opened here.
-/
def nextTokens? (foreign : Bool) : List Char → Option (List Token × List Char)
  | [] => none
  | '<' :: rest => some (readMarkup foreign rest)
  | '&' :: rest =>
      match readReference? false rest with
      | some (found, used) => some (found.map .character, rest.drop used)
      | none => some ([.character '&'], rest)
  | c :: rest => some ([characterToken c], rest)

/-- The characters go on with the name of a tag. -/
def namesTag (name : String) (cs : List Char) : Bool :=
  beginsWith name cs && (cs.drop name.length).head?.any tagNameEnds

/-- The text before the end tag of an element, and the rest from that tag on. -/
def readUntilEndTag (name : String) : List Char → List Char × List Char
  | [] => ([], [])
  | c :: rest =>
      if c = '<' && rest.head? = some '/' && namesTag name (rest.drop 1) then
        ([], c :: rest)
      else
        let (content, after) := readUntilEndTag name rest
        (c :: content, after)

/-- How far a script is hidden in a comment; inside one, an inner script may stand. -/
inductive ScriptDepth where
  | open
  | hidden
  | inner

def countDash (dashes : Nat) (c : Char) : Nat :=
  if c = '-' then (if dashes = 0 then 1 else 2) else 0

def endsScript (c : Char) (rest : List Char) : Bool :=
  c = '<' && rest.head? = some '/' && namesTag "script" (rest.drop 1)

/--
The text of a script.  `dashes` counts the dashes just read inside a comment, two
standing for any larger number; two dashes and a bracket close the comment, and
an end tag inside an inner script only ends that one.
-/
def readScript : ScriptDepth → (dashes : Nat) → List Char → List Char × List Char
  | _, _, [] => ([], [])
  | .open, _, c :: rest =>
      if endsScript c rest then ([], c :: rest)
      else
        let opens := c = '<' && "!--".toList.isPrefixOf rest
        let (content, after) := readScript (if opens then .hidden else .open) 0 rest
        (c :: content, after)
  | .hidden, dashes, c :: rest =>
      if endsScript c rest then ([], c :: rest)
      else
        let (content, after) :=
          if c = '<' && namesTag "script" rest then readScript .inner 0 rest
          else if c = '>' && dashes = 2 then readScript .open 0 rest
          else readScript .hidden (countDash dashes c) rest
        (c :: content, after)
  | .inner, dashes, c :: rest =>
      let (content, after) :=
        if endsScript c rest then readScript .hidden 0 rest
        else if c = '>' && dashes = 2 then readScript .open 0 rest
        else readScript .inner (countDash dashes c) rest
      (c :: content, after)

/-- The text of an element that holds no markup, and the rest from its end tag on. -/
def readRawText (kind : RawText) (name : String) (cs : List Char) :
    List Char × List Char :=
  match kind with
  | .references =>
      let (content, after) := readUntilEndTag name cs
      (decodeReferences false (content.map showNull), after)
  | .plain =>
      let (content, after) := readUntilEndTag name cs
      (content.map showNull, after)
  | .script =>
      let (content, after) := readScript .open 0 cs
      (content.map showNull, after)
  | .endless => (cs.map showNull, [])

end Markup
end ApiStubs
