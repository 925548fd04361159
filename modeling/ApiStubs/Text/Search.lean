/-!
# Searching and cutting texts

Plain functions on characters: splitting at a separator, finding a part, and
replacing every occurrence of a part from left to right without overlaps.
-/

namespace ApiStubs
namespace Text

/-- The pieces between the separators; there is always at least one. -/
def splitChars (separator : Char) : List Char → List (List Char)
  | [] => [[]]
  | c :: cs =>
      if c = separator then [] :: splitChars separator cs
      else
        match splitChars separator cs with
        | [] => [[c]]
        | piece :: pieces => (c :: piece) :: pieces

def split (separator : Char) (text : String) : List String :=
  (splitChars separator text.toList).map String.ofList

def lines (text : String) : List String :=
  split '\n' text

def joinWith (separator : String) (texts : List String) : String :=
  separator.intercalate texts

def startsWith (text start : String) : Bool :=
  start.toList.isPrefixOf text.toList

def endsWith (text ending : String) : Bool :=
  ending.toList.isSuffixOf text.toList

/-- The text after a beginning that it has. -/
def dropStart? (start text : String) : Option String :=
  if startsWith text start then
    some (String.ofList (text.toList.drop start.length))
  else none

def holdsChars (part : List Char) : List Char → Bool
  | [] => part.isEmpty
  | c :: cs => part.isPrefixOf (c :: cs) || holdsChars part cs

/-- The text holds the part somewhere. -/
def holds (text part : String) : Bool :=
  holdsChars part.toList text.toList

/--
Replaces the occurrences of a part.  `skip` counts the characters that still
belong to the occurrence replaced last; the number of occurrences is returned
beside the new characters.
-/
def replaceChars (part new : List Char) : Nat → List Char → List Char × Nat
  | _, [] => ([], 0)
  | skip + 1, _ :: cs => replaceChars part new skip cs
  | 0, c :: cs =>
      if part.isPrefixOf (c :: cs) then
        let (rest, count) := replaceChars part new (part.length - 1) cs
        (new ++ rest, count + 1)
      else
        let (rest, count) := replaceChars part new 0 cs
        (c :: rest, count)

/-- The text with every occurrence of a non-empty part replaced, and their number. -/
def replaceCounting (part new text : String) : String × Nat :=
  let (cs, count) := replaceChars part.toList new.toList 0 text.toList
  (String.ofList cs, count)

def replace (part new text : String) : String :=
  (replaceCounting part new text).1

end Text
end ApiStubs
