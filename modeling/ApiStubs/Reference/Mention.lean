import ApiStubs.Registry
import ApiStubs.Text.Digit

/-!
# Constants that a description mentions

A mention is a space of identifiers with dots between them, a dot, and a name of
word characters and stars.  A text is read from left to right; after a mention
the reading goes on behind it.
-/

namespace ApiStubs
namespace Reference

/-- What may start an identifier. -/
def startsWord (c : Char) : Bool :=
  Text.isLetter c || c = '_'

def inWord (c : Char) : Bool :=
  startsWord c || Text.isDigit c

def inName (c : Char) : Bool :=
  inWord c || c = '*'

structure Mention where
  space : String
  name : String
  deriving DecidableEq, Repr

/--
The identifiers that follow each other with dots between them, the last first,
and what stands behind them.  `current` is the identifier being read, backwards.
-/
def readChain (current : List Char) (before : List (List Char)) :
    List Char → List (List Char) × List Char
  | [] => (current.reverse :: before, [])
  | c :: rest =>
      if inWord c then readChain (c :: current) before rest
      else if c = '.' then
        match rest with
        | [] => (current.reverse :: before, c :: rest)
        | d :: after =>
            if startsWord d then readChain [d] (current.reverse :: before) after
            else (current.reverse :: before, c :: rest)
      else (current.reverse :: before, c :: rest)

def spaceOf (identifiers : List (List Char)) : String :=
  Text.joinWith "." (identifiers.reverse.map String.ofList)

/-- The name after the chain, if a dot and a character of a name follow it. -/
def nameBehind? : List Char → Option (List Char)
  | '.' :: rest =>
      if (rest.takeWhile inName).isEmpty then none else some (rest.takeWhile inName)
  | _ => none

/--
The mention at the start of a text.  The whole chain is the space if a name
follows it; otherwise its last identifier starts the name.
-/
def readMention? : List Char → Option (Mention × List Char)
  | [] => none
  | c :: cs =>
      if startsWord c then
        let (chain, behind) := readChain [c] [] cs
        match nameBehind? behind with
        | some name =>
            some (⟨spaceOf chain, String.ofList name⟩,
              behind.drop (name.length + 1))
        | none =>
            match chain with
            | last :: space :: spaces =>
                some (⟨spaceOf (space :: spaces),
                  String.ofList (last ++ behind.takeWhile inName)⟩,
                  behind.dropWhile inName)
            | _ => none
      else none

/-- `skip` counts the characters that belong to the mention read last. -/
def mentionsFrom : Nat → List Char → List Mention
  | _, [] => []
  | skip + 1, _ :: cs => mentionsFrom skip cs
  | 0, c :: cs =>
      match readMention? (c :: cs) with
      | none => mentionsFrom 0 cs
      | some (mention, behind) =>
          mention :: mentionsFrom (cs.length - behind.length) cs

def mentions (text : String) : List Mention :=
  mentionsFrom 0 text.toList

/-- A star stands for all constants of the space that go on from there. -/
def namedBy (catalog : Catalog) (mention : Mention) : List String :=
  if '*' ∈ mention.name.toList then
    let start := String.ofList (mention.name.toList.filter (· != '*'))
    ((catalog.constantsOf mention.space).filter
      (fun constant => Text.startsWith constant.name start)).map Constant.fullName
  else
    match catalog.lookup mention.space mention.name with
    | some _ => [qualify mention.space mention.name]
    | none => []

/-- The full names of the constants that a text mentions, in order. -/
def scan (catalog : Catalog) (text : String) : List String :=
  (mentions text).flatMap (namedBy catalog)

end Reference
end ApiStubs
