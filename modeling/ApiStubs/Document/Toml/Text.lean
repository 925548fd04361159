import ApiStubs.Document.Json
import ApiStubs.Document.Toml.Scan

/-!
# Texts and keys of a TOML document

Each reader starts after the opening quote and returns the content and what
follows the closing quote.  In a text of several lines the first line end is
dropped, and a backslash before a line end drops all the white space after it.
-/

namespace ApiStubs
namespace Document
namespace Toml

/-- A scalar value: a number that is a character. -/
def scalar? (n : Nat) : Option Char :=
  if n < 0xD800 ∨ (0xE000 ≤ n ∧ n < 0x110000) then some (Char.ofNat n) else none

def escaped? : Char → Option Char
  | 'b' => some (Char.ofNat 8)
  | 't' => some '\t'
  | 'n' => some '\n'
  | 'f' => some (Char.ofNat 12)
  | 'r' => some '\r'
  | '"' => some '"'
  | '\\' => some '\\'
  | _ => none

/-- The character of an escape, read after the backslash. -/
def readEscape? : List Char → Option (Char × List Char)
  | 'u' :: rest => do
      if rest.length < 4 then none
      let n ← Json.hexNumber? (rest.take 4)
      return (← scalar? n, rest.drop 4)
  | 'U' :: rest => do
      if rest.length < 8 then none
      let n ← Json.hexNumber? (rest.take 8)
      return (← scalar? n, rest.drop 8)
  | c :: rest => do return (← escaped? c, rest)
  | [] => none

/-- A text between double quotes on one line. -/
def readBasic : Nat → List Char → Option (List Char × List Char)
  | 0, _ => none
  | _ + 1, [] => none
  | fuel + 1, c :: rest =>
      if c = '"' then some ([], rest)
      else if c = '\\' then do
        let (e, after) ← readEscape? rest
        let (content, final) ← readBasic fuel after
        return (e :: content, final)
      else if isForbidden c then none
      else do
        let (content, final) ← readBasic fuel rest
        return (c :: content, final)

/-- A text between single quotes on one line. -/
def readLiteral : List Char → Option (List Char × List Char)
  | [] => none
  | c :: rest =>
      if c = '\'' then some ([], rest)
      else if isForbidden c then none
      else do
        let (content, final) ← readLiteral rest
        return (c :: content, final)

/-- Drops carriage returns and then one line feed. -/
def skipFirstLineEnd (cs : List Char) : List Char :=
  match cs.dropWhile (· = '\r') with
  | '\n' :: rest => rest
  | rest => rest

/--
After a backslash: white space that holds a line end, before any other
character, is dropped.
-/
def skipFoldedLine? (cs : List Char) : Option (List Char) :=
  match skipGaps cs with
  | c :: rest => if c = '\n' ∨ c = '\r' then some (rest.dropWhile isWhite) else none
  | [] => none

/-- A text between triple double quotes, after its first line end. -/
def readBasicLines : Nat → List Char → Option (List Char × List Char)
  | 0, _ => none
  | _ + 1, [] => none
  | _ + 1, '"' :: '"' :: '"' :: rest => some ([], rest)
  | fuel + 1, c :: rest =>
      if c = '\\' then
        match rest with
        | [] => none
        | d :: _ =>
            if isWhite d then do
              let after ← skipFoldedLine? rest
              readBasicLines fuel after
            else do
              let (e, after) ← readEscape? rest
              let (content, final) ← readBasicLines fuel after
              return (e :: content, final)
      else if isForbiddenInLines c then none
      else do
        let (content, final) ← readBasicLines fuel rest
        return (c :: content, final)

/-- A text between triple single quotes, after its first line end. -/
def readLiteralLines : List Char → Option (List Char × List Char)
  | [] => none
  | '\'' :: '\'' :: '\'' :: rest => some ([], rest)
  | c :: rest =>
      if isForbiddenInLines c then none
      else do
        let (content, final) ← readLiteralLines rest
        return (c :: content, final)

/-- A text in any of the four notations, from its opening quote on. -/
def readText? (cs : List Char) : Option (String × List Char) :=
  let result := match cs with
    | '"' :: '"' :: '"' :: rest =>
        readBasicLines (rest.length + 1) (skipFirstLineEnd rest)
    | '"' :: rest => readBasic (rest.length + 1) rest
    | '\'' :: '\'' :: '\'' :: rest => readLiteralLines (skipFirstLineEnd rest)
    | '\'' :: rest => readLiteral rest
    | _ => none
  result.map (fun pair => (String.ofList pair.1, pair.2))

/-- A bare key, or a key in quotes on one line. -/
def readKey? (cs : List Char) : Option (String × List Char) :=
  match cs with
  | '"' :: rest =>
      (readBasic (rest.length + 1) rest).map
        (fun pair => (String.ofList pair.1, pair.2))
  | '\'' :: rest =>
      (readLiteral rest).map (fun pair => (String.ofList pair.1, pair.2))
  | _ =>
      let key := cs.takeWhile isBareKeyChar
      if key.isEmpty then none
      else some (String.ofList key, cs.dropWhile isBareKeyChar)

/-- Keys joined by dots, with gaps around each of them. -/
def readPath : Nat → List Char → Option (List String × List Char)
  | 0, _ => none
  | fuel + 1, cs => do
      let (key, rest) ← readKey? (skipGaps cs)
      match skipGaps rest with
      | '.' :: more => do
          let (keys, final) ← readPath fuel more
          return (key :: keys, final)
      | after => return ([key], after)

end Toml
end Document
end ApiStubs
