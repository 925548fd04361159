import ApiStubs.Document.Toml.Number
import ApiStubs.Document.Toml.Text
import ApiStubs.Document.Toml.Tree

/-!
# TOML documents

The reader of whole documents: headers, assignments and the values written
inline.  Each recursive reader has fuel; every call takes a character, so the
length of the text bounds the calls.
-/

namespace ApiStubs
namespace Document
namespace Toml

def skipComment (cs : List Char) : List Char :=
  cs.dropWhile (· != '\n')

/-- Skips white space and comments between the items of an array. -/
def skipBetweenItems : (inComment : Bool) → List Char → List Char
  | _, [] => []
  | true, c :: rest => skipBetweenItems (c != '\n') rest
  | false, c :: rest =>
      if c = '#' then skipBetweenItems true rest
      else if isWhite c then skipBetweenItems false rest
      else c :: rest

/-- A dotted key, an equals sign, and what follows the gaps after it. -/
def readAssigned? (fuel : Nat) (cs : List Char) :
    Option (List String × List Char) := do
  let (path, rest) ← readPath fuel cs
  match rest with
  | '=' :: more => return (path, skipGaps more)
  | _ => none

mutual

def readValue : Nat → List Char → Option Reading
  | 0, _ => none
  | fuel + 1, cs =>
      match cs with
      | '"' :: _ => (readText? cs).map (fun pair => ⟨.text, .text pair.1, pair.2⟩)
      | '\'' :: _ => (readText? cs).map (fun pair => ⟨.text, .text pair.1, pair.2⟩)
      | 't' :: 'r' :: 'u' :: 'e' :: rest => some ⟨.boolean, .boolean true, rest⟩
      | 'f' :: 'a' :: 'l' :: 's' :: 'e' :: rest => some ⟨.boolean, .boolean false, rest⟩
      | '[' :: rest => readItems fuel none [] rest
      | '{' :: rest => readInline fuel [] rest
      | _ => readNumber? cs

/-- The items of an array; `before` holds those already read, the last first. -/
def readItems : Nat → Option Kind → List Value → List Char → Option Reading
  | 0, _, _, _ => none
  | fuel + 1, kind, before, cs =>
      match skipBetweenItems false cs with
      | ']' :: rest => some ⟨.array, .array before.reverse, rest⟩
      | item => do
          let reading ← readValue fuel item
          if kind.any (· != reading.kind) then none
          match skipBetweenItems false reading.rest with
          | ',' :: more =>
              readItems fuel (some reading.kind) (reading.value :: before) more
          | ']' :: rest =>
              return ⟨.array, .array (reading.value :: before).reverse, rest⟩
          | _ => none

/-- The assignments of an inline table. -/
def readInline : Nat → Entries → List Char → Option Reading
  | 0, _, _ => none
  | fuel + 1, entries, cs =>
      match skipGaps cs with
      | '}' :: rest => some ⟨.table, (Node.table true entries).toValue, rest⟩
      | item => do
          let (path, valued) ← readAssigned? fuel item
          let reading ← readValue fuel valued
          let entries ← assign reading.value false path entries
          match skipGaps reading.rest with
          | ',' :: more => readInline fuel entries more
          | '}' :: rest => return ⟨.table, (Node.table true entries).toValue, rest⟩
          | _ => none

end

/-- Only gaps, carriage returns and a comment may follow on the line. -/
def finishLine? (cs : List Char) : Option (List Char) :=
  match cs.dropWhile (fun c => isGap c || c = '\r') with
  | [] => some []
  | '\n' :: rest => some rest
  | '#' :: rest => some (skipComment rest)
  | _ => none

/-- The statements of a document; `header` is the path of the last header. -/
def readStatements : Nat → List String → Entries → List Char → Option Entries
  | 0, _, _, _ => none
  | fuel + 1, header, root, cs =>
      match cs.dropWhile isWhite with
      | [] => some root
      | '#' :: rest => readStatements fuel header root (skipComment rest)
      | '[' :: '[' :: rest => do
          let (path, after) ← readPath fuel rest
          match after with
          | ']' :: ']' :: line => do
              let root ← openItem path root
              readStatements fuel path root (← finishLine? line)
          | _ => none
      | '[' :: rest => do
          let (path, after) ← readPath fuel rest
          match after with
          | ']' :: line => do
              let root ← openTable path root
              readStatements fuel path root (← finishLine? line)
          | _ => none
      | statement => do
          let (path, valued) ← readAssigned? fuel statement
          let reading ← readValue fuel valued
          let root ← changeAt (assign reading.value · path) header root
          readStatements fuel header root (← finishLine? reading.rest)

/-- The table that a text describes. -/
def parse? (text : String) : Option Value :=
  let cs := text.toList
  (readStatements (cs.length + 1) [] [] cs).map
    (fun root => (Node.table true root).toValue)

end Toml
end Document
end ApiStubs
