import ApiStubs.Document.Value
import ApiStubs.Table
import ApiStubs.Text.Digit
import ApiStubs.Text.UnitText

/-!
# JSON documents

A strict reader.  A repeated name keeps its first place and its last value.
Texts are read as code units, since an escape can be half of a surrogate pair that
stands alone.  The fuel of the mutual readers bounds how often they call each other;
every call but the first of a value takes a character, so twice the length of the
text is enough.
-/

namespace ApiStubs
namespace Document
namespace Json

open Text (UnitText)

def isSpace (c : Char) : Bool :=
  c = ' ' || c = '\t' || c = '\n' || c = '\r'

def skipSpace (cs : List Char) : List Char :=
  cs.dropWhile isSpace

/-- The number that hexadecimal digits denote. -/
def hexNumber? (digits : List Char) : Option Nat :=
  if digits.all Text.isHexDigit then some (Text.numberOf 16 digits) else none

def escaped? : Char → Option Char
  | '"' => some '"'
  | '\\' => some '\\'
  | '/' => some '/'
  | 'b' => some (Char.ofNat 8)
  | 'f' => some (Char.ofNat 12)
  | 'n' => some '\n'
  | 'r' => some '\r'
  | 't' => some '\t'
  | _ => none

/-- The units of a text after its opening quote, and what follows the closing one. -/
def readUnits : List Char → Option (List UInt16 × List Char)
  | [] => none
  | '"' :: rest => some ([], rest)
  | '\\' :: 'u' :: a :: b :: c :: d :: rest => do
      let n ← hexNumber? [a, b, c, d]
      let (units, after) ← readUnits rest
      return (UInt16.ofNat n :: units, after)
  | '\\' :: c :: rest => do
      let e ← escaped? c
      let (units, after) ← readUnits rest
      return (UnitText.unitsOf e ++ units, after)
  | c :: rest =>
      if c.toNat < 0x20 || c = '\\' then none
      else do
        let (units, after) ← readUnits rest
        return (UnitText.unitsOf c ++ units, after)

def readText (cs : List Char) : Option (UnitText × List Char) :=
  (readUnits cs).map (fun read => (⟨read.1⟩, read.2))

/-- Skips one digit or more. -/
def skipDigits? : List Char → Option (List Char)
  | [] => none
  | c :: rest => if Text.isDigit c then some (rest.dropWhile Text.isDigit) else none

def skipFraction? : List Char → Option (List Char)
  | '.' :: rest => skipDigits? rest
  | cs => some cs

def skipExponent? : List Char → Option (List Char)
  | c :: rest =>
      if c = 'e' ∨ c = 'E' then
        match rest with
        | '+' :: digits => skipDigits? digits
        | '-' :: digits => skipDigits? digits
        | digits => skipDigits? digits
      else some (c :: rest)
  | [] => some []

def skipWhole? : List Char → Option (List Char)
  | '0' :: rest => some rest
  | cs => skipDigits? cs

def skipNumber? (cs : List Char) : Option (List Char) :=
  let unsigned := match cs with
    | '-' :: rest => rest
    | other => other
  skipWhole? unsigned >>= skipFraction? >>= skipExponent?

mutual

def readValue : Nat → List Char → Option (Value UnitText × List Char)
  | 0, _ => none
  | fuel + 1, cs =>
      match skipSpace cs with
      | '{' :: rest =>
          match skipSpace rest with
          | '}' :: after => some (.table [], after)
          | _ => readMembers fuel [] rest
      | '[' :: rest =>
          match skipSpace rest with
          | ']' :: after => some (.array [], after)
          | _ => readItems fuel [] rest
      | '"' :: rest =>
          (readText rest).map (fun result => (.text result.1, result.2))
      | 't' :: 'r' :: 'u' :: 'e' :: rest => some (.boolean true, rest)
      | 'f' :: 'a' :: 'l' :: 's' :: 'e' :: rest => some (.boolean false, rest)
      | 'n' :: 'u' :: 'l' :: 'l' :: rest => some (.null, rest)
      | other => (skipNumber? other).map (fun rest => (.number, rest))

/-- The items that follow; `before` holds those already read, the last first. -/
def readItems : Nat → List (Value UnitText) → List Char → Option (Value UnitText × List Char)
  | 0, _, _ => none
  | fuel + 1, before, cs =>
      match readValue fuel cs with
      | none => none
      | some (value, rest) =>
          match skipSpace rest with
          | ',' :: more => readItems fuel (value :: before) more
          | ']' :: after => some (.array (value :: before).reverse, after)
          | _ => none

def readMembers :
    Nat → List (UnitText × Value UnitText) → List Char → Option (Value UnitText × List Char)
  | 0, _, _ => none
  | fuel + 1, entries, cs =>
      match skipSpace cs with
      | '"' :: opened =>
          match readText opened with
          | none => none
          | some (name, rest) =>
              match skipSpace rest with
              | ':' :: valued =>
                  match readValue fuel valued with
                  | none => none
                  | some (value, rest) =>
                      let entries := Table.put name value entries
                      match skipSpace rest with
                      | ',' :: more => readMembers fuel entries more
                      | '}' :: after => some (.table entries, after)
                      | _ => none
              | _ => none
      | _ => none

end

/-- The value of a text that is one JSON document. -/
def parse? (text : String) : Option (Value UnitText) :=
  let cs := text.toList
  match readValue (2 * cs.length + 2) cs with
  | none => none
  | some (value, rest) => if (skipSpace rest).isEmpty then some value else none

end Json
end Document
end ApiStubs
