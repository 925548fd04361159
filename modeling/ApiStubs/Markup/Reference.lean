import ApiStubs.Markup.CharacterName

/-!
# Character references

A reference starts with an ampersand and names a character, or gives its number.
Reading yields the characters and how many characters of the text are used up,
so a text is decoded by one walk that skips what a reference has used.
-/

namespace ApiStubs
namespace Markup

def replacement : Char := Char.ofNat 0xFFFD

/-- The numbers of the upper control characters stand for other characters. -/
def controlMeanings : List (Nat × Nat) := [
  (128, 0x20AC), (130, 0x201A), (131, 0x192), (132, 0x201E), (133, 0x2026),
  (134, 0x2020), (135, 0x2021), (136, 0x2C6), (137, 0x2030), (138, 0x160),
  (139, 0x2039), (140, 0x152), (142, 0x17D), (145, 0x2018), (146, 0x2019),
  (147, 0x201C), (148, 0x201D), (149, 0x2022), (150, 0x2013), (151, 0x2014),
  (152, 0x2DC), (153, 0x2122), (154, 0x161), (155, 0x203A), (156, 0x153),
  (158, 0x17E), (159, 0x178)]

/-- Zero and numbers that are no character give the replacement character. -/
def numberedCharacter (n : Nat) : Char :=
  if n = 0 ∨ 0x10FFFF < n ∨ (0xD800 ≤ n ∧ n < 0xE000) then replacement
  else Char.ofNat ((controlMeanings.lookup n).getD n)

/-- One more character is used if it is a semicolon. -/
def withSemicolon (used : Nat) : List Char → Nat
  | ';' :: _ => used + 1
  | _ => used

/-- The digits of a numeric reference after `used` characters. -/
def readNumber? (base used : Nat) (isMember : Char → Bool) (cs : List Char) :
    Option (List Char × Nat) :=
  let digits := cs.takeWhile isMember
  if digits.isEmpty then none
  else
    some ([numberedCharacter (Text.numberOf base digits)],
      withSemicolon (used + digits.length) (cs.dropWhile isMember))

def isNameChar (c : Char) : Bool :=
  Text.isLetter c || Text.isDigit c

/-- The longest beginning that is an open name, and its length. -/
def longestOpenName? (run : List Char) : Nat → Option (List Char × Nat)
  | 0 => none
  | n + 1 =>
      if openNames.contains (run.take (n + 1)) then
        (characters? (run.take (n + 1))).map (fun cs => (cs, n + 1))
      else longestOpenName? run n

/--
In the value of an attribute an open name does not count before an equals sign,
a letter or a digit.
-/
def openNameCounts (inAttribute : Bool) : List Char → Bool
  | [] => true
  | c :: _ => !(inAttribute && (c = '=' || isNameChar c))

def readNamed? (inAttribute : Bool) (cs : List Char) : Option (List Char × Nat) :=
  let run := cs.takeWhile isNameChar
  let closed? :=
    match cs.dropWhile isNameChar with
    | ';' :: _ => (characters? run).map (fun found => (found, run.length + 1))
    | _ => none
  match closed? with
  | some found => some found
  | none =>
      (longestOpenName? run run.length).filter
        (fun found => openNameCounts inAttribute (cs.drop found.2))

/-- Reads a reference after its ampersand. -/
def readReference? (inAttribute : Bool) : List Char → Option (List Char × Nat)
  | '#' :: 'x' :: rest => readNumber? 16 2 Text.isHexDigit rest
  | '#' :: 'X' :: rest => readNumber? 16 2 Text.isHexDigit rest
  | '#' :: rest => readNumber? 10 1 Text.isDigit rest
  | cs => readNamed? inAttribute cs

/-- `skip` counts the characters that belong to the reference read last. -/
def decodeFrom (inAttribute : Bool) : Nat → List Char → List Char
  | _, [] => []
  | skip + 1, _ :: rest => decodeFrom inAttribute skip rest
  | 0, '&' :: rest =>
      match readReference? inAttribute rest with
      | some (found, used) => found ++ decodeFrom inAttribute used rest
      | none => '&' :: decodeFrom inAttribute 0 rest
  | 0, c :: rest => c :: decodeFrom inAttribute 0 rest

/-- The characters with all references replaced by what they stand for. -/
def decodeReferences (inAttribute : Bool) (cs : List Char) : List Char :=
  decodeFrom inAttribute 0 cs

end Markup
end ApiStubs
