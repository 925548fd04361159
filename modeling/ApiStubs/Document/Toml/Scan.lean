import ApiStubs.Text.Digit

/-!
# Characters of a TOML document

The character classes of the format.  A word ends at a blank, a line end, a
comment sign or the end of the document.
-/

namespace ApiStubs
namespace Document
namespace Toml

/-- Space and tab. -/
def isGap (c : Char) : Bool :=
  c = ' ' || c = '\t'

/-- Gaps and the characters of line ends. -/
def isWhite (c : Char) : Bool :=
  isGap c || c = '\r' || c = '\n'

def skipGaps (cs : List Char) : List Char :=
  cs.dropWhile isGap

def isOctalDigit (c : Char) : Bool :=
  '0' ≤ c && c ≤ '7'

def isBinaryDigit (c : Char) : Bool :=
  c = '0' || c = '1'

def isBareKeyChar (c : Char) : Bool :=
  Text.isLetter c || Text.isDigit c || c = '_' || c = '-'

def atWordEnd : List Char → Bool
  | [] => true
  | c :: _ => c = '#' || isWhite c

/-- Control characters other than tab, and delete, may not stand in a text. -/
def isForbidden (c : Char) : Bool :=
  (c.toNat ≤ 0x1F && c != '\t') || c.toNat = 0x7F

/-- A text of several lines may also hold line ends. -/
def isForbiddenInLines (c : Char) : Bool :=
  isForbidden c && c != '\n' && c != '\r'

end Toml
end Document
end ApiStubs
