/-!
# Digits and letters

ASCII digits and letters, and the numbers that lists of digits denote.
-/

namespace ApiStubs
namespace Text

def isDigit (c : Char) : Bool :=
  '0' ≤ c && c ≤ '9'

def isCapital (c : Char) : Bool :=
  'A' ≤ c && c ≤ 'Z'

def isLetter (c : Char) : Bool :=
  ('a' ≤ c && c ≤ 'z') || isCapital c

/-- The value of a digit, up to fifteen. -/
def digitValue? (c : Char) : Option Nat :=
  if isDigit c then some (c.toNat - '0'.toNat)
  else if 'a' ≤ c ∧ c ≤ 'f' then some (c.toNat - 'a'.toNat + 10)
  else if 'A' ≤ c ∧ c ≤ 'F' then some (c.toNat - 'A'.toNat + 10)
  else none

def isHexDigit (c : Char) : Bool :=
  (digitValue? c).isSome

/-- The number that digits denote; a character that is no digit counts as zero. -/
def numberOf (base : Nat) (digits : List Char) : Nat :=
  digits.foldl (fun total c => total * base + (digitValue? c).getD 0) 0

end Text
end ApiStubs
