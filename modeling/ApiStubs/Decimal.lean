import ApiStubs.Text.Search

/-!
# Decimal numbers

A decimal number is a natural number with a shift of its decimal point.  Its text
is positional while the point lies near the digits, and has an exponent beyond.
-/

namespace ApiStubs

/-- The number `digits * 10 ^ shift`. -/
structure Decimal where
  digits : Nat
  shift : Int
  deriving DecidableEq, Repr

namespace Decimal

/-- One, moved up by a number of decimal places. -/
def tenTo (places : Nat) : Nat :=
  Nat.pow 10 places

/-- How many digits a natural number has. -/
def width (n : Nat) : Nat :=
  (Nat.toDigits 10 n).length

/-- Drops zeros at the end; `fuel` bounds their number. -/
def trimFrom : (fuel : Nat) → Decimal → Decimal
  | 0, decimal => decimal
  | fuel + 1, decimal =>
      if decimal.digits % 10 = 0 then trimFrom fuel ⟨decimal.digits / 10, decimal.shift + 1⟩
      else decimal

def trim (decimal : Decimal) : Decimal :=
  if decimal.digits = 0 then ⟨0, 0⟩ else trimFrom (width decimal.digits) decimal

/-- The place of the point, counted from the first digit. -/
def point (decimal : Decimal) : Int :=
  width decimal.digits + decimal.shift

def zeros (count : Int) : List Char :=
  List.replicate count.toNat '0'

/-- A point after the first digits, if any digits follow. -/
def pointed (before : Nat) (digits : List Char) : List Char :=
  match digits.drop before with
  | [] => digits
  | fraction => digits.take before ++ '.' :: fraction

def exponentText (exponent : Int) : List Char :=
  'e' :: (if exponent < 0 then '-' else '+') :: Nat.toDigits 10 exponent.natAbs

/-- The text of a number without zeros at its end. -/
def text (decimal : Decimal) : String :=
  let digits := Nat.toDigits 10 decimal.digits
  let point := decimal.point
  String.ofList (
    if 0 < point ∧ point ≤ 21 then pointed point.toNat (digits ++ zeros decimal.shift)
    else if -6 < point ∧ point ≤ 0 then '0' :: '.' :: (zeros (-point) ++ digits)
    else pointed 1 digits ++ exponentText (point - 1))

end Decimal
end ApiStubs
