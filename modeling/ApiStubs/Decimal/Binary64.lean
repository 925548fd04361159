import ApiStubs.Decimal

/-!
# Numbers of double precision

A magnitude of double precision is a multiple of the smallest one, `2 ^ -1074`,
with at most 53 bits before the zeros at its end.  It is counted in that unit.  A
fraction has a nearest magnitude, and a magnitude a shortest decimal number whose
nearest magnitude it is.
-/

namespace ApiStubs
namespace Binary64

/-- One, moved up by a number of bits. -/
def twoTo (bits : Nat) : Nat :=
  Nat.pow 2 bits

/-- How many units make one. -/
def unitsPerOne : Nat := twoTo 1074

/-- No magnitude reaches this many units. -/
def limit : Nat := twoTo 2098

/-- A quotient as a natural number; of two nearest ones the even one. -/
def nearestEven (numerator denominator : Nat) : Nat :=
  let floor := numerator / denominator
  let twice := 2 * (numerator % denominator)
  if twice < denominator ∨ twice = denominator ∧ floor % 2 = 0 then floor else floor + 1

/-- The distance between the magnitudes around a number of units. -/
def grain (units : Nat) : Nat :=
  twoTo (Nat.log2 units - 52)

/-- The magnitude nearest to a fraction; `none` if the fraction is too large. -/
def nearest? (numerator denominator : Nat) : Option Nat :=
  let scaled := numerator * unitsPerOne
  let step := grain (scaled / denominator)
  let units := nearestEven scaled (denominator * step) * step
  if units < limit then some units else none

/-- A scale at which a magnitude has many more than 17 digits before its point. -/
def decimalScale : Nat := 400

/--
The decimal numbers of a number of digits next to a magnitude, the nearer first.
Of two that are equally near the even one comes first.
-/
def neighbours (units count : Nat) : List Decimal :=
  let scaled := units * Decimal.tenTo decimalScale
  let dropped := Decimal.width (scaled / unitsPerOne) - count
  let step := unitsPerOne * Decimal.tenTo dropped
  let below := scaled / step
  let shift : Int := dropped - decimalScale
  if nearestEven scaled step = below then [⟨below, shift⟩, ⟨below + 1, shift⟩]
  else [⟨below + 1, shift⟩, ⟨below, shift⟩]

/-- The magnitude nearest to a decimal number. -/
def ofDecimal? (decimal : Decimal) : Option Nat :=
  nearest? (decimal.digits * Decimal.tenTo decimal.shift.toNat)
    (Decimal.tenTo (-decimal.shift).toNat)

/-- The decimal number with the fewest digits whose nearest magnitude it is. -/
def shortest (units : Nat) : Decimal :=
  let found := (List.range 17).findSome? (fun count =>
    (neighbours units (count + 1)).find? (fun decimal => ofDecimal? decimal = some units))
  (found.getD ⟨units * Nat.pow 5 1074, -1074⟩).trim

end Binary64
end ApiStubs
