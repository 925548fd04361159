/-!
# Code units of a text

Texts are ordered by their UTF-16 code units, so a character above U+FFFF comes
before U+E000.  The order is a comparison of unit lists, and sorting by it is a
stable merge sort.
-/

namespace ApiStubs
namespace Text

/-- A character up to U+FFFF is one unit; a higher one is a surrogate pair. -/
def unitsOfChar (c : Char) : List Nat :=
  if c.toNat < 0x10000 then [c.toNat]
  else
    [0xD800 + (c.toNat - 0x10000) / 0x400,
      0xDC00 + (c.toNat - 0x10000) % 0x400]

def units (text : String) : List Nat :=
  text.toList.flatMap unitsOfChar

/-- Lexicographic comparison; a proper beginning comes first. -/
def compareUnitLists : List Nat → List Nat → Ordering
  | [], [] => .eq
  | [], _ :: _ => .lt
  | _ :: _, [] => .gt
  | a :: as, b :: bs =>
      if a < b then .lt
      else if b < a then .gt
      else compareUnitLists as bs

def compareUnits (a b : String) : Ordering :=
  compareUnitLists (units a) (units b)

/-- The non-strict order by code units. -/
def unitsLE (a b : String) : Bool :=
  compareUnits a b != .gt

def sortByUnits (texts : List String) : List String :=
  texts.mergeSort unitsLE

@[simp]
theorem units_empty : units "" = [] := rfl

theorem compareUnitLists_self (us : List Nat) :
    compareUnitLists us us = .eq := by
  induction us with
  | nil => rfl
  | cons u us ih => simp [compareUnitLists, ih]

@[simp]
theorem compareUnits_self (text : String) : compareUnits text text = .eq :=
  compareUnitLists_self _

end Text
end ApiStubs
