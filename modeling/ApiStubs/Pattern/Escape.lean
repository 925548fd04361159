import ApiStubs.Pattern.Syntax
import ApiStubs.Text.Blank

/-!
# Escapes and sets of a pattern

Code units are plain numbers here.  An escape that has no meaning stands for
the character itself.
-/

namespace ApiStubs
namespace Pattern

/-- The code unit of an ASCII character. -/
def unitOf (c : Char) : Nat := c.toNat

def isDigitUnit (u : Nat) : Bool := unitOf '0' ≤ u && u ≤ unitOf '9'

def isOctalUnit (u : Nat) : Bool := unitOf '0' ≤ u && u ≤ unitOf '7'

def isLetterUnit (u : Nat) : Bool :=
  (unitOf 'a' ≤ u && u ≤ unitOf 'z') || (unitOf 'A' ≤ u && u ≤ unitOf 'Z')

def hexValue? (u : Nat) : Option Nat :=
  if isDigitUnit u then some (u - unitOf '0')
  else if unitOf 'a' ≤ u ∧ u ≤ unitOf 'f' then some (u - unitOf 'a' + 10)
  else if unitOf 'A' ≤ u ∧ u ≤ unitOf 'F' then some (u - unitOf 'A' + 10)
  else none

/-- Exactly `count` hexadecimal digits. -/
def readHex? : Nat → Nat → List Nat → Option (Nat × List Nat)
  | 0, total, us => some (total, us)
  | _ + 1, _, [] => none
  | count + 1, total, u :: us => do
      readHex? count (total * 16 + (← hexValue? u)) us

/-- Up to three octal digits with a value below 256. -/
def readOctal (first : Nat) (us : List Nat) : Nat × List Nat :=
  let one := first - unitOf '0'
  match us with
  | u :: rest =>
      if isOctalUnit u then
        let two := one * 8 + (u - unitOf '0')
        match rest with
        | v :: more =>
            if two < 32 && isOctalUnit v then (two * 8 + (v - unitOf '0'), more)
            else (two, rest)
        | [] => (two, rest)
      else (one, us)
  | [] => (one, us)

def digitRanges : List (Nat × Nat) := [(0x30, 0x39)]

def wordRanges : List (Nat × Nat) :=
  [(0x30, 0x39), (0x41, 0x5A), (0x5F, 0x5F), (0x61, 0x7A)]

def blankRanges : List (Nat × Nat) :=
  [(9, 13), (0x20, 0x20), (0xA0, 0xA0), (0x1680, 0x1680), (0x2000, 0x200A),
    (0x2028, 0x2029), (0x202F, 0x202F), (0x205F, 0x205F), (0x3000, 0x3000),
    (0xFEFF, 0xFEFF)]

def lineEndRanges : List (Nat × Nat) :=
  [(10, 10), (13, 13), (0x2028, 0x2029)]

/-- The units below, between and above ascending ranges. -/
def complementFrom (low : Nat) : List (Nat × Nat) → List (Nat × Nat)
  | [] => if low ≤ 0xFFFF then [(low, 0xFFFF)] else []
  | (first, last) :: rest =>
      if low < first then (low, first - 1) :: complementFrom (last + 1) rest
      else complementFrom (last + 1) rest

def complement (ranges : List (Nat × Nat)) : List (Nat × Nat) :=
  complementFrom 0 ranges

/-- The classes of digits, blanks and word characters, and their complements. -/
def classRanges? (u : Nat) : Option (List (Nat × Nat)) :=
  if u = unitOf 'd' then some digitRanges
  else if u = unitOf 'D' then some (complement digitRanges)
  else if u = unitOf 's' then some blankRanges
  else if u = unitOf 'S' then some (complement blankRanges)
  else if u = unitOf 'w' then some wordRanges
  else if u = unitOf 'W' then some (complement wordRanges)
  else none

def controlUnit? (u : Nat) : Option Nat :=
  if u = unitOf 'f' then some 12
  else if u = unitOf 'n' then some 10
  else if u = unitOf 'r' then some 13
  else if u = unitOf 't' then some 9
  else if u = unitOf 'v' then some 11
  else none

/--
The unit that an escape stands for; `u` follows the backslash.  Where `u` is a
`c` without a control letter, the backslash itself is meant and the `c` is read
again.
-/
def readUnitEscape (inSet : Bool) (u : Nat) (us : List Nat) : Nat × List Nat :=
  match controlUnit? u with
  | some control => (control, us)
  | none =>
      if u = unitOf 'c' then
        match us with
        | letter :: rest =>
            if isLetterUnit letter ||
                (inSet && (isDigitUnit letter || letter = unitOf '_')) then
              (letter % 32, rest)
            else (unitOf '\\', u :: us)
        | [] => (unitOf '\\', u :: us)
      else if isOctalUnit u then readOctal u us
      else if u = unitOf 'x' then (readHex? 2 0 us).getD (u, us)
      else if u = unitOf 'u' then (readHex? 4 0 us).getD (u, us)
      else (u, us)

/-- One member of a set: a unit or a class. -/
inductive SetItem where
  | unit (u : Nat)
  | ranges (members : List (Nat × Nat))

/-- In a pattern with named groups the escape `\k` stands for nothing else. -/
def readSetItem (named : Bool) : List Nat → Except Fault (SetItem × List Nat)
  | [] => .error .unterminatedSet
  | u :: us =>
      if u != unitOf '\\' then .ok (.unit u, us)
      else
        match us with
        | [] => .error .escapeAtEnd
        | e :: rest =>
            match classRanges? e with
            | some members => .ok (.ranges members, rest)
            | none =>
                if e = unitOf 'b' then .ok (.unit 8, rest)
                else if named && e = unitOf 'k' then .error .invalidEscape
                else
                  let (unit, after) := readUnitEscape true e rest
                  .ok (.unit unit, after)

def SetItem.toRanges : SetItem → List (Nat × Nat)
  | .unit u => [(u, u)]
  | .ranges members => members

def hyphen : Nat × Nat := (unitOf '-', unitOf '-')

/-- The members of a set up to its closing bracket; `fuel` bounds their number. -/
def readSetItems (named : Bool) :
    Nat → List Nat → Except Fault (List (Nat × Nat) × List Nat)
  | 0, _ => .error .unterminatedSet
  | _ + 1, [] => .error .unterminatedSet
  | fuel + 1, u :: us =>
      if u = unitOf ']' then .ok ([], us)
      else do
        let (first, rest) ← readSetItem named (u :: us)
        match rest with
        | [] => .error .unterminatedSet
        | v :: afterHyphen =>
            if v != unitOf '-' then do
              let (members, final) ← readSetItems named fuel rest
              return (first.toRanges ++ members, final)
            else
              match afterHyphen with
              | [] => .error .unterminatedSet
              | w :: _ =>
                  if w = unitOf ']' then
                    .ok (first.toRanges ++ [hyphen], afterHyphen.drop 1)
                  else do
                    let (second, after) ← readSetItem named afterHyphen
                    let between ← match first, second with
                      | .unit low, .unit high =>
                          if high < low then .error .rangeOutOfOrder
                          else .ok [(low, high)]
                      | _, _ => .ok (first.toRanges ++ hyphen :: second.toRanges)
                    let (members, final) ← readSetItems named fuel after
                    return (between ++ members, final)

/-- A set after its opening bracket. -/
def readSet (named : Bool) (us : List Nat) : Except Fault (UnitSet × List Nat) :=
  match us with
  | u :: rest =>
      if u = unitOf '^' then
        (readSetItems named (us.length + 1) rest).map
          (fun result => (⟨true, result.1⟩, result.2))
      else
        (readSetItems named (us.length + 1) us).map
          (fun result => (⟨false, result.1⟩, result.2))
  | [] => .error .unterminatedSet

end Pattern
end ApiStubs
