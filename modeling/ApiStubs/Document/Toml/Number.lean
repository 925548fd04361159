import ApiStubs.Document.Value
import ApiStubs.Document.Toml.Calendar

/-!
# Numbers, dates and times of a TOML document

A reader returns the kind that decides which values may share an array, the
value, and what follows.  An underscore, a decimal point and a sign must not be
followed by another of these, by an exponent sign or by the end of the word;
what else follows is left to the reader of the enclosing value.
-/

namespace ApiStubs
namespace Document
namespace Toml

/-- All values of one array are of one kind. -/
inductive Kind where
  | text
  | boolean
  | integer
  | float
  | special
  | moment
  | array
  | table
  deriving DecidableEq, Repr

structure Reading where
  kind : Kind
  value : Value
  rest : List Char

/-- What may stand after an underscore, a point or a sign of a decimal number. -/
def continuesDecimal : List Char → Bool
  | [] => false
  | c :: rest =>
      !(c = '_' || c = '.' || c = 'e' || c = 'E') && !atWordEnd (c :: rest)

/-- What may stand after an underscore or the base of another number. -/
def continuesBased : List Char → Bool
  | [] => false
  | c :: rest => !(c = '_' || c = '.') && !atWordEnd (c :: rest)

/-- Digits and underscores: the digits, and what follows. -/
def readDigits (isMember : Char → Bool) (continues : List Char → Bool) :
    List Char → Option (List Char × List Char)
  | [] => some ([], [])
  | c :: rest =>
      if isMember c then do
        let (digits, final) ← readDigits isMember continues rest
        return (c :: digits, final)
      else if c = '_' then
        if continues rest then readDigits isMember continues rest else none
      else some ([], c :: rest)

/-- Integers beyond this magnitude are big. -/
def largestPlainInteger : Nat := 9007199254740991

def integerOf (base : Nat) (digits : List Char) : Value :=
  if Text.numberOf base digits ≤ largestPlainInteger then .number else .bigInteger

def float (rest : List Char) : Reading :=
  ⟨.float, .number, rest⟩

/-- After the `e` of a number. -/
def readExponent? : List Char → Option Reading
  | [] => none
  | c :: rest =>
      if Text.isDigit c then
        (readDigits Text.isDigit continuesDecimal (c :: rest)).map (float ·.2)
      else if (c = '+' ∨ c = '-') ∧ continuesDecimal rest then
        (readDigits Text.isDigit continuesDecimal rest).map (float ·.2)
      else none

/-- After the decimal point of a number. -/
def readFraction? (cs : List Char) : Option Reading := do
  if !continuesDecimal cs then none
  let (_, rest) ← readDigits Text.isDigit continuesDecimal cs
  match rest with
  | c :: more => if c = 'e' ∨ c = 'E' then readExponent? more else return float rest
  | [] => return float rest

/-- What follows the digits `before` of a number. -/
def readNumberEnd? (before : List Char) : List Char → Option Reading
  | '.' :: rest => readFraction? rest
  | 'e' :: rest => readExponent? rest
  | 'E' :: rest => readExponent? rest
  | rest =>
      if before.isEmpty then none
      else some ⟨.integer, integerOf 10 before, rest⟩

/-- A decimal number of which `before` has been read. -/
def readDecimal? (before cs : List Char) : Option Reading := do
  let (digits, rest) ← readDigits Text.isDigit continuesDecimal cs
  readNumberEnd? (before ++ digits) rest

def readBased? (base : Nat) (isMember : Char → Bool) (cs : List Char) :
    Option Reading := do
  if !continuesBased cs then none
  let (digits, rest) ← readDigits isMember continuesBased cs
  if digits.isEmpty then none
  return ⟨.integer, integerOf base digits, rest⟩

/-- Infinity, and the value that is not a number. -/
def readSpecial? : List Char → Option Reading
  | 'i' :: 'n' :: 'f' :: rest => some ⟨.special, .number, rest⟩
  | 'n' :: 'a' :: 'n' :: rest => some ⟨.special, .number, rest⟩
  | _ => none

/-- After a sign. -/
def readSigned? (cs : List Char) : Option Reading :=
  match cs with
  | 'i' :: _ => readSpecial? cs
  | 'n' :: _ => readSpecial? cs
  | '0' :: rest => readNumberEnd? ['0'] rest
  | _ => if continuesDecimal cs then readDecimal? [] cs else none

def moment? (valid : Bool) (kind : Moment) (rest : List Char) : Option Reading :=
  if valid then some ⟨.moment, .moment kind, rest⟩ else none

/-- Exactly two digits. -/
def readTwo? : List Char → Option (List Char × List Char)
  | a :: b :: rest => if Text.isDigit a && Text.isDigit b then some ([a, b], rest) else none
  | _ => none

/-- Minutes and seconds, after the colon behind the hour. -/
def readMinutes? (cs : List Char) :
    Option (List Char × List Char × List Char) := do
  let (minute, rest) ← readTwo? cs
  match rest with
  | ':' :: more => do
      let (second, final) ← readTwo? more
      return (minute, second, final)
  | _ => none

/-- The zone of a day with a time, after its seconds and fraction. -/
def readZone? (valid : Bool) (cs : List Char) : Option Reading :=
  match cs with
  | 'Z' :: rest => moment? valid .zoned rest
  | c :: rest =>
      if c = '+' ∨ c = '-' then do
        let (hour, after) ← readTwo? rest
        match after with
        | ':' :: more => do
            let (minute, final) ← readTwo? more
            moment? (valid && isOffset hour minute) .zoned final
        | _ => none
      else if atWordEnd cs then moment? valid .floating cs
      else none
  | [] => moment? valid .floating []

/-- The time that follows a day. -/
def readTimeOfDay? (month day cs : List Char) : Option Reading := do
  let hour := cs.takeWhile Text.isDigit
  if hour.length < 2 then none
  match cs.dropWhile Text.isDigit with
  | ':' :: rest => do
      let (minute, second, after) ← readMinutes? rest
      match after with
      | '.' :: more =>
          let fraction := more.takeWhile Text.isDigit
          if fraction.isEmpty then none
          else
            readZone? (isStrictDay month day && isTime hour minute second fraction)
              (more.dropWhile Text.isDigit)
      | _ => readZone? (isStrictDay month day && isTime hour minute second []) after
  | _ => none

/-- A date, after the hyphen behind its year. -/
def readDate? (year cs : List Char) : Option Reading := do
  let month := cs.takeWhile Text.isDigit
  if month.length < 2 then none
  match cs.dropWhile Text.isDigit with
  | '-' :: rest =>
      let day := rest.takeWhile Text.isDigit
      let after := rest.dropWhile Text.isDigit
      match after with
      | c :: more =>
          if c = 'T' ∨ c = ' ' then
            if day.length < 2 then none
            else if atWordEnd more then moment? (isDay year month day) .day more
            else readTimeOfDay? month day more
          else if atWordEnd after then moment? (isDay year month day) .day after
          else none
      | [] => moment? (isDay year month day) .day []
  | _ => none

/--
A time of day, after the colon behind its hour.  A time without a fraction takes
the character that follows it.
-/
def readTime? (hour cs : List Char) : Option Reading := do
  if hour.length < 2 then none
  let (minute, second, after) ← readMinutes? cs
  match after with
  | '.' :: more =>
      let fraction := more.takeWhile Text.isDigit
      let final := more.dropWhile Text.isDigit
      if fraction.isEmpty || !atWordEnd final then none
      else moment? (isTime hour minute second fraction) .timeOfDay final
  | _ => moment? (isTime hour minute second []) .timeOfDay (after.drop 1)

/-- A number, date or time that starts with a digit other than zero. -/
def readFromDigit? (cs : List Char) : Option Reading :=
  let digits := cs.takeWhile Text.isDigit
  let rest := cs.dropWhile Text.isDigit
  if digits.length > 4 then readDecimal? [] cs
  else
    match rest with
    | '-' :: more => if digits.length = 4 then readDate? digits more else none
    | ':' :: more => readTime? digits more
    | '_' :: more => if continuesDecimal more then readDecimal? digits more else none
    | _ => readNumberEnd? digits rest

/-- Two digits of which the first is zero start a date or a time. -/
def readFromZeros? (cs : List Char) : Option Reading :=
  let digits := (cs.take 4).takeWhile Text.isDigit
  match cs.drop digits.length with
  | '-' :: more => if digits.length = 4 then readDate? digits more else none
  | ':' :: more => if digits.length < 4 then readTime? digits more else none
  | _ => none

/-- A number, date or time that starts with zero. -/
def readFromZero? (cs : List Char) : Option Reading :=
  match cs with
  | '0' :: 'x' :: rest => readBased? 16 Text.isHexDigit rest
  | '0' :: 'o' :: rest => readBased? 8 isOctalDigit rest
  | '0' :: 'b' :: rest => readBased? 2 isBinaryDigit rest
  | '0' :: '.' :: rest => readFraction? rest
  | '0' :: c :: rest =>
      if Text.isDigit c then readFromZeros? cs
      else some ⟨.integer, .number, c :: rest⟩
  | _ => some ⟨.integer, .number, cs.drop 1⟩

/-- Any number, date or time. -/
def readNumber? (cs : List Char) : Option Reading :=
  match cs with
  | '+' :: rest => readSigned? rest
  | '-' :: rest => readSigned? rest
  | 'i' :: _ => readSpecial? cs
  | 'n' :: _ => readSpecial? cs
  | '0' :: _ => readFromZero? cs
  | c :: _ => if Text.isDigit c then readFromDigit? cs else none
  | [] => none

end Toml
end Document
end ApiStubs
