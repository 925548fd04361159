import ApiStubs.Document.Toml.Scan

/-!
# Which dates and times exist

A date and time is accepted if each part is in its range; February may have up
to 31 days.  A day alone has a second, lenient reading for parts that are not
two digits long or out of range: a leading part from 1 to 31 is then the month,
and the parts are month, day and year.
-/

namespace ApiStubs
namespace Document
namespace Toml

/-- The number of the digits, of which only the first nine that count are read. -/
def clippedNumber (digits : List Char) : Nat :=
  ((digits.dropWhile (· = '0')).take 9).foldl
    (fun total c => total * 10 + (c.toNat - '0'.toNat)) 0

def isMonth (n : Nat) : Bool := 1 ≤ n && n ≤ 12

def isDayOfMonth (n : Nat) : Bool := 1 ≤ n && n ≤ 31

/-- Two digits whose number satisfies the test. -/
def twoDigits (test : Nat → Bool) (digits : List Char) : Bool :=
  digits.length = 2 && test (clippedNumber digits)

/-- The last day that can be counted is the 13th of September 275760. -/
def isCountable (year month day : Nat) : Bool :=
  year < 275760 ||
    (year = 275760 && (month < 9 || (month = 9 && day ≤ 13)))

def fullYear (year : Nat) : Nat :=
  if year ≤ 49 then year + 2000
  else if year ≤ 99 then year + 1900
  else year

def isLenientDay (first second third : Nat) : Bool :=
  let (year, month, day) :=
    if isDayOfMonth first then (third, first, second) else (first, second, third)
  isMonth month && isDayOfMonth day && isCountable (fullYear year) month day

/-- `day` may be empty, which stands for the first of the month. -/
def isDay (year month day : List Char) : Bool :=
  (twoDigits isMonth month && twoDigits isDayOfMonth day) ||
    isLenientDay (clippedNumber year) (clippedNumber month)
      (if day.isEmpty then 1 else clippedNumber day)

/-- The twenty-fourth hour has no minutes, seconds and fractions. -/
def isTime (hour minute second fraction : List Char) : Bool :=
  twoDigits (· ≤ 24) hour && twoDigits (· ≤ 59) minute &&
    twoDigits (· ≤ 59) second &&
      (clippedNumber hour != 24 ||
        (clippedNumber minute = 0 && clippedNumber second = 0 &&
          clippedNumber fraction = 0))

def isOffset (hour minute : List Char) : Bool :=
  twoDigits (· ≤ 23) hour && twoDigits (· ≤ 59) minute

/-- A day with a time of day is read strictly. -/
def isStrictDay (month day : List Char) : Bool :=
  twoDigits isMonth month && twoDigits isDayOfMonth day

end Toml
end Document
end ApiStubs
