/-!
# Patterns

A pattern is a regular expression over the UTF-16 code units of a text.  Groups
that capture are numbered from one in the order of their opening brackets.
-/

namespace ApiStubs
namespace Pattern

/-- A group is referred to by its number or by its name. -/
inductive GroupRef where
  | number (n : Nat)
  | named (name : List Nat)
  deriving DecidableEq, Repr

/-- A set of code units, as ranges. -/
structure UnitSet where
  negated : Bool
  ranges : List (Nat × Nat)
  deriving DecidableEq, Repr

def UnitSet.holds (set : UnitSet) (u : Nat) : Bool :=
  set.ranges.any (fun r => r.1 ≤ u && u ≤ r.2) != set.negated

/-- How often a part may occur; `most` is absent when there is no bound. -/
structure Bounds where
  least : Nat
  most : Option Nat
  lazy : Bool
  deriving DecidableEq, Repr

inductive Node where
  | empty
  | unit (u : Nat)
  | set (units : UnitSet)
  | textStart
  | textEnd
  | wordEdge (negated : Bool)
  | capture (index : Nat) (body : Node)
  | seq (first second : Node)
  | alt (first second : Node)
  /-- The groups numbered above `before` and up to `after` stand in the body. -/
  | many (bounds : Bounds) (before after : Nat) (body : Node)
  | recall (group : GroupRef)
  | look (ahead negated : Bool) (body : Node)
  deriving Repr

/-- A compiled pattern, with the numbers of its named groups. -/
structure Compiled where
  body : Node
  groups : Nat
  names : List (List Nat × Nat)
  deriving Repr

/-- Why a text is no pattern. -/
inductive Fault where
  | unterminatedGroup
  | unmatchedBracket
  | escapeAtEnd
  | nothingToRepeat
  | countsOutOfOrder
  | notRepeatable
  | invalidGroup
  | invalidGroupName
  | duplicateGroupName
  | invalidUnicodeEscape
  | invalidEscape
  | invalidNamedReference
  | unknownGroupName
  | unterminatedSet
  | rangeOutOfOrder
  deriving DecidableEq, Repr

def Fault.reason : Fault → String
  | unterminatedGroup => "Unterminated group"
  | unmatchedBracket => "Unmatched ')'"
  | escapeAtEnd => "\\ at end of pattern"
  | nothingToRepeat => "Nothing to repeat"
  | countsOutOfOrder => "numbers out of order in \x7b\x7d quantifier"
  | notRepeatable => "Invalid quantifier"
  | invalidGroup => "Invalid group"
  | invalidGroupName => "Invalid capture group name"
  | duplicateGroupName => "Duplicate capture group name"
  | invalidUnicodeEscape => "Invalid Unicode escape"
  | invalidEscape => "Invalid escape"
  | invalidNamedReference => "Invalid named reference"
  | unknownGroupName => "Invalid named capture referenced"
  | unterminatedSet => "Unterminated character class"
  | rangeOutOfOrder => "Range out of order in character class"

def Fault.message (fault : Fault) (source : String) : String :=
  "Invalid regular expression: /" ++ source ++ "/: " ++ fault.reason

end Pattern
end ApiStubs
