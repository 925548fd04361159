import ApiStubs.Document.Json

/-!
# The grammar of JSON

Which characters spell which value, said without a reader.  White space may stand around
every element and around every name of a member, and nowhere else outside of texts.
-/

namespace ApiStubs
namespace Document
namespace Json

open Text (UnitText)

def IsBlank (cs : List Char) : Prop :=
  ∀ c ∈ cs, isSpace c = true

/-- One digit or more. -/
def IsDigits (cs : List Char) : Prop :=
  cs ≠ [] ∧ ∀ c ∈ cs, Text.isDigit c = true

/-- A whole number; only zero itself begins with the digit zero. -/
inductive IsWhole : List Char → Prop where
  | zero : IsWhole ['0']
  | digits {first : Char} {more : List Char} (hfirst : first ≠ '0')
      (hdigits : IsDigits (first :: more)) : IsWhole (first :: more)

inductive IsFraction : List Char → Prop where
  | absent : IsFraction []
  | present {digits : List Char} (hdigits : IsDigits digits) : IsFraction ('.' :: digits)

inductive IsExponent : List Char → Prop where
  | absent : IsExponent []
  | present {mark : Char} {sign digits : List Char} (hmark : mark = 'e' ∨ mark = 'E')
      (hsign : sign = [] ∨ sign = ['+'] ∨ sign = ['-']) (hdigits : IsDigits digits) :
      IsExponent (mark :: (sign ++ digits))

inductive IsNumber : List Char → Prop where
  | mk {sign whole fraction exponent : List Char} (hsign : sign = [] ∨ sign = ['-'])
      (hwhole : IsWhole whole) (hfraction : IsFraction fraction)
      (hexponent : IsExponent exponent) :
      IsNumber (sign ++ (whole ++ (fraction ++ exponent)))

/-- What stands between the quotes of a text: characters as they are, escaped ones, and
code units by their numbers. -/
inductive SpellsUnits : List Char → List UInt16 → Prop where
  | plain {c : Char} (hprintable : 0x20 ≤ c.toNat) (hquote : c ≠ '"') (hescape : c ≠ '\\') :
      SpellsUnits [c] (UnitText.unitsOf c)
  | escape {letter c : Char} (hletter : escaped? letter = some c) :
      SpellsUnits ['\\', letter] (UnitText.unitsOf c)
  | unit {digits : List Char} {n : Nat} (hlength : digits.length = 4)
      (hdigits : hexNumber? digits = some n) :
      SpellsUnits ('\\' :: 'u' :: digits) [UInt16.ofNat n]
  | nil : SpellsUnits [] []
  | append {cs rest : List Char} {us more : List UInt16} (hfirst : SpellsUnits cs us)
      (hrest : SpellsUnits rest more) : SpellsUnits (cs ++ rest) (us ++ more)

/-- A text between quotes. -/
inductive SpellsText : List Char → UnitText → Prop where
  | mk {cs : List Char} {us : List UInt16} (hunits : SpellsUnits cs us) :
      SpellsText ('"' :: (cs ++ ['"'])) ⟨us⟩

/-- What characters can spell: a value, a value with white space around it, or a part of one. -/
inductive Phrase where
  | value (value : Value UnitText)
  | element (value : Value UnitText)
  | elements (values : List (Value UnitText))
  | member (name : UnitText) (value : Value UnitText)
  | members (entries : List (UnitText × Value UnitText))

inductive Spells : List Char → Phrase → Prop where
  | null : Spells ['n', 'u', 'l', 'l'] (.value .null)
  | true : Spells ['t', 'r', 'u', 'e'] (.value (.boolean true))
  | false : Spells ['f', 'a', 'l', 's', 'e'] (.value (.boolean false))
  | number {cs : List Char} (hnumber : IsNumber cs) : Spells cs (.value .number)
  | text {cs : List Char} {content : UnitText} (htext : SpellsText cs content) :
      Spells cs (.value (.text content))
  | emptyArray {gap : List Char} (hgap : IsBlank gap) :
      Spells ('[' :: (gap ++ [']'])) (.value (.array []))
  | array {cs : List Char} {items : List (Value UnitText)} (hitems : Spells cs (.elements items)) :
      Spells ('[' :: (cs ++ [']'])) (.value (.array items))
  | emptyTable {gap : List Char} (hgap : IsBlank gap) :
      Spells ('{' :: (gap ++ ['}'])) (.value (.table []))
  /-- Of several members with one name the last counts. -/
  | table {cs : List Char} {entries : List (UnitText × Value UnitText)}
      (hentries : Spells cs (.members entries)) :
      Spells ('{' :: (cs ++ ['}'])) (.value (.table (Table.ofList entries).entries))
  | element {before cs after : List Char} {value : Value UnitText} (hbefore : IsBlank before)
      (hvalue : Spells cs (.value value)) (hafter : IsBlank after) :
      Spells (before ++ (cs ++ after)) (.element value)
  | lastElement {cs : List Char} {value : Value UnitText} (hvalue : Spells cs (.element value)) :
      Spells cs (.elements [value])
  | nextElement {cs rest : List Char} {value : Value UnitText} {values : List (Value UnitText)}
      (hvalue : Spells cs (.element value)) (hvalues : Spells rest (.elements values)) :
      Spells (cs ++ ',' :: rest) (.elements (value :: values))
  | member {before spelled after cs : List Char} {name : UnitText} {value : Value UnitText}
      (hbefore : IsBlank before) (hname : SpellsText spelled name) (hafter : IsBlank after)
      (hvalue : Spells cs (.element value)) :
      Spells (before ++ (spelled ++ (after ++ ':' :: cs))) (.member name value)
  | lastMember {cs : List Char} {name : UnitText} {value : Value UnitText}
      (hmember : Spells cs (.member name value)) : Spells cs (.members [(name, value)])
  | nextMember {cs rest : List Char} {name : UnitText} {value : Value UnitText}
      {entries : List (UnitText × Value UnitText)} (hmember : Spells cs (.member name value))
      (hentries : Spells rest (.members entries)) :
      Spells (cs ++ ',' :: rest) (.members ((name, value) :: entries))

/-- A text is a JSON document with a value. -/
def Denotes (text : String) (value : Value UnitText) : Prop :=
  Spells text.toList (.element value)

end Json
end Document
end ApiStubs
