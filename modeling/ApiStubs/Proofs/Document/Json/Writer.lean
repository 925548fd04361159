import ApiStubs.Document.Json.Grammar
import ApiStubs.Log.Text
import ApiStubs.Proofs.Table
import ApiStubs.Proofs.Text.Search
import ApiStubs.Proofs.Text.UnitText

/-!
# Writing JSON

Values are written as JSON without white space, and a document denotes the value that it was
written for.  Characters are escaped as in the log.  A half of a surrogate pair that stands
alone is written by its number, so that the units of a text are those that were read.
-/

namespace ApiStubs
namespace Document
namespace Json

open Log (escapeChar hexDigit)
open Text (Symbol UnitText)

/-! ## Texts -/

def unitEscape (u : UInt16) : List Char :=
  ['\\', 'u', hexDigit (u.toNat / 0x1000), hexDigit (u.toNat / 0x100 % 0x10),
    hexDigit (u.toNat / 0x10 % 0x10), hexDigit (u.toNat % 0x10)]

def symbolText : Symbol → List Char
  | .char c => escapeChar c
  | .half u => unitEscape u

def quoted (content : UnitText) : String :=
  "\"" ++ String.ofList ((UnitText.symbols content.units).flatMap symbolText) ++ "\""

theorem digitValue?_hexDigit : ∀ n < 0x10, Text.digitValue? (hexDigit n) = some n := by
  decide

theorem hexNumber?_hexDigits {a b c d : Nat} (ha : a < 0x10) (hb : b < 0x10) (hc : c < 0x10)
    (hd : d < 0x10) :
    hexNumber? [hexDigit a, hexDigit b, hexDigit c, hexDigit d] =
      some (((a * 0x10 + b) * 0x10 + c) * 0x10 + d) := by
  simp [hexNumber?, Text.isHexDigit, Text.numberOf, digitValue?_hexDigit, ha, hb, hc, hd]

theorem spellsUnits_unitEscape (u : UInt16) : SpellsUnits (unitEscape u) [u] := by
  have hu := u.toNat_lt
  have hdigits := hexNumber?_hexDigits (a := u.toNat / 0x1000) (b := u.toNat / 0x100 % 0x10)
    (c := u.toNat / 0x10 % 0x10) (d := u.toNat % 0x10) (by omega) (by omega) (by omega) (by omega)
  have hnumber : ((u.toNat / 0x1000 * 0x10 + u.toNat / 0x100 % 0x10) * 0x10 +
      u.toNat / 0x10 % 0x10) * 0x10 + u.toNat % 0x10 = u.toNat := by omega
  rw [hnumber] at hdigits
  have hspells := SpellsUnits.unit rfl hdigits
  rwa [UInt16.ofNat_toNat] at hspells

theorem spellsUnits_escapeChar (c : Char) : SpellsUnits (escapeChar c) (UnitText.unitsOf c) := by
  unfold escapeChar
  split
  next h => exact .escape (by rw [h]; rfl)
  split
  next h => exact .escape (by rw [h]; rfl)
  split
  next h => exact .escape (by rw [h]; rfl)
  split
  next h => exact .escape (by rw [h]; rfl)
  split
  next h => exact .escape (by rw [h]; rfl)
  split
  next h => exact .escape (by rw [← Char.ofNat_toNat c, h]; rfl)
  split
  next h => exact .escape (by rw [← Char.ofNat_toNat c, h]; rfl)
  split
  next h =>
    have hdigits := hexNumber?_hexDigits (a := 0) (b := 0) (c := c.toNat / 0x10)
      (d := c.toNat % 0x10) (by omega) (by omega) (by omega) (by omega)
    have hnumber : ((0 * 0x10 + 0) * 0x10 + c.toNat / 0x10) * 0x10 + c.toNat % 0x10 = c.toNat := by
      omega
    rw [hnumber] at hdigits
    have hunits : UnitText.unitsOf c = [UInt16.ofNat c.toNat] := by
      rw [UnitText.unitsOf, Text.unitsOfChar, if_pos (by omega), List.map_singleton]
    rw [hunits]
    exact .unit rfl hdigits
  next hquote hescape _ _ _ _ _ hcontrol =>
    exact .plain (Nat.le_of_not_lt hcontrol) hquote hescape

theorem spellsUnits_symbolText (symbol : Symbol) :
    SpellsUnits (symbolText symbol) symbol.units := by
  cases symbol with
  | char c => exact spellsUnits_escapeChar c
  | half u => exact spellsUnits_unitEscape u

theorem spellsUnits_flatMap (symbols : List Symbol) :
    SpellsUnits (symbols.flatMap symbolText) (symbols.flatMap Symbol.units) := by
  induction symbols with
  | nil => exact .nil
  | cons symbol symbols ih => exact .append (spellsUnits_symbolText symbol) ih

theorem spellsText_quoted (content : UnitText) : SpellsText (quoted content).toList content := by
  have htext := SpellsText.mk (spellsUnits_flatMap (UnitText.symbols content.units))
  rw [UnitText.units_symbols] at htext
  simpa [quoted] using htext

/-! ## Values -/

def memberText (name : UnitText) (value : String) : String :=
  quoted name ++ ":" ++ value

mutual

/-- What JSON cannot hold is written as null. -/
def render : Value UnitText → String
  | .boolean true => "true"
  | .boolean false => "false"
  | .text content => quoted content
  | .array items => "[" ++ Text.joinWith "," (itemTexts items) ++ "]"
  | .table entries => "\x7b" ++ Text.joinWith "," (entryTexts entries) ++ "\x7d"
  | _ => "null"

def itemTexts : List (Value UnitText) → List String
  | [] => []
  | item :: rest => render item :: itemTexts rest

def entryTexts : List (UnitText × Value UnitText) → List String
  | [] => []
  | (name, value) :: rest => memberText name (render value) :: entryTexts rest

end

theorem itemTexts_eq_map (items : List (Value UnitText)) : itemTexts items = items.map render := by
  induction items with
  | nil => rfl
  | cons item items ih => rw [itemTexts, ih, List.map_cons]

theorem entryTexts_eq_map (entries : List (UnitText × Value UnitText)) :
    entryTexts entries = entries.map (fun entry => memberText entry.1 (render entry.2)) := by
  induction entries with
  | nil => rfl
  | cons entry entries ih => rw [entryTexts, ih, List.map_cons]

/-- Values that JSON can hold, apart from numbers, with the entries of tables in listing
order. -/
inductive IsPlain : Value UnitText → Prop where
  | null : IsPlain .null
  | boolean (truth : Bool) : IsPlain (.boolean truth)
  | text (content : UnitText) : IsPlain (.text content)
  | array {items : List (Value UnitText)} (hitems : ∀ item ∈ items, IsPlain item) :
      IsPlain (.array items)
  | table {entries : List (UnitText × Value UnitText)} (hlisted : Table.Listed entries)
      (hentries : ∀ entry ∈ entries, IsPlain entry.2) : IsPlain (.table entries)

theorem isBlank_nil : IsBlank [] := nofun

theorem spells_element {cs : List Char} {value : Value UnitText}
    (hvalue : Spells cs (.value value)) : Spells cs (.element value) := by
  simpa using Spells.element isBlank_nil hvalue isBlank_nil

theorem spells_elements {items : List (Value UnitText)} (hne : items ≠ [])
    (hitems : ∀ item ∈ items, Spells (render item).toList (.value item)) :
    Spells (Text.joinWith "," (items.map render)).toList (.elements items) := by
  induction items with
  | nil => contradiction
  | cons item items ih =>
      rw [List.forall_mem_cons] at hitems
      have hfirst := spells_element hitems.1
      by_cases hrest : items = []
      · subst hrest
        exact .lastElement hfirst
      · rw [List.map_cons, Text.joinWith_cons (by simpa using hrest)]
        simpa using Spells.nextElement hfirst (ih hrest hitems.2)

theorem spells_member (name : UnitText) {value : Value UnitText}
    (hvalue : Spells (render value).toList (.value value)) :
    Spells (memberText name (render value)).toList (.member name value) := by
  simpa [memberText] using
    Spells.member isBlank_nil (spellsText_quoted name) isBlank_nil (spells_element hvalue)

theorem spells_members {entries : List (UnitText × Value UnitText)} (hne : entries ≠ [])
    (hentries : ∀ entry ∈ entries, Spells (render entry.2).toList (.value entry.2)) :
    Spells (Text.joinWith ","
      (entries.map (fun entry => memberText entry.1 (render entry.2)))).toList
      (.members entries) := by
  induction entries with
  | nil => contradiction
  | cons entry entries ih =>
      rw [List.forall_mem_cons] at hentries
      have hfirst := spells_member entry.1 hentries.1
      by_cases hrest : entries = []
      · subst hrest
        exact .lastMember hfirst
      · rw [List.map_cons, Text.joinWith_cons (by simpa using hrest)]
        simpa using Spells.nextMember hfirst (ih hrest hentries.2)

theorem spells_render {value : Value UnitText} (hplain : IsPlain value) :
    Spells (render value).toList (.value value) := by
  induction hplain with
  | null => exact .null
  | boolean truth =>
      cases truth with
      | false => exact .false
      | true => exact .true
  | text content => exact .text (spellsText_quoted content)
  | @array items _ ih =>
      rw [render, itemTexts_eq_map]
      by_cases hne : items = []
      · subst hne
        exact .emptyArray isBlank_nil
      · simpa using Spells.array (spells_elements hne ih)
  | @table entries hlisted _ ih =>
      rw [render, entryTexts_eq_map]
      by_cases hne : entries = []
      · subst hne
        exact .emptyTable isBlank_nil
      · have htable := Spells.table (spells_members hne ih)
        rw [Table.entries_ofList_of_listed hlisted] at htable
        simpa using htable

/-- What is written for a value is a document with this value. -/
theorem denotes_render {value : Value UnitText} (hplain : IsPlain value) :
    Denotes (render value) value :=
  spells_element (spells_render hplain)

end Json
end Document
end ApiStubs
