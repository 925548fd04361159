import ApiStubs.Document.Value
import ApiStubs.Proofs.Keyed

/-!
# Shapes of values

What a value can be declared as: a text, a flag, a list or a table of values of one shape.
A date or time reads as a table, too, so tables are told from it where a value holds none.
-/

namespace ApiStubs
namespace Document
open Text (Form)

namespace Value

variable {τ : Type}

mutual

/-- A date or time stands somewhere in the value. -/
def holdsMoment : Value τ → Bool
  | moment _ => true
  | array items => anyHoldsMoment items
  | table entries => anyEntryHoldsMoment entries
  | _ => false

def anyHoldsMoment : List (Value τ) → Bool
  | [] => false
  | item :: rest => item.holdsMoment || anyHoldsMoment rest

def anyEntryHoldsMoment : List (τ × Value τ) → Bool
  | [] => false
  | (_, value) :: rest => value.holdsMoment || anyEntryHoldsMoment rest

end

theorem anyHoldsMoment_eq_false_iff {items : List (Value τ)} :
    anyHoldsMoment items = false ↔ ∀ item ∈ items, item.holdsMoment = false := by
  induction items with
  | nil => simp [anyHoldsMoment]
  | cons item items ih => simp [anyHoldsMoment, ih]

theorem anyEntryHoldsMoment_eq_false_iff {entries : List (τ × Value τ)} :
    anyEntryHoldsMoment entries = false ↔ ∀ entry ∈ entries, entry.2.holdsMoment = false := by
  induction entries with
  | nil => simp [anyEntryHoldsMoment]
  | cons entry entries ih => simp [anyEntryHoldsMoment, ih]

@[simp]
theorem holdsMoment_array {items : List (Value τ)} :
    (array items).holdsMoment = false ↔ ∀ item ∈ items, item.holdsMoment = false :=
  anyHoldsMoment_eq_false_iff

@[simp]
theorem holdsMoment_table {entries : List (τ × Value τ)} :
    (table entries).holdsMoment = false ↔ ∀ entry ∈ entries, entry.2.holdsMoment = false :=
  anyEntryHoldsMoment_eq_false_iff

/-- Apart from dates and times only a table has entries. -/
theorem entries?_eq_some_iff [Form τ] {value : Value τ} (hmoment : value.holdsMoment = false)
    {entries : List (τ × Value τ)} : value.entries? = some entries ↔ value = table entries := by
  cases value <;> simp_all [entries?, holdsMoment]

theorem text?_eq_some_iff {value : Value τ} {content : τ} :
    value.text? = some content ↔ value = text content := by
  cases value <;> simp [text?]

theorem items?_eq_some_iff {value : Value τ} {items : List (Value τ)} :
    value.items? = some items ↔ value = array items := by
  cases value <;> simp [items?]

/-! ## Shapes -/

def IsText (value : Value τ) : Prop :=
  ∃ content, value = text content

def IsFlag (value : Value τ) : Prop :=
  ∃ truth, value = boolean truth

def IsListOf (shape : Value τ → Prop) (value : Value τ) : Prop :=
  ∃ items, value = array items ∧ ∀ item ∈ items, shape item

/-- A table of values of one shape, none of them under a name that is prohibited. -/
def IsTableOf [Form τ] (shape : Value τ → Prop) (value : Value τ) : Prop :=
  ∃ entries, value = table entries ∧
    ∀ entry ∈ entries,
      entry.1 ∉ ["__proto__", "constructor", "prototype"].map Form.ofText ∧ shape entry.2

@[simp]
theorem isListOf_array {shape : Value τ → Prop} {items : List (Value τ)} :
    (array items).IsListOf shape ↔ ∀ item ∈ items, shape item := by
  simp [IsListOf]

@[simp]
theorem isTableOf_table [Form τ] {shape : Value τ → Prop} {entries : List (τ × Value τ)} :
    (table entries).IsTableOf shape ↔
      ∀ entry ∈ entries,
        entry.1 ∉ ["__proto__", "constructor", "prototype"].map Form.ofText ∧ shape entry.2 := by
  simp [IsTableOf]

end Value

variable {τ : Type}

/-- No date or time stands in the entries. -/
def MomentFree (entries : List (τ × Value τ)) : Prop :=
  ∀ entry ∈ entries, entry.2.holdsMoment = false

variable [DecidableEq τ]

theorem MomentFree.lookup {entries : List (τ × Value τ)} (hentries : MomentFree entries)
    {name : τ} {value : Value τ} (hvalue : entries.lookup name = some value) :
    value.holdsMoment = false :=
  hentries (name, value) (Keyed.mem_of_lookup hvalue)

variable [Form τ]

/-- The entry is there and has the shape. -/
def Requires (name : String) (shape : Value τ → Prop) (entries : List (τ × Value τ)) : Prop :=
  ∃ value, entries.lookup (Form.ofText name) = some value ∧ shape value

/-- The entry is missing or has the shape. -/
def Allows (name : String) (shape : Value τ → Prop) (entries : List (τ × Value τ)) : Prop :=
  ∀ value ∈ entries.lookup (Form.ofText name), shape value

end Document
end ApiStubs
