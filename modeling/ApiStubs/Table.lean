import ApiStubs.Text.Digit
import ApiStubs.Text.Form

/-!
# Tables with a listing order

A table maps names to values.  Names that are decimal indices from 0 to
4294967294 are listed first, in ascending order; the other names follow in the
order of their first insertion.  Inserting a name again replaces the value and
keeps its place.
-/

namespace ApiStubs

open Text (Form)

structure Table (α : Type) (κ : Type := String) where
  entries : List (κ × α) := []
  deriving DecidableEq, Repr

namespace Table

variable {α β κ : Type}

def empty : Table α κ := ⟨[]⟩

def names (table : Table α κ) : List κ :=
  table.entries.map (·.1)

def map (f : α → β) (table : Table α κ) : Table β κ :=
  ⟨table.entries.map (fun pair => (pair.1, f pair.2))⟩

/-- Entries stay apart even if their names become one. -/
def mapEntries {ι : Type} (f : ι → κ) (g : α → β) (table : Table α ι) : Table β κ :=
  ⟨table.entries.map (fun pair => (f pair.1, g pair.2))⟩

variable [DecidableEq κ]

def get? (table : Table α κ) (name : κ) : Option α :=
  table.entries.lookup name

@[simp]
theorem get?_empty (name : κ) : (empty : Table α κ).get? name = none := rfl

/-! ## Insertion in listing order -/

variable [Form κ]

/-- The index that a name spells without leading zeros. -/
def index? (name : String) : Option Nat :=
  match name.toList with
  | [] => none
  | '0' :: _ :: _ => none
  | digits =>
      if digits.all Text.isDigit && Text.numberOf 10 digits ≤ 4294967294 then
        some (Text.numberOf 10 digits)
      else none

/-- A new name is listed before an old one only if it is the smaller index. -/
def listedBefore (new old : κ) : Bool :=
  match index? (Form.toText new), index? (Form.toText old) with
  | none, _ => false
  | some _, none => true
  | some i, some j => i < j

def put (name : κ) (value : α) : List (κ × α) → List (κ × α)
  | [] => [(name, value)]
  | (key, old) :: rest =>
      if key = name then (name, value) :: rest
      else if listedBefore name key then (name, value) :: (key, old) :: rest
      else (key, old) :: put name value rest

def insert (table : Table α κ) (name : κ) (value : α) : Table α κ :=
  ⟨put name value table.entries⟩

def ofList (pairs : List (κ × α)) : Table α κ :=
  pairs.foldl (fun table pair => table.insert pair.1 pair.2) empty

/-- The entries of `upper` laid over those of `table`. -/
def overlay (table upper : Table α κ) : Table α κ :=
  upper.entries.foldl (fun result pair => result.insert pair.1 pair.2) table

@[simp]
theorem lookup_put_self (name : κ) (value : α) (pairs : List (κ × α)) :
    (put name value pairs).lookup name = some value := by
  induction pairs with
  | nil => simp [put]
  | cons pair rest ih =>
      obtain ⟨key, old⟩ := pair
      by_cases hkey : key = name
      · simp [put, hkey]
      · have hne : (name == key) = false := by simpa using Ne.symm hkey
        by_cases hbefore : listedBefore name key = true
        · simp [put, hkey, hbefore]
        · simp [put, hkey, hbefore, List.lookup_cons, hne, ih]

theorem lookup_put_of_ne {name other : κ} (hne : other ≠ name)
    (value : α) (pairs : List (κ × α)) :
    (put name value pairs).lookup other = pairs.lookup other := by
  have hname : (other == name) = false := by simpa using hne
  induction pairs with
  | nil => simp [put, List.lookup_cons, hname]
  | cons pair rest ih =>
      obtain ⟨key, old⟩ := pair
      by_cases hkey : key = name
      · subst hkey
        simp [put, List.lookup_cons, hname]
      · by_cases hbefore : listedBefore name key = true
        · simp [put, hkey, hbefore, List.lookup_cons, hname]
        · simp [put, hkey, hbefore, List.lookup_cons, ih]

theorem get?_insert (table : Table α κ) (name other : κ) (value : α) :
    (table.insert name value).get? other =
      if other = name then some value else table.get? other := by
  by_cases hname : other = name
  · subst hname
    simp [insert, get?]
  · simp [insert, get?, hname, lookup_put_of_ne hname]

end Table
end ApiStubs
