import ApiStubs.Text.Form
import ApiStubs.Text.Units

/-!
# Texts as code units

A text of UTF-16 code units may hold a half of a surrogate pair alone, which is no
character.  Two halves that stand together are one.  Where characters are needed a half
alone is shown as U+FFFD, as it is when the text is encoded.
-/

namespace ApiStubs
namespace Text

structure UnitText where
  units : List UInt16
  deriving DecidableEq, Repr

/-- The halves of pairs, alone: what units can stand for besides characters. -/
inductive Symbol where
  | char (c : Char)
  | half (u : UInt16)
  deriving DecidableEq, Repr

namespace UnitText

def IsHighHalf (u : UInt16) : Prop := 0xD800 ≤ u.toNat ∧ u.toNat < 0xDC00

def IsLowHalf (u : UInt16) : Prop := 0xDC00 ≤ u.toNat ∧ u.toNat < 0xE000

instance (u : UInt16) : Decidable (IsHighHalf u) := inferInstanceAs (Decidable (_ ∧ _))

instance (u : UInt16) : Decidable (IsLowHalf u) := inferInstanceAs (Decidable (_ ∧ _))

def joinHalves (high low : UInt16) : Char :=
  Char.ofNat (0x10000 + (high.toNat - 0xD800) * 0x400 + (low.toNat - 0xDC00))

/-- What a unit stands for that is not part of a pair. -/
def symbolOf (u : UInt16) : Symbol :=
  if IsHighHalf u ∨ IsLowHalf u then .half u else .char (Char.ofNat u.toNat)

def symbols : List UInt16 → List Symbol
  | [] => []
  | [u] => [symbolOf u]
  | u :: v :: rest =>
      if IsHighHalf u ∧ IsLowHalf v then .char (joinHalves u v) :: symbols rest
      else symbolOf u :: symbols (v :: rest)

def unitsOf (c : Char) : List UInt16 :=
  (unitsOfChar c).map UInt16.ofNat

def ofText (text : String) : UnitText :=
  ⟨text.toList.flatMap unitsOf⟩

end UnitText

def Symbol.units : Symbol → List UInt16
  | char c => UnitText.unitsOf c
  | half u => [u]

/-- A half alone has no character, and is replaced. -/
def Symbol.shown : Symbol → Char
  | char c => c
  | half _ => Char.ofNat 0xFFFD

def UnitText.toText (text : UnitText) : String :=
  String.ofList ((UnitText.symbols text.units).map Symbol.shown)

/-! ## Characters are shown as they are -/

namespace UnitText

theorem symbols_cons_of_not_high {u : UInt16} (hhigh : ¬ IsHighHalf u) (us : List UInt16) :
    symbols (u :: us) = symbolOf u :: symbols us := by
  cases us with
  | nil => rfl
  | cons v rest => rw [symbols, if_neg (fun hpair => hhigh hpair.1)]

theorem toNat_ofNat {n : Nat} (hn : n < 0x10000) : (UInt16.ofNat n).toNat = n := by
  rw [UInt16.toNat_ofNat', Nat.mod_eq_of_lt hn]

/-- The units of a character are read as this character, whatever follows. -/
theorem symbols_unitsOf_append (c : Char) (us : List UInt16) :
    symbols (unitsOf c ++ us) = .char c :: symbols us := by
  unfold unitsOf unitsOfChar
  by_cases hbasic : c.toNat < 0x10000
  · -- A character is no surrogate, so its unit is none.
    have hvalid : c.toNat < 0xD800 ∨ 0xE000 ≤ c.toNat :=
      c.valid.imp id (fun habove => habove.1)
    have hunit := toNat_ofNat hbasic
    have hhigh : ¬ IsHighHalf (UInt16.ofNat c.toNat) := by
      unfold IsHighHalf
      omega
    have hlow : ¬ IsLowHalf (UInt16.ofNat c.toNat) := by
      unfold IsLowHalf
      omega
    rw [if_pos hbasic, List.map_singleton, List.singleton_append,
      symbols_cons_of_not_high hhigh, symbolOf, if_neg (not_or.mpr ⟨hhigh, hlow⟩), hunit,
      Char.ofNat_toNat]
  · have htop : c.toNat < 0x110000 :=
      c.valid.elim (fun hbelow => Nat.lt_trans hbelow (by decide)) And.right
    have hfirst := toNat_ofNat (n := 0xD800 + (c.toNat - 0x10000) / 0x400) (by omega)
    have hsecond := toNat_ofNat (n := 0xDC00 + (c.toNat - 0x10000) % 0x400) (by omega)
    have hpair : IsHighHalf (UInt16.ofNat (0xD800 + (c.toNat - 0x10000) / 0x400)) ∧
        IsLowHalf (UInt16.ofNat (0xDC00 + (c.toNat - 0x10000) % 0x400)) := by
      unfold IsHighHalf IsLowHalf
      omega
    have hcode : 0x10000 + (0xD800 + (c.toNat - 0x10000) / 0x400 - 0xD800) * 0x400 +
        (0xDC00 + (c.toNat - 0x10000) % 0x400 - 0xDC00) = c.toNat := by
      omega
    rw [if_neg hbasic, List.map_cons, List.map_singleton, List.cons_append,
      List.singleton_append, symbols, if_pos hpair, joinHalves, hfirst, hsecond, hcode,
      Char.ofNat_toNat]

theorem symbols_ofText (text : String) :
    symbols (ofText text).units = text.toList.map Symbol.char := by
  have hchars : ∀ cs : List Char, symbols (cs.flatMap unitsOf) = cs.map Symbol.char := by
    intro cs
    induction cs with
    | nil => rfl
    | cons c cs ih => rw [List.flatMap_cons, symbols_unitsOf_append, ih, List.map_cons]
  exact hchars text.toList

theorem toText_ofText (text : String) : toText (ofText text) = text := by
  have hshown : Symbol.shown ∘ Symbol.char = id := rfl
  rw [toText, symbols_ofText, List.map_map, hshown, List.map_id, String.ofList_toList]

end UnitText

instance : Form UnitText := ⟨UnitText.ofText, UnitText.toText, UnitText.toText_ofText⟩

end Text
end ApiStubs
