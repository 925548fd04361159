import ApiStubs.Text.UnitText

/-!
# Units and what they stand for

Nothing is lost when units are read as characters and halves: what they stand for has just
these units.
-/

namespace ApiStubs
namespace Text
namespace UnitText

theorem char_toNat_ofNat {n : Nat} (hn : n.isValidChar) : (Char.ofNat n).toNat = n := by
  rw [Char.ofNat, dif_pos hn]
  rfl

theorem units_symbolOf (u : UInt16) : (symbolOf u).units = [u] := by
  have hu := u.toNat_lt
  unfold symbolOf
  split
  next => rfl
  next hwhole =>
    have hvalid : u.toNat.isValidChar := by
      unfold IsHighHalf IsLowHalf at hwhole
      unfold Nat.isValidChar
      omega
    rw [Symbol.units, unitsOf, unitsOfChar, char_toNat_ofNat hvalid, if_pos (by omega),
      List.map_singleton, UInt16.ofNat_toNat]

theorem units_joinHalves {high low : UInt16} (hhigh : IsHighHalf high) (hlow : IsLowHalf low) :
    unitsOf (joinHalves high low) = [high, low] := by
  unfold IsHighHalf at hhigh
  unfold IsLowHalf at hlow
  have hvalid :
      (0x10000 + (high.toNat - 0xD800) * 0x400 + (low.toNat - 0xDC00)).isValidChar := by
    unfold Nat.isValidChar
    omega
  have hfirst : 0xD800 + (0x10000 + (high.toNat - 0xD800) * 0x400 + (low.toNat - 0xDC00) -
      0x10000) / 0x400 = high.toNat := by omega
  have hsecond : 0xDC00 + (0x10000 + (high.toNat - 0xD800) * 0x400 + (low.toNat - 0xDC00) -
      0x10000) % 0x400 = low.toNat := by omega
  rw [unitsOf, unitsOfChar, joinHalves, char_toNat_ofNat hvalid, if_neg (by omega), hfirst,
    hsecond, List.map_cons, List.map_singleton, UInt16.ofNat_toNat, UInt16.ofNat_toNat]

theorem units_symbols (us : List UInt16) : (symbols us).flatMap Symbol.units = us := by
  fun_induction symbols us with
  | case1 => rfl
  | case2 u => rw [List.flatMap_singleton, units_symbolOf]
  | case3 high low rest hpair ih =>
      rw [List.flatMap_cons, ih, Symbol.units, units_joinHalves hpair.1 hpair.2]
      rfl
  | case4 u v rest hpair ih =>
      rw [List.flatMap_cons, ih, units_symbolOf]
      rfl

end UnitText
end Text
end ApiStubs
