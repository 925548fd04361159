import ApiStubs.Pattern.Escape
import ApiStubs.Proofs.Except

/-!
# Escapes and sets before a closing bracket

A closing bracket is no digit and no letter, so no escape reads it: the escape
means the same whatever follows the bracket.  A set that ends does not reach it
either.
-/

namespace ApiStubs
namespace Pattern

/-- The same result with more left to read. -/
def leaving {α : Type} (more : List Nat) (reading : α × List Nat) : α × List Nat :=
  (reading.1, reading.2 ++ more)

/-- A closing bracket and what follows it. -/
def closing (after : List Nat) : List Nat := unitOf ')' :: after

variable {us : List Nat} (after : List Nat)

theorem hexValue?_closing : hexValue? (unitOf ')') = none := by decide

theorem readHex?_closing (count total : Nat) :
    readHex? count total (us ++ closing after) =
      (readHex? count total us).map (leaving (closing after)) := by
  induction count generalizing total us with
  | zero => simp [readHex?, leaving]
  | succ count ih =>
      cases us with
      | nil => simp [readHex?, closing, hexValue?_closing]
      | cons u us =>
          rw [List.cons_append, readHex?, readHex?]
          cases hexValue? u with
          | none => rfl
          | some digit => exact ih _

theorem readOctal_closing (first : Nat) :
    readOctal first (us ++ closing after) =
      leaving (closing after) (readOctal first us) := by
  have hclosing : isOctalUnit (unitOf ')') = false := by decide
  match us with
  | [] => simp [readOctal, closing, hclosing, leaving]
  | [u] =>
      by_cases hu : isOctalUnit u = true
      · simp [readOctal, closing, hclosing, leaving, hu]
      · simp [readOctal, leaving, hu]
  | u :: v :: us =>
      simp only [readOctal, List.cons_append]
      split
      · split <;> rfl
      · rfl

theorem readUnitEscape_closing (inSet : Bool) (u : Nat) :
    readUnitEscape inSet u (us ++ closing after) =
      leaving (closing after) (readUnitEscape inSet u us) := by
  unfold readUnitEscape
  cases controlUnit? u with
  | some control => rfl
  | none =>
      dsimp only
      split
      next =>
        cases us with
        | nil => cases inSet <;> rfl
        | cons letter rest =>
            dsimp only [List.cons_append]
            split <;> rfl
      next =>
        have hunread : (u, us ++ closing after) = leaving (closing after) (u, us) := rfl
        simp only [readOctal_closing, readHex?_closing, hunread, Option.getD_map, ← apply_ite]

theorem readSetItem_closing {named : Bool} {item : SetItem} {rest : List Nat}
    (hread : readSetItem named us = .ok (item, rest)) :
    readSetItem named (us ++ closing after) = .ok (item, rest ++ closing after) := by
  match us with
  | [] => contradiction
  | [u] =>
      simp only [readSetItem] at hread
      split at hread
      next hu =>
        cases hread
        simp only [List.cons_append, readSetItem, if_pos hu]
      next => contradiction
  | u :: e :: us =>
      simp only [List.cons_append, readSetItem] at hread ⊢
      split at hread
      next hu =>
        cases hread
        rw [if_pos hu]
        rfl
      next hu =>
        rw [if_neg hu]
        cases hclass : classRanges? e with
        | some members =>
            rw [hclass] at hread
            cases hread
            rfl
        | none =>
            rw [hclass] at hread
            dsimp only at hread ⊢
            rw [readUnitEscape_closing]
            split at hread
            next he =>
              cases hread
              rw [if_pos he]
            next he =>
              rw [if_neg he]
              split at hread
              next => contradiction
              next hk =>
                cases hread
                rw [if_neg hk]
                rfl

theorem readSetItems_closing {named : Bool} {fuel fuel' : Nat} (hfuel : fuel ≤ fuel')
    {members : List (Nat × Nat)} {rest : List Nat}
    (hread : readSetItems named fuel us = .ok (members, rest)) :
    readSetItems named fuel' (us ++ closing after) = .ok (members, rest ++ closing after) := by
  induction fuel generalizing us fuel' members rest with
  | zero => contradiction
  | succ fuel ih =>
      obtain ⟨fuel', rfl⟩ : ∃ less, fuel' = less + 1 := ⟨fuel' - 1, by omega⟩
      have hless : fuel ≤ fuel' := by omega
      cases us with
      | nil => contradiction
      | cons u us =>
          simp only [List.cons_append, readSetItems] at hread ⊢
          split at hread
          next hu =>
            cases hread
            rw [if_pos hu]
          next hu =>
            rw [if_neg hu]
            obtain ⟨⟨first, unread⟩, hfirst, hread⟩ := exists_ok_of_bind hread
            rw [← List.cons_append, readSetItem_closing after hfirst]
            cases unread with
            | nil => contradiction
            | cons v unread =>
                dsimp only [List.cons_append, bind, Except.bind] at hread ⊢
                split at hread
                next hv =>
                  obtain ⟨⟨others, final⟩, hothers, hread⟩ := exists_ok_of_bind hread
                  cases hread
                  have hothers := ih hless hothers
                  rw [List.cons_append] at hothers
                  rw [if_pos hv, hothers]
                  rfl
                next hv =>
                  rw [if_neg hv]
                  cases unread with
                  | nil => contradiction
                  | cons w unread =>
                      dsimp only [List.cons_append] at hread ⊢
                      split at hread
                      next hw =>
                        cases hread
                        rw [if_pos hw]
                        rfl
                      next hw =>
                        obtain ⟨⟨second, unread⟩, hsecond, hread⟩ := exists_ok_of_bind hread
                        rw [if_neg hw, ← List.cons_append, readSetItem_closing after hsecond]
                        cases hothers : readSetItems named fuel unread with
                        | error fault =>
                            simp only [hothers] at hread
                            split at hread
                            · split at hread <;> contradiction
                            · contradiction
                        | ok result =>
                            simp only [hothers, ih hless hothers] at hread ⊢
                            split at hread
                            next low high =>
                              split at hread
                              next => contradiction
                              next hlow =>
                                cases hread
                                rw [if_neg hlow]
                                rfl
                            next hranges =>
                              cases hread
                              rfl

theorem readSet_closing {named : Bool} {set : UnitSet} {rest : List Nat}
    (hread : readSet named us = .ok (set, rest)) :
    readSet named (us ++ closing after) = .ok (set, rest ++ closing after) := by
  cases us with
  | nil => contradiction
  | cons u us =>
      have hfuel : (u :: us).length + 1 ≤ (u :: (us ++ closing after)).length + 1 := by simp
      simp only [readSet, List.cons_append] at hread ⊢
      split at hread
      next hu =>
        obtain ⟨result, hmembers, hset⟩ := exists_ok_of_map hread
        cases hset
        rw [if_pos hu, readSetItems_closing after hfuel hmembers]
        rfl
      next hu =>
        obtain ⟨result, hmembers, hset⟩ := exists_ok_of_map hread
        cases hset
        have hmembers := readSetItems_closing after hfuel hmembers
        rw [List.cons_append] at hmembers
        rw [if_neg hu, hmembers]
        rfl

end Pattern
end ApiStubs
