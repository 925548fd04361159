import ApiStubs.Pattern.Parser
import ApiStubs.Proofs.Pattern.Escape
import Mathlib.Tactic.SplitIfs

/-!
# Patterns before a closing bracket

A pattern that is read to its end is read in the same way before a closing bracket: no
count, name or reference takes the bracket in, and the last sequence ends before it.
-/

namespace ApiStubs
namespace Pattern

/-! ## Numbers and counts -/

variable {us : List Nat} (after : List Nat)

theorem takeWhile_closing {holds : Nat → Bool} (hclosing : holds (unitOf ')') = false) :
    (us ++ closing after).takeWhile holds = us.takeWhile holds := by
  induction us with
  | nil => exact List.takeWhile_cons_of_neg (by simp [hclosing])
  | cons u us ih => rw [List.cons_append, List.takeWhile_cons, List.takeWhile_cons, ih]

theorem dropWhile_closing {holds : Nat → Bool} (hclosing : holds (unitOf ')') = false) :
    (us ++ closing after).dropWhile holds = us.dropWhile holds ++ closing after := by
  induction us with
  | nil => exact List.dropWhile_cons_of_neg (by simp [hclosing])
  | cons u us ih =>
      rw [List.cons_append, List.dropWhile_cons, List.dropWhile_cons, ih]
      split <;> rfl

theorem isDigitUnit_closing : isDigitUnit (unitOf ')') = false := by decide

theorem readCount_closing :
    readCount (us ++ closing after) = leaving (closing after) (readCount us) := by
  rw [readCount, takeWhile_closing after isDigitUnit_closing,
    dropWhile_closing after isDigitUnit_closing]
  rfl

theorem readBound_closing :
    readBound (us ++ closing after) = leaving (closing after) (readBound us) := by
  rw [readBound, readCount_closing]
  rfl

theorem startsWithDigit_closing :
    startsWithDigit (us ++ closing after) = startsWithDigit us := by
  cases us with
  | nil => exact isDigitUnit_closing
  | cons u us => rfl

theorem readBraces?_closing :
    readBraces? (us ++ closing after) =
      (readBraces? us).map (fun counts => (counts.1, leaving (closing after) counts.2)) := by
  unfold readBraces?
  rw [startsWithDigit_closing, readBound_closing]
  cases startsWithDigit us with
  | false => rfl
  | true =>
      obtain ⟨least, unread⟩ := readBound us
      match unread with
      | [] => rfl
      | [u] =>
          simp only [leaving, List.cons_append, List.nil_append]
          split_ifs <;> rfl
      | u :: v :: unread =>
          have hmost : readBound (v :: (unread ++ closing after)) =
              leaving (closing after) (readBound (v :: unread)) := by
            rw [← List.cons_append, readBound_closing]
          have hdigit : startsWithDigit (v :: (unread ++ closing after)) =
              startsWithDigit (v :: unread) := rfl
          simp only [leaving, List.cons_append, hdigit, hmost]
          obtain ⟨most, final⟩ := readBound (v :: unread)
          cases startsWithDigit (v :: unread) <;> cases final <;>
            dsimp only [List.cons_append] <;> split_ifs <;> rfl

theorem readLazy_closing (least : Nat) (most : Option Nat) :
    readLazy least most (us ++ closing after) =
      leaving (closing after) (readLazy least most us) := by
  cases us with
  | nil => rfl
  | cons u us =>
      simp only [List.cons_append, readLazy]
      split <;> rfl

theorem readBounds?_closing :
    readBounds? (us ++ closing after) =
      (readBounds? us).map (Option.map (leaving (closing after))) := by
  cases us with
  | nil => rfl
  | cons u us =>
      simp only [List.cons_append, readBounds?, readBraces?_closing, readLazy_closing]
      split_ifs
      next => rfl
      next => rfl
      next => rfl
      next =>
        cases readBraces? us with
        | none => rfl
        | some counts =>
            dsimp only [Option.map_some, leaving]
            rw [readLazy_closing]
            split <;> rfl
      next => rfl

theorem readReference?_closing (survey : Survey) :
    readReference? survey (us ++ closing after) =
      (readReference? survey us).map (leaving (closing after)) := by
  unfold readReference?
  rw [readCount_closing]
  dsimp only [leaving]
  split <;> rfl

/-! ## Names -/

theorem readBracedHex?_closing :
    readBracedHex? (us ++ closing after) =
      (readBracedHex? us).map (leaving (closing after)) := by
  have hclosing : (hexValue? (unitOf ')')).isSome = false := by decide
  unfold readBracedHex?
  rw [takeWhile_closing after hclosing, dropWhile_closing after hclosing]
  cases us.dropWhile (fun u => (hexValue? u).isSome) with
  | nil => rfl
  | cons u rest =>
      dsimp only [List.cons_append]
      split <;> rfl

theorem readNameChar_closing {reading : Nat × List Nat}
    (hread : readNameChar us = some reading) :
    readNameChar (us ++ closing after) = some (leaving (closing after) reading) := by
  match us with
  | [] => contradiction
  | [u] =>
      cases hread
      have hlow : ¬0xDC00 ≤ unitOf ')' := by simp [unitOf]
      simp only [readNameChar, closing, leaving, List.cons_append, List.nil_append, hlow,
        false_and, and_false, if_false]
  | u :: v :: us =>
      simp only [readNameChar, List.cons_append] at hread ⊢
      split at hread
      next hpair =>
        obtain rfl := Option.some.inj hread
        rw [if_pos hpair]
        rfl
      next hpair =>
        obtain rfl := Option.some.inj hread
        rw [if_neg hpair]
        rfl

theorem readNameEscape?_closing :
    readNameEscape? (us ++ closing after) =
      (readNameEscape? us).map (leaving (closing after)) := by
  cases us with
  | nil =>
      have hbrace : unitOf ')' ≠ unitOf '\x7b' := by decide
      simp only [closing, List.nil_append, readNameEscape?, if_neg hbrace, readHex?,
        hexValue?_closing]
      rfl
  | cons u us =>
      simp only [List.cons_append, readNameEscape?, readBracedHex?_closing]
      split
      next => rfl
      next =>
        rw [← List.cons_append, readHex?_closing]
        cases readHex? 4 0 (u :: us) with
        | none => rfl
        | some reading =>
            obtain ⟨high, unread⟩ := reading
            simp only [leaving, Option.map_some, bind, Option.bind]
            split
            next =>
              rcases unread with _ | ⟨b, _ | ⟨e, more⟩⟩
              next => cases after <;> rfl
              next =>
                have hnone : ¬(b = unitOf '\\' ∧ unitOf ')' = unitOf 'u') :=
                  fun hescape => absurd hescape.2 (by decide)
                exact if_neg hnone
              next =>
                simp only [List.cons_append, readHex?_closing]
                split
                next =>
                  cases readHex? 4 0 more with
                  | none => rfl
                  | some reading =>
                      obtain ⟨low, final⟩ := reading
                      simp only [leaving, Option.map_some]
                      split <;> rfl
                next => rfl
            next => rfl

theorem readNamePart_closing {reading : Nat × List Nat}
    (hread : readNamePart us = .ok reading) :
    readNamePart (us ++ closing after) = .ok (leaving (closing after) reading) := by
  unfold readNamePart at hread ⊢
  cases hchar : readNameChar us with
  | none =>
      rw [hchar] at hread
      contradiction
  | some found =>
      rw [hchar] at hread
      rw [readNameChar_closing after hchar]
      obtain ⟨c, unread⟩ := found
      dsimp only [leaving] at hread ⊢
      split at hread
      next hc =>
        rw [if_pos hc]
        cases unread with
        | nil => contradiction
        | cons e more =>
            dsimp only [List.cons_append] at hread ⊢
            split at hread
            next he =>
              rw [if_pos he, readNameEscape?_closing]
              cases hescape : readNameEscape? more with
              | none =>
                  rw [hescape] at hread
                  contradiction
              | some escaped =>
                  rw [hescape] at hread
                  cases hread
                  rfl
            next => contradiction
      next hc =>
        cases hread
        rw [if_neg hc]

theorem readName_closing {fuel fuel' : Nat} (hfuel : fuel ≤ fuel') {atStart : Bool}
    {name rest : List Nat} (hread : readName fuel atStart us = .ok (name, rest)) :
    readName fuel' atStart (us ++ closing after) = .ok (name, rest ++ closing after) := by
  induction fuel generalizing us fuel' atStart name rest with
  | zero => contradiction
  | succ fuel ih =>
      obtain ⟨fuel', rfl⟩ : ∃ less, fuel' = less + 1 := ⟨fuel' - 1, by omega⟩
      rw [readName] at hread ⊢
      obtain ⟨⟨c, unread⟩, hpart, hread⟩ := exists_ok_of_bind hread
      rw [readNamePart_closing after hpart]
      dsimp only [leaving, bind, Except.bind] at hread ⊢
      generalize (if atStart = true then Text.startsIdentifier c else
        Text.continuesIdentifier c) = fits at hread ⊢
      split at hread
      next hend =>
        cases hread
        rw [if_pos hend]
      next hend =>
        split at hread
        next => contradiction
        next hfits =>
          obtain ⟨⟨others, final⟩, hothers, hread⟩ := exists_ok_of_bind hread
          cases hread
          rw [if_neg hend, if_neg hfits, ih (by omega) hothers]
          rfl

/-! ## Groups -/

/-- The same place with more left to read. -/
def Place.leaving (more : List Nat) (place : Place) : Place :=
  { place with rest := place.rest ++ more }

theorem Place.leaving_rest (more : List Nat) (place : Place) :
    (place.leaving more).rest = place.rest ++ more := rfl

theorem readEscape_closing {survey : Survey} {place reached : Place} {part : Part}
    (hread : readEscape survey place us = .ok (part, reached)) :
    readEscape survey (place.leaving (closing after)) (us ++ closing after) =
      .ok (part, reached.leaving (closing after)) := by
  cases us with
  | nil => contradiction
  | cons u us =>
      simp only [List.cons_append, readEscape] at hread ⊢
      split at hread
      next hu =>
        cases hread
        rw [if_pos hu]
        rfl
      next hu =>
        rw [if_neg hu]
        split at hread
        next hu =>
          cases hread
          rw [if_pos hu]
          rfl
        next hu =>
          rw [if_neg hu]
          cases hclass : classRanges? u with
          | some members =>
              rw [hclass] at hread
              cases hread
              rfl
          | none =>
              rw [hclass] at hread
              dsimp only at hread ⊢
              split at hread
              next hdigit =>
                rw [if_pos hdigit, ← List.cons_append, readReference?_closing,
                  readUnitEscape_closing]
                cases hreference : readReference? survey (u :: us) with
                | some reference =>
                    rw [hreference] at hread
                    cases hread
                    rfl
                | none =>
                    rw [hreference] at hread
                    cases hread
                    rfl
              next hdigit =>
                rw [if_neg hdigit]
                split at hread
                next hnamed =>
                  rw [if_pos hnamed]
                  cases us with
                  | nil => contradiction
                  | cons l named =>
                      dsimp only [List.cons_append] at hread ⊢
                      split at hread
                      next => contradiction
                      next hl =>
                        have hfuel : named.length + 1 ≤ (named ++ closing after).length + 1 := by
                          simp
                        obtain ⟨⟨name, unread⟩, hname, hread⟩ := exists_ok_of_bind hread
                        cases hread
                        rw [if_neg hl, readName_closing after hfuel hname]
                        rfl
                next hnamed =>
                  cases hread
                  rw [if_neg hnamed, readUnitEscape_closing]
                  rfl

theorem readOpening_closing {place reached : Place} {opening : Opening}
    (hread : readOpening place us = .ok (opening, reached)) :
    readOpening (place.leaving (closing after)) (us ++ closing after) =
      .ok (opening, reached.leaving (closing after)) := by
  match us with
  | [] =>
      cases hread
      rfl
  | [q] =>
      simp only [readOpening] at hread
      split at hread
      next hq =>
        cases hread
        exact if_pos hq
      next => contradiction
  | q :: k :: more =>
      simp only [List.cons_append, readOpening] at hread ⊢
      split at hread
      next hq =>
        cases hread
        rw [if_pos hq]
        rfl
      next hq =>
        rw [if_neg hq]
        split_ifs at hread ⊢
        next => cases hread; rfl
        next => cases hread; rfl
        next => cases hread; rfl
        next =>
          cases more with
          | nil => contradiction
          | cons s more =>
              have hfuel : (s :: more).length + 1 ≤ (s :: more ++ closing after).length + 1 := by
                simp
              dsimp only [List.cons_append] at hread ⊢
              split_ifs at hread ⊢
              next => cases hread; rfl
              next => cases hread; rfl
              next =>
                obtain ⟨⟨name, unread⟩, hname, hread⟩ := exists_ok_of_bind hread
                cases hread
                rw [← List.cons_append, readName_closing after hfuel hname]
                rfl

theorem Opening.close_closing {opening : Opening} {place closed : Place}
    (hclose : opening.close place = .ok closed) :
    opening.close (place.leaving (closing after)) = .ok (closed.leaving (closing after)) := by
  unfold Opening.close at hclose ⊢
  split at hclose
  next index name =>
    split at hclose
    next => contradiction
    next hnew =>
      cases hclose
      exact if_neg hnew
  next =>
    cases hclose
    rfl

theorem readRepeated_closing {opened : Nat} {part : Part} {place reached : Place} {node : Node}
    (hread : readRepeated opened part place = .ok (node, reached)) :
    readRepeated opened part (place.leaving (closing after)) =
      .ok (node, reached.leaving (closing after)) := by
  have hbounds : readBounds? (place.leaving (closing after)).rest =
      (readBounds? place.rest).map (Option.map (leaving (closing after))) :=
    readBounds?_closing after
  cases part with
  | edge edge =>
      cases hread
      rfl
  | plain part =>
      simp only [readRepeated, hbounds] at hread ⊢
      obtain ⟨counts, hcounts, hread⟩ := exists_ok_of_bind hread
      rw [hcounts]
      cases counts <;> cases hread <;> rfl
  | lookbehind part =>
      simp only [readRepeated, hbounds] at hread ⊢
      obtain ⟨counts, hcounts, hread⟩ := exists_ok_of_bind hread
      rw [hcounts]
      cases counts <;> cases hread
      rfl

/-! ## Alternatives, sequences and parts -/

/-- What the first reader reads, the second reads before a closing bracket. -/
def Undisturbed {α : Type} (first second : Place → Except Fault (α × Place)) : Prop :=
  ∀ {place reached : Place} {result : α}, first place = .ok (result, reached) →
    second (place.leaving (closing after)) = .ok (result, reached.leaving (closing after))

variable {survey : Survey} {fuel fuel' : Nat}

theorem undisturbed_readAlternatives
    (hsequence : Undisturbed after (readSequence survey fuel) (readSequence survey fuel'))
    (halternatives : Undisturbed after (readAlternatives survey fuel)
      (readAlternatives survey fuel')) :
    Undisturbed after (readAlternatives survey (fuel + 1))
      (readAlternatives survey (fuel' + 1)) := by
  intro place reached node hread
  rw [readAlternatives] at hread ⊢
  obtain ⟨⟨first, unread⟩, hfirst, hread⟩ := exists_ok_of_bind hread
  rw [hsequence hfirst]
  dsimp only [bind, Except.bind] at hread ⊢
  rw [Place.leaving_rest]
  cases hrest : unread.rest with
  | nil =>
      rw [hrest] at hread
      cases hread
      rfl
  | cons u rest =>
      rw [hrest] at hread
      dsimp only [List.cons_append] at hread ⊢
      split at hread
      next hu =>
        obtain ⟨⟨second, final⟩, hsecond, hread⟩ := exists_ok_of_bind hread
        cases hread
        have hsecond : readAlternatives survey fuel'
            { unread.leaving (closing after) with rest := rest ++ closing after } =
              .ok (second, final.leaving (closing after)) := halternatives hsecond
        rw [if_pos hu, hsecond]
        rfl
      next hu =>
        cases hread
        exact if_neg hu

theorem undisturbed_readSequence
    (hpart : Undisturbed after (readPart survey fuel) (readPart survey fuel'))
    (hsequence : Undisturbed after (readSequence survey fuel) (readSequence survey fuel')) :
    Undisturbed after (readSequence survey (fuel + 1)) (readSequence survey (fuel' + 1)) := by
  intro place reached node hread
  rw [readSequence] at hread ⊢
  rw [Place.leaving_rest]
  cases hrest : place.rest with
  | nil =>
      rw [hrest] at hread
      cases hread
      rfl
  | cons u rest =>
      rw [hrest] at hread
      dsimp only [List.cons_append] at hread ⊢
      split at hread
      next hu =>
        cases hread
        rw [if_pos hu]
      next hu =>
        obtain ⟨⟨part, afterPart⟩, hfirst, hread⟩ := exists_ok_of_bind hread
        obtain ⟨⟨node, afterCount⟩, hcount, hread⟩ := exists_ok_of_bind hread
        obtain ⟨⟨others, final⟩, hothers, hread⟩ := exists_ok_of_bind hread
        cases hread
        have hcount : readRepeated (place.leaving (closing after)).opened part
            (afterPart.leaving (closing after)) =
              .ok (node, afterCount.leaving (closing after)) := readRepeated_closing after hcount
        rw [if_neg hu, hpart hfirst]
        dsimp only [bind, Except.bind]
        rw [hcount]
        dsimp only
        rw [hsequence hothers]
        rfl

theorem undisturbed_readPart
    (halternatives : Undisturbed after (readAlternatives survey fuel)
      (readAlternatives survey fuel')) :
    Undisturbed after (readPart survey (fuel + 1)) (readPart survey (fuel' + 1)) := by
  intro place reached part hread
  rw [readPart] at hread ⊢
  rw [Place.leaving_rest]
  cases hrest : place.rest with
  | nil =>
      rw [hrest] at hread
      contradiction
  | cons u us =>
      have hbraces : (readBraces? (us ++ closing after)).isSome = (readBraces? us).isSome := by
        rw [readBraces?_closing, Option.isSome_map]
      rw [hrest] at hread
      dsimp only [List.cons_append] at hread ⊢
      rw [hbraces]
      split_ifs at hread ⊢
      next => cases hread; rfl
      next => cases hread; rfl
      next => cases hread; rfl
      next => exact readEscape_closing after hread
      next =>
        obtain ⟨⟨set, final⟩, hset, hread⟩ := exists_ok_of_bind hread
        cases hread
        rw [readSet_closing after hset]
        rfl
      next =>
        obtain ⟨⟨opening, inside⟩, hopening, hread⟩ := exists_ok_of_bind hread
        obtain ⟨⟨body, unread⟩, hbody, hread⟩ := exists_ok_of_bind hread
        rw [readOpening_closing after hopening]
        dsimp only [bind, Except.bind] at hread ⊢
        rw [halternatives hbody]
        dsimp only
        rw [Place.leaving_rest]
        cases hrest : unread.rest with
        | nil =>
            rw [hrest] at hread
            contradiction
        | cons u rest =>
            rw [hrest] at hread
            obtain ⟨closed, hclose, hread⟩ := exists_ok_of_bind hread
            cases hread
            have hclose : opening.close
                { unread.leaving (closing after) with rest := rest ++ closing after } =
                  .ok (reached.leaving (closing after)) := Opening.close_closing after hclose
            dsimp only [List.cons_append]
            rw [hclose]
            rfl
      next => cases hread; rfl

theorem undisturbed_readers (hfuel : fuel ≤ fuel') :
    Undisturbed after (readAlternatives survey fuel) (readAlternatives survey fuel') ∧
      Undisturbed after (readSequence survey fuel) (readSequence survey fuel') ∧
      Undisturbed after (readPart survey fuel) (readPart survey fuel') := by
  -- Each reader calls the others with one unit of fuel less, so the three go together.
  induction fuel generalizing fuel' with
  | zero =>
      refine ⟨fun hread => ?_, fun hread => ?_, fun hread => ?_⟩
      · rw [readAlternatives] at hread
        contradiction
      · rw [readSequence] at hread
        contradiction
      · rw [readPart] at hread
        contradiction
  | succ fuel ih =>
      obtain ⟨fuel', rfl⟩ : ∃ less, fuel' = less + 1 := ⟨fuel' - 1, by omega⟩
      obtain ⟨halternatives, hsequence, hpart⟩ := ih (Nat.le_of_succ_le_succ hfuel)
      exact ⟨undisturbed_readAlternatives after hsequence halternatives,
        undisturbed_readSequence after hpart hsequence,
        undisturbed_readPart after halternatives⟩

end Pattern
end ApiStubs
