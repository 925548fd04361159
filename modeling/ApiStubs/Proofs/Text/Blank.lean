import ApiStubs.Text.Blank
import ApiStubs.Text.Search

/-!
# Blanks at the end of a text

Trimming stops at the last character that is not blank, so a text that ends with
one is kept, and so is everything before it.
-/

namespace ApiStubs
namespace Text

/-- The text has a last character, and it is not blank. -/
def EndsVisibly (text : String) : Prop :=
  ∃ before last, text.toList = before ++ [last] ∧ isBlank last = false

theorem EndsVisibly.ne_empty {text : String} (hvisible : EndsVisibly text) :
    text ≠ "" := by
  rintro rfl
  obtain ⟨before, last, htext, -⟩ := hvisible
  simp at htext

theorem EndsVisibly.append {text : String} (hvisible : EndsVisibly text)
    (start : String) : EndsVisibly (start ++ text) := by
  obtain ⟨before, last, htext, hlast⟩ := hvisible
  refine ⟨start.toList ++ before, last, ?_, hlast⟩
  rw [String.toList_append, htext, List.append_assoc]

theorem EndsVisibly.joinWith {texts : List String} (hne : texts ≠ [])
    (hvisible : ∀ text ∈ texts, EndsVisibly text) (separator : String) :
    EndsVisibly (joinWith separator texts) := by
  induction texts with
  | nil => contradiction
  | cons text rest ih =>
      by_cases hrest : rest = []
      · subst hrest
        have hjoin : Text.joinWith separator [text] = text :=
          String.intercalate_singleton
        rw [hjoin]
        exact hvisible text List.mem_cons_self
      · have hjoin : Text.joinWith separator (text :: rest) =
            text ++ separator ++ Text.joinWith separator rest :=
          String.intercalate_cons_of_ne_nil hrest
        rw [hjoin]
        have hlater := ih hrest
          (fun other hother => hvisible other (List.mem_cons_of_mem text hother))
        exact hlater.append _

/-- Trimming does not reach back over a visible character. -/
theorem trimEnd_append {text : String} (hvisible : EndsVisibly text) (rest : String) :
    trimEnd (text ++ rest) = text ++ trimEnd rest := by
  obtain ⟨before, last, htext, hlast⟩ := hvisible
  apply String.toList_inj.mp
  -- Read from the end, blanks are dropped from the rest and at most up to `last`.
  simp only [trimEnd, dropBlankEnd, String.toList_ofList, String.toList_append, htext,
    List.reverse_append, List.reverse_singleton, List.dropWhile_append]
  split
  next hblank => simp [hlast, List.isEmpty_iff.mp hblank]
  next => simp

theorem EndsVisibly.trimEnd_eq {text : String} (hvisible : EndsVisibly text) :
    trimEnd text = text := by
  have hempty : trimEnd "" = "" := rfl
  have happend := trimEnd_append hvisible ""
  rwa [hempty, String.append_empty] at happend

end Text
end ApiStubs
