import ApiStubs.Text.Search

/-!
# Splitting a text

The pieces of a text have no separator.  Pieces of that kind are found again in the
text that joins them.
-/

namespace ApiStubs
namespace Text

theorem splitChars_eq_splitOn (separator : Char) (cs : List Char) :
    splitChars separator cs = cs.splitOn separator := by
  induction cs with
  | nil => rfl
  | cons c cs ih =>
      rw [List.splitOn_cons_eq_if_modifyHead, splitChars]
      by_cases hsep : c = separator
      · simp [hsep, ih]
      · rw [if_neg hsep, if_neg (by simpa using hsep), ih]
        cases hsplit : cs.splitOn separator with
        | nil => exact absurd hsplit (List.splitOn_ne_nil _ _)
        | cons piece pieces => rfl

/-- A piece has no separator, and its characters are those of the text. -/
theorem splitChars_piece {separator : Char} {cs piece : List Char}
    (hpiece : piece ∈ splitChars separator cs) :
    separator ∉ piece ∧ ∀ c ∈ piece, c ∈ cs := by
  induction cs generalizing piece with
  | nil =>
      simp only [splitChars, List.mem_singleton] at hpiece
      simp [hpiece]
  | cons c cs ih =>
      rw [splitChars] at hpiece
      split at hpiece
      next =>
        rcases List.mem_cons.mp hpiece with rfl | hrest
        · simp
        · obtain ⟨hsep, hmem⟩ := ih hrest
          exact ⟨hsep, fun d hd => List.mem_cons_of_mem c (hmem d hd)⟩
      next hne =>
        cases hsplit : splitChars separator cs with
        | nil =>
            simp only [hsplit, List.mem_singleton] at hpiece
            subst hpiece
            exact ⟨by simpa using Ne.symm hne, by simp⟩
        | cons first pieces =>
            rw [hsplit] at hpiece
            rcases List.mem_cons.mp hpiece with rfl | hrest
            · have hfirst : first ∈ splitChars separator cs := by
                simp [hsplit]
              obtain ⟨hsep, hmem⟩ := ih hfirst
              constructor
              · simp only [List.mem_cons, not_or]
                exact ⟨Ne.symm hne, hsep⟩
              · intro d hd
                rcases List.mem_cons.mp hd with rfl | hd
                · exact List.mem_cons_self
                · exact List.mem_cons_of_mem c (hmem d hd)
            · have hlater : piece ∈ splitChars separator cs := by
                simp [hsplit, hrest]
              obtain ⟨hsep, hmem⟩ := ih hlater
              exact ⟨hsep, fun d hd => List.mem_cons_of_mem c (hmem d hd)⟩

theorem mem_piece {separator : Char} {text piece : String} (hpiece : piece ∈ split separator text) :
    separator ∉ piece.toList := by
  obtain ⟨cs, hcs, rfl⟩ := List.mem_map.mp hpiece
  simpa using (splitChars_piece hcs).1

theorem split_joinWith {separator : Char} {pieces : List String} (hne : pieces ≠ [])
    (hpieces : ∀ piece ∈ pieces, separator ∉ piece.toList) :
    split separator (joinWith (String.singleton separator) pieces) = pieces := by
  rw [split, splitChars_eq_splitOn, joinWith, String.toList_intercalate,
    String.toList_singleton, List.splitOn_intercalate]
  · simp
  · intro cs hcs
    obtain ⟨piece, hpiece, rfl⟩ := List.mem_map.mp hcs
    exact hpieces piece hpiece
  · simpa using hne

theorem joinWith_split (separator : Char) (text : String) :
    joinWith (String.singleton separator) (split separator text) = text := by
  apply String.toList_inj.mp
  rw [joinWith, String.toList_intercalate, String.toList_singleton, split, splitChars_eq_splitOn,
    List.map_map]
  have hpieces : (text.toList.splitOn separator).map (String.toList ∘ String.ofList) =
      text.toList.splitOn separator := by
    simp [Function.comp_def]
  rw [hpieces]
  exact List.intercalate_splitOn separator

theorem split_of_not_mem {separator : Char} {text : String} (htext : separator ∉ text.toList) :
    split separator text = [text] := by
  rw [split, splitChars_eq_splitOn, List.splitOn_eq_singleton htext]
  simp

theorem splitChars_ne_nil (separator : Char) (cs : List Char) : splitChars separator cs ≠ [] := by
  rw [splitChars_eq_splitOn]
  exact List.splitOn_ne_nil _ _

theorem splitChars_append_cons (separator : Char) (first rest : List Char) :
    splitChars separator (first ++ separator :: rest) =
      splitChars separator first ++ splitChars separator rest := by
  simp only [splitChars_eq_splitOn, List.splitOn_append_cons_self]

theorem splitChars_append {separator : Char} {piece : List Char} (hpiece : separator ∉ piece)
    (rest : List Char) :
    splitChars separator (piece ++ separator :: rest) = piece :: splitChars separator rest := by
  rw [splitChars_append_cons, splitChars_eq_splitOn separator piece,
    List.splitOn_eq_singleton hpiece, List.singleton_append]

end Text
end ApiStubs
