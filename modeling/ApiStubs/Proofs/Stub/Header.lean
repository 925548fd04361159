import ApiStubs.Stub.Header
import ApiStubs.Proofs.Text.Lines

/-!
# Headers as comments

A header is meant to be one block comment.  Its parts stand apart from each other and from
the closing bracket, so it is one exactly if none of them has a closing bracket of its own;
nothing keeps a title or a description from that.
-/

namespace ApiStubs
namespace Stub

open Text (holds)

/-- The text begins with the opening of a block comment, and the first closing bracket in it
is its end. -/
structure IsBlockComment (text : String) : Prop where
  opens : Text.startsWith text "--[[" = true
  closes : ∃ inside, text = inside ++ "]]" ∧ holds (inside ++ "]") "]]" = false

/-- A part within a line is held by a line of the description. -/
theorem holds_comment {indent part : String} (hbreak : '\n' ∉ part.toList)
    (hindent : ∀ c ∈ indent.toList, c ∉ part.toList) (description : String) :
    holds (comment indent description) part = holds (Markup.plainText description) part := by
  have hfree : ∀ c ∈ "\n".toList, c ∉ part.toList := by simpa using hbreak
  have hlines := Text.lines_ne_nil (Markup.plainText description)
  calc
    holds (comment indent description) part
        = ((Text.lines (Markup.plainText description)).map (indent ++ ·)).any (holds · part) :=
      Text.holds_joinWith (by simpa using hlines) (by decide) hfree
    _ = (Text.lines (Markup.plainText description)).any (holds · part) := by
      simp only [List.any_map, Function.comp_def, Text.holds_free_append hindent]
    _ = holds (Text.joinWith "\n" (Text.lines (Markup.plainText description))) part :=
      (Text.holds_joinWith hlines (by decide) hfree).symm
    _ = holds (Markup.plainText description) part := by rw [Text.joinWith_lines]

/-- The lines of a header before its closing mark. -/
def Header.lines (header : Header) : String :=
  "--[[\n  Generated with " ++ header.generatorUrl ++ "\n  " ++
    header.product ++ " " ++ header.version ++ "\n\n  " ++
    Markup.plainText header.title ++ "\n" ++
    (if header.describes then "\n" ++ comment "  " header.description ++ "\n" else "")

theorem Header.text_eq (header : Header) : header.text = header.lines ++ "--]]" := rfl

theorem Header.startsWith_text (header : Header) : Text.startsWith header.text "--[[" = true := by
  rw [Text.startsWith_iff]
  unfold Header.text
  simp only [String.append_assoc, String.toList_append]
  refine List.IsPrefix.trans ?_ (List.prefix_append _ _)
  decide

/-- A bracket pair in the lines of a header is one of its parts. -/
theorem Header.holds_lines (header : Header) :
    holds header.lines "]]" =
      (holds header.generatorUrl "]]" || holds header.product "]]" ||
        holds header.version "]]" || holds (Markup.plainText header.title) "]]" ||
        (header.describes && holds (Markup.plainText header.description) "]]")) := by
  have hopening : ∀ rest, holds ("--[[\n  Generated with " ++ rest) "]]" = holds rest "]]" :=
    Text.holds_free_append (by simp)
  -- What stands between two parts of a header has no brackets.
  have hbetween : ∀ between ∈ ["\n  ", " ", "\n\n  ", "\n"], ∀ first rest,
      holds (first ++ (between ++ rest)) "]]" = (holds first "]]" || holds rest "]]") := by
    intro between hmem
    have hapart : between ≠ "" ∧ ∀ c ∈ between.toList, c ∉ "]]".toList := by
      simp only [List.mem_cons, List.not_mem_nil, or_false] at hmem
      rcases hmem with rfl | rfl | rfl | rfl <;> simp
    exact Text.holds_append_between hapart.1 hapart.2
  have hstart : ∀ rest, holds ("\n" ++ rest) "]]" = holds rest "]]" :=
    Text.holds_free_append (by simp)
  have hlast : ∀ first, holds (first ++ "\n") "]]" = holds first "]]" :=
    Text.holds_append_free (by simp)
  have hcomment : holds (comment "  " header.description) "]]" =
      holds (Markup.plainText header.description) "]]" :=
    holds_comment (by simp) (by simp) header.description
  unfold Header.lines
  simp only [String.append_assoc, hopening, hbetween "\n  " (by simp),
    hbetween " " (by simp), hbetween "\n\n  " (by simp), hbetween "\n" (by simp), Bool.or_assoc]
  cases header.describes with
  | false => rfl
  | true => simp only [if_true, hstart, hlast, hcomment, Bool.true_and]

theorem Header.isBlockComment_iff_lines (header : Header) :
    IsBlockComment header.text ↔ holds header.lines "]]" = false := by
  have hclosing : header.text = header.lines ++ "--" ++ "]]" := by
    rw [header.text_eq, String.append_assoc]
    rfl
  have hinside : holds (header.lines ++ "--" ++ "]") "]]" = holds header.lines "]]" := by
    rw [String.append_assoc, Text.holds_append_between (by decide) (by simp)]
    exact Bool.or_false _
  constructor
  · rintro ⟨-, inside, htext, hfirst⟩
    rw [hclosing] at htext
    rw [← hinside, (String.append_left_inj _).mp htext]
    exact hfirst
  · intro hlines
    exact ⟨header.startsWith_text, header.lines ++ "--", hclosing, hinside.trans hlines⟩

/-- A header is one closed comment exactly if no bracket pair is in what it is made of.
Descriptions and titles count as they are decoded. -/
theorem Header.isBlockComment_iff (header : Header) :
    IsBlockComment header.text ↔
      holds header.generatorUrl "]]" = false ∧ holds header.product "]]" = false ∧
      holds header.version "]]" = false ∧
      holds (Markup.plainText header.title) "]]" = false ∧
      (header.describes = true →
        holds (Markup.plainText header.description) "]]" = false) := by
  rw [header.isBlockComment_iff_lines, header.holds_lines]
  simp only [Bool.or_eq_false_iff, and_assoc, Bool.and_eq_false_imp]

/-- The brackets of a title end the comment, also if they are character references. -/
theorem title_ends_comment :
    let header : Header := ⟨"https://example.com", "API", "1.0", "a&#93;]b", ""⟩
    header.text = "--[[\n  Generated with https://example.com\n  API 1.0\n\n  a]]b\n--]]" ∧
      ¬ IsBlockComment header.text := by
  intro header
  have htitle : Markup.plainText header.title = "a]]b" := by decide +kernel
  refine ⟨by decide +kernel, ?_⟩
  intro hcomment
  obtain ⟨-, -, -, hbrackets, -⟩ := header.isBlockComment_iff.mp hcomment
  rw [htitle] at hbrackets
  exact absurd hbrackets (by decide)

end Stub
end ApiStubs
