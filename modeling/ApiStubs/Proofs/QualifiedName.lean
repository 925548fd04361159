import ApiStubs.QualifiedName
import ApiStubs.Proofs.Text.Search

/-!
# Reading qualified names

A text is read as a qualified name exactly if it is the text of a proper one: a
space with characters, and a short name with characters but no dot.
-/

namespace ApiStubs
namespace QualifiedName

/-- Both parts have characters, and the short name has no dot. -/
structure Proper (qualified : QualifiedName) : Prop where
  space_ne : qualified.space ≠ ""
  name_ne : qualified.name ≠ ""
  noDot : '.' ∉ qualified.name.toList

theorem cutAtLastDot?_eq_none_iff {cs : List Char} :
    cutAtLastDot? cs = none ↔ '.' ∉ cs := by
  induction cs with
  | nil => simp [cutAtLastDot?]
  | cons c cs ih =>
      rw [cutAtLastDot?]
      cases hcut : cutAtLastDot? cs with
      | none =>
          have hrest := ih.mp hcut
          by_cases hdot : c = '.'
          · simp [hdot]
          · simp [hdot, Ne.symm hdot, hrest]
      | some parts =>
          have hrest : '.' ∈ cs := by
            simpa [hcut] using ih
          simp [hrest]

theorem cutAtLastDot?_append {before after : List Char} (hafter : '.' ∉ after) :
    cutAtLastDot? (before ++ '.' :: after) = some (before, after) := by
  induction before with
  | nil => simp [cutAtLastDot?, cutAtLastDot?_eq_none_iff.mpr hafter]
  | cons c before ih => simp [cutAtLastDot?, ih]

theorem eq_append_of_cutAtLastDot? {cs before after : List Char}
    (hcut : cutAtLastDot? cs = some (before, after)) :
    cs = before ++ '.' :: after ∧ '.' ∉ after := by
  induction cs generalizing before after with
  | nil => simp [cutAtLastDot?] at hcut
  | cons c cs ih =>
      rw [cutAtLastDot?] at hcut
      cases hrest : cutAtLastDot? cs with
      | some parts =>
          simp only [hrest, Option.some.injEq, Prod.mk.injEq] at hcut
          obtain ⟨rfl, rfl⟩ := hcut
          obtain ⟨hcs, hafter⟩ := ih hrest
          exact ⟨by rw [hcs, List.cons_append], hafter⟩
      | none =>
          simp only [hrest] at hcut
          split at hcut
          next hdot =>
            simp only [Option.some.injEq, Prod.mk.injEq] at hcut
            obtain ⟨rfl, rfl⟩ := hcut
            exact ⟨by rw [hdot, List.nil_append],
              cutAtLastDot?_eq_none_iff.mp hrest⟩
          next => contradiction

theorem toList_text (qualified : QualifiedName) :
    qualified.text.toList = qualified.space.toList ++ '.' :: qualified.name.toList := by
  simp [text]

theorem ofText?_text {qualified : QualifiedName} (hproper : qualified.Proper) :
    ofText? qualified.text = some qualified := by
  have hcut : cutAtLastDot? qualified.text.toList =
      some (qualified.space.toList, qualified.name.toList) := by
    rw [toList_text]
    exact cutAtLastDot?_append hproper.noDot
  have hspace : qualified.space.toList ≠ [] := by
    simpa using hproper.space_ne
  have hname : qualified.name.toList ≠ [] := by
    simpa using hproper.name_ne
  simp [ofText?, hcut, hspace, hname]

theorem ofText?_eq_some_iff {text : String} {qualified : QualifiedName} :
    ofText? text = some qualified ↔ qualified.Proper ∧ qualified.text = text := by
  constructor
  · intro hread
    unfold ofText? at hread
    split at hread
    next => contradiction
    next before after hcut =>
      obtain ⟨htext, hafter⟩ := eq_append_of_cutAtLastDot? hcut
      split at hread
      next => contradiction
      next hparts =>
        simp only [Option.some.injEq] at hread
        subst hread
        rw [not_or] at hparts
        refine ⟨⟨?_, ?_, ?_⟩, ?_⟩
        · simpa [← String.toList_inj] using hparts.1
        · simpa [← String.toList_inj] using hparts.2
        · simpa using hafter
        · apply String.toList_inj.mp
          simp [QualifiedName.text, htext]
  · rintro ⟨hproper, rfl⟩
    exact ofText?_text hproper

/-- Where neither short name has a dot, names with one text are the same name. -/
theorem eq_of_text {first second : QualifiedName} (hfirst : '.' ∉ first.name.toList)
    (hsecond : '.' ∉ second.name.toList) (htext : first.text = second.text) :
    first = second := by
  have hcut : cutAtLastDot? (first.space.toList ++ '.' :: first.name.toList) =
      some (first.space.toList, first.name.toList) := cutAtLastDot?_append hfirst
  rw [← toList_text, htext, toList_text, cutAtLastDot?_append hsecond, Option.some.injEq,
    Prod.mk.injEq, String.toList_inj, String.toList_inj] at hcut
  cases first
  cases second
  rw [QualifiedName.mk.injEq]
  exact ⟨hcut.1.symm, hcut.2.symm⟩

/-- Proper names with one text are the same name. -/
theorem Proper.eq_of_text {first second : QualifiedName} (hfirst : first.Proper)
    (hsecond : second.Proper) (htext : first.text = second.text) : first = second :=
  QualifiedName.eq_of_text hfirst.noDot hsecond.noDot htext

theorem space_dot_isPrefix (qualified : QualifiedName) :
    (qualified.space ++ ".").toList <+: qualified.text.toList := by
  rw [toList_text]
  exact ⟨qualified.name.toList, by simp⟩

/-- A name at the end of another one has the same last dot. -/
theorem space_isSuffix {outer inner : QualifiedName} (houter : outer.Proper)
    (hinner : inner.Proper) (hsuffix : inner.text.toList <:+ outer.text.toList) :
    inner.space.toList <:+ outer.space.toList := by
  obtain ⟨start, hstart⟩ := hsuffix
  rw [toList_text, toList_text, ← List.append_assoc] at hstart
  have hcut : cutAtLastDot? (start ++ inner.space.toList ++ '.' :: inner.name.toList) =
      some (start ++ inner.space.toList, inner.name.toList) :=
    cutAtLastDot?_append hinner.noDot
  rw [hstart, cutAtLastDot?_append houter.noDot, Option.some.injEq, Prod.mk.injEq] at hcut
  exact ⟨start, hcut.1.symm⟩

end QualifiedName

/-- With the space given, the short name can be read off the full name. -/
theorem qualify_right_injective {space left right : String}
    (heq : qualify space left = qualify space right) : left = right := by
  apply String.toList_inj.mp
  have hchars := congrArg String.toList heq
  simpa [qualify, QualifiedName.text] using hchars

/-- A beginning without a dot ends within the space. -/
theorem startsWith_qualify {start : String} (hstart : '.' ∉ start.toList) (space name : String) :
    Text.startsWith (qualify space name) start = Text.startsWith space start := by
  have hchars : (qualify space name).toList = space.toList ++ ['.'] ++ name.toList := by
    simp [qualify, QualifiedName.text]
  rw [Bool.eq_iff_iff, Text.startsWith_iff, Text.startsWith_iff, hchars]
  constructor
  · intro hbegins
    rcases List.prefix_or_prefix_of_prefix hbegins (List.prefix_append _ _) with hinside | hbeyond
    · rcases List.prefix_concat_iff.mp hinside with hall | hspace
      · exact absurd (by simp [hall]) hstart
      · exact hspace
    · exact absurd (hbeyond.subset (by simp)) hstart
  · intro hbegins
    rw [List.append_assoc]
    exact hbegins.trans (List.prefix_append _ _)

theorem dropLiteralMark_eq_self {type : String}
    (hunmarked : Text.startsWith type literalMark = false) : dropLiteralMark type = type := by
  rw [dropLiteralMark, Text.dropStart?_eq_none hunmarked, Option.getD_none]

end ApiStubs
