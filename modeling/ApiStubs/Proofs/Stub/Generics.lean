import ApiStubs.Stub.Declaration
import ApiStubs.Proofs.Text.Replace
import ApiStubs.Proofs.Text.Split

/-!
# Generics in the lines of a function

The generic of a function is replaced wherever it stands between blanks in a line, and the
replacements in all lines are counted.  Fewer than two of them are not declared, so at most
one place in the lines is written anew then.  In the line of a parameter the name stands
between blanks as well, and is taken for the generic where it looks like it.
-/

namespace ApiStubs
namespace Stub

open Text (holds startsWith replaceCounting)

/-! ## Replacements in all lines -/

/-- A generic with the blanks around it. -/
def genericPart (generic : String) : String :=
  " " ++ generic ++ " "

theorem genericPart_ne (generic : String) : genericPart generic ≠ "" := by
  simp [genericPart, String.append_eq_empty_iff]

/-- The number of places in the lines where the generic is replaced. -/
def replacements (generic? : Option String) (lines : List String) : Nat :=
  (lines.map (applyGeneric generic?)).foldl (fun count line => count + line.2) 0

theorem replacements_cons (generic? : Option String) (line : String) (lines : List String) :
    replacements generic? (line :: lines) =
      (applyGeneric generic? line).2 + replacements generic? lines := by
  have hshift : ∀ (applied : List (String × Nat)) (count : Nat),
      applied.foldl (fun count line => count + line.2) count =
        count + applied.foldl (fun count line => count + line.2) 0 := by
    intro applied
    induction applied with
    | nil => intro count; rfl
    | cons first rest ih =>
        intro count
        rw [List.foldl_cons, List.foldl_cons, ih, ih (0 + first.2)]
        omega
  rw [replacements, List.map_cons, List.foldl_cons, hshift, Nat.zero_add]
  rfl

/-- The lines with the generic replaced. -/
def replacedLines (generic? : Option String) (lines : List String) : List String :=
  lines.map (fun line => (applyGeneric generic? line).1)

/-- The lines are the same, or one of them is written anew in one place.  Neither the rest of
this line nor the other lines have the part. -/
inductive RewrittenOnce (part new : String) : List String → List String → Prop
  | nowhere {lines : List String} (hlines : ∀ line ∈ lines, holds line part = false) :
      RewrittenOnce part new lines lines
  | once {before after : List String} {first rest : String}
      (hbefore : ∀ line ∈ before, holds line part = false) (hrest : holds rest part = false)
      (hafter : ∀ line ∈ after, holds line part = false) :
      RewrittenOnce part new (before ++ (first ++ part ++ rest) :: after)
        (before ++ (first ++ new ++ rest) :: after)

theorem RewrittenOnce.cons {part new line : String} {lines changed : List String}
    (hline : holds line part = false) (hlines : RewrittenOnce part new lines changed) :
    RewrittenOnce part new (line :: lines) (line :: changed) := by
  cases hlines with
  | nowhere hlines => exact .nowhere (List.forall_mem_cons.mpr ⟨hline, hlines⟩)
  | once hbefore hrest hafter =>
      exact .once (List.forall_mem_cons.mpr ⟨hline, hbefore⟩) hrest hafter

section

variable {generic : String} {lines : List String}

theorem applyGeneric_some (generic line : String) :
    applyGeneric (some generic) line = replaceCounting (genericPart generic) " T " line := rfl

theorem applyGeneric_of_not_holds {line : String} (hline : holds line (genericPart generic) = false) :
    applyGeneric (some generic) line = (line, 0) :=
  Text.replaceCounting_of_not_holds hline

theorem not_holds_of_replacements (hnone : replacements (some generic) lines = 0) :
    ∀ line ∈ lines, holds line (genericPart generic) = false := by
  induction lines with
  | nil => simp
  | cons line lines ih =>
      rw [replacements_cons, Nat.add_eq_zero_iff] at hnone
      refine List.forall_mem_cons.mpr ⟨?_, ih hnone.2⟩
      exact (Text.replaceCounting_eq_zero_iff (genericPart_ne generic)).mp hnone.1

theorem replacedLines_of_not_holds
    (hlines : ∀ line ∈ lines, holds line (genericPart generic) = false) :
    replacedLines (some generic) lines = lines := by
  rw [replacedLines, List.map_congr_left (g := id), List.map_id]
  intro line hline
  rw [applyGeneric_of_not_holds (hlines line hline)]
  rfl

theorem rewrittenOnce_replacedLines (hfew : replacements (some generic) lines < 2) :
    RewrittenOnce (genericPart generic) " T " lines (replacedLines (some generic) lines) := by
  induction lines with
  | nil => exact .nowhere (by simp)
  | cons line lines ih =>
      rw [replacements_cons] at hfew
      cases hline : holds line (genericPart generic) with
      | false =>
          have hsame := applyGeneric_of_not_holds hline
          rw [hsame] at hfew
          have hlater := ih (by simpa using hfew)
          rw [replacedLines, List.map_cons, hsame]
          exact hlater.cons hline
      | true =>
          obtain ⟨first, rest, rfl, hreplaced⟩ :=
            Text.exists_replaceCounting_of_holds (genericPart_ne generic) hline " T "
          rw [← applyGeneric_some] at hreplaced
          rw [hreplaced] at hfew
          have hrest : (replaceCounting (genericPart generic) " T " rest).2 = 0 := by omega
          have hnone : replacements (some generic) lines = 0 := by omega
          have hrestHolds := (Text.replaceCounting_eq_zero_iff (genericPart_ne generic)).mp hrest
          have hlines := not_holds_of_replacements hnone
          have hlater := replacedLines_of_not_holds hlines
          rw [replacedLines] at hlater
          rw [replacedLines, List.map_cons, hlater, hreplaced,
            Text.replaceCounting_of_not_holds hrestHolds]
          have honce : RewrittenOnce (genericPart generic) " T "
              ([] ++ (first ++ genericPart generic ++ rest) :: lines)
              ([] ++ (first ++ " T " ++ rest) :: lines) := .once (by simp) hrestHolds hlines
          exact honce

end

/-! ## Names in the lines of parameters -/

/-- The line of a parameter names it: behind the mark stands the name, with the mark of an
optional parameter or a blank after it. -/
def Annotates (name line : String) : Prop :=
  startsWith line ("---@param " ++ name ++ "?") = true ∨
    startsWith line ("---@param " ++ name ++ " ") = true

/-- A name that stands apart from what follows it. -/
structure Readable (name : String) : Prop where
  noBlank : ' ' ∉ name.toList
  noMark : '?' ∉ name.toList

instance (name : String) : Decidable (Readable name) :=
  decidable_of_iff (' ' ∉ name.toList ∧ '?' ∉ name.toList)
    ⟨fun h => ⟨h.1, h.2⟩, fun h => ⟨h.noBlank, h.noMark⟩⟩

/-- The name of a parameter, with the mark of an optional one. -/
def annotatedName (name : String) (parameter : Parameter) : String :=
  name ++ (if parameter.optional = some true then "?" else "")

/-- The line of a parameter with its types. -/
def parameterLine (name : String) (parameter : Parameter) (types : String) : String :=
  "---@param " ++ name ++ (if parameter.optional = some true then "? " else " ") ++
    types ++ " " ++ trailingDescription (parameter.doc.getD "")

section

variable {name generic types : String} {parameter : Parameter}

theorem parameterLine_eq (name : String) (parameter : Parameter) (types : String) :
    parameterLine name parameter types =
      "---@param" ++ (" " ++ annotatedName name parameter ++
        (" " ++ (types ++ " " ++ trailingDescription (parameter.doc.getD "")))) := by
  unfold parameterLine annotatedName
  apply String.toList_inj.mp
  split <;> simp

theorem noBlank_annotatedName (hname : Readable name) (parameter : Parameter) :
    ' ' ∉ (annotatedName name parameter).toList := by
  unfold annotatedName
  split <;> simp [hname.noBlank]

theorem annotates_of_annotatedName (name : String) (parameter : Parameter) (rest : String) :
    Annotates name ("---@param" ++ (" " ++ annotatedName name parameter ++ (" " ++ rest))) := by
  unfold Annotates annotatedName
  simp only [Text.startsWith_iff]
  split
  next => exact .inl ⟨' ' :: rest.toList, by simp⟩
  next => exact .inr ⟨rest.toList, by simp⟩

/-- A name and what ends it stand before a written generic only if it is that name. -/
theorem isPrefix_written_iff {name : List Char} (hname : ' ' ∉ name) {last : Char}
    (hlast : last ≠ 'T') (rest : List Char) :
    name ++ [last] <+: 'T' :: ' ' :: rest ↔ name = ['T'] ∧ last = ' ' := by
  cases name with
  | nil => simp [hlast]
  | cons c name =>
      cases name with
      | nil => simp
      | cons d name =>
          rw [List.mem_cons, List.mem_cons, not_or, not_or] at hname
          simp [Ne.symm hname.2.1]

/-- Where the generic is written in the place of a name, it is seen as the name. -/
theorem annotates_written_iff (hname : Readable name) (rest : String) :
    Annotates name ("---@param" ++ (" T " ++ rest)) ↔ name = "T" := by
  have hline : ("---@param" ++ (" T " ++ rest)).toList =
      "---@param ".toList ++ ('T' :: ' ' :: rest.toList) := by simp
  have hends : ∀ last : String, ("---@param " ++ name ++ last).toList =
      "---@param ".toList ++ (name.toList ++ last.toList) := by simp
  unfold Annotates
  rw [Text.startsWith_iff, Text.startsWith_iff, hline, hends, hends,
    List.prefix_append_right_inj, List.prefix_append_right_inj]
  have hmark := isPrefix_written_iff hname.noBlank (show '?' ≠ 'T' by decide) rest.toList
  have hblank := isPrefix_written_iff hname.noBlank (show ' ' ≠ 'T' by decide) rest.toList
  have hletter : name.toList = ['T'] ↔ name = "T" := by
    rw [← String.toList_inj]
    simp
  simp only [show "?".toList = ['?'] by simp, show " ".toList = [' '] by simp, hmark, hblank,
    hletter]
  simp

/-- A text either begins with a generic between blanks, which is written anew, or keeps its
first blank and the word behind it. -/
theorem applyGeneric_blank_cases (generic : String) {word : String} (hword : ' ' ∉ word.toList)
    (rest : String) :
    (∃ after, " " ++ word ++ rest = genericPart generic ++ after ∧
      (applyGeneric (some generic) (" " ++ word ++ rest)).1 =
        " T " ++ (applyGeneric (some generic) after).1) ∨
    startsWith (" " ++ word ++ rest) (genericPart generic) = false ∧
      (applyGeneric (some generic) (" " ++ word ++ rest)).1 =
        " " ++ word ++ (applyGeneric (some generic) rest).1 := by
  cases hstart : startsWith (" " ++ word ++ rest) (genericPart generic) with
  | true =>
      left
      obtain ⟨after, hafter⟩ := Text.startsWith_iff.mp hstart
      have hsplit : " " ++ word ++ rest = genericPart generic ++ String.ofList after := by
        apply String.toList_inj.mp
        rw [← hafter, String.toList_append, String.toList_ofList]
      refine ⟨String.ofList after, hsplit, ?_⟩
      rw [hsplit, applyGeneric_some, Text.replaceCounting_part_append (genericPart_ne generic)]
      rfl
  | false =>
      refine .inr ⟨rfl, ?_⟩
      have hother : ¬ (genericPart generic).toList <+: ' ' :: (word.toList ++ rest.toList) := by
        intro hbegins
        rw [← Bool.not_eq_true, Text.startsWith_iff] at hstart
        apply hstart
        simpa using hbegins
      have hinside : Text.NoStart (genericPart generic).toList word.toList rest.toList :=
        Text.noStart_of_not_mem (c := ' ') (by simp [genericPart]) hword
      have hnone : Text.NoStart (genericPart generic).toList (" " ++ word).toList rest.toList := by
        have hchars : (" " ++ word).toList = ' ' :: word.toList := by simp
        rw [hchars]
        exact hinside.cons hother
      rw [applyGeneric_some, Text.replaceCounting_append hnone]
      rfl

/-- The first blank of a text stays. -/
theorem exists_applyGeneric_blank (generic rest : String) :
    ∃ later, (applyGeneric (some generic) (" " ++ rest)).1 = " " ++ later := by
  have hnoWord : ' ' ∉ "".toList := by simp
  rcases applyGeneric_blank_cases generic hnoWord rest with ⟨after, -, hwritten⟩ | ⟨-, hkept⟩
  · refine ⟨"T " ++ (applyGeneric (some generic) after).1, ?_⟩
    rw [String.append_empty] at hwritten
    rw [hwritten, ← String.append_assoc]
    rfl
  · exact ⟨_, by simpa only [String.append_empty] using hkept⟩

/-- The line of a parameter still names it when the generic is replaced, unless the generic
stands where the name stands. -/
theorem annotates_applyGeneric_iff (hname : Readable name) :
    Annotates name (applyGeneric (some generic) (parameterLine name parameter types)).1 ↔
      name = "T" ∨ startsWith (parameterLine name parameter types)
        ("---@param " ++ generic ++ " ") = false := by
  have hword := noBlank_annotatedName hname parameter
  rw [parameterLine_eq]
  generalize types ++ " " ++ trailingDescription (parameter.doc.getD "") = rest
  -- The mark of the line has no blank, so no generic starts in it.
  have hmark : ∀ behind, (applyGeneric (some generic) ("---@param" ++ behind)).1 =
      "---@param" ++ (applyGeneric (some generic) behind).1 := by
    intro behind
    have hnone : Text.NoStart (genericPart generic).toList "---@param".toList behind.toList :=
      Text.noStart_of_not_mem (c := ' ') (by simp [genericPart]) (by decide)
    rw [applyGeneric_some, Text.replaceCounting_append hnone]
    rfl
  have hbehind : ∀ behind, startsWith ("---@param" ++ behind) ("---@param " ++ generic ++ " ") =
      startsWith behind (genericPart generic) := by
    intro behind
    have hgeneric : ("---@param " ++ generic ++ " ").toList =
        "---@param".toList ++ (genericPart generic).toList := by simp [genericPart]
    rw [Bool.eq_iff_iff, Text.startsWith_iff, Text.startsWith_iff, hgeneric,
      String.toList_append, List.prefix_append_right_inj]
  rw [hmark, hbehind]
  rcases applyGeneric_blank_cases generic hword (" " ++ rest) with
    ⟨after, hsplit, hwritten⟩ | ⟨hother, hkept⟩
  · have hstart : startsWith (" " ++ annotatedName name parameter ++ (" " ++ rest))
        (genericPart generic) = true := by
      rw [hsplit]
      exact Text.startsWith_append_self _ _
    rw [hwritten, annotates_written_iff hname, hstart]
    simp
  · obtain ⟨later, hlater⟩ := exists_applyGeneric_blank generic rest
    rw [hkept, hlater, hother]
    simpa using annotates_of_annotatedName name parameter later

theorem annotates_parameterLine_iff (hname : Readable name) (generic? : Option String) :
    Annotates name (applyGeneric generic? (parameterLine name parameter types)).1 ↔
      name = "T" ∨ ∀ generic ∈ generic?, startsWith (parameterLine name parameter types)
        ("---@param " ++ generic ++ " ") = false := by
  cases generic? with
  | some generic => simpa using annotates_applyGeneric_iff hname
  | none =>
      have hkept : Annotates name (parameterLine name parameter types) := by
        rw [parameterLine_eq]
        exact annotates_of_annotatedName name parameter _
      simpa [applyGeneric] using hkept

end

end Stub
end ApiStubs
