import ApiStubs.Proofs.Pattern.Parser

/-!
# Patterns as a whole

A pattern that can be compiled can be compiled in a group that captures nothing, between
the edges of the text.  The group adds nothing to the count of groups, so a backslash with
a number is the reference or the character that it is in the pattern alone.
-/

namespace ApiStubs
namespace Pattern

variable {us : List Nat} (after : List Nat)

theorem Survey.open_closing (survey : Survey) :
    survey.open (us ++ closing after) = survey.open us := by
  match us with
  | [] => rfl
  | [q] =>
      simp only [List.cons_append, List.nil_append, Survey.open, closing]
      split <;> rfl
  | [q, l] => rfl
  | q :: l :: i :: inside => rfl

/-- A pattern between the edges of the text, in a group that captures nothing. -/
def wholeUnits (us : List Nat) : List Nat :=
  [unitOf '^', unitOf '(', unitOf '?', unitOf ':'] ++ (us ++ closing [unitOf '$'])

theorem units_wholeSource (source : String) :
    Text.units (wholeSource source) = wholeUnits (Text.units source) := by
  simp only [Text.units, wholeSource, String.toList_append, List.flatMap_append]
  rw [List.append_assoc]
  rfl

theorem surveyFrom_closing (inSet escaped : Bool) (survey : Survey) :
    surveyFrom inSet escaped survey (us ++ closing [unitOf '$']) =
      surveyFrom inSet escaped survey us := by
  induction us generalizing inSet escaped survey with
  | nil => cases inSet <;> cases escaped <;> rfl
  | cons u us ih =>
      cases escaped <;>
        simp only [List.cons_append, surveyFrom, Survey.open_closing, ih]

theorem surveyFrom_wholeUnits (survey : Survey) :
    surveyFrom false false survey (wholeUnits us) = surveyFrom false false survey us :=
  surveyFrom_closing false false survey

/-- What a pattern is compiled to as a whole. -/
def Compiled.whole (compiled : Compiled) : Compiled :=
  { compiled with body := .seq .textStart (.seq compiled.body (.seq .textEnd .empty)) }

variable {survey : Survey} {fuel fuel' : Nat}

theorem readSequence_of_part {place unread counted final : Place} {u : Nat} {rest : List Nat}
    {part : Part} {node others : Node} (hrest : place.rest = u :: rest)
    (hu : (decide (u = unitOf '|') || decide (u = unitOf ')')) = false)
    (hpart : readPart survey fuel place = .ok (part, unread))
    (hcount : readRepeated place.opened part unread = .ok (node, counted))
    (hothers : readSequence survey fuel counted = .ok (others, final)) :
    readSequence survey (fuel + 1) place = .ok (.seq node others, final) := by
  rw [readSequence, hrest]
  dsimp only
  rw [hu, hpart]
  dsimp only [bind, Except.bind]
  rw [hcount]
  dsimp only
  rw [hothers]
  rfl

theorem readAlternatives_wholeUnits (hfuel : fuel ≤ fuel') {place : Place} {body : Node}
    (hread : readAlternatives survey fuel ⟨us, 0, [], []⟩ = .ok (body, place))
    (hend : place.rest = []) :
    readAlternatives survey (fuel' + 5) ⟨wholeUnits us, 0, [], []⟩ =
      .ok (.seq .textStart (.seq body (.seq .textEnd .empty)), place) := by
  obtain ⟨unread, opened, names, references⟩ := place
  obtain rfl : unread = [] := hend
  -- Two edges with the group between them are the parts of the outer sequence.
  let start : Place := ⟨wholeUnits us, 0, [], []⟩
  let group : Place :=
    ⟨[unitOf '(', unitOf '?', unitOf ':'] ++ (us ++ closing [unitOf '$']), 0, [], []⟩
  let inside : Place := ⟨us ++ closing [unitOf '$'], 0, [], []⟩
  let edge : Place := ⟨[unitOf '$'], opened, names, references⟩
  let final : Place := ⟨[], opened, names, references⟩
  have hbody : readAlternatives survey (fuel' + 1) inside =
      .ok (body, ⟨closing [unitOf '$'], opened, names, references⟩) :=
    (undisturbed_readers [unitOf '$'] (Nat.le_succ_of_le hfuel)).1 hread
  have hstart : readPart survey (fuel' + 3) start = .ok (.edge .textStart, group) := rfl
  have hgroup : readPart survey (fuel' + 2) group = .ok (.plain body, edge) := by
    change (readAlternatives survey (fuel' + 1) inside >>= _) = _
    rw [hbody]
    rfl
  have hedge : readPart survey (fuel' + 1) edge = .ok (.edge .textEnd, final) := rfl
  have hlast : readSequence survey (fuel' + 2) edge = .ok (.seq .textEnd .empty, final) :=
    readSequence_of_part rfl rfl hedge rfl rfl
  have hmiddle : readSequence survey (fuel' + 3) group =
      .ok (.seq body (.seq .textEnd .empty), final) :=
    readSequence_of_part rfl rfl hgroup rfl hlast
  have hwhole : readSequence survey (fuel' + 4) start =
      .ok (.seq .textStart (.seq body (.seq .textEnd .empty)), final) :=
    readSequence_of_part rfl rfl hstart rfl hmiddle
  rw [readAlternatives, hwhole]
  rfl

/-- The groups keep their numbers and names. -/
theorem compileUnits_wholeUnits {compiled : Compiled} (hcompile : compileUnits us = .ok compiled) :
    compileUnits (wholeUnits us) = .ok compiled.whole := by
  have hlength : 3 * (wholeUnits us).length + 3 = (3 * us.length + 16) + 5 := by
    simp only [wholeUnits, closing, List.length_append, List.length_cons, List.length_nil]
    omega
  have hfuel : 3 * us.length + 3 ≤ 3 * us.length + 16 := by omega
  unfold compileUnits at hcompile ⊢
  obtain ⟨⟨body, place⟩, hbody, hcompile⟩ := exists_ok_of_bind hcompile
  dsimp only at hcompile ⊢
  split at hcompile
  next => contradiction
  next hrest =>
    split at hcompile
    next => contradiction
    next hnames =>
      cases hcompile
      have hend : place.rest = [] := by simpa using hrest
      rw [surveyFrom_wholeUnits, hlength, readAlternatives_wholeUnits hfuel hbody hend]
      dsimp only [bind, Except.bind]
      rw [if_neg hrest, if_neg hnames]
      rfl

theorem compile_wholeSource {source : String} {compiled : Compiled}
    (hcompile : compile source = .ok compiled) :
    compile (wholeSource source) = .ok compiled.whole := by
  rw [compile, units_wholeSource]
  exact compileUnits_wholeUnits hcompile

end Pattern
end ApiStubs
