import ApiStubs.Proofs.Reference.Locality
import ApiStubs.Proofs.Reference.Registrations
import ApiStubs.Proofs.Rendering.Requests
import ApiStubs.Proofs.Stub.Lines

/-!
# The lines that a rendering writes

A rendering keeps what holds of the registry, and what it gives is of some kind.  While
all constants have names on one line, so have the aliases that are made of them, and a
rendering gives declarations of comment lines and code lines.
-/

namespace ApiStubs

/-! ## Names on one line -/

theorem Prefix.Begins.oneLine {start name : String} (hbegins : Prefix.Begins start name)
    (hname : Text.OneLine name) : Text.OneLine start := by
  intro hmem
  rw [← hbegins.joined] at hmem
  rcases Prefix.mem_joinTokens hmem with hmark | ⟨token, htoken, hmem⟩
  · simp at hmark
  · exact hname (Prefix.mem_name_of_mem_token (hbegins.isPrefix.mem htoken) hmem)

theorem oneLine_qualify {space name : String} :
    Text.OneLine (qualify space name) ↔ Text.OneLine space ∧ Text.OneLine name := by
  have hdot : Text.OneLine "." := by decide
  simp [qualify, QualifiedName.text, hdot]

theorem oneLine_dropLiteralMark {type : String} (htype : Text.OneLine type) :
    Text.OneLine (dropLiteralMark type) := by
  unfold dropLiteralMark
  cases hdrop : Text.dropStart? literalMark type with
  | none => exact htype
  | some rest => exact htype.dropStart? hdrop

/-- The registry is well-formed, and all its constants have names on one line. -/
structure Registry.OneLine (registry : Registry) : Prop where
  wellFormed : registry.WellFormed
  names : ∀ space name, registry.catalog.Registered space name →
    Text.OneLine space ∧ Text.OneLine name

namespace Registry.OneLine

variable {registry : Registry} {request : Reference.Request}

theorem fullName_and_members (honeLine : registry.OneLine) {a : Alias}
    (ha : a ∈ registry.ledger.aliases) :
    Text.OneLine a.fullName ∧ ∀ member ∈ a.members, Text.OneLine member := by
  have hsound := honeLine.wellFormed.sound a ha
  constructor
  · obtain ⟨short, -, hregistered, hbegins⟩ := hsound.exists_member
    obtain ⟨hspace, hshort⟩ := honeLine.names _ _ hregistered
    exact oneLine_qualify.mpr ⟨hspace, hbegins.oneLine hshort⟩
  · intro member hmember
    obtain ⟨short, rfl, hregistered, -⟩ := hsound.covers member hmember
    exact oneLine_qualify.mpr (honeLine.names _ _ hregistered)

theorem resolve (honeLine : registry.OneLine) (request : Reference.Request) :
    Registry.OneLine { registry with ledger := (Reference.resolve registry request).1 } where
  wellFormed := Reference.wellFormed_resolve honeLine.wellFormed request
  names := honeLine.names

theorem fold (honeLine : registry.OneLine) (request : Reference.Request) :
    (Reference.fold registry request).1.OneLine where
  wellFormed := Reference.wellFormed_fold honeLine.wellFormed request
  names := by
    intro space name hregistered
    rw [Catalog.registered_iff_mem_namesOf, Reference.namesOf_fold] at hregistered
    exact honeLine.names space name (Catalog.registered_iff_mem_namesOf.mpr hregistered)

theorem fold_types (honeLine : registry.OneLine)
    (htypes : ∀ type ∈ request.types, Text.OneLine type) :
    ∀ token ∈ (Reference.fold registry request).2.types, Text.OneLine token := by
  intro token htoken
  -- A token is a declared type, the name of an alias or that of a primitive.
  rcases Reference.mem_fold_types htoken with
    hdeclared | ⟨pair, hpair, rfl⟩ | ⟨primitive, -, rfl⟩
  · obtain ⟨type, htype, rfl⟩ := List.mem_map.mp hdeclared
    exact oneLine_dropLiteralMark (htypes type htype)
  · obtain ⟨a, ha, hname, -⟩ := Reference.resolve_heldBy registry request pair hpair
    rw [← hname]
    exact ((honeLine.resolve request).fullName_and_members ha).1
  · cases primitive <;> decide

end Registry.OneLine

/-! ## What a rendering ensures -/

namespace Rendering

variable {α β : Type} {holds : Registry → Prop} {kind : α → Prop} {other : β → Prop}

/-- The rendering keeps what holds of the registry, and its result is of the kind. -/
def Ensures (holds : Registry → Prop) (rendering : Rendering α) (kind : α → Prop) : Prop :=
  ∀ session : Session, holds session.registry →
    holds (outcome rendering session).2.registry ∧
      ∀ a, (outcome rendering session).1 = .ok a → kind a

theorem ensures_pure {a : α} (ha : kind a) : Ensures holds (pure a) kind := by
  intro session hholds
  refine ⟨hholds, ?_⟩
  rintro b hb
  cases hb
  exact ha

theorem ensures_any (rendering : Rendering α) :
    Ensures (fun _ => True) rendering (fun _ => True) :=
  fun _ _ => ⟨trivial, fun _ _ => trivial⟩

theorem ensures_report (event : Event) : Ensures holds (report event) (fun _ => True) :=
  fun _ hholds => ⟨hholds, fun _ _ => trivial⟩

theorem Ensures.bind {first : Rendering α} {next : α → Rendering β}
    (hfirst : Ensures holds first kind) (hnext : ∀ a, kind a → Ensures holds (next a) other) :
    Ensures holds (first >>= next) other := by
  intro session hholds
  obtain ⟨hreached, hkind⟩ := hfirst session hholds
  rw [outcome_bind]
  cases hrun : outcome first session with
  | mk result reached =>
      rw [hrun] at hreached hkind
      cases result with
      | error unknown => exact ⟨hreached, fun b herror => by contradiction⟩
      | ok a => exact hnext a (hkind a rfl) reached hreached

theorem Ensures.mono {rendering : Rendering α} {weaker : α → Prop}
    (hrendering : Ensures holds rendering kind) (hkind : ∀ a, kind a → weaker a) :
    Ensures holds rendering weaker := by
  intro session hholds
  obtain ⟨hreached, hresult⟩ := hrendering session hholds
  exact ⟨hreached, fun a ha => hkind a (hresult a ha)⟩

/-- Each step ensures something about its own result. -/
theorem ensures_forall₂_mapM {related : α → β → Prop} {f : α → Rendering β} {as : List α}
    (hf : ∀ a ∈ as, Ensures holds (f a) (related a)) :
    Ensures holds (as.mapM f) (List.Forall₂ related as) := by
  induction as with
  | nil => exact ensures_pure .nil
  | cons a as ih =>
      rw [List.mapM_cons]
      apply (hf a List.mem_cons_self).bind
      intro b hb
      apply (ih (fun later hlater => hf later (List.mem_cons_of_mem a hlater))).bind
      intro bs hbs
      exact ensures_pure (.cons hb hbs)

theorem ensures_mapM {f : α → Rendering β} {as : List α}
    (hf : ∀ a ∈ as, Ensures holds (f a) other) :
    Ensures holds (as.mapM f) (fun bs => ∀ b ∈ bs, other b) := by
  apply (ensures_forall₂_mapM hf).mono
  intro bs hrelated
  clear hf
  induction hrelated with
  | nil => simp
  | cons hother _ ih => exact List.forall_mem_cons.mpr ⟨hother, ih⟩

end Rendering

/-! ## Types -/

namespace TypeRules

open Rendering

variable {rules : Stub.Rules}

theorem oneLine_callableForm {type : String} (htype : Text.OneLine type) :
    Text.OneLine (callableForm type) := by
  have hreplaced : Text.OneLine (Text.replace "function()" "function" type) :=
    htype.replace (by decide)
  unfold callableForm
  simp only
  split
  next rest hdrop =>
    exact Text.oneLine_append.mpr ⟨by decide, hreplaced.dropStart? hdrop⟩
  next => exact hreplaced

theorem oneLine_replacementOf (hrules : rules.OneLine) {position : Position}
    {type replacement : String}
    (hreplacement : rules.types.replacementOf position type = some replacement) :
    Text.OneLine replacement := by
  unfold replacementOf at hreplacement
  split at hreplacement
  next found hfound =>
    cases hreplacement
    obtain ⟨own, hown, hget⟩ := Option.bind_eq_some_iff.mp hfound
    exact (hrules.perPosition.get? hown).get? hget
  next =>
    obtain ⟨r, hr, rfl⟩ := Option.map_eq_some_iff.mp hreplacement
    exact hrules.replacements r (List.mem_of_find?_eq_some hr)

theorem oneLine_judge (hrules : rules.OneLine) {ledger : Ledger} {position : Position}
    {type rendered : String} (htype : Text.OneLine type)
    (hjudge : rules.types.judge ledger position type = some rendered) :
    Text.OneLine rendered := by
  unfold judge at hjudge
  split at hjudge
  next replacement hreplacement =>
    cases hjudge
    exact oneLine_callableForm (oneLine_replacementOf hrules hreplacement)
  next =>
    split at hjudge
    next =>
      cases hjudge
      exact oneLine_callableForm htype
    next => contradiction

theorem ensures_renderToken (hrules : rules.OneLine) (position : Position) {token : String}
    (htoken : Text.OneLine token) :
    Ensures Registry.OneLine (rules.types.renderToken position token) Text.OneLine := by
  intro session hholds
  rw [outcome_renderToken]
  cases hjudge : rules.types.judge session.registry.ledger position (dropLiteralMark token) with
  | some rendered =>
      refine ⟨hholds, ?_⟩
      rintro result hresult
      cases hresult
      exact oneLine_judge hrules (oneLine_dropLiteralMark htoken) hjudge
  | none =>
      refine ⟨hholds, ?_⟩
      intro result hresult
      simp only at hresult
      split at hresult
      next => contradiction
      next =>
        cases hresult
        exact hrules.sentinel

theorem ensures_renderTokens (hrules : rules.OneLine) (position : Position)
    {done tokens : List String} (hdone : ∀ text ∈ done, Text.OneLine text)
    (htokens : ∀ token ∈ tokens, Text.OneLine token) :
    Ensures Registry.OneLine (rules.types.renderTokens position done tokens)
      (fun texts => ∀ text ∈ texts, Text.OneLine text) := by
  induction tokens generalizing done with
  | nil => exact ensures_pure hdone
  | cons token rest ih =>
      apply (ensures_renderToken hrules position (htokens token List.mem_cons_self)).bind
      intro rendered hrendered
      refine ih ?_ (fun other hother => htokens other (List.mem_cons_of_mem token hother))
      intro text htext
      unfold Reference.pushNew at htext
      split at htext
      next => exact hdone text htext
      next =>
        rcases List.mem_append.mp htext with hold | hnew
        · exact hdone text hold
        · rwa [List.mem_singleton.mp hnew]

theorem ensures_foldRequest {request : Reference.Request}
    (htypes : ∀ type ∈ request.types, Text.OneLine type) :
    Ensures Registry.OneLine (foldRequest request)
      (fun folded => ∀ token ∈ folded.types, Text.OneLine token) := by
  intro session hholds
  rw [outcome_foldRequest]
  refine ⟨hholds.fold request, ?_⟩
  rintro folded hfolded
  cases hfolded
  exact hholds.fold_types htypes

theorem ensures_renderTypes (hrules : rules.OneLine) (position : Position)
    {request : Reference.Request} (htypes : ∀ type ∈ request.types, Text.OneLine type) :
    Ensures Registry.OneLine (rules.types.renderTypes position request) Text.OneLine := by
  apply (ensures_foldRequest htypes).bind
  intro folded hfolded
  apply (ensures_renderTokens hrules position (by simp) hfolded).bind
  intro rendered hrendered
  apply ensures_pure
  split
  next => exact hrules.sentinel
  next => exact Text.OneLine.joinWith (by decide) hrendered

end TypeRules

/-! ## Declarations -/

namespace Stub

open Rendering

variable {rules : Rules} {elements : List Element}

theorem ensures_renderParameter (hrules : rules.OneLine) (element : String)
    {parameter : Parameter} (hparameter : parameter.OneLine) :
    Ensures Registry.OneLine (rules.renderParameter element parameter)
      (Text.Marked commentMark) := by
  have hname := oneLine_parameterName hrules hparameter .parameter element
  apply (TypeRules.ensures_renderTypes hrules _ hparameter.types).bind
  intro types htypes
  apply ensures_pure
  have hmark : Text.OneLine (if parameter.optional = some true then "? " else " ") := by
    split <;> decide
  apply marked_trailingDescription
  · exact ((((IsComment.append (by decide) _).append _).append _).append _)
  · simp only [Text.oneLine_append]
    exact ⟨⟨⟨⟨by decide, hname⟩, hmark⟩, htypes⟩, by decide⟩

theorem ensures_renderResult (hrules : rules.OneLine) (element : String)
    {parameter : Parameter} (hparameter : parameter.OneLine) :
    Ensures Registry.OneLine (rules.renderResult element parameter)
      (Text.Marked commentMark) := by
  have hname := oneLine_parameterName hrules hparameter .result element
  apply (TypeRules.ensures_renderTypes hrules _ hparameter.types).bind
  intro types htypes
  apply ensures_pure
  apply marked_trailingDescription
  · exact ((((IsComment.append (by decide) _).append _).append _).append _)
  · simp only [Text.oneLine_append]
    exact ⟨⟨⟨⟨by decide, htypes⟩, by decide⟩, hname⟩, by decide⟩

theorem ensures_renderFunction (hrules : rules.OneLine) {name : String}
    {description : Option String} {parameters returns : List Parameter}
    (helement : .function name description parameters returns ∈ elements)
    (honeLine : (Element.function name description parameters returns).OneLine) :
    Ensures Registry.OneLine (rules.renderFunction name description parameters returns)
      (fun text? => ∀ text ∈ text?, Text.EachLine (DeclarationLine rules elements) text) := by
  obtain ⟨hname, hparameters⟩ := honeLine
  unfold Rules.renderFunction
  by_cases hignored : rules.ignores name = true
  · simp only [hignored, if_true]
    exact ensures_pure (by simp)
  · simp only [hignored, Bool.false_eq_true, if_false]
    have hparameter : ∀ parameter ∈ parameters, parameter.OneLine :=
      fun parameter hmem => hparameters parameter (List.mem_append_left _ hmem)
    have hresult : ∀ result ∈ returns, result.OneLine :=
      fun result hmem => hparameters result (List.mem_append_right _ hmem)
    apply (ensures_mapM (fun parameter hmem =>
      ensures_renderParameter hrules name (hparameter parameter hmem))).bind
    intro parameterLines hparameterLines
    apply (ensures_mapM (fun result hmem =>
      ensures_renderResult hrules name (hresult result hmem))).bind
    intro resultLines hresultLines
    apply ensures_pure
    intro text htext
    rw [Option.mem_some_iff] at htext
    subst htext
    refine eachLine_functionText hrules helement hname hparameter ?_
    intro line hline
    rcases List.mem_append.mp hline with hmem | hmem
    · exact hparameterLines line hmem
    · exact hresultLines line hmem

theorem ensures_render (hrules : rules.OneLine) : ∀ {element : Element}, element ∈ elements →
    element.OneLine → Ensures Registry.OneLine (rules.render element)
      (fun text? => ∀ text ∈ text?, Text.EachLine (DeclarationLine rules elements) text)
  | .function _ _ _ _, helement, honeLine => ensures_renderFunction hrules helement honeLine
  | .variable _ _, helement, honeLine =>
      ensures_pure (by simpa using eachLine_variableText helement honeLine)
  | .classType _ _ _ _, helement, honeLine =>
      ensures_pure (by simpa using eachLine_classText helement honeLine)
  | .alias _ _, _, honeLine =>
      ensures_pure (by simpa using eachLine_aliasText honeLine.1 honeLine.2)
  | .constant _ _, _, _ => ensures_pure (by simp)
  | .unsupported _ _, _, _ => ensures_pure (by simp)

theorem ensures_declare (hrules : rules.OneLine) {part : List Element}
    (hpart : ∀ element ∈ part, element ∈ elements ∧ element.OneLine) :
    Ensures Registry.OneLine (rules.declare part) (fun declarations =>
      ∀ declaration ∈ declarations,
        Text.EachLine (DeclarationLine rules elements) declaration.text) := by
  induction part with
  | nil => exact ensures_pure (by simp)
  | cons element rest ih =>
      obtain ⟨helement, honeLine⟩ := hpart element List.mem_cons_self
      apply (ensures_render hrules helement honeLine).bind
      intro text? htext
      apply (ih (fun other hother => hpart other (List.mem_cons_of_mem element hother))).bind
      intro declarations hdeclarations
      apply ensures_pure
      intro declaration hmem
      rcases List.mem_append.mp hmem with hdeclared | hlater
      · cases hkind : element.kind? with
        | none => simp [hkind] at hdeclared
        | some kind =>
            cases text? with
            | none => simp [hkind] at hdeclared
            | some text =>
                simp only [hkind, List.mem_singleton] at hdeclared
                subst hdeclared
                exact htext text rfl
      · exact hdeclarations declaration hlater

end Stub
end ApiStubs
