import ApiStubs.Proofs.Constant.Names
import ApiStubs.Proofs.Reference.Fold
import ApiStubs.Proofs.Reference.Mention

/-!
# What a request asks a catalog

A request finds its constants in its own texts: a type names a constant, and a
description mentions a space.  So two catalogs answer it alike if they hold the
same names in the spaces that it mentions.
-/

namespace ApiStubs
namespace Reference

open Prefix (namesOf)

/-- A mention stands for names of its space, and for nothing else of the catalog. -/
theorem namedBy_eq (catalog : Catalog) (mention : Mention) :
    namedBy catalog mention =
      if '*' ∈ mention.name.toList then
        ((namesOf catalog mention.space).filter (fun name => Text.startsWith name
          (String.ofList (mention.name.toList.filter (· != '*'))))).map
            (qualify mention.space)
      else if mention.name ∈ namesOf catalog mention.space then
        [qualify mention.space mention.name]
      else [] := by
  unfold namedBy
  split
  next =>
    simp only [namesOf, List.filter_map, List.map_map]
    apply List.map_congr_left
    intro constant hconstant
    have hlisted := List.mem_of_mem_filter hconstant
    have hspace : constant.space = mention.space := by
      simpa using (List.mem_filter.mp hlisted).2
    rw [Function.comp_apply, Constant.fullName, hspace]
  next =>
    cases hlookup : catalog.lookup mention.space mention.name with
    | none =>
        rw [if_neg]
        rw [← Catalog.registered_iff_mem_namesOf]
        exact Catalog.lookup_eq_none_iff.mp hlookup
    | some constant =>
        rw [if_pos]
        rw [← Catalog.registered_iff_mem_namesOf, ← Catalog.isSome_lookup_iff, hlookup]
        rfl

theorem mem_namedBy {catalog : Catalog} {mention : Mention} {fullName : String}
    (hnamed : fullName ∈ namedBy catalog mention) :
    ∃ name ∈ namesOf catalog mention.space, fullName = qualify mention.space name := by
  rw [namedBy_eq] at hnamed
  split at hnamed
  next =>
    obtain ⟨name, hname, rfl⟩ := List.mem_map.mp hnamed
    exact ⟨name, List.mem_of_mem_filter hname, rfl⟩
  next =>
    split at hnamed
    next hmem => exact ⟨mention.name, hmem, List.mem_singleton.mp hnamed⟩
    next => contradiction

/-! ## The texts of a request -/

namespace Request

/-- The type tokens as they are given, and the description. -/
def texts (request : Request) : List String :=
  request.types ++ request.description.toList

/-- One of the texts holds the name of the space with a dot behind it. -/
def Mentions (request : Request) (space : String) : Prop :=
  ∃ text ∈ request.texts, Text.holds text (space ++ ".") = true

instance (request : Request) (space : String) : Decidable (request.Mentions space) :=
  inferInstanceAs (Decidable (∃ text ∈ request.texts, _))

theorem Mentions.of_infix {request : Request} {outer space : String}
    (hmentions : request.Mentions outer)
    (hspace : (space ++ ".").toList <:+: (outer ++ ".").toList) :
    request.Mentions space := by
  obtain ⟨text, htext, hholds⟩ := hmentions
  exact ⟨text, htext, Text.holds_of_infix hholds hspace⟩

end Request

theorem dropLiteralMark_isSuffix (type : String) :
    (dropLiteralMark type).toList <:+ type.toList := by
  unfold dropLiteralMark Text.dropStart?
  split
  next => simpa using List.drop_suffix _ _
  next => exact List.suffix_rfl

/-- A declared type that holds a space mentions it. -/
theorem mentions_of_declared {request : Request} {type space : String}
    (hdeclared : type ∈ request.declared)
    (hholds : (space ++ ".").toList <:+: type.toList) : request.Mentions space := by
  obtain ⟨token, htoken, rfl⟩ := List.mem_map.mp hdeclared
  refine ⟨token, List.mem_append_left _ htoken, Text.holds_iff.mpr ?_⟩
  exact hholds.trans (dropLiteralMark_isSuffix token).isInfix

theorem mentions_of_mem_mentions {request : Request} {description : String}
    (hdescription : request.description = some description) {mention : Mention}
    (hmention : mention ∈ mentions description) : request.Mentions mention.space := by
  refine ⟨description, ?_, holds_of_mem_mentions hmention⟩
  rw [Request.texts, hdescription]
  simp

/-- A full name that a request refers to is a declared type, or the description mentions it. -/
theorem mem_referred_cases {request : Request} {catalog : Catalog} {fullName : String}
    (hreferred : fullName ∈ request.referred catalog) :
    fullName ∈ request.declared ∨
      ∃ description, request.description = some description ∧
        fullName ∈ scan catalog description := by
  unfold Request.referred at hreferred
  simp only at hreferred
  split at hreferred
  next =>
    rcases List.mem_append.mp hreferred with hdeclared | hscanned
    · exact .inl (List.mem_of_mem_filter hdeclared)
    · cases hdescription : request.description with
      | none =>
          rw [hdescription] at hscanned
          contradiction
      | some description =>
          rw [hdescription] at hscanned
          exact .inr ⟨description, rfl, hscanned⟩
  next => exact .inl (List.mem_of_mem_filter hreferred)

/-- What a description mentions is a registered name of a space that the request mentions. -/
theorem mem_referred {request : Request} {catalog : Catalog} {fullName : String}
    (hreferred : fullName ∈ request.referred catalog) :
    fullName ∈ request.declared ∨
      ∃ space name, request.Mentions space ∧ catalog.Registered space name ∧
        fullName = qualify space name := by
  refine (mem_referred_cases hreferred).imp_right ?_
  rintro ⟨description, hdescription, hscanned⟩
  obtain ⟨mention, hmention, hmem⟩ := List.mem_flatMap.mp hscanned
  obtain ⟨name, hname, rfl⟩ := mem_namedBy hmem
  exact ⟨mention.space, name, mentions_of_mem_mentions hdescription hmention,
    Catalog.registered_iff_mem_namesOf.mpr hname, rfl⟩

theorem referred_congr {first second : Catalog} {request : Request}
    (hnames : ∀ space, request.Mentions space →
      namesOf first space = namesOf second space) :
    request.referred first = request.referred second := by
  have hscan : (request.description.map (scan first)).getD [] =
      (request.description.map (scan second)).getD [] := by
    cases hdescription : request.description with
    | none => rfl
    | some description =>
        rw [Option.map_some, Option.map_some, Option.getD_some, Option.getD_some]
        apply List.flatMap_congr
        intro mention hmention
        rw [namedBy_eq, namedBy_eq,
          hnames mention.space (mentions_of_mem_mentions hdescription hmention)]
  unfold Request.referred
  simp only [hscan]

theorem recorded_congr {first second : Catalog} {fullNames : List String}
    (hnames : ∀ fullName ∈ fullNames, ∀ qualified,
      QualifiedName.ofText? fullName = some qualified →
        namesOf first qualified.space = namesOf second qualified.space) :
    recorded first fullNames = recorded second fullNames := by
  unfold recorded
  congr 1
  apply List.filter_congr
  intro qualified hqualified
  obtain ⟨fullName, hmem, hread⟩ := List.mem_filterMap.mp hqualified
  rw [Bool.eq_iff_iff, Catalog.isSome_lookup_iff, Catalog.isSome_lookup_iff,
    Catalog.registered_iff_mem_namesOf, Catalog.registered_iff_mem_namesOf,
    hnames fullName hmem qualified hread]

end Reference
end ApiStubs
