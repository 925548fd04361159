import ApiStubs.ApiModule.Reader
import ApiStubs.Proofs.Document.Shape
import ApiStubs.Proofs.Except
import Mathlib.Data.List.Forall2

/-!
# What documents describe

Which modules a document describes, said field by field and without an order of reading.
A reader gives a part exactly if the value describes it, so paths and the order of the
reads only matter to faults.
-/

namespace ApiStubs
namespace ApiModule

open Document (Value)
open Text (Form UnitText)

variable {α : Type}

/-! ## Descriptions -/

def GivesText (value : Value) (content : UnitText) : Prop :=
  value = .text content

/-- A field that is missing gives nothing, an array one item for each of its values. -/
inductive GivesList (gives : Value → α → Prop) : Option Value → List α → Prop where
  | missing : GivesList gives none []
  | array {values : List Value} {items : List α} (hitems : List.Forall₂ gives values items) :
      GivesList gives (some (.array values)) items

theorem givesList_none_iff {gives : Value → α → Prop} {items : List α} :
    GivesList gives none items ↔ items = [] := by
  constructor
  · rintro ⟨⟩
    rfl
  · rintro rfl
    exact .missing

theorem givesList_some_iff {gives : Value → α → Prop} {value : Value} {items : List α} :
    GivesList gives (some value) items ↔
      ∃ values, value = .array values ∧ List.Forall₂ gives values items := by
  constructor
  · rintro ⟨⟩
    next hitems => exact ⟨_, rfl, hitems⟩
  · rintro ⟨values, rfl, hitems⟩
    exact .array hitems

/-- An entry keeps its name, which must not be prohibited. -/
def GivesEntry (gives : Value → α → Prop) (field : UnitText × Value) (entry : UnitText × α) :
    Prop :=
  field.1 ∉ ["__proto__", "constructor", "prototype"].map Form.ofText ∧ field.1 = entry.1 ∧
    gives field.2 entry.2

inductive GivesTable (gives : Value → α → Prop) : Option Value → Table α UnitText → Prop where
  | missing : GivesTable gives none .empty
  | table {value : Value} {fields : Fields} {entries : List (UnitText × α)}
      (hfields : value.entries? = some fields)
      (hentries : List.Forall₂ (GivesEntry gives) fields entries) :
      GivesTable gives (some value) (.ofList entries)

/-- The types of a parameter may be null, too. -/
inductive GivesTypes : Option Value → List UnitText → Prop where
  | null : GivesTypes (some .null) []
  | list {value? : Option Value} {types : List UnitText}
      (htypes : GivesList GivesText value? types) : GivesTypes value? types

/-- A text that may be missing, with what it is then. -/
def GivesTextOr (default : UnitText) (value? : Option Value) (content : UnitText) : Prop :=
  ∃ content? : Option UnitText, value? = content?.map Value.text ∧ content = content?.getD default

def GivesFlagOr (default : Bool) (value? : Option Value) (flag : Bool) : Prop :=
  ∃ flag? : Option Bool, value? = flag?.map Value.boolean ∧ flag = flag?.getD default

def DescribesOperator (value : Value) (operator : Operator UnitText) : Prop :=
  ∃ fields : Fields, value.entries? = some fields ∧
    fields.get? "result" = some (.text operator.result) ∧
    fields.get? "param" = operator.operand.map .text

def DescribesParameter (value : Value) (parameter : Parameter UnitText) : Prop :=
  ∃ fields : Fields, value.entries? = some fields ∧
    fields.get? "name" = some (.text parameter.name) ∧
    GivesTypes (fields.get? "types") parameter.types ∧
    fields.get? "doc" = parameter.doc.map .text ∧
    fields.get? "optional" = parameter.optional.map .boolean

/-- The kind of an element and the fields that this kind has.  Classes and aliases have no
description, but what is written as one still has to be a text. -/
def DescribesKind (fields : Fields) : Element UnitText → Prop
  | .constant _ description =>
      fields.get? "kind" = some (.text (Form.ofText "constant")) ∧
      fields.get? "description" = description.map .text
  | .variable _ description =>
      fields.get? "kind" = some (.text (Form.ofText "variable")) ∧
      fields.get? "description" = description.map .text
  | .function _ description parameters returns =>
      fields.get? "kind" = some (.text (Form.ofText "function")) ∧
      fields.get? "description" = description.map .text ∧
      GivesList DescribesParameter (fields.get? "parameters") parameters ∧
      GivesList DescribesParameter (fields.get? "returns") returns
  | .classType _ members global operators =>
      fields.get? "kind" = some (.text (Form.ofText "class")) ∧
      (∃ description : Option UnitText, fields.get? "description" = description.map .text) ∧
      GivesTable GivesText (fields.get? "fields") members ∧
      GivesFlagOr false (fields.get? "global") global ∧
      GivesTable DescribesOperator (fields.get? "operators") operators
  | .alias _ definition =>
      fields.get? "kind" = some (.text (Form.ofText "alias")) ∧
      (∃ description : Option UnitText, fields.get? "description" = description.map .text) ∧
      fields.get? "definition" = some (.text definition)
  | .unsupported _ kind =>
      fields.get? "kind" = some (.text kind) ∧
      kind ∉ ["constant", "function", "variable", "class", "alias"].map Form.ofText

def DescribesElement (value : Value) (element : Element UnitText) : Prop :=
  ∃ fields : Fields, value.entries? = some fields ∧
    fields.get? "name" = some (.text element.name) ∧ DescribesKind fields element

def DescribesModule (value : Value) (m : ApiModule UnitText) : Prop :=
  ∃ fields : Fields, value.entries? = some fields ∧
    GivesTextOr (Form.ofText "") (fields.get? "namespace") m.space ∧
    GivesTextOr (Form.ofText "") (fields.get? "brief") m.brief ∧
    GivesTextOr (Form.ofText "") (fields.get? "description") m.description ∧
    GivesList DescribesElement (fields.get? "elements") m.elements

def Describes (value : Value) (modules : List (ApiModule UnitText)) : Prop :=
  ∃ fields : Fields, value.entries? = some fields ∧
    GivesList DescribesModule (fields.get? "modules") modules

/-! ## Readers of fields -/

variable {value? : Option Value} {path : String}

theorem readTable_eq_ok_iff {fields : Fields} :
    readTable value? path = .ok fields ↔ value?.bind Value.entries? = some fields := by
  unfold readTable
  cases value?.bind Value.entries? <;> simp [mismatch]

theorem readArray_eq_ok_iff {items : List Value} :
    readArray value? path = .ok items ↔ value? = some (.array items) := by
  have hitems : value?.bind Value.items? = some items ↔ value? = some (.array items) := by
    cases value? <;> simp [Value.items?_eq_some_iff]
  rw [← hitems, readArray]
  cases value?.bind Value.items? <;> simp [mismatch]

theorem readText_eq_ok_iff {content : UnitText} :
    readText value? path = .ok content ↔ value? = some (.text content) := by
  have htext : value?.bind Value.text? = some content ↔ value? = some (.text content) := by
    cases value? <;> simp [Value.text?_eq_some_iff]
  rw [← htext, readText]
  cases value?.bind Value.text? <;> simp [mismatch]

theorem readText?_eq_ok_iff {content? : Option UnitText} :
    readText? value? path = .ok content? ↔ value? = content?.map .text := by
  cases value? with
  | none => cases content? <;> simp [readText?]
  | some value =>
      have hread : readText? (some value) path = some <$> readText (some value) path := rfl
      rw [hread, map_eq_ok_iff]
      cases content? <;> simp [readText_eq_ok_iff]

theorem readFlag?_eq_ok_iff {flag? : Option Bool} :
    readFlag? value? path = .ok flag? ↔ value? = flag?.map .boolean := by
  cases value? with
  | none => cases flag? <;> simp [readFlag?]
  | some value => cases value <;> cases flag? <;> simp [readFlag?, mismatch]

/-- The reader of a value gives what the value gives. -/
def Reads (read : Option Value → String → Reading α) (gives : Value → α → Prop) : Prop :=
  ∀ value path a, read (some value) path = .ok a ↔ gives value a

theorem reads_readText : Reads readText GivesText := by
  simp [Reads, readText_eq_ok_iff, GivesText]

variable {read : Option Value → String → Reading α} {gives : Value → α → Prop}

theorem readFrom_eq_ok_iff (hread : Reads read gives) {index : Nat} {values : List Value}
    {items : List α} :
    readFrom read path index values = .ok items ↔ List.Forall₂ gives values items := by
  induction values generalizing index items with
  | nil => simp [readFrom, eq_comm]
  | cons value values ih =>
      rw [readFrom, bind_eq_ok_iff, List.forall₂_cons_left_iff]
      simp only [bind_eq_ok_iff, hread _ _ _, ih]
      constructor
      · rintro ⟨first, hfirst, rest, hrest, hitems⟩
        exact ⟨first, rest, hfirst, hrest, (Except.ok.inj hitems).symm⟩
      · rintro ⟨first, rest, hfirst, hrest, rfl⟩
        exact ⟨first, hfirst, rest, hrest, rfl⟩

theorem readItems_eq_ok_iff (hread : Reads read gives) {items : List α} :
    readItems read value? path = .ok items ↔
      ∃ values, value? = some (.array values) ∧ List.Forall₂ gives values items := by
  unfold readItems
  simp only [bind_eq_ok_iff, readArray_eq_ok_iff, readFrom_eq_ok_iff hread]

theorem readEntries_eq_ok_iff (hread : Reads read gives) {fields : Fields}
    {entries : List (UnitText × α)} :
    readEntries read path fields = .ok entries ↔
      List.Forall₂ (GivesEntry gives) fields entries := by
  induction fields generalizing entries with
  | nil => simp [readEntries, eq_comm]
  | cons field fields ih =>
      obtain ⟨key, value⟩ := field
      rw [readEntries, List.forall₂_cons_left_iff]
      split
      next hkey =>
        constructor
        · intro
          contradiction
        · rintro ⟨first, rest, hfirst, -⟩
          exact absurd hkey hfirst.1
      next hkey =>
        simp only [bind_eq_ok_iff, hread _ _ _, ih]
        constructor
        · rintro ⟨first, hfirst, rest, hrest, hentries⟩
          exact ⟨_, rest, ⟨hkey, rfl, hfirst⟩, hrest, (Except.ok.inj hentries).symm⟩
        · rintro ⟨⟨name, first⟩, rest, ⟨-, hname, hfirst⟩, hrest, rfl⟩
          dsimp only at hname
          subst hname
          exact ⟨first, hfirst, rest, hrest, rfl⟩

theorem readTableOf_eq_ok_iff (hread : Reads read gives) {table : Table α UnitText} :
    readTableOf read value? path = .ok table ↔ GivesTable gives value? table := by
  cases value? with
  | none =>
      constructor
      · rintro ⟨⟩
        exact .missing
      · rintro ⟨⟩
        rfl
  | some value =>
      have hof : readTableOf read (some value) path =
          readTable (some value) path >>= fun fields =>
            readEntries read path fields >>= fun entries => pure (Table.ofList entries) := rfl
      rw [hof]
      simp only [bind_eq_ok_iff, readTable_eq_ok_iff, readEntries_eq_ok_iff hread,
        Option.bind_some]
      constructor
      · rintro ⟨fields, hfields, entries, hentries, ⟨⟩⟩
        exact .table hfields hentries
      · rintro ⟨⟩
        next hentries hfields => exact ⟨_, hfields, _, hentries, rfl⟩

/-! ## Readers of parts -/

theorem reads_readOperator : Reads readOperator DescribesOperator := by
  intro value path operator
  unfold readOperator DescribesOperator
  simp only [bind_eq_ok_iff, readTable_eq_ok_iff, readText?_eq_ok_iff, readText_eq_ok_iff,
    Option.bind_some]
  constructor
  · rintro ⟨fields, hfields, operand, hoperand, result, hresult, ⟨⟩⟩
    exact ⟨fields, hfields, hresult, hoperand⟩
  · rintro ⟨fields, hfields, hresult, hoperand⟩
    exact ⟨fields, hfields, operator.operand, hoperand, operator.result, hresult, rfl⟩

theorem readTypes_eq_ok_iff {fields : Fields} {types : List UnitText} :
    readItems readText (typesField fields) path = .ok types ↔
      GivesTypes (fields.get? "types") types := by
  rw [readItems_eq_ok_iff reads_readText, typesField]
  constructor
  · rintro ⟨values, hvalues, htypes⟩
    split at hvalues
    next hnone =>
      cases hvalues
      cases htypes
      rw [hnone]
      exact .list .missing
    next hnull =>
      cases hvalues
      cases htypes
      rw [hnull]
      exact .null
    next hsome =>
      cases hvalues
      rw [hsome]
      exact .list (.array htypes)
  · intro htypes
    generalize fields.get? "types" = value? at htypes
    cases htypes with
    | null => exact ⟨[], rfl, .nil⟩
    | list hlist =>
        cases hlist with
        | missing => exact ⟨[], rfl, .nil⟩
        | array hvalues => exact ⟨_, rfl, hvalues⟩

theorem reads_readParameter : Reads readParameter DescribesParameter := by
  intro value path parameter
  unfold readParameter DescribesParameter
  simp only [bind_eq_ok_iff, readTable_eq_ok_iff, readText?_eq_ok_iff, readText_eq_ok_iff,
    readFlag?_eq_ok_iff, readTypes_eq_ok_iff, Option.bind_some]
  constructor
  · rintro ⟨fields, hfields, doc, hdoc, optional, hoptional, name, hname, types, htypes, ⟨⟩⟩
    exact ⟨fields, hfields, hname, htypes, hdoc, hoptional⟩
  · rintro ⟨fields, hfields, hname, htypes, hdoc, hoptional⟩
    exact ⟨fields, hfields, _, hdoc, _, hoptional, _, hname, _, htypes, rfl⟩

theorem readParameters_eq_ok_iff {parameters : List (Parameter UnitText)} :
    readParameters value? path = .ok parameters ↔
      GivesList DescribesParameter value? parameters := by
  cases value? with
  | none => simp [readParameters, givesList_none_iff, eq_comm]
  | some value =>
      have hitems : readParameters (some value) path =
          readItems readParameter (some value) path := rfl
      rw [hitems, readItems_eq_ok_iff reads_readParameter, givesList_some_iff]
      simp only [Option.some.injEq]

theorem ofName?_eq_none_iff {name : UnitText} :
    ElementKind.ofName? name = none ↔
      name ∉ ["constant", "function", "variable", "class", "alias"].map Form.ofText := by
  rw [ElementKind.ofName?, List.find?_eq_none]
  simp [ElementKind.all, ElementKind.name, eq_comm (b := name)]

theorem name_of_ofName? {name : UnitText} {kind : ElementKind}
    (hkind : ElementKind.ofName? name = some kind) : name = Form.ofText kind.name := by
  have hname : Form.ofText kind.name = name := by simpa using List.find?_some hkind
  exact hname.symm

theorem describesElement_of_readElement {value : Value} {element : Element UnitText}
    (hread : readElement (some value) path = .ok element) : DescribesElement value element := by
  obtain ⟨fields, hfields, hread⟩ := exists_ok_of_bind hread
  obtain ⟨kindName, hkind, hread⟩ := exists_ok_of_bind hread
  obtain ⟨name, hname, hread⟩ := exists_ok_of_bind hread
  rw [readTable_eq_ok_iff, Option.bind_some] at hfields
  rw [readText_eq_ok_iff] at hkind hname
  -- Only a supported kind is followed by the fields that it has.
  split at hread
  next hother =>
    cases hread
    exact ⟨fields, hfields, hname, hkind, ofName?_eq_none_iff.mp hother⟩
  next kind hof =>
    obtain ⟨description, hdescription, hread⟩ := exists_ok_of_bind hread
    rw [readText?_eq_ok_iff] at hdescription
    rw [name_of_ofName? hof] at hkind
    cases kind with
    | constant | «variable» =>
        cases hread
        exact ⟨fields, hfields, hname, hkind, hdescription⟩
    | function =>
        obtain ⟨parameters, hparameters, hread⟩ := exists_ok_of_bind hread
        obtain ⟨returns, hreturns, hread⟩ := exists_ok_of_bind hread
        rw [readParameters_eq_ok_iff] at hparameters hreturns
        cases hread
        exact ⟨fields, hfields, hname, hkind, hdescription, hparameters, hreturns⟩
    | classType =>
        obtain ⟨members, hmembers, hread⟩ := exists_ok_of_bind hread
        obtain ⟨global?, hglobal, hread⟩ := exists_ok_of_bind hread
        obtain ⟨operators, hoperators, hread⟩ := exists_ok_of_bind hread
        rw [readTableOf_eq_ok_iff reads_readText] at hmembers
        rw [readFlag?_eq_ok_iff] at hglobal
        rw [readTableOf_eq_ok_iff reads_readOperator] at hoperators
        cases hread
        exact ⟨fields, hfields, hname, hkind, ⟨description, hdescription⟩, hmembers,
          ⟨global?, hglobal, rfl⟩, hoperators⟩
    | «alias» =>
        obtain ⟨definition, hdefinition, hread⟩ := exists_ok_of_bind hread
        rw [readText_eq_ok_iff] at hdefinition
        cases hread
        exact ⟨fields, hfields, hname, hkind, ⟨description, hdescription⟩, hdefinition⟩

theorem readElement_of_describesElement {value : Value} {element : Element UnitText}
    (hdescribes : DescribesElement value element) :
    readElement (some value) path = .ok element := by
  obtain ⟨fields, hfields, hname, hkind⟩ := hdescribes
  unfold readElement
  simp only [bind_eq_ok_iff, readTable_eq_ok_iff, readText_eq_ok_iff, Option.bind_some]
  cases element with
  | constant name description =>
      obtain ⟨hkind, hdescription⟩ := hkind
      refine ⟨fields, hfields, _, hkind, name, hname, ?_⟩
      exact bind_eq_ok_iff.mpr ⟨description, readText?_eq_ok_iff.mpr hdescription, rfl⟩
  | «variable» name description =>
      obtain ⟨hkind, hdescription⟩ := hkind
      refine ⟨fields, hfields, _, hkind, name, hname, ?_⟩
      exact bind_eq_ok_iff.mpr ⟨description, readText?_eq_ok_iff.mpr hdescription, rfl⟩
  | function name description parameters returns =>
      obtain ⟨hkind, hdescription, hparameters, hreturns⟩ := hkind
      refine ⟨fields, hfields, _, hkind, name, hname, ?_⟩
      refine bind_eq_ok_iff.mpr ⟨description, readText?_eq_ok_iff.mpr hdescription, ?_⟩
      refine bind_eq_ok_iff.mpr ⟨parameters, readParameters_eq_ok_iff.mpr hparameters, ?_⟩
      exact bind_eq_ok_iff.mpr ⟨returns, readParameters_eq_ok_iff.mpr hreturns, rfl⟩
  | classType name members global operators =>
      obtain ⟨hkind, ⟨description, hdescription⟩, hmembers, ⟨global?, hglobal, rfl⟩, hoperators⟩ :=
        hkind
      refine ⟨fields, hfields, _, hkind, name, hname, ?_⟩
      refine bind_eq_ok_iff.mpr ⟨description, readText?_eq_ok_iff.mpr hdescription, ?_⟩
      refine bind_eq_ok_iff.mpr ⟨members, (readTableOf_eq_ok_iff reads_readText).mpr hmembers, ?_⟩
      refine bind_eq_ok_iff.mpr ⟨global?, readFlag?_eq_ok_iff.mpr hglobal, ?_⟩
      exact bind_eq_ok_iff.mpr
        ⟨operators, (readTableOf_eq_ok_iff reads_readOperator).mpr hoperators, rfl⟩
  | «alias» name definition =>
      obtain ⟨hkind, ⟨description, hdescription⟩, hdefinition⟩ := hkind
      refine ⟨fields, hfields, _, hkind, name, hname, ?_⟩
      refine bind_eq_ok_iff.mpr ⟨description, readText?_eq_ok_iff.mpr hdescription, ?_⟩
      exact bind_eq_ok_iff.mpr ⟨definition, readText_eq_ok_iff.mpr hdefinition, rfl⟩
  | unsupported name kindName =>
      obtain ⟨hkind, hother⟩ := hkind
      refine ⟨fields, hfields, _, hkind, name, hname, ?_⟩
      rw [ofName?_eq_none_iff.mpr hother]
      rfl

theorem reads_readElement : Reads readElement DescribesElement :=
  fun _ _ _ => ⟨describesElement_of_readElement, readElement_of_describesElement⟩

theorem readElements_eq_ok_iff (path : String) {fields : Fields}
    {elements : List (Element UnitText)} :
    (∃ values, readArray (elementsField fields) path = .ok values ∧
      readFrom readElement path 0 values = .ok elements) ↔
      GivesList DescribesElement (fields.get? "elements") elements := by
  simp only [readArray_eq_ok_iff, readFrom_eq_ok_iff reads_readElement, elementsField,
    Option.some.injEq]
  cases fields.get? "elements" with
  | none => simp [givesList_none_iff]
  | some value => simp [givesList_some_iff]

theorem reads_readModule : Reads readModule DescribesModule := by
  intro value path m
  unfold readModule DescribesModule
  simp only [bind_eq_ok_iff, readTable_eq_ok_iff, readText?_eq_ok_iff, Option.bind_some,
    ← readElements_eq_ok_iff (path ++ ".elements")]
  constructor
  · rintro ⟨fields, hfields, values, hvalues, space?, hspace, brief?, hbrief, description?,
      hdescription, elements, helements, ⟨⟩⟩
    exact ⟨fields, hfields, ⟨space?, hspace, rfl⟩, ⟨brief?, hbrief, rfl⟩,
      ⟨description?, hdescription, rfl⟩, values, hvalues, helements⟩
  · rintro ⟨fields, hfields, ⟨space?, hspace, hm⟩, ⟨brief?, hbrief, hm'⟩,
      ⟨description?, hdescription, hm''⟩, values, hvalues, helements⟩
    refine ⟨fields, hfields, values, hvalues, space?, hspace, brief?, hbrief, description?,
      hdescription, m.elements, helements, ?_⟩
    rw [← hm, ← hm', ← hm'']
    rfl

theorem readDocument_eq_ok_iff {value : Value} {modules : List (ApiModule UnitText)} :
    readDocument value = .ok modules ↔ Describes value modules := by
  unfold readDocument Describes
  simp only [bind_eq_ok_iff, readTable_eq_ok_iff, Option.bind_some]
  apply exists_congr
  intro fields
  apply and_congr_right
  intro hfields
  cases fields.get? "modules" with
  | none => simp [givesList_none_iff, pure, Except.pure, eq_comm]
  | some value =>
      dsimp only
      rw [readItems_eq_ok_iff reads_readModule, givesList_some_iff]
      simp only [Option.some.injEq]

end ApiModule
end ApiStubs
