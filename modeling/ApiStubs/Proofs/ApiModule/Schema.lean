import ApiStubs.Proofs.ApiModule.Description
import ApiStubs.Proofs.Document.Json

/-!
# The schema of descriptors

Which documents describe modules.  The shape of a part only says what must be there and
what may be there in which form; that the part describes something then follows from the
fields one by one.
-/

namespace ApiStubs
namespace ApiModule

open Document (Allows MomentFree Requires Value)
open Text (Form UnitText)

/-! ## Shapes -/

def IsOperator (value : Value) : Prop :=
  ∃ fields, value = .table fields ∧
    Requires "result" Value.IsText fields ∧ Allows "param" Value.IsText fields

def IsTypes (value : Value) : Prop :=
  value = .null ∨ value.IsListOf Value.IsText

def IsParameter (value : Value) : Prop :=
  ∃ fields, value = .table fields ∧
    Requires "name" Value.IsText fields ∧ Allows "types" IsTypes fields ∧
    Allows "doc" Value.IsText fields ∧ Allows "optional" Value.IsFlag fields

/-- The fields that only elements of a kind have. -/
def HasParts (fields : Fields) : ElementKind → Prop
  | .constant => True
  | .variable => True
  | .function =>
      Allows "parameters" (Value.IsListOf IsParameter) fields ∧
      Allows "returns" (Value.IsListOf IsParameter) fields
  | .classType =>
      Allows "fields" (Value.IsTableOf Value.IsText) fields ∧
      Allows "global" Value.IsFlag fields ∧
      Allows "operators" (Value.IsTableOf IsOperator) fields
  | .alias => Requires "definition" Value.IsText fields

/-- A kind that is not supported asks for no more fields. -/
def HasKind (fields : Fields) : Prop :=
  ∃ kindName, fields.get? "kind" = some (.text kindName) ∧
    ∀ kind : ElementKind, Form.ofText kind.name = kindName →
      Allows "description" Value.IsText fields ∧ HasParts fields kind

def IsElement (value : Value) : Prop :=
  ∃ fields, value = .table fields ∧ Requires "name" Value.IsText fields ∧ HasKind fields

def IsModule (value : Value) : Prop :=
  ∃ fields, value = .table fields ∧
    Allows "namespace" Value.IsText fields ∧ Allows "brief" Value.IsText fields ∧
    Allows "description" Value.IsText fields ∧
    Allows "elements" (Value.IsListOf IsElement) fields

def IsDescriptor (value : Value) : Prop :=
  ∃ fields, value = .table fields ∧ Allows "modules" (Value.IsListOf IsModule) fields

/-! ## Shapes decide descriptions -/

variable {α : Type} {gives : Value → α → Prop} {shape : Value → Prop} {fields : Fields}
  {name : String}

/-- A value gives something exactly if it has the shape. -/
def Decides (shape : Value → Prop) (gives : Value → α → Prop) : Prop :=
  ∀ value, value.holdsMoment = false → ((∃ a, gives value a) ↔ shape value)

theorem exists_forall₂_iff {β : Type} {rel : β → α → Prop} {bs : List β} :
    (∃ items, List.Forall₂ rel bs items) ↔ ∀ b ∈ bs, ∃ a, rel b a := by
  induction bs with
  | nil => simp
  | cons b bs ih =>
      rw [List.forall_mem_cons, ← ih]
      constructor
      · rintro ⟨items, hitems⟩
        obtain ⟨first, rest, hfirst, hrest, -⟩ := List.forall₂_cons_left_iff.mp hitems
        exact ⟨⟨first, hfirst⟩, rest, hrest⟩
      · rintro ⟨⟨first, hfirst⟩, rest, hrest⟩
        exact ⟨first :: rest, .cons hfirst hrest⟩

theorem allows_iff : Allows name shape fields ↔ ∀ value ∈ fields.get? name, shape value :=
  Iff.rfl

theorem exists_lookup_text_iff :
    (∃ content, fields.get? name = some (.text content)) ↔
      Requires name Value.IsText fields := by
  simp only [Requires, Value.IsText]
  constructor
  · rintro ⟨content, hcontent⟩
    exact ⟨_, hcontent, content, rfl⟩
  · rintro ⟨_, hcontent, content, rfl⟩
    exact ⟨content, hcontent⟩

theorem exists_eq_map_iff {β : Type} {f : β → Value} {value? : Option Value} :
    (∃ b? : Option β, value? = b?.map f) ↔ ∀ value ∈ value?, ∃ b, value = f b := by
  constructor
  · rintro ⟨b?, rfl⟩ value hvalue
    obtain ⟨b, -, rfl⟩ := Option.map_eq_some_iff.mp hvalue
    exact ⟨b, rfl⟩
  · intro hall
    cases value? with
    | none => exact ⟨none, rfl⟩
    | some value =>
        obtain ⟨b, rfl⟩ := hall value rfl
        exact ⟨some b, rfl⟩

theorem exists_lookup_text?_iff :
    (∃ content? : Option UnitText, fields.get? name = content?.map .text) ↔
      Allows name Value.IsText fields :=
  exists_eq_map_iff

theorem exists_lookup_flag?_iff :
    (∃ flag? : Option Bool, fields.get? name = flag?.map .boolean) ↔
      Allows name Value.IsFlag fields :=
  exists_eq_map_iff

theorem exists_givesTextOr_iff (default : UnitText) :
    (∃ content, GivesTextOr default (fields.get? name) content) ↔
      Allows name Value.IsText fields := by
  rw [← exists_lookup_text?_iff]
  constructor
  · rintro ⟨content, content?, hcontent, -⟩
    exact ⟨content?, hcontent⟩
  · rintro ⟨content?, hcontent⟩
    exact ⟨_, content?, hcontent, rfl⟩

theorem exists_givesFlagOr_iff (default : Bool) :
    (∃ flag, GivesFlagOr default (fields.get? name) flag) ↔
      Allows name Value.IsFlag fields := by
  rw [← exists_lookup_flag?_iff]
  constructor
  · rintro ⟨flag, flag?, hflag, -⟩
    exact ⟨flag?, hflag⟩
  · rintro ⟨flag?, hflag⟩
    exact ⟨_, flag?, hflag, rfl⟩

theorem decides_text : Decides Value.IsText GivesText :=
  fun _ _ => Iff.rfl

theorem exists_givesList_iff (hdecides : Decides shape gives) (hfields : MomentFree fields) :
    (∃ items, GivesList gives (fields.get? name) items) ↔
      Allows name (Value.IsListOf shape) fields := by
  rw [allows_iff]
  cases hvalue : fields.get? name with
  | none => exact ⟨fun _ => nofun, fun _ => ⟨[], .missing⟩⟩
  | some value =>
      have hmoment := hfields.lookup hvalue
      simp only [Option.mem_def, Option.some.injEq, forall_eq']
      constructor
      · rintro ⟨items, hitems⟩
        cases hitems with
        | array hitems =>
            rw [Value.holdsMoment_array] at hmoment
            rw [Value.isListOf_array]
            intro value hvalue
            exact (hdecides value (hmoment value hvalue)).mp
              (exists_forall₂_iff.mp ⟨items, hitems⟩ value hvalue)
      · rintro ⟨values, rfl, hvalues⟩
        rw [Value.holdsMoment_array] at hmoment
        obtain ⟨items, hitems⟩ := exists_forall₂_iff.mpr (fun value hvalue =>
          (hdecides value (hmoment value hvalue)).mpr (hvalues value hvalue))
        exact ⟨items, .array hitems⟩

theorem exists_givesTable_iff (hdecides : Decides shape gives) (hfields : MomentFree fields) :
    (∃ table, GivesTable gives (fields.get? name) table) ↔
      Allows name (Value.IsTableOf shape) fields := by
  have hentry : ∀ entry : UnitText × Value, entry.2.holdsMoment = false →
      ((∃ given, GivesEntry gives entry given) ↔
        entry.1 ∉ ["__proto__", "constructor", "prototype"].map Form.ofText ∧ shape entry.2) := by
    intro entry hmoment
    rw [← hdecides entry.2 hmoment]
    constructor
    · rintro ⟨given, hkey, -, hgiven⟩
      exact ⟨hkey, given.2, hgiven⟩
    · rintro ⟨hkey, a, ha⟩
      exact ⟨(entry.1, a), hkey, rfl, ha⟩
  rw [allows_iff]
  cases hvalue : fields.get? name with
  | none => exact ⟨fun _ => nofun, fun _ => ⟨.empty, .missing⟩⟩
  | some value =>
      have hmoment := hfields.lookup hvalue
      simp only [Option.mem_def, Option.some.injEq, forall_eq']
      constructor
      · rintro ⟨table, htable⟩
        cases htable with
        | @table value members entries hmembers hentries =>
            obtain rfl := (Value.entries?_eq_some_iff hmoment).mp hmembers
            rw [Value.holdsMoment_table] at hmoment
            rw [Value.isTableOf_table]
            intro member hmember
            exact (hentry member (hmoment member hmember)).mp
              (exists_forall₂_iff.mp ⟨entries, hentries⟩ member hmember)
      · rintro ⟨members, rfl, hmembers⟩
        rw [Value.holdsMoment_table] at hmoment
        obtain ⟨entries, hentries⟩ := exists_forall₂_iff.mpr (fun member hmember =>
          (hentry member (hmoment member hmember)).mpr (hmembers member hmember))
        exact ⟨.ofList entries, .table rfl hentries⟩

theorem exists_givesTypes_iff (hfields : MomentFree fields) :
    (∃ types, GivesTypes (fields.get? name) types) ↔ Allows name IsTypes fields := by
  have hcases : Allows name IsTypes fields ↔
      fields.get? name = some .null ∨ Allows name (Value.IsListOf Value.IsText) fields := by
    rw [allows_iff, allows_iff]
    cases fields.get? name <;> simp [IsTypes]
  rw [hcases, ← exists_givesList_iff decides_text hfields]
  constructor
  · rintro ⟨types, htypes⟩
    generalize fields.get? name = value? at htypes
    cases htypes with
    | null => exact .inl rfl
    | list htypes => exact .inr ⟨types, htypes⟩
  · rintro (hnull | ⟨types, htypes⟩)
    · rw [hnull]
      exact ⟨[], .null⟩
    · exact ⟨types, .list htypes⟩

/-! ## Parts -/

/-- A part is decided on its fields if it is a table that gives it. -/
theorem decides_of_fields {hasFields : Fields → Prop} {givesFields : Fields → α → Prop}
    (hdecides : ∀ fields, MomentFree fields → ((∃ a, givesFields fields a) ↔ hasFields fields)) :
    Decides (fun value => ∃ fields, value = .table fields ∧ hasFields fields)
      (fun value a => ∃ fields, value.entries? = some fields ∧ givesFields fields a) := by
  intro value hmoment
  constructor
  · rintro ⟨a, fields, hfields, ha⟩
    obtain rfl := (Value.entries?_eq_some_iff hmoment).mp hfields
    rw [Value.holdsMoment_table] at hmoment
    exact ⟨fields, rfl, (hdecides fields hmoment).mp ⟨a, ha⟩⟩
  · rintro ⟨fields, rfl, hfields⟩
    rw [Value.holdsMoment_table] at hmoment
    obtain ⟨a, ha⟩ := (hdecides fields hmoment).mpr hfields
    exact ⟨a, fields, rfl, ha⟩

theorem decides_operator : Decides IsOperator DescribesOperator := by
  apply decides_of_fields
  intro fields hfields
  rw [← exists_lookup_text_iff, ← exists_lookup_text?_iff]
  constructor
  · rintro ⟨operator, hresult, hoperand⟩
    exact ⟨⟨_, hresult⟩, _, hoperand⟩
  · rintro ⟨⟨result, hresult⟩, operand, hoperand⟩
    exact ⟨⟨result, operand⟩, hresult, hoperand⟩

theorem decides_parameter : Decides IsParameter DescribesParameter := by
  apply decides_of_fields
  intro fields hfields
  rw [← exists_lookup_text_iff, ← exists_lookup_text?_iff, ← exists_lookup_flag?_iff,
    ← exists_givesTypes_iff hfields]
  constructor
  · rintro ⟨parameter, hname, htypes, hdoc, hoptional⟩
    exact ⟨⟨_, hname⟩, ⟨_, htypes⟩, ⟨_, hdoc⟩, _, hoptional⟩
  · rintro ⟨⟨name, hname⟩, ⟨types, htypes⟩, ⟨doc, hdoc⟩, optional, hoptional⟩
    exact ⟨⟨name, types, doc, optional⟩, hname, htypes, hdoc, hoptional⟩

theorem elementKindName_injective : Function.Injective ElementKind.name := by
  intro kind other hname
  cases kind <;> cases other <;> first | rfl | exact absurd hname (by decide)

theorem name_mem_supported (kind : ElementKind) :
    kind.name ∈ ["constant", "function", "variable", "class", "alias"] := by
  cases kind <;> decide

theorem hasKind_of_kind (kind : ElementKind)
    (hkind : fields.get? "kind" = some (.text (Form.ofText kind.name)))
    (hdescription : Allows "description" Value.IsText fields) (hparts : HasParts fields kind) :
    HasKind fields := by
  refine ⟨Form.ofText kind.name, hkind, ?_⟩
  intro other hother
  rw [elementKindName_injective (Form.ofText_injective hother)]
  exact ⟨hdescription, hparts⟩

theorem hasKind_of_describesKind (hfields : MomentFree fields) {element : Element UnitText}
    (hdescribes : DescribesKind fields element) : HasKind fields := by
  cases element with
  | constant name description =>
      obtain ⟨hkind, hdescription⟩ := hdescribes
      exact hasKind_of_kind .constant hkind
        (exists_lookup_text?_iff.mp ⟨_, hdescription⟩) trivial
  | «variable» name description =>
      obtain ⟨hkind, hdescription⟩ := hdescribes
      exact hasKind_of_kind .variable hkind
        (exists_lookup_text?_iff.mp ⟨_, hdescription⟩) trivial
  | function name description parameters returns =>
      obtain ⟨hkind, hdescription, hparameters, hreturns⟩ := hdescribes
      exact hasKind_of_kind .function hkind
        (exists_lookup_text?_iff.mp ⟨_, hdescription⟩)
        ⟨(exists_givesList_iff decides_parameter hfields).mp ⟨_, hparameters⟩,
          (exists_givesList_iff decides_parameter hfields).mp ⟨_, hreturns⟩⟩
  | classType name members global operators =>
      obtain ⟨hkind, hdescription, hmembers, hglobal, hoperators⟩ := hdescribes
      exact hasKind_of_kind .classType hkind
        (exists_lookup_text?_iff.mp hdescription)
        ⟨(exists_givesTable_iff decides_text hfields).mp ⟨_, hmembers⟩,
          (exists_givesFlagOr_iff false).mp ⟨_, hglobal⟩,
          (exists_givesTable_iff decides_operator hfields).mp ⟨_, hoperators⟩⟩
  | «alias» name definition =>
      obtain ⟨hkind, hdescription, hdefinition⟩ := hdescribes
      exact hasKind_of_kind .alias hkind
        (exists_lookup_text?_iff.mp hdescription) (exists_lookup_text_iff.mp ⟨_, hdefinition⟩)
  | unsupported name kindName =>
      obtain ⟨hkind, hother⟩ := hdescribes
      refine ⟨kindName, hkind, ?_⟩
      rintro kind rfl
      exact absurd (List.mem_map_of_mem (name_mem_supported kind)) hother

theorem exists_describesKind_of_hasKind (hfields : MomentFree fields) (hkind : HasKind fields)
    (name : UnitText) :
    ∃ element : Element UnitText, element.name = name ∧ DescribesKind fields element := by
  obtain ⟨kindName, hkind, hparts⟩ := hkind
  cases hof : ElementKind.ofName? kindName with
  | none => exact ⟨.unsupported name kindName, rfl, hkind, ofName?_eq_none_iff.mp hof⟩
  | some kind =>
      obtain rfl := name_of_ofName? hof
      obtain ⟨hdescription, hparts⟩ := hparts kind rfl
      obtain ⟨description, hdescription⟩ := exists_lookup_text?_iff.mpr hdescription
      cases kind with
      | constant => exact ⟨.constant name description, rfl, hkind, hdescription⟩
      | «variable» => exact ⟨.variable name description, rfl, hkind, hdescription⟩
      | function =>
          obtain ⟨hparameters, hreturns⟩ := hparts
          obtain ⟨parameters, hparameters⟩ :=
            (exists_givesList_iff decides_parameter hfields).mpr hparameters
          obtain ⟨returns, hreturns⟩ :=
            (exists_givesList_iff decides_parameter hfields).mpr hreturns
          exact ⟨.function name description parameters returns, rfl, hkind, hdescription,
            hparameters, hreturns⟩
      | classType =>
          obtain ⟨hmembers, hglobal, hoperators⟩ := hparts
          obtain ⟨members, hmembers⟩ := (exists_givesTable_iff decides_text hfields).mpr hmembers
          obtain ⟨global, hglobal⟩ := (exists_givesFlagOr_iff false).mpr hglobal
          obtain ⟨operators, hoperators⟩ :=
            (exists_givesTable_iff decides_operator hfields).mpr hoperators
          exact ⟨.classType name members global operators, rfl, hkind,
            ⟨description, hdescription⟩, hmembers, hglobal, hoperators⟩
      | «alias» =>
          obtain ⟨definition, hdefinition⟩ := exists_lookup_text_iff.mpr hparts
          exact ⟨.alias name definition, rfl, hkind, ⟨description, hdescription⟩, hdefinition⟩

theorem decides_element : Decides IsElement DescribesElement := by
  apply decides_of_fields
  intro fields hfields
  rw [← exists_lookup_text_iff]
  constructor
  · rintro ⟨element, hname, hkind⟩
    exact ⟨⟨_, hname⟩, hasKind_of_describesKind hfields hkind⟩
  · rintro ⟨⟨name, hname⟩, hkind⟩
    obtain ⟨element, rfl, hkind⟩ := exists_describesKind_of_hasKind hfields hkind name
    exact ⟨element, hname, hkind⟩

theorem decides_module : Decides IsModule DescribesModule := by
  apply decides_of_fields
  intro fields hfields
  have htext : ∀ name, Allows name Value.IsText fields ↔
      ∃ content, GivesTextOr (Form.ofText "") (Fields.get? fields name) content :=
    fun _ => (exists_givesTextOr_iff _).symm
  rw [htext, htext, htext, ← exists_givesList_iff decides_element hfields]
  constructor
  · rintro ⟨m, hspace, hbrief, hdescription, helements⟩
    exact ⟨⟨_, hspace⟩, ⟨_, hbrief⟩, ⟨_, hdescription⟩, _, helements⟩
  · rintro ⟨⟨space, hspace⟩, ⟨brief, hbrief⟩, ⟨description, hdescription⟩, elements, helements⟩
    exact ⟨⟨space, brief, description, elements⟩, hspace, hbrief, hdescription, helements⟩

theorem decides_descriptor : Decides IsDescriptor Describes :=
  decides_of_fields (fun _ hfields => exists_givesList_iff decides_module hfields)

/-! ## Documents -/

theorem parseUnits_json_eq_ok_iff {content : String} {modules : List (ApiModule UnitText)} :
    parseUnits .json content = .ok modules ↔
      ∃ value, Document.Json.Denotes content value ∧ Describes value modules := by
  simp only [parseUnits, valueOf?, ← readDocument_eq_ok_iff, ← Document.Json.parse?_eq_some_iff]
  cases Document.Json.parse? content <;> simp

/-- A JSON text gives modules exactly if it is a document that describes them, and a document
describes modules exactly if it follows the schema. -/
theorem parse_json_follows_schema {content : String} :
    (∀ modules, parseUnits .json content = .ok modules ↔
      ∃ value, Document.Json.Denotes content value ∧ Describes value modules) ∧
      ((∃ modules, parseUnits .json content = .ok modules) ↔
        ∃ value, Document.Json.Denotes content value ∧ IsDescriptor value) := by
  refine ⟨fun modules => parseUnits_json_eq_ok_iff, ?_⟩
  simp only [parseUnits_json_eq_ok_iff]
  rw [exists_comm]
  apply exists_congr
  intro value
  rw [exists_and_left]
  apply and_congr_right
  intro hdenotes
  exact decides_descriptor value (Document.Json.holdsMoment_of_denotes hdenotes)

/-- Names that are different halves of surrogate pairs are different names. -/
example : parseUnits .json ("\x7b\"modules\": [\x7b\"elements\": [\x7b\"kind\": \"class\", " ++
    "\"name\": \"node\", \"fields\": \x7b\"\\ud800\": 5, \"\\ud801\": \"b\"\x7d\x7d]\x7d]\x7d") =
      .error (.wrongKind "modules[0].elements[0].fields.\ufffd" "string" "number") := by
  decide +kernel

end ApiModule
end ApiStubs
