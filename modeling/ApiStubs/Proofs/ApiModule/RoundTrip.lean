import ApiStubs.Proofs.ApiModule.Schema
import ApiStubs.Proofs.Document.Json.Writer

/-!
# Writing modules and reading them back

Modules that were read can be written as a JSON document and are read from it again, unit for
unit.  Their tables are in listing order and have no prohibited names because they were
read; nothing else of where they came from matters.
-/

namespace ApiStubs
namespace ApiModule

open Document (Value)
open Document.Json (IsPlain)
open Text (Form UnitText)

/-! ## Writing -/

variable {α : Type}

/-- Fields with texts as their names. -/
def named (entries : List (String × Value)) : Fields :=
  entries.map (fun entry => (Form.ofText entry.1, entry.2))

/-- What may be absent has no entry then. -/
def textField? (name : String) (content? : Option UnitText) : List (String × Value) :=
  content?.toList.map (fun content => (name, .text content))

def flagField? (name : String) (flag? : Option Bool) : List (String × Value) :=
  flag?.toList.map (fun flag => (name, .boolean flag))

def kindField (kind : ElementKind) : String × Value :=
  ("kind", .text (Form.ofText kind.name))

def listValue (valueOf : α → Value) (items : List α) : Value :=
  .array (items.map valueOf)

def tableValue (valueOf : α → Value) (table : Table α UnitText) : Value :=
  .table (table.entries.map (fun entry => (entry.1, valueOf entry.2)))

def operatorFields (operator : Operator UnitText) : List (String × Value) :=
  ("result", .text operator.result) :: textField? "param" operator.operand

def operatorValue (operator : Operator UnitText) : Value :=
  .table (named (operatorFields operator))

def parameterFields (parameter : Parameter UnitText) : List (String × Value) :=
  [("name", .text parameter.name), ("types", listValue .text parameter.types)] ++
    textField? "doc" parameter.doc ++ flagField? "optional" parameter.optional

def parameterValue (parameter : Parameter UnitText) : Value :=
  .table (named (parameterFields parameter))

def elementFields : Element UnitText → List (String × Value)
  | .constant name description =>
      [kindField .constant, ("name", .text name)] ++ textField? "description" description
  | .variable name description =>
      [kindField .variable, ("name", .text name)] ++ textField? "description" description
  | .function name description parameters returns =>
      [kindField .function, ("name", .text name)] ++ textField? "description" description ++
        [("parameters", listValue parameterValue parameters),
          ("returns", listValue parameterValue returns)]
  | .classType name members global operators =>
      [kindField .classType, ("name", .text name), ("fields", tableValue .text members),
        ("global", .boolean global), ("operators", tableValue operatorValue operators)]
  | .alias name definition =>
      [kindField .alias, ("name", .text name), ("definition", .text definition)]
  | .unsupported name kind => [("kind", .text kind), ("name", .text name)]

def elementValue (element : Element UnitText) : Value :=
  .table (named (elementFields element))

def moduleFields (m : ApiModule UnitText) : List (String × Value) :=
  [("namespace", .text m.space), ("brief", .text m.brief), ("description", .text m.description),
    ("elements", listValue elementValue m.elements)]

def moduleValue (m : ApiModule UnitText) : Value :=
  .table (named (moduleFields m))

def documentValue (modules : List (ApiModule UnitText)) : Value :=
  .table (named [("modules", listValue moduleValue modules)])

def write (modules : List (ApiModule UnitText)) : String :=
  Document.Json.render (documentValue modules)

/-! ## Tables that were read -/

/-- The entries stand in listing order, and no name is prohibited. -/
def IsReadTable (table : Table α UnitText) : Prop :=
  Table.Listed table.entries ∧
    ∀ entry ∈ table.entries,
      entry.1 ∉ ["__proto__", "constructor", "prototype"].map Form.ofText

def HasReadTables : Element UnitText → Prop
  | .classType _ members _ operators => IsReadTable members ∧ IsReadTable operators
  | _ => True

variable {β : Type} {gives : Value → α → Prop} {value? : Option Value}

theorem exists_of_mem_forall₂ {rel : β → α → Prop} {bs : List β} {items : List α}
    (hall : List.Forall₂ rel bs items) {a : α} (ha : a ∈ items) : ∃ b ∈ bs, rel b a := by
  induction hall with
  | nil => contradiction
  | @cons b first bs items hfirst hrest ih =>
      rcases List.mem_cons.mp ha with rfl | ha
      · exact ⟨b, List.mem_cons_self, hfirst⟩
      · obtain ⟨other, hother, hrel⟩ := ih ha
        exact ⟨other, List.mem_cons_of_mem b hother, hrel⟩

theorem exists_of_mem_givesList {items : List α} (hitems : GivesList gives value? items) {a : α}
    (ha : a ∈ items) : ∃ value, gives value a := by
  cases hitems with
  | missing => contradiction
  | array hitems =>
      obtain ⟨value, -, hgives⟩ := exists_of_mem_forall₂ hitems ha
      exact ⟨value, hgives⟩

theorem isReadTable_of_givesTable {table : Table α UnitText}
    (htable : GivesTable gives value? table) : IsReadTable table := by
  cases htable with
  | missing => exact ⟨List.Pairwise.nil, nofun⟩
  | table hfields hentries =>
      refine ⟨Table.listed_ofList _, ?_⟩
      intro entry hentry
      obtain ⟨field, -, hkey, hname, -⟩ :=
        exists_of_mem_forall₂ hentries (Table.mem_of_mem_ofList hentry)
      rw [← hname]
      exact hkey

theorem hasReadTables_of_describesElement {value : Value} {element : Element UnitText}
    (hdescribes : DescribesElement value element) : HasReadTables element := by
  obtain ⟨fields, -, -, hkind⟩ := hdescribes
  cases element with
  | classType name members global operators =>
      obtain ⟨-, -, hmembers, -, hoperators⟩ := hkind
      exact ⟨isReadTable_of_givesTable hmembers, isReadTable_of_givesTable hoperators⟩
  | _ => trivial

theorem hasReadTables_of_describes {value : Value} {modules : List (ApiModule UnitText)}
    (hdescribes : Describes value modules) :
    ∀ m ∈ modules, ∀ element ∈ m.elements, HasReadTables element := by
  intro m hm element helement
  obtain ⟨fields, -, hmodules⟩ := hdescribes
  obtain ⟨part, moduleFields, -, -, -, -, helements⟩ := exists_of_mem_givesList hmodules hm
  obtain ⟨value, hvalue⟩ := exists_of_mem_givesList helements helement
  exact hasReadTables_of_describesElement hvalue

/-! ## What is written is JSON -/

theorem isPlain_named {entries : List (String × Value)} {names : List String}
    (hnames : Table.NamesListed names) (hsub : (entries.map (·.1)).Sublist names)
    (hentries : ∀ entry ∈ entries, IsPlain entry.2) : IsPlain (.table (named entries)) := by
  refine .table ?_ (List.forall_mem_map.mpr hentries)
  have hlisted : Table.NamesListed ((entries.map (·.1)).map Form.ofText : List UnitText) :=
    Table.namesListed_map_ofText.mpr (hnames.sublist hsub)
  rw [List.map_map] at hlisted
  rw [Table.Listed, named, List.map_map]
  exact hlisted

theorem isPlain_textField? {name : String} {content? : Option UnitText} :
    ∀ entry ∈ textField? name content?, IsPlain entry.2 :=
  List.forall_mem_map.mpr (fun content _ => .text content)

theorem isPlain_flagField? {name : String} {flag? : Option Bool} :
    ∀ entry ∈ flagField? name flag?, IsPlain entry.2 :=
  List.forall_mem_map.mpr (fun flag _ => .boolean flag)

theorem isPlain_listValue {valueOf : α → Value} {items : List α}
    (hplain : ∀ a ∈ items, IsPlain (valueOf a)) : IsPlain (listValue valueOf items) :=
  .array (List.forall_mem_map.mpr hplain)

theorem isPlain_tableValue {valueOf : α → Value} {table : Table α UnitText}
    (hread : IsReadTable table) (hplain : ∀ a, IsPlain (valueOf a)) :
    IsPlain (tableValue valueOf table) := by
  refine .table ?_ (List.forall_mem_map.mpr (fun entry _ => hplain entry.2))
  rw [Table.Listed, List.map_map]
  exact hread.1

theorem isPlain_operatorValue (operator : Operator UnitText) :
    IsPlain (operatorValue operator) := by
  refine isPlain_named (by decide : Table.NamesListed ["result", "param"]) ?_
    (List.forall_mem_cons.mpr ⟨.text _, isPlain_textField?⟩)
  cases hoperand : operator.operand <;> simp [operatorFields, hoperand, textField?]

theorem isPlain_parameterValue (parameter : Parameter UnitText) :
    IsPlain (parameterValue parameter) := by
  obtain ⟨name, types, doc, optional⟩ := parameter
  refine isPlain_named (by decide : Table.NamesListed ["name", "types", "doc", "optional"]) ?_
    (List.forall_mem_append.mpr ⟨List.forall_mem_append.mpr ⟨?_, isPlain_textField?⟩,
      isPlain_flagField?⟩)
  · cases doc <;> cases optional <;> simp [parameterFields, textField?, flagField?]
  · have htypes : IsPlain (listValue .text types) := isPlain_listValue (fun t _ => .text t)
    simp [IsPlain.text, htypes]

theorem isPlain_elementValue {element : Element UnitText} (htables : HasReadTables element) :
    IsPlain (elementValue element) := by
  have hparameters : ∀ parameters, IsPlain (listValue parameterValue parameters) :=
    fun _ => isPlain_listValue (fun parameter _ => isPlain_parameterValue parameter)
  cases element with
  | constant name description | «variable» name description =>
      refine isPlain_named (by decide : Table.NamesListed ["kind", "name", "description"]) ?_
        (List.forall_mem_append.mpr ⟨?_, isPlain_textField?⟩)
      · cases description <;> simp [elementFields, kindField, textField?]
      · simp [IsPlain.text, kindField]
  | function name description parameters returns =>
      refine isPlain_named (by decide :
          Table.NamesListed ["kind", "name", "description", "parameters", "returns"]) ?_
        (List.forall_mem_append.mpr ⟨List.forall_mem_append.mpr ⟨?_, isPlain_textField?⟩, ?_⟩)
      · cases description <;> simp [elementFields, kindField, textField?]
      · simp [IsPlain.text, kindField]
      · simp [hparameters]
  | classType name members global operators =>
      have hmembers := isPlain_tableValue htables.1 IsPlain.text
      have hoperators := isPlain_tableValue htables.2 isPlain_operatorValue
      refine isPlain_named (by decide :
        Table.NamesListed ["kind", "name", "fields", "global", "operators"]) (.refl _) ?_
      simp [IsPlain.text, IsPlain.boolean, kindField, elementFields, hmembers, hoperators]
  | «alias» name definition =>
      refine isPlain_named (by decide : Table.NamesListed ["kind", "name", "definition"])
        (.refl _) ?_
      simp [IsPlain.text, kindField, elementFields]
  | unsupported name kind =>
      refine isPlain_named (by decide : Table.NamesListed ["kind", "name"]) (.refl _) ?_
      simp [IsPlain.text, elementFields]

theorem isPlain_moduleValue {m : ApiModule UnitText}
    (htables : ∀ element ∈ m.elements, HasReadTables element) : IsPlain (moduleValue m) := by
  have helements : IsPlain (listValue elementValue m.elements) :=
    isPlain_listValue (fun element helement => isPlain_elementValue (htables element helement))
  refine isPlain_named (by decide :
    Table.NamesListed ["namespace", "brief", "description", "elements"]) (.refl _) ?_
  simp [IsPlain.text, moduleFields, helements]

theorem denotes_write {modules : List (ApiModule UnitText)}
    (htables : ∀ m ∈ modules, ∀ element ∈ m.elements, HasReadTables element) :
    Document.Json.Denotes (write modules) (documentValue modules) := by
  have hmodules : IsPlain (listValue moduleValue modules) :=
    isPlain_listValue (fun m hm => isPlain_moduleValue (htables m hm))
  exact Document.Json.denotes_render
    (isPlain_named (by decide : Table.NamesListed ["modules"]) (.refl _) (by simp [hmodules]))

/-! ## What is written describes the modules -/

theorem get?_named (entries : List (String × Value)) (name : String) :
    (named entries).get? name = entries.lookup name :=
  Keyed.lookup_map_key Form.ofText_injective entries

theorem givesList_listValue {valueOf : α → Value} {items : List α}
    (hgives : ∀ a ∈ items, gives (valueOf a) a) :
    GivesList gives (some (listValue valueOf items)) items :=
  .array (List.forall₂_map_left_iff.mpr (List.forall₂_same.mpr hgives))

theorem givesTable_tableValue {valueOf : α → Value} {table : Table α UnitText}
    (hread : IsReadTable table) (hgives : ∀ a, gives (valueOf a) a) :
    GivesTable gives (some (tableValue valueOf table)) table := by
  have htable : GivesTable gives (some (tableValue valueOf table)) (.ofList table.entries) := by
    refine .table rfl (List.forall₂_map_left_iff.mpr (List.forall₂_same.mpr ?_))
    exact fun entry hentry => ⟨hread.2 entry hentry, rfl, hgives entry.2⟩
  rwa [Table.ofList_entries hread.1] at htable

theorem describesOperator_operatorValue (operator : Operator UnitText) :
    DescribesOperator (operatorValue operator) operator := by
  obtain ⟨result, operand⟩ := operator
  refine ⟨_, rfl, ?_⟩
  simp only [get?_named]
  refine ⟨rfl, ?_⟩
  cases operand <;> rfl

theorem describesParameter_parameterValue (parameter : Parameter UnitText) :
    DescribesParameter (parameterValue parameter) parameter := by
  obtain ⟨name, types, doc, optional⟩ := parameter
  refine ⟨_, rfl, ?_⟩
  simp only [get?_named]
  refine ⟨rfl, .list (givesList_listValue fun _ _ => rfl), ?_, ?_⟩
  · cases doc <;> cases optional <;> rfl
  · cases doc <;> cases optional <;> rfl

theorem givesList_parameters (parameters : List (Parameter UnitText)) :
    GivesList DescribesParameter (some (listValue parameterValue parameters)) parameters :=
  givesList_listValue fun parameter _ => describesParameter_parameterValue parameter

theorem describesElement_elementValue {element : Element UnitText}
    (hrenderable : element.isRenderable = true) (htables : HasReadTables element) :
    DescribesElement (elementValue element) element := by
  refine ⟨_, rfl, ?_⟩
  cases element with
  | constant name description | «variable» name description =>
      simp only [DescribesKind, get?_named]
      refine ⟨rfl, rfl, ?_⟩
      cases description <;> rfl
  | function name description parameters returns =>
      simp only [DescribesKind, get?_named]
      refine ⟨rfl, rfl, ?_, ?_, ?_⟩
      · cases description <;> rfl
      · cases description <;> exact givesList_parameters parameters
      · cases description <;> exact givesList_parameters returns
  | classType name members global operators =>
      simp only [DescribesKind, get?_named]
      exact ⟨rfl, rfl, ⟨none, rfl⟩, givesTable_tableValue htables.1 (fun _ => rfl),
        ⟨some global, rfl, rfl⟩, givesTable_tableValue htables.2 describesOperator_operatorValue⟩
  | «alias» name definition =>
      simp only [DescribesKind, get?_named]
      exact ⟨rfl, rfl, ⟨none, rfl⟩, rfl⟩
  | unsupported name kind => contradiction

theorem describesModule_moduleValue {m : ApiModule UnitText}
    (helements : ∀ element ∈ m.elements, DescribesElement (elementValue element) element) :
    DescribesModule (moduleValue m) m := by
  refine ⟨_, rfl, ?_⟩
  simp only [get?_named]
  exact ⟨⟨some m.space, rfl, rfl⟩, ⟨some m.brief, rfl, rfl⟩, ⟨some m.description, rfl, rfl⟩,
    givesList_listValue helements⟩

theorem describes_documentValue {modules : List (ApiModule UnitText)}
    (hmodules : ∀ m ∈ modules, DescribesModule (moduleValue m) m) :
    Describes (documentValue modules) modules := by
  refine ⟨_, rfl, ?_⟩
  rw [get?_named]
  exact givesList_listValue hmodules

theorem describes_of_parseUnits {format : Format} {content : String}
    {modules : List (ApiModule UnitText)} (hparse : parseUnits format content = .ok modules) :
    ∃ value, Describes value modules := by
  unfold parseUnits at hparse
  split at hparse
  next => contradiction
  next value hvalue => exact ⟨value, readDocument_eq_ok_iff.mp hparse⟩

/-- Modules that were read, all of whose elements can be rendered, are read from every JSON text
of their document, and what is written for them is one. -/
theorem parse_written_of_parse {format : Format} {content : String}
    {modules : List (ApiModule UnitText)} (hparse : parseUnits format content = .ok modules)
    (hrenderable : ∀ m ∈ modules, ∀ element ∈ m.elements, element.isRenderable = true) :
    parseUnits .json (write modules) = .ok modules ∧
      ∀ written, Document.Json.Denotes written (documentValue modules) →
        parseUnits .json written = .ok modules := by
  obtain ⟨value, hdescribes⟩ := describes_of_parseUnits hparse
  -- All that is kept of the document is the form of the tables.
  have htables := hasReadTables_of_describes hdescribes
  have hdocument : Describes (documentValue modules) modules := by
    apply describes_documentValue
    intro m hm
    apply describesModule_moduleValue
    intro element helement
    exact describesElement_elementValue (hrenderable m hm element helement)
      (htables m hm element helement)
  have hevery : ∀ written, Document.Json.Denotes written (documentValue modules) →
      parseUnits .json written = .ok modules :=
    fun written hwritten => parseUnits_json_eq_ok_iff.mpr ⟨_, hwritten, hdocument⟩
  exact ⟨hevery _ (denotes_write htables), hevery⟩

/-- A class whose fields are named by halves of surrogate pairs, and a function whose description
has quotes in it. -/
theorem parse_written_of_class_and_function :
    let content := "\x7b\"modules\": [\x7b\"elements\": [" ++
      "\x7b\"kind\": \"class\", \"name\": \"node\", " ++
      "\"fields\": \x7b\"\\ud800\": \"number\", \"\\ud801\": \"string\"\x7d\x7d, " ++
      "\x7b\"kind\": \"function\", \"name\": \"get\", \"description\": \"a \\\"b\\\"\", " ++
      "\"returns\": [\x7b\"name\": \"id\"\x7d]\x7d]\x7d]\x7d"
    let halves : List (UnitText × UnitText) :=
      [(⟨[0xD800]⟩, Form.ofText "number"), (⟨[0xD801]⟩, Form.ofText "string")]
    let modules : List (ApiModule UnitText) := [⟨Form.ofText "", Form.ofText "", Form.ofText "", [
      .classType (Form.ofText "node") (.ofList halves) false .empty,
      .function (Form.ofText "get") (some (Form.ofText "a \"b\"")) []
        [⟨Form.ofText "id", [], none, none⟩]]⟩]
    parseUnits .json content = .ok modules ∧
      (∀ m ∈ modules, ∀ element ∈ m.elements, element.isRenderable = true) ∧
      parseUnits .json (write modules) = .ok modules := by
  intro content halves modules
  have hparse : parseUnits .json content = .ok modules := by decide +kernel
  have hrenderable : ∀ m ∈ modules, ∀ element ∈ m.elements, element.isRenderable = true := by
    decide +kernel
  exact ⟨hparse, hrenderable, (parse_written_of_parse hparse hrenderable).1⟩

end ApiModule
end ApiStubs
