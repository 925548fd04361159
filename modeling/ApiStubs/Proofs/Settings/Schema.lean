import ApiStubs.Proofs.Document.Shape
import ApiStubs.Proofs.Settings.Reader

/-!
# The schema of settings

A document gives settings exactly if its known sections are tables and its known fields
have their shapes.  The readers go through the schema field by field, so that one lemma for
a field and one for a section are put together along it.
-/

namespace ApiStubs
namespace Settings

open Document (Allows MomentFree Value)

/-- The known fields of a part of a document, with the shapes that they must have. -/
abbrev Shapes := List (String × (Value → Prop))

def outputShapes : Shapes := [
  ("folder", Value.IsText),
  ("extension", Value.IsText),
  ("generator_url", Value.IsText),
  ("product", Value.IsText),
  ("class_prefix", Value.IsText),
  ("disabled_diagnostics", Value.IsListOf Value.IsText)]

def typeShapes : Shapes := [
  ("known", Value.IsListOf Value.IsText),
  ("extra_known", Value.IsListOf Value.IsText),
  ("unknown", Value.IsText),
  ("classes", Value.IsListOf Value.IsText),
  ("aliases", Value.IsListOf Value.IsText),
  ("generics", Value.IsTableOf Value.IsText)]

def replacementShapes : Shapes := [
  ("types", Value.IsTableOf Value.IsText),
  ("names", Value.IsTableOf Value.IsText),
  ("local_types", Value.IsTableOf (Value.IsTableOf Value.IsText)),
  ("local_names", Value.IsTableOf (Value.IsTableOf Value.IsText))]

def ignoreShapes : Shapes := [
  ("functions", Value.IsListOf Value.IsText)]

def generationShapes : Shapes := [
  ("strict", Value.IsFlag),
  ("debug", Value.IsFlag)]

/-- The known sections, in the order in which they are read. -/
def schema : List (String × Shapes) := [
  ("output", outputShapes),
  ("types", typeShapes),
  ("replacements", replacementShapes),
  ("ignore", ignoreShapes),
  ("generation", generationShapes)]

/-- Of the fields with a shape those that are there have it. -/
def HasShapes (shapes : Shapes) (fields : Fields) : Prop :=
  ∀ shape ∈ shapes, Allows shape.1 shape.2 fields

/-- Of the sections those that are there are tables whose fields have their shapes. -/
def FollowsSections (sections : List (String × Shapes)) (root : Fields) : Prop :=
  ∀ part ∈ sections, ∀ value ∈ root.lookup part.1,
    ∃ fields, value = .table fields ∧ HasShapes part.2 fields

def FollowsSchema (root : Fields) : Prop :=
  FollowsSections schema root

/-- The names of the fields that a section is known to have. -/
def knownNames (part : String) : List String :=
  ((schema.lookup part).getD []).map (·.1)

def knownFields (part : String) : Value → Value
  | .table fields => .table (fields.filter (fun field => field.1 ∈ knownNames part))
  | value => value

/-- The known sections of a document, with their known fields. -/
def knownPart (root : Fields) : Fields :=
  (root.filter (fun part => part.1 ∈ schema.map (·.1))).map
    (fun part => (part.1, knownFields part.1 part.2))

/-! ## Shapes decide reading -/

/-- A value is read exactly if it has the shape. -/
def Accepts {α : Type} (read : Value → String → Reading α) (shape : Value → Prop) : Prop :=
  ∀ value path, value.holdsMoment = false → ((∃ a, read value path = .ok a) ↔ shape value)

theorem accepts_readText : Accepts readText Value.IsText := by
  intro value path _
  unfold readText Value.IsText
  cases value <;> simp [Value.text?, mismatch]

theorem accepts_readFlag : Accepts readFlag Value.IsFlag := by
  intro value path _
  unfold readFlag Value.IsFlag
  cases value <;> simp [Value.boolean?, mismatch]

theorem exists_readTextsFrom_iff {path : String} {index : Nat} {items : List Value}
    (hitems : ∀ item ∈ items, item.holdsMoment = false) :
    (∃ texts, readTextsFrom path index items = .ok texts) ↔ ∀ item ∈ items, item.IsText := by
  induction items generalizing index with
  | nil => simp [readTextsFrom]
  | cons item items ih =>
      rw [List.forall_mem_cons] at hitems ⊢
      rw [readTextsFrom]
      refine exists_ok_bind_iff (accepts_readText _ _ hitems.1) (fun first _ => ?_)
      rw [exists_ok_bind_pure_iff, ih hitems.2]

theorem accepts_readTexts : Accepts readTexts (Value.IsListOf Value.IsText) := by
  intro value path hmoment
  unfold readTexts
  cases value with
  | array items =>
      rw [Value.holdsMoment_array] at hmoment
      rw [Value.isListOf_array]
      exact exists_readTextsFrom_iff hmoment
  | _ => simp [Value.IsListOf, Value.items?, mismatch]

variable {α β : Type} {read : Value → String → Reading α} {shape : Value → Prop}

theorem exists_readEntries_iff (haccepts : Accepts read shape) {path : String} {fields : Fields}
    (hfields : ∀ field ∈ fields, field.2.holdsMoment = false) :
    (∃ entries, readEntries read path fields = .ok entries) ↔
      ∀ field ∈ fields, field.1 ∉ prohibitedKeys ∧ shape field.2 := by
  induction fields with
  | nil => simp [readEntries]
  | cons field fields ih =>
      obtain ⟨key, value⟩ := field
      rw [List.forall_mem_cons] at hfields ⊢
      rw [readEntries]
      split
      next hkey =>
        refine ⟨?_, fun hall => absurd hkey hall.1.1⟩
        rintro ⟨entries, hentries⟩
        contradiction
      next hkey =>
        rw [and_iff_right hkey]
        refine exists_ok_bind_iff (haccepts _ _ hfields.1) (fun first _ => ?_)
        rw [exists_ok_bind_pure_iff, ih hfields.2]

theorem accepts_readTable (haccepts : Accepts read shape) :
    Accepts (readTable read) (Value.IsTableOf shape) := by
  intro value path hmoment
  unfold readTable
  cases value with
  | table entries =>
      rw [Value.holdsMoment_table] at hmoment
      rw [Value.isTableOf_table]
      exact exists_ok_map_iff.trans (exists_readEntries_iff haccepts hmoment)
  | moment kind => simp [Value.holdsMoment] at hmoment
  | _ => simp [Value.IsTableOf, Value.entries?, mismatch]

/-! ## Along the schema -/

variable {fields root : Fields} {name : String} {shapes : Shapes}

theorem hasShapes_nil : HasShapes [] fields := by
  simp [HasShapes]

theorem hasShapes_cons : HasShapes ((name, shape) :: shapes) fields ↔
    Allows name shape fields ∧ HasShapes shapes fields :=
  List.forall_mem_cons

theorem exists_readField_iff (haccepts : Accepts read shape) (hfields : MomentFree fields)
    {part : String} {default : α} :
    (∃ a, readField read part fields name default = .ok a) ↔ Allows name shape fields := by
  unfold readField readField? Allows
  rw [exists_ok_map_iff, Text.Form.ofText_string]
  cases hvalue : fields.lookup name with
  | none => simp
  | some value =>
      dsimp only
      rw [exists_ok_map_iff, haccepts value _ (hfields.lookup hvalue)]
      simp

theorem exists_pure_iff_hasShapes_nil {a : α} :
    (∃ b, (pure a : Reading α) = .ok b) ↔ HasShapes [] fields :=
  ⟨fun _ => hasShapes_nil, fun _ => ⟨a, rfl⟩⟩

/-- A section is read field by field. -/
theorem exists_readField_bind_iff (haccepts : Accepts read shape) (hfields : MomentFree fields)
    {part : String} {default : α} {next : α → Reading β}
    (hnext : ∀ a, (∃ b, next a = .ok b) ↔ HasShapes shapes fields) :
    (∃ b, (readField read part fields name default >>= next) = .ok b) ↔
      HasShapes ((name, shape) :: shapes) fields := by
  rw [hasShapes_cons]
  exact exists_ok_bind_iff (exists_readField_iff haccepts hfields) (fun a _ => hnext a)

theorem exists_readOutput_iff (hfields : MomentFree fields) :
    (∃ output, readOutput fields = .ok output) ↔ HasShapes outputShapes fields := by
  refine exists_readField_bind_iff accepts_readText hfields (fun folder => ?_)
  refine exists_readField_bind_iff accepts_readText hfields (fun extension => ?_)
  refine exists_readField_bind_iff accepts_readText hfields (fun generatorUrl => ?_)
  refine exists_readField_bind_iff accepts_readText hfields (fun product => ?_)
  refine exists_readField_bind_iff accepts_readText hfields (fun classPrefix => ?_)
  refine exists_readField_bind_iff accepts_readTexts hfields (fun disabled => ?_)
  exact exists_pure_iff_hasShapes_nil

theorem exists_readTypes_iff (hfields : MomentFree fields) :
    (∃ types, readTypes fields = .ok types) ↔ HasShapes typeShapes fields := by
  refine exists_readField_bind_iff accepts_readTexts hfields (fun known => ?_)
  refine exists_readField_bind_iff accepts_readTexts hfields (fun extra => ?_)
  refine exists_readField_bind_iff accepts_readText hfields (fun unknown => ?_)
  refine exists_readField_bind_iff accepts_readTexts hfields (fun classes => ?_)
  refine exists_readField_bind_iff accepts_readTexts hfields (fun aliases => ?_)
  refine exists_readField_bind_iff (accepts_readTable accepts_readText) hfields
    (fun generics => ?_)
  exact exists_pure_iff_hasShapes_nil

theorem exists_readReplacements_iff (hfields : MomentFree fields) :
    (∃ replacements, readReplacements fields = .ok replacements) ↔
      HasShapes replacementShapes fields := by
  have htable := accepts_readTable accepts_readText
  refine exists_readField_bind_iff htable hfields (fun types => ?_)
  refine exists_readField_bind_iff htable hfields (fun names => ?_)
  refine exists_readField_bind_iff (accepts_readTable htable) hfields (fun localTypes => ?_)
  refine exists_readField_bind_iff (accepts_readTable htable) hfields (fun localNames => ?_)
  exact exists_pure_iff_hasShapes_nil

theorem exists_readIgnored_iff (hfields : MomentFree fields) :
    (∃ ignored, readField readTexts "ignore" fields "functions" [] = .ok ignored) ↔
      HasShapes ignoreShapes fields := by
  rw [exists_readField_iff accepts_readTexts hfields, ignoreShapes, hasShapes_cons]
  exact (and_iff_left hasShapes_nil).symm

theorem exists_readGeneration_iff (hfields : MomentFree fields) :
    (∃ generation, readGeneration fields = .ok generation) ↔
      HasShapes generationShapes fields := by
  refine exists_readField_bind_iff accepts_readFlag hfields (fun strict => ?_)
  refine exists_readField_bind_iff accepts_readFlag hfields (fun debug => ?_)
  exact exists_pure_iff_hasShapes_nil

theorem followsSections_cons {sections : List (String × Shapes)} :
    FollowsSections ((name, shapes) :: sections) root ↔
      (∀ value ∈ root.lookup name, ∃ fields, value = .table fields ∧ HasShapes shapes fields) ∧
        FollowsSections sections root :=
  List.forall_mem_cons

/-- A document is read section by section. -/
theorem exists_readSection_bind_iff (hroot : MomentFree root) {readFields : Fields → Reading α}
    (hread : ∀ {fields}, MomentFree fields →
      ((∃ a, readFields fields = .ok a) ↔ HasShapes shapes fields))
    {next : α → Reading β} {sections : List (String × Shapes)}
    (hnext : ∀ a, (∃ b, next a = .ok b) ↔ FollowsSections sections root) :
    (∃ b, (readSection root name >>= fun fields => readFields fields >>= next) = .ok b) ↔
      FollowsSections ((name, shapes) :: sections) root := by
  rw [followsSections_cons, ← bind_assoc]
  refine exists_ok_bind_iff ?_ (fun a _ => hnext a)
  unfold readSection
  cases hvalue : root.lookup name with
  | none =>
      -- A missing section is read as one without fields, which asks nothing of any shape.
      have hempty : HasShapes shapes [] := by simp [HasShapes, Allows]
      have hnone : MomentFree ([] : Fields) := nofun
      simpa [ok_bind, hempty] using hread hnone
  | some value =>
      have hmoment := hroot.lookup hvalue
      cases value with
      | table fields =>
          rw [Value.holdsMoment_table] at hmoment
          simpa [ok_bind, Value.entries?] using hread hmoment
      | moment kind => simp [Value.holdsMoment] at hmoment
      | _ => simp [error_bind, Value.entries?, mismatch]

theorem exists_readDocument_iff (hroot : MomentFree root) :
    (∃ settings, readDocument root = .ok settings) ↔ FollowsSchema root := by
  refine exists_readSection_bind_iff hroot exists_readOutput_iff (fun output => ?_)
  refine exists_readSection_bind_iff hroot exists_readTypes_iff (fun types => ?_)
  refine exists_readSection_bind_iff hroot exists_readReplacements_iff (fun replacements => ?_)
  refine exists_readSection_bind_iff hroot exists_readIgnored_iff (fun ignored => ?_)
  refine exists_readSection_bind_iff hroot exists_readGeneration_iff (fun generation => ?_)
  simp [FollowsSections, pure, Except.pure]

/-! ## What is not in the schema -/

/-- The fields that are to have shapes are the same in both. -/
def SameOn (shapes : Shapes) (fields others : Fields) : Prop :=
  ∀ shape ∈ shapes, fields.lookup shape.1 = others.lookup shape.1

theorem sameOn_knownFields (hpart : schema.lookup name = some shapes) :
    SameOn shapes (fields.filter (fun field => field.1 ∈ knownNames name)) fields := by
  intro shape hshape
  apply Keyed.lookup_filter_of_key (· ∈ knownNames name)
  simp only [decide_eq_true_eq, knownNames, hpart, Option.getD_some]
  exact List.mem_map_of_mem hshape

theorem lookup_knownPart (hpart : schema.lookup name = some shapes) :
    (knownPart root).lookup name = (root.lookup name).map (knownFields name) := by
  unfold knownPart
  rw [Keyed.lookup_map_entry, Keyed.lookup_filter_of_key (· ∈ schema.map (·.1))]
  exact decide_eq_true (List.mem_map_of_mem (Keyed.mem_of_lookup hpart))

/-- A step that looks at the known fields of a section only sees no others. -/
theorem readSection_knownPart_bind (hpart : schema.lookup name = some shapes)
    {readFields : Fields → Reading α}
    (hsame : ∀ {fields others}, SameOn shapes fields others →
      readFields fields = readFields others)
    {next next' : α → Reading β} (hnext : ∀ a, next a = next' a) :
    (readSection (knownPart root) name >>= fun fields => readFields fields >>= next) =
      readSection root name >>= fun fields => readFields fields >>= next' := by
  obtain rfl : next = next' := funext hnext
  -- The steps behind the section are the same, so only its own reader has to be looked at.
  rw [← bind_assoc, ← bind_assoc]
  congr 1
  unfold readSection
  rw [lookup_knownPart hpart]
  cases root.lookup name with
  | none => rfl
  | some value =>
      cases value with
      | table fields => exact hsame (sameOn_knownFields hpart)
      | _ => rfl

theorem readField_of_sameOn {part : String} {others : Fields} (hsame : SameOn shapes fields others)
    (hname : name ∈ shapes.map (·.1)) {default : α} :
    readField read part fields name default = readField read part others name default := by
  obtain ⟨shape, hshape, rfl⟩ := List.mem_map.mp hname
  unfold readField readField?
  rw [hsame shape hshape]

theorem readOutput_of_sameOn {others : Fields} (hsame : SameOn outputShapes fields others) :
    readOutput fields = readOutput others := by
  simp [readOutput, readField_of_sameOn hsame, outputShapes]

theorem readTypes_of_sameOn {others : Fields} (hsame : SameOn typeShapes fields others) :
    readTypes fields = readTypes others := by
  simp [readTypes, readField_of_sameOn hsame, typeShapes]

theorem readReplacements_of_sameOn {others : Fields}
    (hsame : SameOn replacementShapes fields others) :
    readReplacements fields = readReplacements others := by
  simp [readReplacements, readField_of_sameOn hsame, replacementShapes]

theorem readIgnored_of_sameOn {others : Fields} (hsame : SameOn ignoreShapes fields others) :
    readField readTexts "ignore" fields "functions" [] =
      readField readTexts "ignore" others "functions" [] :=
  readField_of_sameOn hsame (by simp [ignoreShapes])

theorem readGeneration_of_sameOn {others : Fields}
    (hsame : SameOn generationShapes fields others) :
    readGeneration fields = readGeneration others := by
  simp [readGeneration, readField_of_sameOn hsame, generationShapes]

theorem readDocument_knownPart : readDocument (knownPart root) = readDocument root := by
  refine readSection_knownPart_bind rfl readOutput_of_sameOn (fun output => ?_)
  refine readSection_knownPart_bind rfl readTypes_of_sameOn (fun types => ?_)
  refine readSection_knownPart_bind rfl readReplacements_of_sameOn (fun replacements => ?_)
  refine readSection_knownPart_bind rfl readIgnored_of_sameOn (fun ignored => ?_)
  exact readSection_knownPart_bind rfl readGeneration_of_sameOn (fun generation => rfl)

/-! ## What a document determines -/

theorem exists_root_of_parse? {content : String} {value : Value}
    (hparse : Document.Toml.parse? content = some value) : ∃ root, value = .table root := by
  obtain ⟨entries, -, rfl⟩ := Option.map_eq_some_iff.mp hparse
  exact ⟨_, rfl⟩

/-- A text without dates and times gives settings exactly if it is a document that follows
the schema.  The settings are those of its known part, and every other text is at fault. -/
theorem parse_determined_by_document {content : String}
    (hmoment : ∀ value ∈ Document.Toml.parse? content, value.holdsMoment = false) :
    (∀ settings, parse content = .ok settings ↔
      ∃ root, Document.Toml.parse? content = some (.table root) ∧ FollowsSchema root ∧
        settings = settingsOf root) ∧
      ((∃ fault, parse content = .error fault) ↔
        ∀ root, Document.Toml.parse? content = some (.table root) → ¬FollowsSchema root) ∧
      ∀ root, Document.Toml.parse? content = some (.table root) →
        parse content = readDocument (knownPart root) := by
  unfold parse
  cases hcontent : Document.Toml.parse? content with
  | none => simp
  | some value =>
      obtain ⟨root, rfl⟩ := exists_root_of_parse? hcontent
      have hroot : MomentFree root := Value.holdsMoment_table.mp (hmoment _ hcontent)
      have haccepts := exists_readDocument_iff hroot
      simp only [Option.bind_some, Value.entries?, Option.some.injEq, Value.table.injEq]
      refine ⟨fun settings => ⟨fun hread => ?_, ?_⟩, ⟨?_, fun hnot => ?_⟩, ?_⟩
      · exact ⟨root, rfl, haccepts.mp ⟨settings, hread⟩, eq_settingsOf_of_readDocument hread⟩
      · rintro ⟨_, rfl, hfollows, rfl⟩
        obtain ⟨settings, hread⟩ := haccepts.mpr hfollows
        rw [hread, eq_settingsOf_of_readDocument hread]
      · rintro ⟨fault, hread⟩ _ rfl hfollows
        obtain ⟨settings, hsettings⟩ := haccepts.mpr hfollows
        rw [hread] at hsettings
        contradiction
      · cases hread : readDocument root with
        | error fault => exact ⟨fault, rfl⟩
        | ok settings => exact absurd (haccepts.mp ⟨settings, hread⟩) (hnot root rfl)
      · rintro _ rfl
        exact readDocument_knownPart.symm

/-- Two known sections, a key that is unknown and a section that is. -/
theorem parse_of_known_and_unknown_parts :
    let content := "[output]\nfolder = \"stubs\"\ncolour = 3\n[types]\n" ++
      "extra_known = [\"tile\"]\ngenerics = \x7b list = \"T\" \x7d\n[other]\nstrict = 1\n"
    let base : Settings := {}
    let settings : Settings := {
      output := { folder := "stubs" }
      types := { known := base.types.known ++ ["tile"], generics := .ofList [("list", "T")] } }
    (∀ value ∈ Document.Toml.parse? content, value.holdsMoment = false) ∧
      parse content = .ok settings ∧
      ∃ root, Document.Toml.parse? content = some (.table root) ∧ FollowsSchema root ∧
        settings = settingsOf root ∧ parse content = readDocument (knownPart root) := by
  intro content base settings
  have hmoment : ∀ value ∈ Document.Toml.parse? content, value.holdsMoment = false := by
    decide +kernel
  have hparse : parse content = .ok settings := by decide +kernel
  obtain ⟨hok, -, hknown⟩ := parse_determined_by_document hmoment
  obtain ⟨root, hroot, hfollows, hsettings⟩ := (hok settings).mp hparse
  exact ⟨hmoment, hparse, root, hroot, hfollows, hsettings, hknown root hroot⟩

end Settings
end ApiStubs
