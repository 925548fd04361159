import ApiStubs.Proofs.Except
import ApiStubs.Settings.Reader

/-!
# What a document gives

The settings that are read hold the value of the document for each field that it has, and
the default one for each other.  Two fields add to what is there: the names to the default
names, and the further known types to the known ones.
-/

namespace ApiStubs
namespace Document.Value

/-- The texts of an array that holds nothing else. -/
def texts? (value : Value) : Option (List String) :=
  value.items?.bind (·.mapM text?)

/-- A table whose entries all have a value of one kind. -/
def tableOf? {α : Type} (read? : Value → Option α) (value : Value) : Option (Table α) :=
  value.entries?.bind (fun entries =>
    (entries.mapM (fun entry => (read? entry.2).map (entry.1, ·))).map Table.ofList)

end Document.Value

namespace Settings

open Document (Value)

/-- The value of a field in a section of a document, if it is there. -/
def fieldOf {α : Type} (read? : Value → Option α) (root : Fields) (section_ name : String) :
    Option α :=
  (((root.lookup section_).bind Value.entries?).bind (·.lookup name)).bind read?

/-- The settings that a document gives, with defaults for what it leaves out. -/
def settingsOf (root : Fields) : Settings :=
  let base : Settings := {}
  let text := fieldOf Value.text? root
  let flag := fieldOf Value.boolean? root
  let texts := fieldOf Value.texts? root
  let table := fieldOf (Value.tableOf? Value.text?) root
  let nested := fieldOf (Value.tableOf? (Value.tableOf? Value.text?)) root
  { output := {
      folder := (text "output" "folder").getD base.output.folder
      extension := (text "output" "extension").getD base.output.extension
      generatorUrl := (text "output" "generator_url").getD base.output.generatorUrl
      product := (text "output" "product").getD base.output.product
      classPrefix := (text "output" "class_prefix").getD base.output.classPrefix
      disabledDiagnostics :=
        (texts "output" "disabled_diagnostics").getD base.output.disabledDiagnostics }
    types := {
      known := (texts "types" "known").getD base.types.known ++
        (texts "types" "extra_known").getD []
      unknown := (text "types" "unknown").getD base.types.unknown
      classes := (texts "types" "classes").getD base.types.classes
      aliases := (texts "types" "aliases").getD base.types.aliases
      generics := (table "types" "generics").getD base.types.generics }
    replacements := {
      types := (table "replacements" "types").getD base.replacements.types
      names := base.replacements.names.overlay ((table "replacements" "names").getD {})
      localTypes := (nested "replacements" "local_types").getD base.replacements.localTypes
      localNames := (nested "replacements" "local_names").getD base.replacements.localNames }
    ignoredFunctions := (texts "ignore" "functions").getD base.ignoredFunctions
    generation := {
      strict := (flag "generation" "strict").getD base.generation.strict
      debug := (flag "generation" "debug").getD base.generation.debug } }

/-- What is read from a value is what the value holds. -/
def Agrees {α : Type} (read : Value → String → Reading α) (read? : Value → Option α) : Prop :=
  ∀ value path a, read value path = .ok a → read? value = some a

theorem agrees_readText : Agrees readText Value.text? := by
  intro value path content hread
  unfold readText at hread
  split at hread
  next found hfound => rw [hfound, Except.ok.inj hread]
  next => contradiction

theorem agrees_readFlag : Agrees readFlag Value.boolean? := by
  intro value path truth hread
  unfold readFlag at hread
  split at hread
  next found hfound => rw [hfound, Except.ok.inj hread]
  next => contradiction

theorem mapM_text?_of_readTextsFrom {path : String} {index : Nat} {items : List Value}
    {texts : List String} (hread : readTextsFrom path index items = .ok texts) :
    items.mapM Value.text? = some texts := by
  induction items generalizing index texts with
  | nil =>
      cases hread
      rfl
  | cons item items ih =>
      obtain ⟨first, hfirst, hread⟩ := exists_ok_of_bind hread
      obtain ⟨others, hothers, hread⟩ := exists_ok_of_bind hread
      cases hread
      rw [List.mapM_cons, agrees_readText _ _ _ hfirst, ih hothers]
      rfl

theorem agrees_readTexts : Agrees readTexts Value.texts? := by
  intro value path texts hread
  unfold readTexts at hread
  split at hread
  next items hitems =>
    rw [Value.texts?, hitems]
    exact mapM_text?_of_readTextsFrom hread
  next => contradiction

variable {α : Type} {read : Value → String → Reading α} {read? : Value → Option α}

theorem mapM_of_readEntries (hread? : Agrees read read?) {path : String} {fields : Fields}
    {entries : List (String × α)} (hread : readEntries read path fields = .ok entries) :
    fields.mapM (fun entry => (read? entry.2).map (entry.1, ·)) = some entries := by
  induction fields generalizing entries with
  | nil =>
      cases hread
      rfl
  | cons entry fields ih =>
      obtain ⟨key, value⟩ := entry
      rw [readEntries] at hread
      split at hread
      next => contradiction
      next =>
        obtain ⟨first, hfirst, hread⟩ := exists_ok_of_bind hread
        obtain ⟨others, hothers, hread⟩ := exists_ok_of_bind hread
        cases hread
        rw [List.mapM_cons, hread? _ _ _ hfirst, ih hothers]
        rfl

theorem agrees_readTable (hread? : Agrees read read?) :
    Agrees (readTable read) (Value.tableOf? read?) := by
  intro value path table hread
  unfold readTable at hread
  split at hread
  next fields hfields =>
    obtain ⟨entries, hentries, htable⟩ := exists_ok_of_map hread
    rw [Value.tableOf?, hfields, ← htable]
    simp only [Option.bind_some, mapM_of_readEntries hread? hentries, Option.map_some]
  next => contradiction

variable {root fields : Fields} {section_ name : String}

theorem lookup_of_readSection (hsection : readSection root section_ = .ok fields) :
    fields.lookup name = ((root.lookup section_).bind Value.entries?).bind (·.lookup name) := by
  unfold readSection at hsection
  cases hroot : root.lookup section_ with
  | none =>
      rw [hroot] at hsection
      cases hsection
      rfl
  | some value =>
      rw [hroot] at hsection
      dsimp only at hsection
      split at hsection
      next found hfound =>
        cases hsection
        rw [Option.bind_some, hfound]
        rfl
      next => contradiction

theorem eq_of_readField (hread? : Agrees read read?)
    (hsection : readSection root section_ = .ok fields) {default a : α}
    (hread : readField read section_ fields name default = .ok a) :
    a = (fieldOf read? root section_ name).getD default := by
  obtain ⟨found?, hfound, rfl⟩ := exists_ok_of_map hread
  unfold readField? at hfound
  rw [lookup_of_readSection hsection] at hfound
  unfold fieldOf
  split at hfound
  next hnone =>
    cases hfound
    rw [hnone]
    rfl
  next value hvalue =>
    obtain ⟨found, hvalue?, rfl⟩ := exists_ok_of_map hfound
    rw [hvalue, Option.bind_some, hread? _ _ _ hvalue?]

theorem eq_of_readOutput {output : OutputSettings}
    (hsection : readSection root "output" = .ok fields) (hread : readOutput fields = .ok output) :
    output = (settingsOf root).output := by
  obtain ⟨folder, hfolder, hread⟩ := exists_ok_of_bind hread
  obtain ⟨extension, hextension, hread⟩ := exists_ok_of_bind hread
  obtain ⟨generatorUrl, hgeneratorUrl, hread⟩ := exists_ok_of_bind hread
  obtain ⟨product, hproduct, hread⟩ := exists_ok_of_bind hread
  obtain ⟨classPrefix, hclassPrefix, hread⟩ := exists_ok_of_bind hread
  obtain ⟨disabled, hdisabled, hread⟩ := exists_ok_of_bind hread
  rw [← Except.ok.inj hread, eq_of_readField agrees_readText hsection hfolder,
    eq_of_readField agrees_readText hsection hextension,
    eq_of_readField agrees_readText hsection hgeneratorUrl,
    eq_of_readField agrees_readText hsection hproduct,
    eq_of_readField agrees_readText hsection hclassPrefix,
    eq_of_readField agrees_readTexts hsection hdisabled]
  rfl

theorem eq_of_readTypes {types : TypeSettings}
    (hsection : readSection root "types" = .ok fields) (hread : readTypes fields = .ok types) :
    types = (settingsOf root).types := by
  obtain ⟨known, hknown, hread⟩ := exists_ok_of_bind hread
  obtain ⟨extra, hextra, hread⟩ := exists_ok_of_bind hread
  obtain ⟨unknown, hunknown, hread⟩ := exists_ok_of_bind hread
  obtain ⟨classes, hclasses, hread⟩ := exists_ok_of_bind hread
  obtain ⟨aliases, haliases, hread⟩ := exists_ok_of_bind hread
  obtain ⟨generics, hgenerics, hread⟩ := exists_ok_of_bind hread
  rw [← Except.ok.inj hread, eq_of_readField agrees_readTexts hsection hknown,
    eq_of_readField agrees_readTexts hsection hextra,
    eq_of_readField agrees_readText hsection hunknown,
    eq_of_readField agrees_readTexts hsection hclasses,
    eq_of_readField agrees_readTexts hsection haliases,
    eq_of_readField (agrees_readTable agrees_readText) hsection hgenerics]
  rfl

theorem eq_of_readReplacements {replacements : ReplacementSettings}
    (hsection : readSection root "replacements" = .ok fields)
    (hread : readReplacements fields = .ok replacements) :
    replacements = (settingsOf root).replacements := by
  have hnested : Agrees readNestedTable (Value.tableOf? (Value.tableOf? Value.text?)) :=
    agrees_readTable (agrees_readTable agrees_readText)
  obtain ⟨types, htypes, hread⟩ := exists_ok_of_bind hread
  obtain ⟨names, hnames, hread⟩ := exists_ok_of_bind hread
  obtain ⟨localTypes, hlocalTypes, hread⟩ := exists_ok_of_bind hread
  obtain ⟨localNames, hlocalNames, hread⟩ := exists_ok_of_bind hread
  rw [← Except.ok.inj hread, eq_of_readField (agrees_readTable agrees_readText) hsection htypes,
    eq_of_readField (agrees_readTable agrees_readText) hsection hnames,
    eq_of_readField hnested hsection hlocalTypes, eq_of_readField hnested hsection hlocalNames]
  rfl

theorem eq_of_readGeneration {generation : GenerationSettings}
    (hsection : readSection root "generation" = .ok fields)
    (hread : readGeneration fields = .ok generation) :
    generation = (settingsOf root).generation := by
  obtain ⟨strict, hstrict, hread⟩ := exists_ok_of_bind hread
  obtain ⟨debug, hdebug, hread⟩ := exists_ok_of_bind hread
  rw [← Except.ok.inj hread, eq_of_readField agrees_readFlag hsection hstrict,
    eq_of_readField agrees_readFlag hsection hdebug]
  rfl

theorem eq_settingsOf_of_readDocument {settings : Settings}
    (hread : readDocument root = .ok settings) : settings = settingsOf root := by
  unfold readDocument at hread
  obtain ⟨outputFields, houtputFields, hread⟩ := exists_ok_of_bind hread
  obtain ⟨output, houtput, hread⟩ := exists_ok_of_bind hread
  obtain ⟨typeFields, htypeFields, hread⟩ := exists_ok_of_bind hread
  obtain ⟨types, htypes, hread⟩ := exists_ok_of_bind hread
  obtain ⟨replacementFields, hreplacementFields, hread⟩ := exists_ok_of_bind hread
  obtain ⟨replacements, hreplacements, hread⟩ := exists_ok_of_bind hread
  obtain ⟨ignoredFields, hignoredFields, hread⟩ := exists_ok_of_bind hread
  obtain ⟨ignored, hignored, hread⟩ := exists_ok_of_bind hread
  obtain ⟨generationFields, hgenerationFields, hread⟩ := exists_ok_of_bind hread
  obtain ⟨generation, hgeneration, hread⟩ := exists_ok_of_bind hread
  rw [← Except.ok.inj hread, eq_of_readOutput houtputFields houtput,
    eq_of_readTypes htypeFields htypes, eq_of_readReplacements hreplacementFields hreplacements,
    eq_of_readField agrees_readTexts hignoredFields hignored,
    eq_of_readGeneration hgenerationFields hgeneration]
  rfl

end Settings
end ApiStubs
