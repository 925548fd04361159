import ApiStubs.Stub.Declaration
import ApiStubs.Stub.Header
import ApiStubs.Stub.Members
import ApiStubs.Proofs.Keyed
import ApiStubs.Proofs.Text.Lines

/-!
# The lines of declarations

Names, types and settings are written on one line, descriptions on as many as they have.
Each of the ways in which a description gets into a stub puts the mark of a comment
before all of its lines, so a declaration has comment lines and the code lines of its
element, and nothing else.
-/

namespace ApiStubs

/-- Every value of the table is of the kind. -/
def Table.Values {α : Type} (kind : α → Prop) (table : Table α) : Prop :=
  ∀ entry ∈ table.entries, kind entry.2

instance {α : Type} (kind : α → Prop) [DecidablePred kind] (table : Table α) :
    Decidable (table.Values kind) :=
  inferInstanceAs (Decidable (∀ entry ∈ table.entries, kind entry.2))

theorem Table.Values.get? {α : Type} {kind : α → Prop} {table : Table α}
    (hvalues : table.Values kind) {name : String} {value : α}
    (hget : table.get? name = some value) : kind value :=
  hvalues (name, value) (Keyed.mem_of_lookup hget)

/-! ## What is written on one line -/

structure Parameter.OneLine (parameter : Parameter) : Prop where
  name : Text.OneLine parameter.name
  types : ∀ type ∈ parameter.types, Text.OneLine type

structure Operator.OneLine (operator : Operator) : Prop where
  result : Text.OneLine operator.result
  operand : ∀ operand, operator.operand = some operand → Text.OneLine operand

/-- All texts of the element but its descriptions have no line ends. -/
def Element.OneLine : Element → Prop
  | .constant name _ => Text.OneLine name
  | .variable name _ => Text.OneLine name
  | .function name _ parameters returns =>
      Text.OneLine name ∧ ∀ parameter ∈ parameters ++ returns, parameter.OneLine
  | .classType name fields _ operators =>
      Text.OneLine name ∧
        (∀ entry ∈ fields.entries, Text.OneLine entry.1 ∧ Text.OneLine entry.2) ∧
        ∀ entry ∈ operators.entries, Text.OneLine entry.1 ∧ entry.2.OneLine
  | .alias name definition => Text.OneLine name ∧ Text.OneLine definition
  | .unsupported name _ => Text.OneLine name

theorem Element.OneLine.name : ∀ {element : Element}, element.OneLine → Text.OneLine element.name
  | .constant _ _, helement => helement
  | .variable _ _, helement => helement
  | .function _ _ _ _, helement => helement.1
  | .classType _ _ _ _, helement => helement.1
  | .alias _ _, helement => helement.1
  | .unsupported _ _, helement => helement

namespace Stub

/-- What the rules write into a stub has no line ends. -/
structure Rules.OneLine (rules : Rules) : Prop where
  sentinel : Text.OneLine rules.types.sentinel
  replacements : ∀ r ∈ rules.types.replacements, Text.OneLine r.replacement
  perPosition : rules.types.perPosition.Values (Table.Values Text.OneLine)
  names : rules.names.Values Text.OneLine
  localNames : rules.localNames.Values (Table.Values Text.OneLine)
  generics : rules.generics.Values Text.OneLine

/-- A line that begins with the mark of a comment. -/
def IsComment (line : String) : Prop :=
  Text.startsWith line commentMark = true

instance (line : String) : Decidable (IsComment line) :=
  inferInstanceAs (Decidable (_ = true))

/-- What a line in a declaration of the elements may be. -/
inductive DeclarationLine (rules : Rules) (elements : List Element) : String → Prop
  | empty : DeclarationLine rules elements ""
  | comment {line : String} (hcomment : IsComment line) : DeclarationLine rules elements line
  | ofVariable {name : String} {description : Option String}
      (helement : .variable name description ∈ elements) :
      DeclarationLine rules elements (name ++ " = nil")
  | ofClass {name : String} {fields : Table String} {operators : Table Operator}
      (helement : .classType name fields true operators ∈ elements) :
      DeclarationLine rules elements (name ++ " = {}")
  | ofFunction {name : String} {description : Option String}
      {parameters returns : List Parameter}
      (helement : .function name description parameters returns ∈ elements) :
      DeclarationLine rules elements
        ("function " ++ name ++ "(" ++ rules.signature name parameters ++ ") end")

variable {rules : Rules} {elements : List Element}

theorem isComment_append (rest : String) : IsComment (commentMark ++ rest) := by
  rw [IsComment, Text.startsWith, List.isPrefixOf_iff_prefix, String.toList_append]
  exact List.prefix_append _ _

theorem IsComment.trimEnd {line : String} (hcomment : IsComment line) :
    IsComment (Text.trimEnd line) := by
  obtain ⟨rest, hrest⟩ := List.isPrefixOf_iff_prefix.mp hcomment
  have hline : line = commentMark ++ String.ofList rest := by
    apply String.toList_inj.mp
    rw [String.toList_append, String.toList_ofList, hrest]
  have hvisible : Text.EndsVisibly commentMark := ⟨['-', '-'], '-', rfl, by decide⟩
  rw [hline, Text.trimEnd_append hvisible]
  exact isComment_append _

/-- Trimming leaves code lines as they are and shortens comments behind their mark. -/
theorem DeclarationLine.trimEnd {line : String} (hline : DeclarationLine rules elements line) :
    DeclarationLine rules elements (Text.trimEnd line) := by
  have hkept : ∀ start rest : String, Text.EndsVisibly rest →
      Text.trimEnd (start ++ rest) = start ++ rest :=
    fun start rest hvisible => (hvisible.append start).trimEnd_eq
  cases hline with
  | empty => exact .empty
  | comment hcomment => exact .comment hcomment.trimEnd
  | ofVariable helement =>
      rw [hkept _ _ ⟨" = ni".toList, 'l', rfl, by decide⟩]
      exact .ofVariable helement
  | ofClass helement =>
      rw [hkept _ _ ⟨[' ', '=', ' ', '{'], '}', rfl, by decide⟩]
      exact .ofClass helement
  | ofFunction helement =>
      rw [hkept _ _ ⟨") en".toList, 'd', rfl, by decide⟩]
      exact .ofFunction helement

theorem IsComment.append {start : String} (hstart : IsComment start) (rest : String) :
    IsComment (start ++ rest) := by
  rw [IsComment, Text.startsWith, List.isPrefixOf_iff_prefix] at hstart ⊢
  rw [String.toList_append]
  exact hstart.trans (List.prefix_append _ _)

theorem eachLine_of_comments {text : String} (htext : Text.EachLine IsComment text) :
    Text.EachLine (DeclarationLine rules elements) text :=
  htext.mono (fun _ hline => .comment hline)

/-! ## Descriptions -/

theorem eachLine_comment (description : String) :
    Text.EachLine IsComment (comment commentMark description) := by
  unfold comment
  refine Text.EachLine.joinWith ?_ ?_
  · rw [Ne, List.map_eq_nil_iff]
    exact Text.lines_ne_nil _
  · intro text htext
    obtain ⟨piece, hpiece, rfl⟩ := List.mem_map.mp htext
    have honeLine : Text.OneLine piece := Text.mem_piece hpiece
    refine Text.EachLine.of_oneLine ?_ (isComment_append piece)
    exact Text.oneLine_append.mpr ⟨by decide, honeLine⟩

/-- A description behind a comment goes on in comments. -/
theorem marked_trailingDescription {start : String} (hstart : IsComment start)
    (honeLine : Text.OneLine start) (description : String) :
    Text.Marked commentMark (start ++ trailingDescription description) where
  starts := List.isPrefixOf_iff_prefix.mp (hstart.append _)
  goesOn := by
    rw [String.toList_append]
    apply (Text.goesOnWith_of_not_mem honeLine).append
    have hbroken : "\n".toList = ['\n'] := by simp
    have hgoing : ("\n" ++ commentMark).toList = '\n' :: commentMark.toList := by simp
    rw [trailingDescription, Text.toList_replace, hbroken, hgoing]
    exact Text.goesOnWith_replaceChars (by decide) _

/-- A generic stands between blanks, so none is found across a line end or in a mark. -/
theorem marked_applyGeneric {generic? : Option String} {line : String}
    (hgeneric : ∀ generic, generic? = some generic → Text.OneLine generic)
    (hline : Text.Marked commentMark line) :
    Text.Marked commentMark (applyGeneric generic? line).1 := by
  cases generic? with
  | none => exact hline
  | some generic =>
      have hpart : (" " ++ generic ++ " ").toList = ' ' :: (generic.toList ++ [' ']) := by simp
      have hmark : ∀ c ∈ commentMark.toList, ∀ d ∈ (" " ++ generic ++ " ").toList.head?, d ≠ c := by
        intro c hc d hd
        rw [hpart, List.head?_cons, Option.mem_some_iff] at hd
        subst hd
        rintro rfl
        exact absurd hc (by decide)
      have hne : (" " ++ generic ++ " ").toList ≠ [] := by simp [hpart]
      have honeLine : Text.OneLine (" " ++ generic ++ " ") := by
        simp only [Text.oneLine_append]
        exact ⟨⟨by decide, hgeneric generic rfl⟩, by decide⟩
      have hlist : (applyGeneric (some generic) line).1.toList =
          (Text.replaceChars (" " ++ generic ++ " ").toList " T ".toList 0 line.toList).1 := by
        rw [applyGeneric, Text.replaceCounting, String.toList_ofList]
      constructor
      · rw [hlist]
        exact Text.isPrefix_replaceChars hmark hne hline.starts
      · rw [hlist]
        exact hline.goesOn.replaceChars hmark hne honeLine (by decide) (by simp)

/-! ## Declarations -/

theorem oneLine_parameterName (hrules : rules.OneLine) {parameter : Parameter}
    (hparameter : parameter.OneLine) (role : Role) (element : String) :
    Text.OneLine (rules.parameterName parameter role element) := by
  have heverywhere : Text.OneLine ((rules.names.get? parameter.name).getD parameter.name) := by
    cases hname : rules.names.get? parameter.name with
    | none => exact hparameter.name
    | some name => exact hrules.names.get? hname
  have hreplaced : Text.OneLine (rules.replacedName parameter role element) := by
    unfold Rules.replacedName
    simp only
    cases hlocal : (rules.localNames.get? element).bind (·.get? (role.name ++ "_" ++
        (rules.names.get? parameter.name).getD parameter.name)) with
    | none => exact heverywhere
    | some name =>
        obtain ⟨own, hown, hname⟩ := Option.bind_eq_some_iff.mp hlocal
        exact (hrules.localNames.get? hown).get? hname
  unfold Rules.parameterName
  simp only
  split
  next => exact Text.OneLine.replace (by decide) (by decide)
  next => exact hreplaced.replace (by decide)

theorem oneLine_signature (hrules : rules.OneLine) {parameters : List Parameter}
    (hparameters : ∀ parameter ∈ parameters, parameter.OneLine) (name : String) :
    Text.OneLine (rules.signature name parameters) := by
  apply Text.OneLine.joinWith (by decide)
  intro text htext
  obtain ⟨parameter, hparameter, rfl⟩ := List.mem_map.mp htext
  exact oneLine_parameterName hrules (hparameters parameter hparameter) _ _

theorem eachLine_functionText (hrules : rules.OneLine) {name : String}
    {description : Option String} {parameters returns : List Parameter}
    (helement : .function name description parameters returns ∈ elements)
    (hname : Text.OneLine name) (hparameters : ∀ parameter ∈ parameters, parameter.OneLine)
    {annotations : List String}
    (hannotations : ∀ line ∈ annotations, Text.Marked commentMark line) :
    Text.EachLine (DeclarationLine rules elements)
      (functionText (description.getD "") (rules.signature name parameters) name
        (rules.generics.get? name) annotations) := by
  have hgeneric : ∀ generic, rules.generics.get? name = some generic → Text.OneLine generic :=
    fun generic hget => hrules.generics.get? hget
  have happlied : ∀ line ∈ (annotations.map (applyGeneric (rules.generics.get? name))).map (·.1),
      Text.EachLine (DeclarationLine rules elements) line := by
    intro line hline
    obtain ⟨pair, hpair, rfl⟩ := List.mem_map.mp hline
    obtain ⟨source, hsource, rfl⟩ := List.mem_map.mp hpair
    have hmarked := marked_applyGeneric hgeneric (hannotations source hsource)
    exact eachLine_of_comments (hmarked.eachLine (by decide))
  have hcode : Text.EachLine (DeclarationLine rules elements)
      ("function " ++ name ++ "(" ++ rules.signature name parameters ++ ") end") := by
    have hsignature := oneLine_signature hrules hparameters name
    refine Text.EachLine.of_oneLine ?_ (.ofFunction helement)
    simp only [Text.oneLine_append]
    exact ⟨⟨⟨⟨by decide, hname⟩, by decide⟩, hsignature⟩, by decide⟩
  have hbehind := Text.EachLine.join happlied hcode
  -- The line of a generic depends on how often it was found, which does not matter here.
  have hcount : ∀ count, Text.EachLine (DeclarationLine rules elements)
      (genericLine (rules.generics.get? name) count ++
        (String.join (((annotations.map (applyGeneric (rules.generics.get? name))).map
          (·.1)).map (· ++ "\n")) ++
            ("function " ++ name ++ "(" ++ rules.signature name parameters ++ ") end"))) := by
    intro count
    unfold genericLine
    split
    next => simpa using hbehind
    next generic hget =>
      split
      next =>
        refine Text.EachLine.append (Text.EachLine.of_oneLine ?_ ?_) hbehind
        · exact Text.oneLine_append.mpr ⟨by decide, hgeneric generic hget⟩
        · exact .comment (IsComment.append (by decide) generic)
      next => simpa using hbehind
  have htext := (eachLine_of_comments (eachLine_comment (description.getD ""))).append
    (hcount ((annotations.map (applyGeneric (rules.generics.get? name))).foldl
      (fun count line => count + line.2) 0))
  simpa only [functionText, List.map_map, Function.comp_def, String.append_assoc] using htext

theorem eachLine_variableText {name : String} {description : Option String}
    (helement : .variable name description ∈ elements) (hname : Text.OneLine name) :
    Text.EachLine (DeclarationLine rules elements) (variableText name description) := by
  have hcode : Text.EachLine (DeclarationLine rules elements) (name ++ " = nil") :=
    Text.EachLine.of_oneLine (Text.oneLine_append.mpr ⟨hname, by decide⟩) (.ofVariable helement)
  have htext := (eachLine_of_comments (eachLine_comment (description.getD ""))).append hcode
  simpa only [variableText, String.append_assoc] using htext

theorem eachLine_classText {name : String} {fields : Table String} {global : Bool}
    {operators : Table Operator} (helement : .classType name fields global operators ∈ elements)
    (honeLine : (Element.classType name fields global operators).OneLine) :
    Text.EachLine (DeclarationLine rules elements) (classText name fields global operators) := by
  obtain ⟨hname, hfields, hoperators⟩ := honeLine
  have hcomment : ∀ line, Text.OneLine line → IsComment line →
      Text.EachLine (DeclarationLine rules elements) line :=
    fun line hline hmark => Text.EachLine.of_oneLine hline (.comment hmark)
  unfold classText
  refine Text.EachLine.joinWith (by simp) ?_
  intro line hline
  simp only [List.mem_append, List.mem_singleton, List.mem_map, byName, List.mem_mergeSort]
    at hline
  rcases hline with ((rfl | ⟨entry, hentry, rfl⟩) | ⟨entry, hentry, rfl⟩) | hglobal
  · apply hcomment _ (Text.oneLine_append.mpr ⟨by decide, hname⟩)
    exact IsComment.append (by decide) _
  · obtain ⟨hfield, htype⟩ := hfields entry hentry
    apply hcomment
    · simp only [Text.oneLine_append]
      exact ⟨⟨⟨by decide, hfield⟩, by decide⟩, htype⟩
    · exact ((IsComment.append (by decide) _).append _).append _
  · obtain ⟨hoperator, hvalue⟩ := hoperators entry hentry
    unfold operatorLine
    split
    next =>
      apply hcomment
      · simp only [Text.oneLine_append]
        exact ⟨⟨⟨by decide, hoperator⟩, by decide⟩, hvalue.result⟩
      · exact ((IsComment.append (by decide) _).append _).append _
    next operand hoperand =>
      apply hcomment
      · simp only [Text.oneLine_append]
        exact ⟨⟨⟨⟨⟨by decide, hoperator⟩, by decide⟩, hvalue.operand operand hoperand⟩,
          by decide⟩, hvalue.result⟩
      · exact ((((IsComment.append (by decide) _).append _).append _).append _).append _
  · cases global with
    | false => contradiction
    | true =>
        rw [if_pos rfl, List.mem_singleton] at hglobal
        subst hglobal
        exact Text.EachLine.of_oneLine (Text.oneLine_append.mpr ⟨hname, by decide⟩)
          (.ofClass helement)

theorem eachLine_aliasText {name definition : String} (hname : Text.OneLine name)
    (hdefinition : Text.OneLine definition) :
    Text.EachLine (DeclarationLine rules elements) (aliasText name definition) := by
  refine Text.EachLine.of_oneLine ?_ ?_
  · simp only [aliasText, Text.oneLine_append]
    exact ⟨⟨⟨by decide, hname⟩, by decide⟩, hdefinition⟩
  · exact .comment (((IsComment.append (by decide) _).append _).append _)

/-! ## Fields and aliases -/

theorem Field.eachLine {field : Field} (hname : Text.OneLine field.name)
    (htype : Text.OneLine field.type) : ∀ text ∈ field.lines, Text.EachLine IsComment text := by
  have hlast : Text.EachLine IsComment ("---@field " ++ field.name ++ " " ++ field.type) := by
    refine Text.EachLine.of_oneLine ?_ ?_
    · simp only [Text.oneLine_append]
      exact ⟨⟨⟨by decide, hname⟩, by decide⟩, htype⟩
    · exact ((IsComment.append (by decide) _).append _).append _
  intro text htext
  rcases List.mem_append.mp htext with hdescription | hfield
  · split at hdescription
    next => contradiction
    next =>
      rw [List.mem_singleton] at hdescription
      rw [hdescription]
      exact eachLine_comment field.description
  · rw [List.mem_singleton] at hfield
    rwa [hfield]

/-- Fields end with a line end, so what stands behind them begins a line. -/
theorem eachLine_fieldsText {fields : List Field} {rest : String} {kind : String → Prop}
    (hcomments : ∀ line, IsComment line → kind line)
    (hfields : ∀ field ∈ fields, Text.OneLine field.name ∧ Text.OneLine field.type)
    (hrest : Text.EachLine kind rest) : Text.EachLine kind (fieldsText fields ++ rest) := by
  unfold fieldsText
  simp only
  split
  next => simpa using hrest
  next hsome =>
    have hne : fields.flatMap Field.lines ≠ [] := by
      intro hnone
      rw [hnone] at hsome
      exact hsome rfl
    have hlines : Text.EachLine IsComment
        (Text.joinWith "\n" (fields.flatMap Field.lines)) := by
      refine Text.EachLine.joinWith hne ?_
      intro text htext
      obtain ⟨field, hfield, htext⟩ := List.mem_flatMap.mp htext
      obtain ⟨hname, htype⟩ := hfields field hfield
      exact Field.eachLine hname htype text htext
    exact (hlines.mono hcomments).append hrest

theorem AliasBlock.eachLine {block : AliasBlock} (hname : Text.OneLine block.name)
    (hmembers : ∀ member ∈ block.members, Text.OneLine member) :
    Text.EachLine IsComment block.text := by
  unfold AliasBlock.text
  refine Text.EachLine.joinWith (List.cons_ne_nil _ _) ?_
  intro line hline
  rcases List.mem_cons.mp hline with rfl | hmember
  · refine Text.EachLine.of_oneLine (Text.oneLine_append.mpr ⟨by decide, hname⟩) ?_
    exact IsComment.append (by decide) _
  · obtain ⟨member, hmem, rfl⟩ := List.mem_map.mp hmember
    refine Text.EachLine.of_oneLine ?_ ?_
    · simp only [Text.oneLine_append]
      exact ⟨⟨by decide, hmembers member hmem⟩, by decide⟩
    · exact (IsComment.append (by decide) _).append _

/-! ## The body -/

theorem eachLine_aliasesText {blocks : List AliasBlock}
    (hblocks : ∀ block ∈ blocks, Text.EachLine IsComment block.text) :
    Text.EachLine (DeclarationLine rules elements) (aliasesText blocks) := by
  induction blocks with
  | nil => exact Text.EachLine.of_oneLine (by decide) .empty
  | cons block rest ih =>
      have hblock : Text.EachLine (DeclarationLine rules elements) block.text :=
        eachLine_of_comments (hblocks block List.mem_cons_self)
      have hlater := ih (fun other hother => hblocks other (List.mem_cons_of_mem block hother))
      by_cases hrest : rest = []
      · subst hrest
        rwa [aliasesText, List.map_singleton, Text.joinWith_singleton]
      · rw [aliasesText, List.map_cons, Text.joinWith_cons (by simpa using hrest)]
        exact hblock.append_empty .empty hlater

theorem eachLine_joinDeclarations {declarations : List Declaration}
    (hdeclarations : ∀ declaration ∈ declarations,
      Text.EachLine (DeclarationLine rules elements) declaration.text) :
    Text.EachLine (DeclarationLine rules elements) (joinDeclarations declarations) := by
  fun_induction joinDeclarations declarations with
  | case1 => exact Text.EachLine.of_oneLine (by decide) .empty
  | case2 last => exact hdeclarations last List.mem_cons_self
  | case3 declaration rest _ ih =>
      have hfirst := hdeclarations declaration List.mem_cons_self
      have hlater := ih
        (fun other hother => hdeclarations other (List.mem_cons_of_mem declaration hother))
      split
      next => exact hfirst.append hlater
      next => exact hfirst.append_empty .empty hlater

theorem eachLine_body {blocks : List AliasBlock} {declarations : List Declaration}
    (hblocks : ∀ block ∈ blocks, Text.EachLine IsComment block.text)
    (hdeclarations : ∀ declaration ∈ declarations,
      Text.EachLine (DeclarationLine rules elements) declaration.text) :
    Text.EachLine (DeclarationLine rules elements) (body (aliasesText blocks) declarations) := by
  have haliases : Text.EachLine (DeclarationLine rules elements) (aliasesText blocks) :=
    eachLine_aliasesText hblocks
  have hdeclared := eachLine_joinDeclarations hdeclarations
  unfold body
  refine Text.EachLine.trimEnd ?_ (fun line hline => hline.trimEnd)
  split
  next => exact hdeclared
  next =>
    split
    next => exact haliases
    next => exact haliases.append_empty .empty hdeclared

theorem eachLine_diagnostics {names : List String} (hnames : ∀ name ∈ names, Text.OneLine name) :
    Text.EachLine IsComment (diagnostics names) := by
  unfold diagnostics
  refine Text.EachLine.joinWith (List.cons_ne_nil _ _) ?_
  intro line hline
  rcases List.mem_cons.mp hline with rfl | hname
  · exact Text.EachLine.of_oneLine (by decide) (by decide)
  · obtain ⟨name, hmem, rfl⟩ := List.mem_map.mp hname
    refine Text.EachLine.of_oneLine (Text.oneLine_append.mpr ⟨by decide, hnames name hmem⟩) ?_
    exact IsComment.append (by decide) _

end Stub
end ApiStubs
