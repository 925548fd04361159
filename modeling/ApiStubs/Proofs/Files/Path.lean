import ApiStubs.Files.Path
import ApiStubs.Proofs.Except
import ApiStubs.Proofs.Text.Search
import ApiStubs.Proofs.Text.Split

/-!
# Resolved paths and the ways between them

Whatever is resolved from a normal path is normal again.  The way from one normal path
to another leads out exactly if the first is no beginning of the second, so comparing
texts of ways is comparing components.
-/

namespace ApiStubs

namespace Files

/-- A component that leads into a folder. -/
structure IsName (component : String) : Prop where
  ne_empty : component ≠ ""
  ne_dot : component ≠ "."
  ne_dots : component ≠ ".."
  noSlash : '/' ∉ component.toList

theorem isName_iff {component : String} :
    IsName component ↔
      component ≠ "" ∧ component ≠ "." ∧ component ≠ ".." ∧ '/' ∉ component.toList :=
  ⟨fun hname => ⟨hname.ne_empty, hname.ne_dot, hname.ne_dots, hname.noSlash⟩,
    fun ⟨hempty, hdot, hdots, hslash⟩ => ⟨hempty, hdot, hdots, hslash⟩⟩

instance (component : String) : Decidable (IsName component) :=
  decidable_of_iff _ isName_iff.symm

namespace Path

def Normal (path : Path) : Prop :=
  ∀ component ∈ path, IsName component

instance (path : Path) : Decidable path.Normal :=
  inferInstanceAs (Decidable (∀ component ∈ path, IsName component))

variable {path folder target : Path} {way : List String}

theorem enter_of_isName {component : String} (hname : IsName component) (path : Path) :
    path.enter component = path ++ [component] := by
  rw [enter, if_neg (not_or.mpr ⟨hname.ne_empty, hname.ne_dot⟩), if_neg hname.ne_dots]

theorem Normal.enter (hpath : path.Normal) {component : String}
    (hslash : '/' ∉ component.toList) : (path.enter component).Normal := by
  unfold Path.enter
  split
  next => exact hpath
  next hplain =>
    rw [not_or] at hplain
    split
    next => exact fun name hmem => hpath name (List.mem_of_mem_dropLast hmem)
    next hup =>
      intro name hmem
      rcases List.mem_append.mp hmem with hold | hnew
      · exact hpath name hold
      · rw [List.mem_singleton] at hnew
        subst hnew
        exact ⟨hplain.1, hplain.2, hup, hslash⟩

theorem Normal.resolve (hfolder : folder.Normal) (text : String) :
    (folder.resolve text).Normal := by
  have hstart : Normal (if Text.startsWith text "/" then [] else folder) := by
    split
    next => simp [Normal]
    next => exact hfolder
  exact List.foldlRecOn (motive := Normal) _ _ hstart
    (fun _ hstep _ hpiece => hstep.enter (Text.mem_piece hpiece))

/-- A text without slashes is one component. -/
theorem resolve_of_noSlash {text : String} (htext : '/' ∉ text.toList) (folder : Path) :
    folder.resolve text = folder.enter text := by
  have hrelative : Text.startsWith text "/" = false := by
    rw [Bool.eq_false_iff]
    intro habsolute
    have hstart := List.isPrefixOf_iff_prefix.mp habsolute
    exact htext (hstart.mem (by decide))
  rw [resolve, hrelative, Text.split_of_not_mem htext]
  rfl

/-- A component that leads below its folder is a name in it. -/
theorem enter_of_below {component : String} (hbelow : path <+: path.enter component)
    (hne : path.enter component ≠ path) : path.enter component = path ++ [component] := by
  unfold enter at hbelow hne ⊢
  split at hne
  next => exact absurd rfl hne
  next hplain =>
    rw [if_neg hplain] at hbelow ⊢
    split at hne
    next hup =>
      rw [if_pos hup] at hbelow
      have hlength := hbelow.length_le
      rw [List.length_dropLast] at hlength
      have hnil : path = [] := List.eq_nil_of_length_eq_zero (by omega)
      subst hnil
      exact absurd rfl hne
    next hdown => rw [if_neg hdown]

/-! ## The text of a path -/

theorem foldl_enter (hway : Normal way) (path : Path) : way.foldl enter path = path ++ way := by
  induction way generalizing path with
  | nil => simp
  | cons component way ih =>
      have hrest : Normal way := fun name hmem => hway name (List.mem_cons_of_mem _ hmem)
      have hname : IsName component := hway component List.mem_cons_self
      rw [List.foldl_cons, enter_of_isName hname, ih hrest, List.append_assoc,
        List.singleton_append]

theorem toList_text (path : Path) : path.text.toList = '/' :: (Text.joinWith "/" path).toList := by
  simp [text]

theorem text_ne_empty (path : Path) : path.text ≠ "" := by
  intro hempty
  have hchars := congrArg String.toList hempty
  rw [toList_text] at hchars
  contradiction

theorem split_text (path : Path) :
    Text.split '/' path.text = "" :: Text.split '/' (Text.joinWith "/" path) := by
  rw [Text.split, toList_text]
  rfl

/-- The text of a path leads to the path, whatever folder it is read in. -/
theorem resolve_text (hpath : path.Normal) (folder : Path) : folder.resolve path.text = path := by
  have habsolute : Text.startsWith path.text "/" = true := by
    rw [Text.startsWith, toList_text]
    simp
  have hskip : ∀ start : Path, start.enter "" = start := fun start => by simp [enter]
  rw [resolve, if_pos habsolute, split_text, List.foldl_cons, hskip]
  cases path with
  | nil => rfl
  | cons component path =>
      have hpieces : Text.split '/' (Text.joinWith "/" (component :: path)) = component :: path :=
        Text.split_joinWith (List.cons_ne_nil _ _) (fun name hmem => (hpath name hmem).noSlash)
      rw [hpieces, foldl_enter hpath, List.nil_append]

/-! ## Ways -/

theorem relative_append (path rest : Path) : relative path (path ++ rest) = rest := by
  induction path with
  | nil => cases rest <;> rfl
  | cons component path ih => rw [List.cons_append, relative, if_pos rfl, ih]

/-- The way to what is not below a path starts by going up. -/
theorem head?_relative (hnot : ¬ path <+: target) : (relative path target).head? = some ".." := by
  fun_induction relative path target with
  | case1 as b bs ih =>
      apply ih
      intro hprefix
      exact hnot (List.cons_prefix_cons.mpr ⟨rfl, hprefix⟩)
  | case2 => rfl
  | case3 as bs hempty =>
      cases as with
      | nil => exact absurd List.nil_prefix hnot
      | cons a as => rfl

theorem mem_relative {component : String} (hmem : component ∈ relative path target) :
    component = ".." ∨ component ∈ target := by
  fun_induction relative path target with
  | case1 as b bs ih => exact (ih hmem).imp_right (List.mem_cons_of_mem b)
  | case2 a as b bs hne =>
      rcases List.mem_append.mp hmem with hup | hdown
      · obtain ⟨-, -, rfl⟩ := List.mem_map.mp hup
        exact .inl rfl
      · exact .inr hdown
  | case3 as bs hempty =>
      rcases List.mem_append.mp hmem with hup | hdown
      · obtain ⟨-, -, rfl⟩ := List.mem_map.mp hup
        exact .inl rfl
      · exact .inr hdown

theorem noSlash_relative (htarget : target.Normal) {component : String}
    (hmem : component ∈ relative path target) : '/' ∉ component.toList := by
  rcases mem_relative hmem with rfl | hname
  · decide
  · exact (htarget component hname).noSlash

theorem ne_empty_of_mem_relative (htarget : target.Normal) {component : String}
    (hmem : component ∈ relative path target) : component ≠ "" := by
  rcases mem_relative hmem with rfl | hname
  · decide
  · exact (htarget component hname).ne_empty

theorem split_relativeText (htarget : target.Normal) (hne : relative path target ≠ []) :
    Text.split '/' (relativeText path target) = relative path target :=
  Text.split_joinWith hne (fun _ hmem => noSlash_relative htarget hmem)

/-- A way never starts at the root. -/
theorem not_startsWith_slash_relativeText (htarget : target.Normal) :
    Text.startsWith (relativeText path target) "/" = false := by
  rw [Bool.eq_false_iff, Ne, Text.startsWith_iff]
  rintro ⟨rest, hrest⟩
  by_cases hnone : relative path target = []
  · rw [relativeText, hnone] at hrest
    contradiction
  · -- A text that starts with a slash has an empty piece in front.
    have hpieces : Text.split '/' (relativeText path target) =
        "" :: (Text.splitChars '/' rest).map String.ofList := by
      rw [Text.split, ← hrest]
      rfl
    rw [split_relativeText htarget hnone] at hpieces
    have hmem : "" ∈ relative path target := hpieces ▸ List.mem_cons_self
    exact ne_empty_of_mem_relative htarget hmem rfl

end Path

/-! ## Texts of ways -/

theorem leadsOut_iff {way : List String} (hway : ∀ component ∈ way, '/' ∉ component.toList) :
    leadsOut (Text.joinWith "/" way) = true ↔ way.head? = some ".." := by
  constructor
  · intro hout
    have hsplit : (Text.split '/' (Text.joinWith "/" way)).head? = some ".." := by
      rw [leadsOut, Bool.or_eq_true, decide_eq_true_eq] at hout
      rcases hout with hup | hstart
      · rw [hup]
        decide
      · obtain ⟨rest, hrest⟩ := List.isPrefixOf_iff_prefix.mp hstart
        have hpiece : Text.splitChars '/' ("..".toList ++ '/' :: rest) =
            "..".toList :: Text.splitChars '/' rest := Text.splitChars_append (by decide) rest
        rw [Text.split, ← hrest, show "../".toList ++ rest = "..".toList ++ '/' :: rest from rfl,
          hpiece]
        rfl
    cases way with
    | nil => exact absurd hsplit (by decide)
    | cons first rest =>
        have hpieces : Text.split '/' (Text.joinWith "/" (first :: rest)) = first :: rest :=
          Text.split_joinWith (List.cons_ne_nil _ _) hway
        rw [hpieces] at hsplit
        exact hsplit
  · intro hhead
    cases way with
    | nil => contradiction
    | cons first rest =>
        rw [List.head?_cons, Option.some.injEq] at hhead
        subst hhead
        by_cases hrest : rest = []
        · subst hrest
          decide
        · rw [Text.joinWith_cons hrest]
          simp [leadsOut, Text.startsWith]

theorem startsWith_of_leadsOut {text : String} (hout : leadsOut text = true) :
    Text.startsWith text ".." = true := by
  rw [leadsOut, Bool.or_eq_true, decide_eq_true_eq] at hout
  rcases hout with rfl | hstart
  · decide
  · rw [Text.startsWith, List.isPrefixOf_iff_prefix] at hstart ⊢
    exact List.IsPrefix.trans ⟨['/'], rfl⟩ hstart

variable {folder : Path}

theorem leadsOut_relativeText {path target : Path} (htarget : target.Normal) :
    leadsOut (Path.relativeText path target) = true ↔ ¬ path <+: target := by
  rw [Path.relativeText, leadsOut_iff (fun _ => Path.noSlash_relative htarget)]
  constructor
  · rintro hhead ⟨rest, rfl⟩
    rw [Path.relative_append] at hhead
    have hup : ".." ∈ path ++ rest := List.mem_append_right _ (List.mem_of_mem_head? hhead)
    exact (htarget ".." hup).ne_dots rfl
  · exact Path.head?_relative

/-- What is checked on the text of a way is whether one path is a beginning of the other. -/
theorem staysInside_relativeText {path target : Path} (htarget : target.Normal) :
    (!leadsOut (Path.relativeText path target) &&
      !Text.startsWith (Path.relativeText path target) "/") = decide (path <+: target) := by
  rw [Path.not_startsWith_slash_relativeText htarget, Bool.not_false, Bool.and_true,
    Bool.eq_iff_iff, Bool.not_eq_true', ← Bool.not_eq_true, leadsOut_relativeText htarget,
    not_not, decide_eq_true_eq]

/-! ## The checks -/

theorem validate_ok {text : String} {path : Path} (hvalid : validate folder text = .ok path) :
    path = folder.resolve text := by
  unfold validate at hvalid
  split at hvalid
  next => contradiction
  next =>
    split at hvalid
    next => contradiction
    next => exact (Except.ok.inj hvalid).symm

/-- The text is no path, for anyone in any folder. -/
def Unreadable (text : String) : Prop :=
  text = "" ∨ holdsNull text = true

instance (text : String) : Decidable (Unreadable text) :=
  inferInstanceAs (Decidable (_ ∨ _))

theorem validate_cases (folder : Path) (text : String) :
    (Unreadable text ∧ ∃ fault, validate folder text = .error fault) ∨
      (¬ Unreadable text ∧ validate folder text = .ok (folder.resolve text)) := by
  unfold validate
  split
  next hempty => exact .inl ⟨.inl hempty, _, rfl⟩
  next hsome =>
    split
    next hnull => exact .inl ⟨.inr hnull, _, rfl⟩
    next hclean => exact .inr ⟨not_or.mpr ⟨hsome, hclean⟩, rfl⟩

/-- A target is compared with a folder if both of them can be read. -/
theorem contains_cases (hfolder : folder.Normal) (directory target : String) :
    ((Unreadable directory ∨ Unreadable target) ∧
        ∃ fault, contains folder directory target = .error fault) ∨
      (¬ Unreadable directory ∧ ¬ Unreadable target ∧
        contains folder directory target =
          .ok (decide (folder.resolve directory <+: folder.resolve target))) := by
  have hunfold : contains folder directory target =
      (validate folder directory >>= fun origin => validate folder target >>= fun resolved =>
        .ok (!leadsOut (Path.relativeText origin resolved) &&
          !Text.startsWith (Path.relativeText origin resolved) "/")) := rfl
  rcases validate_cases folder directory with ⟨hunreadable, fault, hfault⟩ | ⟨hread, horigin⟩
  · refine .inl ⟨.inl hunreadable, fault, ?_⟩
    rw [hunfold, hfault]
    rfl
  · rcases validate_cases folder target with ⟨hunreadable, fault, hfault⟩ | ⟨hread', hresolved⟩
    · refine .inl ⟨.inr hunreadable, fault, ?_⟩
      rw [hunfold, horigin, hfault]
      rfl
    · refine .inr ⟨hread, hread', ?_⟩
      rw [hunfold, horigin, hresolved, ok_bind, ok_bind,
        staysInside_relativeText (hfolder.resolve target)]

/-- The check of a target compares components. -/
theorem isPrefix_iff_of_contains (hfolder : folder.Normal) {directory target : String}
    {found : Bool} (hcontains : contains folder directory target = .ok found) :
    found = true ↔ folder.resolve directory <+: folder.resolve target := by
  rcases contains_cases hfolder directory target with ⟨-, fault, hfault⟩ | ⟨-, -, hfound⟩
  · rw [hfault] at hcontains
    contradiction
  · rw [hfound, Except.ok.injEq] at hcontains
    rw [← hcontains, decide_eq_true_eq]

/-- The path lies below the root, and its first name there does not start with two dots. -/
def Path.Enters (root path : Path) : Prop :=
  ∃ name rest, path = root ++ name :: rest ∧ Text.startsWith name ".." = false

theorem Path.Enters.below {root path : Path} (henters : root.Enters path) :
    root <+: path ∧ path ≠ root := by
  obtain ⟨name, rest, rfl, -⟩ := henters
  exact ⟨List.prefix_append _ _, by simp⟩

/-- A path that is strictly below another one has a first name there. -/
theorem Path.exists_name_of_below {root path : Path} (hbelow : root <+: path)
    (hne : path ≠ root) : ∃ name rest, path = root ++ name :: rest := by
  obtain ⟨way, rfl⟩ := hbelow
  cases way with
  | nil => exact absurd (List.append_nil root) hne
  | cons name rest => exact ⟨name, rest, rfl⟩

theorem startsWith_dots_joinWith {name : String} (rest : List String) :
    Text.startsWith (Text.joinWith "/" (name :: rest)) ".." = Text.startsWith name ".." := by
  by_cases hrest : rest = []
  · rw [hrest, Text.joinWith_singleton]
  · rw [Text.joinWith_cons hrest, String.append_assoc, Bool.eq_iff_iff, Text.startsWith_iff,
      Text.startsWith_iff, String.toList_append, String.toList_append]
    exact Text.isPrefix_append_cons_iff (by decide) _ _

/-- What is refused on the text of a way is a path that does not enter the root. -/
theorem refused_relativeText_iff {root path : Path} (hpath : path.Normal) :
    (decide (Path.relativeText root path = "") ||
      Text.startsWith (Path.relativeText root path) ".." ||
      Text.startsWith (Path.relativeText root path) "/") = true ↔ ¬ root.Enters path := by
  rw [Path.not_startsWith_slash_relativeText hpath, Bool.or_false, Bool.or_eq_true,
    decide_eq_true_eq]
  by_cases hbelow : root <+: path
  · obtain ⟨way, rfl⟩ := hbelow
    rw [Path.relativeText, Path.relative_append]
    cases way with
    | nil =>
        refine iff_of_true (.inl rfl) ?_
        intro henters
        exact henters.below.2 (List.append_nil root)
    | cons name rest =>
        have hname : IsName name := hpath name (by simp)
        have hsome : Text.joinWith "/" (name :: rest) ≠ "" :=
          Text.joinWith_ne_empty List.mem_cons_self hname.ne_empty "/"
        rw [startsWith_dots_joinWith, or_iff_right hsome]
        simp [Path.Enters]
  · refine iff_of_true (.inr ?_) (fun henters => hbelow henters.below.1)
    exact startsWith_of_leadsOut ((leadsOut_relativeText hpath).mpr hbelow)

/-- A text is resolved inside a root if both can be read and the path enters the root. -/
theorem resolveWithin_cases (hfolder : folder.Normal) (root text : String) :
    ((Unreadable root ∨ Unreadable ((folder.resolve root).resolve text).text) ∧
        ∃ fault, resolveWithin folder root text = .error fault) ∨
      (¬ Unreadable root ∧ ¬ Unreadable ((folder.resolve root).resolve text).text ∧
        (((folder.resolve root).Enters ((folder.resolve root).resolve text) ∧
            resolveWithin folder root text = .ok ((folder.resolve root).resolve text)) ∨
          (¬ (folder.resolve root).Enters ((folder.resolve root).resolve text) ∧
            resolveWithin folder root text = .error (.escapes root text)))) := by
  have hnormal : ((folder.resolve root).resolve text).Normal := (hfolder.resolve root).resolve text
  have hunfold : resolveWithin folder root text =
      (validate folder root >>= fun origin =>
        validate folder (origin.resolve text).text >>= fun reached =>
          if (decide (Path.relativeText origin reached = "") ||
              Text.startsWith (Path.relativeText origin reached) ".." ||
              Text.startsWith (Path.relativeText origin reached) "/") = true then
            .error (.escapes root text)
          else .ok reached) := rfl
  rcases validate_cases folder root with ⟨hunreadable, fault, hfault⟩ | ⟨hread, horigin⟩
  · refine .inl ⟨.inl hunreadable, fault, ?_⟩
    rw [hunfold, hfault, error_bind]
  · rcases validate_cases folder ((folder.resolve root).resolve text).text with
      ⟨hunreadable, fault, hfault⟩ | ⟨hread', hreached⟩
    · refine .inl ⟨.inr hunreadable, fault, ?_⟩
      rw [hunfold, horigin, ok_bind, hfault, error_bind]
    · refine .inr ⟨hread, hread', ?_⟩
      rw [Path.resolve_text hnormal] at hreached
      rw [hunfold, horigin, ok_bind, hreached, ok_bind]
      by_cases henters : (folder.resolve root).Enters ((folder.resolve root).resolve text)
      · exact .inl ⟨henters, if_neg (fun hrefused =>
          (refused_relativeText_iff hnormal).mp hrefused henters)⟩
      · exact .inr ⟨henters, if_pos ((refused_relativeText_iff hnormal).mpr henters)⟩

/-- A path inside a root is one strictly below it. -/
theorem resolveWithin_ok (hfolder : folder.Normal) {root text : String} {path : Path}
    (hwithin : resolveWithin folder root text = .ok path) :
    path = (folder.resolve root).resolve text ∧
      folder.resolve root <+: path ∧ path ≠ folder.resolve root := by
  rcases resolveWithin_cases hfolder root text with
    ⟨-, fault, hfault⟩ | ⟨-, -, ⟨henters, hok⟩ | ⟨-, hescapes⟩⟩
  · rw [hfault] at hwithin
    contradiction
  · rw [hok, Except.ok.injEq] at hwithin
    subst hwithin
    exact ⟨rfl, henters.below⟩
  · rw [hescapes] at hwithin
    contradiction

end Files
end ApiStubs
