import ApiStubs.Proofs.Files.Containment

/-!
# Which paths are accepted below a root

Of the paths strictly below a root all are accepted but those whose first name there starts
with two dots: the check of a path inside a root looks at the first two characters of the
way, where the check of a contained path looks at its first component.  Every other refusal
is a path that is the root itself or leads out of it.
-/

namespace ApiStubs
namespace Files

/-! ## Null characters -/

theorem holdsNull_eq_false_iff {text : String} :
    holdsNull text = false ↔ ∀ c ∈ text.toList, c.toNat ≠ 0 := by
  simp [holdsNull]

namespace Path

/-- No component holds a null character. -/
def Clean (path : Path) : Prop :=
  ∀ component ∈ path, holdsNull component = false

instance (path : Path) : Decidable path.Clean :=
  inferInstanceAs (Decidable (∀ component ∈ path, holdsNull component = false))

variable {folder path : Path}

theorem Clean.enter (hpath : path.Clean) {component : String}
    (hcomponent : holdsNull component = false) : (path.enter component).Clean := by
  unfold Path.enter
  split
  next => exact hpath
  next =>
    split
    next => exact fun name hmem => hpath name (List.mem_of_mem_dropLast hmem)
    next =>
      intro name hmem
      rcases List.mem_append.mp hmem with hold | hnew
      · exact hpath name hold
      · rwa [List.mem_singleton.mp hnew]

theorem Clean.resolve (hfolder : folder.Clean) {text : String}
    (htext : holdsNull text = false) : (folder.resolve text).Clean := by
  have hstart : Clean (if Text.startsWith text "/" then [] else folder) := by
    split
    next => simp [Clean]
    next => exact hfolder
  refine List.foldlRecOn (motive := Clean) _ _ hstart (fun _ hstep piece hpiece => ?_)
  apply hstep.enter
  obtain ⟨cs, hcs, rfl⟩ := List.mem_map.mp hpiece
  rw [holdsNull_eq_false_iff] at htext ⊢
  intro c hc
  rw [String.toList_ofList] at hc
  exact htext c ((Text.splitChars_piece hcs).2 c hc)

theorem Clean.readable_text (hpath : path.Clean) : ¬ Unreadable path.text := by
  rw [Unreadable, not_or, Bool.not_eq_true, holdsNull_eq_false_iff]
  refine ⟨text_ne_empty path, ?_⟩
  intro c hc
  rw [toList_text] at hc
  rcases List.mem_cons.mp hc with rfl | hlater
  · decide
  · rcases Text.mem_joinWith hlater with hslash | ⟨component, hmem, hc⟩
    · rw [List.mem_singleton.mp hslash]
      decide
    · exact holdsNull_eq_false_iff.mp (hpath component hmem) c hc

end Path

/-! ## The check -/

variable {folder : Path} {root text : String}

theorem readable_reached (hclean : folder.Clean) (hroot : ¬ Unreadable root)
    (htext : ¬ Unreadable text) :
    ¬ Unreadable ((folder.resolve root).resolve text).text := by
  have hnull : ∀ {text : String}, ¬ Unreadable text → holdsNull text = false :=
    fun hread => Bool.eq_false_iff.mpr (not_or.mp hread).2
  exact ((hclean.resolve (hnull hroot)).resolve (hnull htext)).readable_text

theorem resolveWithin_of_readable (hfolder : folder.Normal) (hclean : folder.Clean)
    (hroot : ¬ Unreadable root) (htext : ¬ Unreadable text) :
    ((folder.resolve root).Enters ((folder.resolve root).resolve text) ∧
        resolveWithin folder root text = .ok ((folder.resolve root).resolve text)) ∨
      (¬ (folder.resolve root).Enters ((folder.resolve root).resolve text) ∧
        resolveWithin folder root text = .error (.escapes root text)) := by
  rcases resolveWithin_cases hfolder root text with ⟨hunreadable, -⟩ | ⟨-, -, hcases⟩
  · exact absurd hunreadable (not_or.mpr ⟨hroot, readable_reached hclean hroot htext⟩)
  · exact hcases

theorem resolveWithin_eq_ok_iff (hfolder : folder.Normal) (hclean : folder.Clean)
    (hroot : ¬ Unreadable root) (htext : ¬ Unreadable text) {path : Path} :
    resolveWithin folder root text = .ok path ↔
      path = (folder.resolve root).resolve text ∧ (folder.resolve root).Enters path := by
  rcases resolveWithin_of_readable hfolder hclean hroot htext with
    ⟨henters, hok⟩ | ⟨hrefused, hescapes⟩
  · rw [hok, Except.ok.injEq]
    constructor
    · rintro rfl
      exact ⟨rfl, henters⟩
    · exact fun hpath => hpath.1.symm
  · rw [hescapes]
    refine iff_of_false nofun ?_
    rintro ⟨rfl, henters⟩
    exact hrefused henters

/-- There is one way to be refused. -/
theorem resolveWithin_eq_error_iff (hfolder : folder.Normal) (hclean : folder.Clean)
    (hroot : ¬ Unreadable root) (htext : ¬ Unreadable text) {fault : PathFault} :
    resolveWithin folder root text = .error fault ↔
      fault = .escapes root text ∧
        ¬ (folder.resolve root).Enters ((folder.resolve root).resolve text) := by
  rcases resolveWithin_of_readable hfolder hclean hroot htext with
    ⟨henters, hok⟩ | ⟨hrefused, hescapes⟩
  · rw [hok]
    exact iff_of_false nofun (fun hfault => hfault.2 henters)
  · rw [hescapes, Except.error.injEq, eq_comm]
    exact (and_iff_left hrefused).symm

/-- The two checks of a path part where the first name below the root starts with two dots,
and nowhere else. -/
theorem strictly_contained_iff (hfolder : folder.Normal) (hclean : folder.Clean)
    (hroot : ¬ Unreadable root) (htext : ¬ Unreadable text) :
    contains folder root ((folder.resolve root).resolve text).text = .ok true ∧
        (folder.resolve root).resolve text ≠ folder.resolve root ↔
      (∃ path, resolveWithin folder root text = .ok path) ∨
        ∃ name rest, (folder.resolve root).resolve text = folder.resolve root ++ name :: rest ∧
          Text.startsWith name ".." = true := by
  have hnormal : ((folder.resolve root).resolve text).Normal := (hfolder.resolve root).resolve text
  have hcontains : contains folder root ((folder.resolve root).resolve text).text =
      .ok (decide (folder.resolve root <+: (folder.resolve root).resolve text)) := by
    rcases contains_cases hfolder root ((folder.resolve root).resolve text).text with
      ⟨hunreadable, -⟩ | ⟨-, -, hcompared⟩
    · exact absurd hunreadable (not_or.mpr ⟨hroot, readable_reached hclean hroot htext⟩)
    · rwa [Path.resolve_text hnormal] at hcompared
  rw [hcontains, Except.ok.injEq, decide_eq_true_eq]
  constructor
  · rintro ⟨hbelow, hne⟩
    obtain ⟨name, rest, hpath⟩ := Path.exists_name_of_below hbelow hne
    cases hdots : Text.startsWith name ".." with
    | true => exact .inr ⟨name, rest, hpath, hdots⟩
    | false =>
        left
        exact ⟨_, (resolveWithin_eq_ok_iff hfolder hclean hroot htext).mpr
          ⟨rfl, name, rest, hpath, hdots⟩⟩
  · rintro (⟨path, hok⟩ | ⟨name, rest, hpath, -⟩)
    · obtain ⟨rfl, henters⟩ := (resolveWithin_eq_ok_iff hfolder hclean hroot htext).mp hok
      exact henters.below
    · rw [hpath]
      exact ⟨List.prefix_append _ _, by simp⟩

/-- A name may start with two dots without leading up. -/
theorem resolveWithin_refuses_dotted_name :
    validate [] "/t/api" = .ok ["t", "api"] ∧
      contains [] "/t/api" "/t/api/..hidden" = .ok true ∧
      Path.resolve ["t", "api"] "..hidden" = ["t", "api", "..hidden"] ∧
      resolveWithin [] "/t/api" "..hidden" = .error (.escapes "/t/api" "..hidden") := by
  decide +kernel

end Files
end ApiStubs
