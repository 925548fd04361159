import ApiStubs.Proofs.Files.Path

/-!
# Which paths lie in a folder

Whether a target lies in a folder is decided on the text of the way between them, which
leads from the one to the other.  Since both are resolved to components that are names, the
text leads out exactly if the way starts by going up, which it does exactly if the
components of the folder do not begin those of the target.
-/

namespace ApiStubs
namespace Files

/-! ## Where a way leads -/

namespace Path

variable {origin target : Path}

end Path

/-! ## The check -/

variable {folder : Path} {directory target : String}

theorem validate_of_readable (hread : ¬ Unreadable target) :
    validate folder target = .ok (folder.resolve target) := by
  rcases validate_cases folder target with ⟨hunreadable, -⟩ | ⟨-, hresolved⟩
  · exact absurd hunreadable hread
  · exact hresolved

/-- A target is found in a folder if the components of the folder begin its own. -/
theorem contains_eq_isPrefix (hfolder : folder.Normal) (hdirectory : ¬ Unreadable directory)
    (htarget : ¬ Unreadable target) :
    ∃ origin reached : Path,
      validate folder directory = .ok origin ∧ validate folder target = .ok reached ∧
        origin.Normal ∧ reached.Normal ∧
        contains folder directory target = .ok (decide (origin <+: reached)) := by
  refine ⟨folder.resolve directory, folder.resolve target, validate_of_readable hdirectory,
    validate_of_readable htarget, hfolder.resolve directory, hfolder.resolve target, ?_⟩
  rcases contains_cases hfolder directory target with ⟨hunreadable, -⟩ | ⟨-, -, hcontains⟩
  · exact absurd hunreadable (not_or.mpr ⟨hdirectory, htarget⟩)
  · exact hcontains

theorem contains_eq_isPrefix_of_dotted_name :
    let folder : Path := ["work"]
    let directory := "./api//"
    let target := "api/x/../..cache"
    folder.Normal ∧ ¬ Unreadable directory ∧ ¬ Unreadable target ∧
      validate folder directory = .ok ["work", "api"] ∧
      validate folder target = .ok ["work", "api", "..cache"] ∧
      contains folder directory target = .ok true := by
  intro folder directory target
  have hfolder : folder.Normal := by decide
  have hdirectory : ¬ Unreadable directory := by decide +kernel
  have htarget : ¬ Unreadable target := by decide +kernel
  have horigin : validate folder directory = .ok ["work", "api"] := by decide +kernel
  have hreached : validate folder target = .ok ["work", "api", "..cache"] := by decide +kernel
  obtain ⟨origin, reached, horigin', hreached', -, -, hcontains⟩ :=
    contains_eq_isPrefix hfolder hdirectory htarget
  rw [horigin, Except.ok.injEq] at horigin'
  rw [hreached, Except.ok.injEq] at hreached'
  rw [← horigin', ← hreached', decide_eq_true (by decide)] at hcontains
  exact ⟨hfolder, hdirectory, htarget, horigin, hreached, hcontains⟩

/-- A name that only begins like the folder leads beside it. -/
example : contains ["work"] "api" "../work/api2/x" = .ok false := by
  decide +kernel

end Files
end ApiStubs
