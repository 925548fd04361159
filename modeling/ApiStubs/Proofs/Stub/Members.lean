import ApiStubs.Stub.Layout
import ApiStubs.Stub.Members
import ApiStubs.Proofs.Reference.Fold
import ApiStubs.Proofs.Text.Blank

/-!
# The aliases of a namespace in its stub

The blocks written for a namespace are its aliases, each once and by name, with
their members in order.  They stand unchanged at the beginning of the body,
whatever is declared behind them.
-/

namespace ApiStubs
namespace Stub

/-- The blocks of the aliases of a space: one for each alias, ordered by name, and
with the members of the alias, which are ordered too. -/
structure Shows (ledger : Ledger) (space : String) (blocks : List AliasBlock) :
    Prop where
  names : ∃ names : List String,
    blocks.map (·.name) = names.map (qualify space) ∧
    names.Pairwise (fun a b => Text.compareUnits a b = .lt) ∧
    ∀ name, name ∈ names ↔ ∃ a ∈ ledger.aliases, a.space = space ∧ a.name = name
  members : ∀ a ∈ ledger.aliases, a.space = space →
    ∃ block ∈ blocks, block.name = a.fullName ∧ block.members.Perm a.members ∧
      block.members.Pairwise (fun a b => Text.compareUnits a b = .lt)

theorem shows_aliasBlocksOf {registry : Registry} (hwell : registry.WellFormed)
    (space : String) :
    Shows registry.ledger space (aliasBlocksOf registry space) where
  names := by
    refine ⟨(registry.ledger.aliasesOf space).map (·.name), ?_, ?_, ?_⟩
    · simp only [aliasBlocksOf, List.map_map]
      apply List.map_congr_left
      intro a ha
      obtain ⟨-, hspace⟩ := Ledger.mem_aliasesOf.mp ha
      simp only [Function.comp_apply, Alias.fullName, hspace]
    · exact List.pairwise_map.mpr (hwell.distinct.aliasesOf_strict space)
    · intro name
      simp only [List.mem_map, Ledger.mem_aliasesOf, and_assoc]
  members := by
    intro a ha hspace
    refine ⟨⟨a.fullName, Text.sortByUnits a.members⟩, ?_, rfl,
      Text.sortByUnits_perm a.members, Text.sortByUnits_strict (hwell.sound a ha).nodup⟩
    exact List.mem_map_of_mem (Ledger.mem_aliasesOf.mpr ⟨ha, hspace⟩)

/-- A constant that an alias of the ledger took the place of stands in its block. -/
theorem Shows.replaced {registry : Registry} (hwell : registry.WellFormed)
    {space : String} {blocks : List AliasBlock}
    (hshows : Shows registry.ledger space blocks)
    {substitution : Reference.Substitution}
    (hheld : substitution.HeldBy registry.ledger) :
    ∀ pair ∈ substitution, ∃ qualified,
      QualifiedName.ofText? pair.2 = some qualified ∧
      (qualified.space = space →
        ∃ block ∈ blocks, block.name = pair.2 ∧ pair.1 ∈ block.members) := by
  intro pair hpair
  obtain ⟨a, ha, hname, hmember⟩ := hheld pair hpair
  refine ⟨⟨a.space, a.name⟩, ?_, ?_⟩
  · rw [← hname]
    exact QualifiedName.ofText?_text (hwell.properAlias ha)
  · intro hspace
    obtain ⟨block, hblock, hblockName, hperm, -⟩ := hshows.members a ha hspace
    exact ⟨block, hblock, hblockName.trans hname, hperm.mem_iff.mpr hmember⟩

/-! ## The text of the blocks -/

theorem AliasBlock.endsVisibly {block : AliasBlock} (hmembers : block.members ≠ []) :
    Text.EndsVisibly block.text := by
  unfold AliasBlock.text
  have hlines : Text.EndsVisibly (Text.joinWith "\n"
      (block.members.map (fun member => "---| `" ++ member ++ "`"))) := by
    apply Text.EndsVisibly.joinWith
    · simpa using hmembers
    · intro line hline
      obtain ⟨member, -, rfl⟩ := List.mem_map.mp hline
      apply Text.EndsVisibly.append
      exact ⟨[], '`', rfl, by decide⟩
  have hjoin : Text.joinWith "\n" (("---@alias " ++ block.name) ::
      block.members.map (fun member => "---| `" ++ member ++ "`")) =
      "---@alias " ++ block.name ++ "\n" ++ Text.joinWith "\n"
        (block.members.map (fun member => "---| `" ++ member ++ "`")) :=
    String.intercalate_cons_of_ne_nil (by simpa using hmembers)
  rw [hjoin]
  exact hlines.append _

theorem aliasesText_endsVisibly {blocks : List AliasBlock} (hne : blocks ≠ [])
    (hmembers : ∀ block ∈ blocks, block.members ≠ []) :
    Text.EndsVisibly (aliasesText blocks) := by
  apply Text.EndsVisibly.joinWith
  · simpa using hne
  · intro text htext
    obtain ⟨block, hblock, rfl⟩ := List.mem_map.mp htext
    exact AliasBlock.endsVisibly (hmembers block hblock)

/-- What stands behind the aliases in the body of a stub. -/
def declared (blocks : List AliasBlock) (declarations : List Declaration) : String :=
  Text.trimEnd ((if blocks = [] then "" else "\n\n") ++ joinDeclarations declarations)

/-- The blocks are the beginning of the body, whatever is trimmed from its end. -/
theorem body_aliasesText {blocks : List AliasBlock}
    (hmembers : ∀ block ∈ blocks, block.members ≠ [])
    (declarations : List Declaration) :
    body (aliasesText blocks) declarations =
      aliasesText blocks ++ declared blocks declarations := by
  by_cases hnone : blocks = []
  · subst hnone
    have htext : aliasesText [] = "" := rfl
    simp [body, declared, htext]
  · have hvisible := aliasesText_endsVisibly hnone hmembers
    simp only [body, declared, hvisible.ne_empty, hnone, if_false]
    by_cases hempty : joinDeclarations declarations = ""
    · have hblank : Text.trimEnd "\n\n" = "" := by decide
      rw [if_pos hempty, hempty, String.append_empty, hblank, String.append_empty,
        hvisible.trimEnd_eq]
    · rw [if_neg hempty, String.append_assoc, Text.trimEnd_append hvisible]

theorem aliasBlocksOf_members_ne {registry : Registry} (hwell : registry.WellFormed)
    {space : String} : ∀ block ∈ aliasBlocksOf registry space, block.members ≠ [] := by
  intro block hblock
  obtain ⟨a, ha, rfl⟩ := List.mem_map.mp hblock
  obtain ⟨ha, -⟩ := Ledger.mem_aliasesOf.mp ha
  obtain ⟨short, hmember, -, -⟩ := (hwell.sound a ha).exists_member
  exact List.ne_nil_of_mem (Text.mem_sortByUnits.mpr hmember)

end Stub
end ApiStubs
