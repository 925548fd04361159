import ApiStubs.Files.Tree
import ApiStubs.Proofs.Files.Path
import Mathlib.Data.List.Infix

/-!
# What a change leaves alone

A change at or below a root keeps all nodes elsewhere, but folders may appear where
there was nothing on the way to the root.
-/

namespace ApiStubs
namespace Files

theorem lookup_filter {κ α : Type} [BEq κ] [LawfulBEq κ] (keep : κ → Bool) (key : κ)
    (entries : List (κ × α)) :
    (entries.filter (fun entry => keep entry.1)).lookup key =
      if keep key then entries.lookup key else none := by
  induction entries with
  | nil => simp
  | cons entry entries ih =>
      obtain ⟨other, value⟩ := entry
      by_cases hkey : key = other
      · subst hkey
        cases hkeep : keep key with
        | true => simp [hkeep]
        | false => simp [hkeep, ih]
      · have hne : (key == other) = false := beq_eq_false_iff_ne.mpr hkey
        cases hkeep : keep other with
        | true => simp [hkeep, List.lookup_cons, hne, ih]
        | false => simp [hkeep, List.lookup_cons, hne, ih]

namespace Tree

variable {tree later : Tree} {path other : Path}

@[simp]
theorem node?_nil (tree : Tree) : tree.node? [] = some .folder := by
  simp [node?]

theorem node?_put (hne : path ≠ []) (node : Node) :
    (tree.put path node).node? other = if other = path then some node else tree.node? other := by
  unfold node? put
  rw [List.lookup_append, lookup_filter (· != path)]
  by_cases hother : other = path
  · subst hother
    simp [hne]
  · have hnew : (other == path) = false := beq_eq_false_iff_ne.mpr hother
    simp [hother, List.lookup_cons, hnew]

/-- What is not at or below the path is not removed. -/
theorem node?_remove (hremove : tree.remove path = .ok later) (hbelow : ¬ path <+: other) :
    later.node? other = tree.node? other := by
  unfold remove at hremove
  split at hremove
  next => rw [Except.ok.inj hremove]
  next => contradiction
  next =>
    have hkeep : (!path.isPrefixOf other) = true := by
      rw [Bool.not_eq_true', ← Bool.not_eq_true, List.isPrefixOf_iff_prefix]
      exact hbelow
    rw [← Except.ok.inj hremove]
    unfold node?
    rw [lookup_filter (fun key => !path.isPrefixOf key), if_pos hkeep]

/-- A write puts a file at its path, which is not the root of the tree. -/
theorem write_ok {content : String} (hwrite : tree.write path content = .ok later) :
    path ≠ [] ∧ later = tree.put path (.file content) := by
  unfold write at hwrite
  have hne : path ≠ [] := by
    rintro rfl
    have hroot : tree.find [] = .ok .folder := by
      unfold find
      rw [if_neg (by decide)]
      rfl
    rw [hroot] at hwrite
    contradiction
  split at hwrite
  next => contradiction
  next => exact ⟨hne, (Except.ok.inj hwrite).symm⟩
  next => exact ⟨hne, (Except.ok.inj hwrite).symm⟩
  next => contradiction

/-! ## Folders on the way -/

theorem step_folder {component : String} (hname : IsName component) (tree : Tree)
    (path : Path) :
    tree.step (path, .folder) component =
      if longestName < component.utf8ByteSize then .error .nameTooLong
      else
        match tree.node? (path ++ [component]) with
        | none => .error .missing
        | some node => .ok (path ++ [component], node) := by
  have hstep : tree.step (path, .folder) component =
      if longestName < component.utf8ByteSize then .error .nameTooLong
      else
        match tree.node? (path.enter component) with
        | none => .error .missing
        | some node => .ok (path.enter component, node) := rfl
  rw [hstep, Path.enter_of_isName hname]

/-- Making the folder of one more component: it is there and is entered, or it is missing and
is made, or nothing more is made. -/
theorem makeAlong_cons {component : String} (hname : IsName component) (tree : Tree)
    (start : Path) (rest : List String) :
    (∃ node, tree.node? (start ++ [component]) = some node ∧
        tree.makeAlong (start, .folder) (component :: rest) =
          tree.makeAlong (start ++ [component], node) rest) ∨
      (tree.node? (start ++ [component]) = none ∧
        tree.makeAlong (start, .folder) (component :: rest) =
          (tree.put (start ++ [component]) .folder).makeAlong (start ++ [component], .folder)
            rest) ∨
      ∃ fault, tree.makeAlong (start, .folder) (component :: rest) = (tree, some fault) := by
  rw [makeAlong, step_folder hname]
  by_cases hlong : longestName < component.utf8ByteSize
  · rw [if_pos hlong]
    exact .inr (.inr ⟨_, rfl⟩)
  · rw [if_neg hlong]
    cases hnode : tree.node? (start ++ [component]) with
    | none =>
        refine .inr (.inl ⟨rfl, ?_⟩)
        simp only [Path.enter_of_isName hname]
    | some node => exact .inl ⟨node, rfl, rfl⟩

/-- Nodes that are there stay, and those that are new are folders on the way. -/
theorem node?_makeAlong {way : List String} (hway : Path.Normal way) (tree : Tree)
    (start : Path) (node : Node) (other : Path) :
    (tree.makeAlong (start, node) way).1.node? other = tree.node? other ∨
      (tree.node? other = none ∧
        (tree.makeAlong (start, node) way).1.node? other = some .folder ∧
        other <+: start ++ way) := by
  induction way generalizing tree start node with
  | nil => cases node <;> exact .inl rfl
  | cons component rest ih =>
      rw [Path.Normal, List.forall_mem_cons] at hway
      cases node with
      | file content => exact .inl rfl
      | folder =>
          have hsplit : start ++ component :: rest = start ++ [component] ++ rest := by simp
          rw [hsplit]
          rcases makeAlong_cons hway.1 tree start rest with
            ⟨next, -, hmade⟩ | ⟨hmissing, hmade⟩ | ⟨fault, hmade⟩
          · rw [hmade]
            exact ih hway.2 tree _ _
          · rw [hmade]
            have hrest := ih hway.2 (tree.put (start ++ [component]) .folder)
              (start ++ [component]) .folder
            rw [node?_put (by simp)] at hrest
            by_cases hother : other = start ++ [component]
            · subst hother
              rw [if_pos rfl] at hrest
              rcases hrest with hfolder | ⟨hnone, -⟩
              · exact .inr ⟨hmissing, hfolder, List.prefix_append _ _⟩
              · contradiction
            · rwa [if_neg hother] at hrest
          · rw [hmade]
            exact .inl rfl

theorem node?_makeFolders (hpath : path.Normal) (tree : Tree) (other : Path) :
    (tree.makeFolders path).node? other = tree.node? other ∨
      (tree.node? other = none ∧ (tree.makeFolders path).node? other = some .folder ∧
        other <+: path) := by
  unfold makeFolders tryFolders
  split
  next => exact .inl rfl
  next => exact .inl rfl
  next => exact node?_makeAlong hpath tree [] .folder other
  next => exact .inl rfl

/-- If no obstacle is met there is a folder in the end. -/
theorem node?_of_makeAlong {way : List String} (hway : Path.Normal way) {tree : Tree}
    {start : Path} {node : Node} (hstart : tree.node? start = some node)
    (hmade : (tree.makeAlong (start, node) way).2 = none) :
    (tree.makeAlong (start, node) way).1.node? (start ++ way) = some .folder := by
  induction way generalizing tree start node with
  | nil =>
      cases node with
      | file content => contradiction
      | folder => rwa [makeAlong, List.append_nil]
  | cons component rest ih =>
      rw [Path.Normal, List.forall_mem_cons] at hway
      cases node with
      | file content => contradiction
      | folder =>
          have hsplit : start ++ component :: rest = start ++ [component] ++ rest := by simp
          rw [hsplit]
          rcases makeAlong_cons hway.1 tree start rest with
            ⟨next, hnext, hsame⟩ | ⟨-, hsame⟩ | ⟨fault, hsame⟩
          · rw [hsame] at hmade ⊢
            exact ih hway.2 hnext hmade
          · rw [hsame] at hmade ⊢
            have hnew : (tree.put (start ++ [component]) .folder).node? (start ++ [component]) =
                some .folder := by
              rw [node?_put (by simp), if_pos rfl]
            exact ih hway.2 hnew hmade
          · rw [hsame] at hmade
            contradiction

/-- The trees differ only at and below the root, and in folders on the way to it that
the earlier one lacks. -/
def KeptOutside (root : Path) (earlier later : Tree) : Prop :=
  ∀ path, ¬ root <+: path → later.node? path = earlier.node? path ∨
    (earlier.node? path = none ∧ later.node? path = some .folder ∧ path <+: root)

variable {root : Path}

theorem KeptOutside.refl (root : Path) (tree : Tree) : KeptOutside root tree tree :=
  fun _ _ => .inl rfl

theorem KeptOutside.trans {first second third : Tree} (hfirst : KeptOutside root first second)
    (hsecond : KeptOutside root second third) : KeptOutside root first third := by
  intro path hpath
  rcases hsecond path hpath with hsame | ⟨hmissing, hmade, hway⟩
  · rw [hsame]
    exact hfirst path hpath
  · rcases hfirst path hpath with hsame | ⟨-, hfolder, -⟩
    · rw [hsame] at hmissing
      exact .inr ⟨hmissing, hmade, hway⟩
    · rw [hmissing] at hfolder
      contradiction

end Tree

namespace Change

/-- The change is one of the root, or writes a file strictly below it. -/
inductive Within (root : Path) : Change → Prop
  | remove : Within root (.remove root)
  | makeFolders : Within root (.makeFolders root)
  | write {path : Path} (content : String) (hbelow : root <+: path) (hne : path ≠ root) :
      Within root (.write path content)

theorem keptOutside_apply {root : Path} {tree later : Tree} {change : Change}
    (hroot : root.Normal) (hwithin : change.Within root) (happly : change.apply tree = .ok later) :
    tree.KeptOutside root later := by
  intro path hpath
  cases hwithin with
  | remove => exact .inl (Tree.node?_remove happly hpath)
  | makeFolders =>
      rw [← Except.ok.inj happly]
      exact Tree.node?_makeFolders hroot tree path
  | write content hbelow hne =>
      obtain ⟨hpathNe, rfl⟩ := Tree.write_ok happly
      have hother : path ≠ _ := fun hsame => hpath (hsame ▸ hbelow)
      rw [Tree.node?_put hpathNe, if_neg hother]
      exact .inl rfl

/-- The tree after all changes, unless one of them fails. -/
def applyAll (tree : Tree) (changes : List Change) : Except FileFault Tree :=
  changes.foldlM apply tree

theorem applyAll_append {start tree later : Tree} {changes more : List Change}
    (hchanges : applyAll start changes = .ok tree) (hmore : applyAll tree more = .ok later) :
    applyAll start (changes ++ more) = .ok later := by
  rw [applyAll, List.foldlM_append, ← applyAll, hchanges]
  exact hmore

theorem keptOutside_applyAll {root : Path} (hroot : root.Normal) {changes : List Change}
    {tree later : Tree} (hwithin : ∀ change ∈ changes, change.Within root)
    (happly : applyAll tree changes = .ok later) : tree.KeptOutside root later := by
  induction changes generalizing tree with
  | nil =>
      have hsame : tree = later := Except.ok.inj happly
      subst hsame
      exact Tree.KeptOutside.refl root tree
  | cons change changes ih =>
      rw [applyAll, List.foldlM_cons] at happly
      obtain ⟨next, hnext, hrest⟩ := exists_ok_of_bind happly
      have hfirst := keptOutside_apply hroot (hwithin change List.mem_cons_self) hnext
      have hlast := ih (fun other hother => hwithin other (List.mem_cons_of_mem _ hother)) hrest
      exact hfirst.trans hlast

end Change
end Files
end ApiStubs
