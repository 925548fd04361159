import ApiStubs.Proofs.Files.Path
import ApiStubs.Proofs.Files.Tree
import ApiStubs.Proofs.Keyed

/-!
# Writing into a folder

In a sound tree every node stands in a folder, so nothing is left below a path that was
removed.  A file can be written exactly where the folder that it is to stand in can be
reached, its name is not too long and no folder is in its place.  So as long as a folder
has been given nothing but files, further files can be written directly inside it only.
-/

namespace ApiStubs
namespace Files
namespace Tree

variable {tree later : Tree} {path other root : Path}

/-! ## Sound trees -/

/-- Every node stands in a folder. -/
def Sound (tree : Tree) : Prop :=
  ∀ entry ∈ tree.nodes, tree.node? entry.1.dropLast = some .folder

instance (tree : Tree) : Decidable tree.Sound :=
  inferInstanceAs (Decidable (∀ entry ∈ tree.nodes, _))

theorem Sound.parent (hsound : tree.Sound) {node : Node} (hne : path ≠ [])
    (hnode : tree.node? path = some node) : tree.node? path.dropLast = some .folder := by
  rw [node?, if_neg hne] at hnode
  exact hsound (path, node) (Keyed.mem_of_lookup hnode)

theorem Sound.node?_eq_none (hsound : tree.Sound) (hnone : tree.node? path = none)
    (hbelow : path <+: other) : tree.node? other = none := by
  obtain ⟨rest, rfl⟩ := hbelow
  induction rest using List.reverseRecOn with
  | nil => simpa using hnone
  | append_singleton rest component ih =>
      cases hnode : tree.node? (path ++ (rest ++ [component])) with
      | none => rfl
      | some node =>
          have hparent := hsound.parent (by simp) hnode
          rw [← List.append_assoc, List.dropLast_concat, ih] at hparent
          contradiction

/-! ## Walking -/

theorem walk_append (tree : Tree) (place : Path × Node) (first rest : List String) :
    tree.walk place (first ++ rest) =
      tree.walk place first >>= fun reached => tree.walk reached rest := by
  induction first generalizing place with
  | nil => rfl
  | cons component first ih =>
      rw [List.cons_append, walk, walk]
      cases tree.step place component with
      | error obstacle => rfl
      | ok next => exact ih next

theorem walk_cases {start : Path} {node : Node} {way : List String} (hway : Path.Normal way)
    (hnode : tree.node? start = some node) :
    (∃ reached, tree.walk (start, node) way = .ok (start ++ way, reached) ∧
        tree.node? (start ++ way) = some reached) ∨
      ∃ obstacle, tree.walk (start, node) way = .error obstacle ∧
        (obstacle = .missing → ∃ stop, stop <+: start ++ way ∧ tree.node? stop = none) := by
  induction way generalizing start node with
  | nil => exact .inl ⟨node, by simp [walk], by simpa using hnode⟩
  | cons component way ih =>
      have hname : IsName component := hway component List.mem_cons_self
      have hrest : Path.Normal way := fun name hmem => hway name (List.mem_cons_of_mem _ hmem)
      have hsplit : start ++ component :: way = start ++ [component] ++ way := by simp
      rw [walk, hsplit]
      -- Of the obstacles only a missing component tells that a beginning is not there.
      cases node with
      | file content => exact .inr ⟨.notFolder, rfl, by simp⟩
      | folder =>
          rw [step_folder hname]
          split
          next => exact .inr ⟨.nameTooLong, rfl, by simp⟩
          next =>
            cases hnext : tree.node? (start ++ [component]) with
            | none =>
                exact .inr ⟨.missing, rfl, fun _ => ⟨_, List.prefix_append _ _, hnext⟩⟩
            | some next => exact ih hrest hnext

theorem walk_congr {first second : Tree} {start : Path} {node : Node} {way : List String}
    (hway : Path.Normal way)
    (hsame : ∀ path, path <+: start ++ way → first.node? path = second.node? path) :
    first.walk (start, node) way = second.walk (start, node) way := by
  induction way generalizing start node with
  | nil => rfl
  | cons component way ih =>
      have hname : IsName component := hway component List.mem_cons_self
      have hrest : Path.Normal way := fun name hmem => hway name (List.mem_cons_of_mem _ hmem)
      have hsplit : start ++ component :: way = start ++ [component] ++ way := by simp
      rw [hsplit] at hsame
      have hlookup := hsame (start ++ [component]) (List.prefix_append _ _)
      rw [walk, walk]
      cases node with
      | file content => rfl
      | folder =>
          rw [step_folder hname, step_folder hname, hlookup]
          split
          next => rfl
          next =>
            cases second.node? (start ++ [component]) with
            | none => rfl
            | some next => exact ih hrest hsame

/-! ## Finding -/

theorem find_ok_iff (hpath : path.Normal) {node : Node} :
    tree.find path = .ok node ↔ path.text.utf8ByteSize ≤ longestPath ∧
      tree.walk ([], .folder) path = .ok (path, node) := by
  unfold find
  split
  next hlong => simp [Nat.not_le.mpr hlong]
  next hfits =>
    rcases walk_cases hpath (node?_nil tree) with ⟨reached, hwalk, -⟩ | ⟨obstacle, hwalk, -⟩
    · rw [hwalk]
      simp [Nat.le_of_not_lt hfits]
    · rw [hwalk]
      simp

theorem node?_of_find (hpath : path.Normal) {node : Node} (hfind : tree.find path = .ok node) :
    tree.node? path = some node := by
  obtain ⟨-, hfound⟩ := (find_ok_iff hpath).mp hfind
  rcases walk_cases hpath (node?_nil tree) with ⟨reached, hwalk, hnode⟩ | ⟨obstacle, hwalk, -⟩
  · rw [hwalk, Except.ok.injEq, Prod.mk.injEq] at hfound
    rwa [hfound.2] at hnode
  · rw [hwalk] at hfound
    contradiction

theorem node?_of_makingFault? (hpath : path.Normal) (hmade : tree.makingFault? path = none) :
    (tree.makeFolders path).node? path = some .folder := by
  unfold makingFault? tryFolders at hmade
  unfold makeFolders tryFolders
  split at hmade
  next hfolder => exact node?_of_find hpath hfolder
  next => contradiction
  next => exact node?_of_makeAlong hpath (node?_nil tree) hmade
  next => contradiction

/-- A name that is too long hides below a folder that is missing, and that one is made. -/
example :
    let name := String.ofList (List.replicate 256 'a')
    ({} : Tree).tryFolders ["new", name] =
      (⟨[(["new"], .folder)]⟩, some (.making .nameTooLong (Path.text ["new", name]))) := by
  decide +kernel

theorem find_missing_iff :
    tree.find path = .error .missing ↔ path.text.utf8ByteSize ≤ longestPath ∧
      tree.walk ([], .folder) path = .error .missing := by
  unfold find
  split
  next hlong => simp [Nat.not_le.mpr hlong]
  next hfits =>
    cases tree.walk ([], .folder) path with
    | error obstacle => simp [Nat.le_of_not_lt hfits]
    | ok reached => simp

theorem find_congr {first second : Tree} (hpath : path.Normal)
    (hsame : ∀ stop, stop <+: path → first.node? stop = second.node? stop) :
    first.find path = second.find path := by
  have hwalk : first.walk ([], .folder) path = second.walk ([], .folder) path :=
    walk_congr hpath (by simpa using hsame)
  unfold find
  rw [hwalk]

/-- Nothing is left at or below a removed path. -/
theorem Sound.node?_removed (hsound : tree.Sound) (hpath : path.Normal) (hne : path ≠ [])
    (hremove : tree.remove path = .ok later) (hbelow : path <+: other) :
    later.node? other = none := by
  unfold remove at hremove
  split at hremove
  next hmissing =>
    rw [← Except.ok.inj hremove]
    obtain ⟨-, hstopped⟩ := find_missing_iff.mp hmissing
    rcases walk_cases hpath (node?_nil tree) with ⟨reached, hwalk, -⟩ | ⟨obstacle, hwalk, hstop⟩
    · rw [hwalk] at hstopped
      contradiction
    · rw [hwalk] at hstopped
      obtain ⟨stop, hstart, hnone⟩ := hstop (Except.error.inj hstopped)
      exact hsound.node?_eq_none hnone (hstart.trans hbelow)
  next => contradiction
  next =>
    have hother : other ≠ [] := by
      rintro rfl
      exact hne (List.prefix_nil.mp hbelow)
    have hdropped : (!path.isPrefixOf other) = false := by
      rw [Bool.not_eq_false', List.isPrefixOf_iff_prefix]
      exact hbelow
    rw [← Except.ok.inj hremove, node?, if_neg hother,
      lookup_filter (fun key => !path.isPrefixOf key), hdropped]
    rfl

/-! ## Writing -/

/-- The folder can be reached, and so can a file of the name in it. -/
structure Admits (tree : Tree) (path : Path) (name : String) : Prop where
  folder : tree.find path = .ok .folder
  name_le : name.utf8ByteSize ≤ longestName
  text_le : (Path.text (path ++ [name])).utf8ByteSize ≤ longestPath

theorem text_le_append (path : Path) (name : String) :
    path.text.utf8ByteSize ≤ (Path.text (path ++ [name])).utf8ByteSize := by
  by_cases hpath : path = []
  · subst hpath
    simp [Path.text, Text.joinWith]
  · have hjoin : Text.joinWith "/" (path ++ [name]) = Text.joinWith "/" path ++ "/" ++ name := by
      rw [Text.joinWith, String.intercalate_append_of_ne_nil hpath (by simp),
        String.intercalate_singleton]
      rfl
    rw [Path.text, Path.text, hjoin]
    simp only [String.utf8ByteSize_append]
    omega

theorem walk_concat (tree : Tree) (path : Path) (name : String) :
    tree.walk ([], .folder) (path ++ [name]) =
      tree.walk ([], .folder) path >>= fun reached => tree.step reached name := by
  rw [walk_append]
  congr
  funext reached
  rw [walk]
  cases tree.step reached name <;> rfl

theorem Admits.find_eq (hpath : path.Normal) {name : String} (hname : IsName name)
    (hadmits : tree.Admits path name) :
    tree.find (path ++ [name]) =
      match tree.node? (path ++ [name]) with
      | none => .error .missing
      | some node => .ok node := by
  obtain ⟨-, hwalk⟩ := (find_ok_iff hpath).mp hadmits.folder
  rw [find, if_neg (Nat.not_lt.mpr hadmits.text_le), walk_concat, hwalk]
  have hstep : (Except.ok (path, Node.folder) >>= fun reached => tree.step reached name) =
      tree.step (path, .folder) name := rfl
  rw [hstep, step_folder hname, if_neg (Nat.not_lt.mpr hadmits.name_le)]
  cases tree.node? (path ++ [name]) <;> rfl

/-- Whatever is found in a folder, or found missing there, could be a file of its name. -/
theorem admits_of_step (hpath : path.Normal) {name : String} (hname : IsName name)
    (htext : (Path.text (path ++ [name])).utf8ByteSize ≤ longestPath) {node : Node}
    (hwalk : tree.walk ([], .folder) path = .ok (path, node))
    (hstep : (∃ reached, tree.step (path, node) name = .ok reached) ∨
      tree.step (path, node) name = .error .missing) : tree.Admits path name := by
  cases node with
  | file content =>
      have hfile : tree.step (path, .file content) name = .error .notFolder := rfl
      simp [hfile] at hstep
  | folder =>
      rw [step_folder hname] at hstep
      by_cases hlong : longestName < name.utf8ByteSize
      · simp [hlong] at hstep
      · exact {
          folder := (find_ok_iff hpath).mpr ⟨(text_le_append path name).trans htext, hwalk⟩
          name_le := Nat.le_of_not_lt hlong
          text_le := htext }

theorem admits_of_write (hpath : path.Normal) {name : String} (hname : IsName name)
    {content : String} (hwrite : tree.write (path ++ [name]) content = .ok later) :
    tree.Admits path name := by
  have hnormal : Path.Normal (path ++ [name]) := by
    intro component hmem
    rcases List.mem_append.mp hmem with hold | hnew
    · exact hpath component hold
    · rwa [List.mem_singleton.mp hnew]
  unfold write at hwrite
  rw [List.dropLast_concat] at hwrite
  split at hwrite
  next => contradiction
  next hfile =>
    obtain ⟨htext, hwalk⟩ := (find_ok_iff hnormal).mp hfile
    rw [walk_concat] at hwalk
    rcases walk_cases hpath (node?_nil tree) with ⟨node, hfolder, -⟩ | ⟨obstacle, hstopped, -⟩
    · rw [hfolder] at hwalk
      exact admits_of_step hpath hname htext hfolder (.inl ⟨_, hwalk⟩)
    · rw [hstopped] at hwalk
      contradiction
  next hmissing hparent =>
    obtain ⟨htext, hwalk⟩ := find_missing_iff.mp hmissing
    obtain ⟨-, hfolder⟩ := (find_ok_iff hpath).mp hparent
    rw [walk_concat, hfolder] at hwalk
    exact admits_of_step hpath hname htext hfolder (.inr hwalk)
  next => contradiction

/-- A file can be written where its folder admits it and no folder is in its place. -/
theorem write_append_iff (hpath : path.Normal) {name : String} (hname : IsName name)
    (content : String) :
    (∃ later, tree.write (path ++ [name]) content = .ok later) ↔
      tree.Admits path name ∧ tree.node? (path ++ [name]) ≠ some .folder := by
  constructor
  · rintro ⟨later, hwrite⟩
    have hadmits := admits_of_write hpath hname hwrite
    refine ⟨hadmits, ?_⟩
    intro hfolder
    unfold write at hwrite
    rw [hadmits.find_eq hpath hname, hfolder] at hwrite
    contradiction
  · rintro ⟨hadmits, hnode⟩
    unfold write
    rw [hadmits.find_eq hpath hname, List.dropLast_concat, hadmits.folder]
    cases hfound : tree.node? (path ++ [name]) with
    | none => exact ⟨_, rfl⟩
    | some node =>
        cases node with
        | folder => exact absurd hfound hnode
        | file old => exact ⟨_, rfl⟩

/-! ## A folder that is given files -/

/-- The folder holds nothing but these files, directly inside it, and of those at one path
the last one. -/
structure Holds (tree : Tree) (root : Path) (written : List (Path × String)) : Prop where
  folder : tree.node? root = some .folder
  inside : ∀ file ∈ written, ∃ name, IsName name ∧ file.1 = root ++ [name]
  below : ∀ path, root <+: path → path ≠ root →
    tree.node? path = (written.reverse.lookup path).map .file

/-- The folder can be removed and made again, which leaves the other tree. -/
def Remakes (start : Tree) (root : Path) (tree : Tree) : Prop :=
  ∃ removed, start.remove root = .ok removed ∧ removed.makingFault? root = none ∧
    tree = removed.makeFolders root

theorem Sound.holds_of_remakes (hsound : tree.Sound) (hroot : root.Normal) (hne : root ≠ [])
    (hremakes : tree.Remakes root later) : later.Holds root [] := by
  obtain ⟨removed, hremove, hmade, rfl⟩ := hremakes
  refine ⟨node?_of_makingFault? hroot hmade, by simp, ?_⟩
  intro path hbelow hother
  have hnone := hsound.node?_removed hroot hne hremove hbelow
  rcases node?_makeFolders hroot removed path with hsame | ⟨-, -, habove⟩
  · rw [hsame, hnone]
    rfl
  · exact absurd (List.IsPrefix.eq_of_length_le habove hbelow.length_le) hother

namespace Holds

variable {written : List (Path × String)} {name content : String}

theorem node?_iff (hholds : tree.Holds root written) (hdistinct : (written.map (·.1)).Nodup)
    (hbelow : root <+: path) (hother : path ≠ root) :
    tree.node? path = some (.file content) ↔ (path, content) ∈ written := by
  have hreversed : (written.reverse.map (·.1)).Nodup := by
    rwa [List.map_reverse, List.nodup_reverse]
  rw [hholds.below path hbelow hother, Option.map_eq_some_iff]
  simp only [Node.file.injEq, exists_eq_right]
  rw [Keyed.lookup_eq_some_iff hreversed, List.mem_reverse]

/-- Below a folder that holds files only, a file can be written directly inside it. -/
theorem write_iff (hholds : tree.Holds root written) (hroot : root.Normal)
    (hpath : path.Normal) (hbelow : root <+: path) (hother : path ≠ root) :
    (∃ later, tree.write path content = .ok later) ↔
      ∃ name, IsName name ∧ path = root ++ [name] ∧ tree.Admits root name := by
  constructor
  · rintro ⟨later, hwrite⟩
    obtain ⟨parent, name, rfl⟩ : ∃ parent name, path = parent ++ [name] := by
      rcases List.eq_nil_or_concat path with rfl | ⟨parent, name, rfl⟩
      · exact absurd (List.prefix_nil.mp hbelow).symm hother
      · exact ⟨parent, name, List.concat_eq_append⟩
    have hparent : Path.Normal parent :=
      fun component hmem => hpath component (List.mem_append_left _ hmem)
    have hname : IsName name := hpath name (by simp)
    have hadmits := admits_of_write hparent hname hwrite
    have hfolder := node?_of_find hparent hadmits.folder
    by_cases hsame : parent = root
    · subst hsame
      exact ⟨name, hname, rfl, hadmits⟩
    · -- The parent is below the folder too, so it would be a file.
      have habove := (List.prefix_concat_iff.mp hbelow).resolve_left (Ne.symm hother)
      rw [hholds.below parent habove hsame, Option.map_eq_some_iff] at hfolder
      obtain ⟨_, -, hfile⟩ := hfolder
      contradiction
  · rintro ⟨name, hname, rfl, hadmits⟩
    refine (write_append_iff hroot hname content).mpr ⟨hadmits, ?_⟩
    rw [hholds.below _ hbelow hother]
    cases written.reverse.lookup (root ++ [name]) <;> simp

theorem write (hholds : tree.Holds root written) (hname : IsName name)
    (hwrite : tree.write (root ++ [name]) content = .ok later) :
    later.Holds root (written ++ [(root ++ [name], content)]) := by
  obtain ⟨hne, rfl⟩ := write_ok hwrite
  constructor
  · rw [node?_put hne, if_neg (by simp)]
    exact hholds.folder
  · intro file hfile
    rcases List.mem_append.mp hfile with hold | hnew
    · exact hholds.inside file hold
    · rw [List.mem_singleton] at hnew
      exact ⟨name, hname, by rw [hnew]⟩
  · intro path hbelow hother
    rw [node?_put hne, List.reverse_append, List.reverse_singleton, List.singleton_append]
    by_cases hpath : path = root ++ [name]
    · subst hpath
      simp
    · have hdiffers : (path == root ++ [name]) = false := beq_eq_false_iff_ne.mpr hpath
      rw [if_neg hpath, List.lookup_cons, hdiffers]
      exact hholds.below path hbelow hother

end Holds

/-- A file in the folder leaves the way to the folder as it is. -/
theorem admits_of_write_iff (hroot : root.Normal) {name other content : String}
    (hwrite : tree.write (root ++ [name]) content = .ok later) :
    later.Admits root other ↔ tree.Admits root other := by
  obtain ⟨hne, rfl⟩ := write_ok hwrite
  have hfind : (tree.put (root ++ [name]) (.file content)).find root = tree.find root := by
    apply find_congr hroot
    intro stop hstop
    have hother : stop ≠ root ++ [name] := by
      rintro rfl
      have hlength := hstop.length_le
      rw [List.length_append, List.length_singleton] at hlength
      omega
    rw [node?_put hne, if_neg hother]
  constructor
  · intro hadmits
    exact ⟨hfind ▸ hadmits.folder, hadmits.name_le, hadmits.text_le⟩
  · intro hadmits
    exact ⟨hfind ▸ hadmits.folder, hadmits.name_le, hadmits.text_le⟩

end Tree
end Files
end ApiStubs
