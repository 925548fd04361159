import ApiStubs.Table

/-!
# The listing order of a table

The names of a table stand in listing order however they were inserted: insertion keeps
the order, and entries that are in order already are listed as they come.
-/

namespace ApiStubs
namespace Table

open Text (Form)

variable {α κ : Type}

/-- The table without the entry of a name. -/
def without [DecidableEq κ] (table : Table α κ) (name : κ) : Table α κ :=
  ⟨table.entries.filter (fun entry => entry.1 != name)⟩

theorem get?_without [DecidableEq κ] (table : Table α κ) (name : κ) :
    (table.without name).get? name = none := by
  rw [get?, without, List.lookup_eq_none_iff]
  intro entry hentry
  have hother := (List.mem_filter.mp hentry).2
  rw [bne_iff_ne] at hother ⊢
  exact Ne.symm hother

/-! ## Listing -/

variable [Form κ]

/-- Different names, none of which is to be listed before an earlier one. -/
def NamesListed (names : List κ) : Prop :=
  names.Pairwise (fun earlier later => earlier ≠ later ∧ listedBefore later earlier = false)

instance [DecidableEq κ] (names : List κ) : Decidable (NamesListed names) :=
  inferInstanceAs (Decidable (List.Pairwise _ names))

def Listed (entries : List (κ × α)) : Prop :=
  NamesListed (entries.map (·.1))

theorem namesListed_map_ofText {names : List String} :
    NamesListed (names.map (Form.ofText : String → κ)) ↔ NamesListed names := by
  simp [NamesListed, List.pairwise_map, listedBefore]

theorem listedBefore_iff {new old : κ} :
    listedBefore new old = true ↔
      ∃ i, index? (Form.toText new) = some i ∧ ∀ j, index? (Form.toText old) = some j → i < j := by
  unfold listedBefore
  cases index? (Form.toText new) with
  | none => simp
  | some i =>
      cases index? (Form.toText old) with
      | none => simp
      | some j => simp

/-- A name listed before another is listed before all that stand behind that one. -/
theorem names_of_listedBefore {new old later : κ} (hbefore : listedBefore new old = true)
    (hlater : old ≠ later ∧ listedBefore later old = false) :
    new ≠ later ∧ listedBefore later new = false := by
  obtain ⟨i, hi, hless⟩ := listedBefore_iff.mp hbefore
  -- An index that is not listed before the old name is not below its index.
  have hnotBelow : ∀ k, index? (Form.toText later) = some k → i < k := by
    intro k hk
    apply Nat.lt_of_not_le
    intro hle
    have hfirst : listedBefore later old = true :=
      listedBefore_iff.mpr ⟨k, hk, fun j hj => Nat.lt_of_le_of_lt hle (hless j hj)⟩
    rw [hlater.2] at hfirst
    contradiction
  constructor
  · rintro rfl
    exact Nat.lt_irrefl i (hnotBelow i hi)
  · rw [Bool.eq_false_iff]
    intro hfirst
    obtain ⟨k, hk, hbelow⟩ := listedBefore_iff.mp hfirst
    have habove := hnotBelow k hk
    have hunder := hbelow i hi
    omega

theorem names_of_not_listedBefore {new old : κ} (hbefore : listedBefore new old = true) :
    new ≠ old ∧ listedBefore old new = false := by
  obtain ⟨i, hi, hless⟩ := listedBefore_iff.mp hbefore
  constructor
  · rintro rfl
    exact Nat.lt_irrefl i (hless i hi)
  · rw [Bool.eq_false_iff]
    intro hafter
    obtain ⟨j, hj, hmore⟩ := listedBefore_iff.mp hafter
    have hunder := hless j hj
    have habove := hmore i hi
    omega

variable [DecidableEq κ]

theorem mem_names_put {name other : κ} {value : α} {entries : List (κ × α)} :
    other ∈ (put name value entries).map (·.1) ↔ other = name ∨ other ∈ entries.map (·.1) := by
  induction entries with
  | nil => simp [put]
  | cons entry rest ih =>
      obtain ⟨key, old⟩ := entry
      rw [put]
      split
      next hkey => simp [hkey]
      next =>
        split
        next => simp
        next =>
          simp only [List.map_cons, List.mem_cons, ih]
          exact or_left_comm

theorem listed_put {entries : List (κ × α)} (hlisted : Listed entries) (name : κ)
    (value : α) : Listed (put name value entries) := by
  induction entries with
  | nil => exact List.pairwise_singleton _ _
  | cons entry rest ih =>
      obtain ⟨key, old⟩ := entry
      obtain ⟨hkey, hrest⟩ := List.pairwise_cons.mp hlisted
      rw [put]
      split
      next heq =>
        subst heq
        exact hlisted
      next hne =>
        split
        next hbefore =>
          apply List.pairwise_cons.mpr ⟨?_, hlisted⟩
          intro later hlater
          rcases List.mem_cons.mp hlater with rfl | hlater
          · exact names_of_not_listedBefore hbefore
          · exact names_of_listedBefore hbefore (hkey later hlater)
        next hbefore =>
          apply List.pairwise_cons.mpr ⟨?_, ih hrest⟩
          intro later hlater
          rcases mem_names_put.mp hlater with rfl | hlater
          · exact ⟨hne, by simpa using hbefore⟩
          · exact hkey later hlater

/-- Puts one entry after the other. -/
def putAll (entries pairs : List (κ × α)) : List (κ × α) :=
  pairs.foldl (fun entries pair => put pair.1 pair.2 entries) entries

theorem entries_ofList (pairs : List (κ × α)) : (ofList pairs).entries = putAll [] pairs := by
  have hfold : ∀ (pairs : List (κ × α)) (table : Table α κ),
      (pairs.foldl (fun table pair => table.insert pair.1 pair.2) table).entries =
        putAll table.entries pairs := by
    intro pairs
    induction pairs with
    | nil => exact fun _ => rfl
    | cons pair pairs ih => exact fun table => ih _
  exact hfold pairs empty

theorem listed_putAll {entries : List (κ × α)} (hlisted : Listed entries)
    (pairs : List (κ × α)) : Listed (putAll entries pairs) := by
  induction pairs generalizing entries with
  | nil => exact hlisted
  | cons pair pairs ih => exact ih (listed_put hlisted pair.1 pair.2)

theorem listed_ofList (pairs : List (κ × α)) : Listed (ofList pairs).entries := by
  rw [entries_ofList]
  have hnone : Listed ([] : List (κ × α)) := List.Pairwise.nil
  exact listed_putAll hnone pairs

theorem mem_of_mem_put {name : κ} {value : α} {entries : List (κ × α)}
    {entry : κ × α} (hentry : entry ∈ put name value entries) :
    entry = (name, value) ∨ entry ∈ entries := by
  induction entries with
  | nil => exact .inl (List.mem_singleton.mp hentry)
  | cons first rest ih =>
      obtain ⟨key, old⟩ := first
      rw [put] at hentry
      split at hentry
      next =>
        rcases List.mem_cons.mp hentry with rfl | hentry
        · exact .inl rfl
        · exact .inr (List.mem_cons_of_mem _ hentry)
      next =>
        split at hentry
        next => exact List.mem_cons.mp hentry
        next =>
          rcases List.mem_cons.mp hentry with rfl | hentry
          · exact .inr List.mem_cons_self
          · exact (ih hentry).imp_right (List.mem_cons_of_mem _)

theorem mem_of_mem_ofList {pairs : List (κ × α)} {entry : κ × α}
    (hentry : entry ∈ (ofList pairs).entries) : entry ∈ pairs := by
  have hputAll : ∀ (pairs entries : List (κ × α)), entry ∈ putAll entries pairs →
      entry ∈ entries ∨ entry ∈ pairs := by
    intro pairs
    induction pairs with
    | nil => exact fun _ hentry => .inl hentry
    | cons pair pairs ih =>
        intro entries hentry
        rcases ih _ hentry with hentry | hentry
        · rcases mem_of_mem_put hentry with rfl | hentry
          · exact .inr List.mem_cons_self
          · exact .inl hentry
        · exact .inr (List.mem_cons_of_mem _ hentry)
  rw [entries_ofList] at hentry
  exact (hputAll pairs [] hentry).resolve_left List.not_mem_nil

theorem put_of_last {name : κ} {value : α} {entries : List (κ × α)}
    (hlast : ∀ entry ∈ entries, entry.1 ≠ name ∧ listedBefore name entry.1 = false) :
    put name value entries = entries ++ [(name, value)] := by
  induction entries with
  | nil => rfl
  | cons entry rest ih =>
      obtain ⟨key, old⟩ := entry
      obtain ⟨hne, hbefore⟩ := hlast (key, old) List.mem_cons_self
      rw [put, if_neg hne, if_neg (by simpa using hbefore),
        ih (fun entry hentry => hlast entry (List.mem_cons_of_mem _ hentry)), List.cons_append]

/-- Entries in listing order are listed as they come. -/
theorem entries_ofList_of_listed {pairs : List (κ × α)} (hlisted : Listed pairs) :
    (ofList pairs).entries = pairs := by
  have hputAll : ∀ (pairs entries : List (κ × α)), Listed (entries ++ pairs) →
      putAll entries pairs = entries ++ pairs := by
    intro pairs
    induction pairs with
    | nil => simp [putAll]
    | cons pair pairs ih =>
        intro entries hlisted
        have hlast : ∀ entry ∈ entries,
            entry.1 ≠ pair.1 ∧ listedBefore pair.1 entry.1 = false := by
          intro entry hentry
          rw [Listed, NamesListed, List.map_append, List.pairwise_append] at hlisted
          exact hlisted.2.2 _ (List.mem_map_of_mem hentry) _ (by simp)
        have hassoc : entries ++ pair :: pairs = entries ++ [pair] ++ pairs := by simp
        rw [hassoc] at hlisted ⊢
        rw [putAll, List.foldl_cons, ← putAll, put_of_last hlast]
        exact ih _ hlisted
  rw [entries_ofList, hputAll pairs [] hlisted, List.nil_append]

theorem ofList_entries {table : Table α κ} (hlisted : Listed table.entries) :
    ofList table.entries = table :=
  congrArg mk (entries_ofList_of_listed hlisted)

end Table
end ApiStubs
