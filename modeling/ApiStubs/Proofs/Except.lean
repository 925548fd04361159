/-!
# Steps that may fail

What comes out of several steps has come through each of them, and steps for the elements
of a list succeed together if they do one by one.
-/

namespace ApiStubs

variable {ε α β : Type}

theorem exists_eq_ok_of_isOk {result : Except ε α} (hok : result.isOk = true) :
    ∃ a, result = .ok a := by
  cases result with
  | error fault => contradiction
  | ok a => exact ⟨a, rfl⟩

theorem ok_bind {a : α} {next : α → Except ε β} : .ok a >>= next = next a := rfl

theorem error_bind {fault : ε} {next : α → Except ε β} :
    .error fault >>= next = .error fault := rfl

/-- What comes out of two steps has come through both. -/
theorem exists_ok_of_bind {first : Except ε α} {next : α → Except ε β} {result : β}
    (hresult : first >>= next = .ok result) :
    ∃ value, first = .ok value ∧ next value = .ok result := by
  cases first with
  | error fault => contradiction
  | ok value => exact ⟨value, rfl, hresult⟩

theorem bind_eq_ok_iff {first : Except ε α} {next : α → Except ε β} {result : β} :
    first >>= next = .ok result ↔ ∃ value, first = .ok value ∧ next value = .ok result := by
  refine ⟨exists_ok_of_bind, ?_⟩
  rintro ⟨value, hfirst, hnext⟩
  rw [hfirst]
  exact hnext

/-- Two steps succeed if the first one does, and the second one on what it gives. -/
theorem exists_ok_bind_iff {first : Except ε α} {next : α → Except ε β} {p q : Prop}
    (hfirst : (∃ value, first = .ok value) ↔ p)
    (hnext : ∀ value, first = .ok value → ((∃ result, next value = .ok result) ↔ q)) :
    (∃ result, first >>= next = .ok result) ↔ p ∧ q := by
  constructor
  · rintro ⟨result, hresult⟩
    obtain ⟨value, hvalue, hresult⟩ := exists_ok_of_bind hresult
    exact ⟨hfirst.mp ⟨value, hvalue⟩, (hnext value hvalue).mp ⟨result, hresult⟩⟩
  · rintro ⟨hp, hq⟩
    obtain ⟨value, hvalue⟩ := hfirst.mpr hp
    obtain ⟨result, hresult⟩ := (hnext value hvalue).mpr hq
    exact ⟨result, bind_eq_ok_iff.mpr ⟨value, hvalue, hresult⟩⟩

theorem map_eq_ok_iff {step : Except ε α} {f : α → β} {result : β} :
    f <$> step = .ok result ↔ ∃ value, step = .ok value ∧ f value = result := by
  cases step with
  | error fault => exact ⟨nofun, nofun⟩
  | ok value => simp [Functor.map, Except.map]

theorem exists_ok_map_iff {step : Except ε α} {f : α → β} :
    (∃ result, f <$> step = .ok result) ↔ ∃ value, step = .ok value := by
  cases step with
  | error fault => exact ⟨nofun, nofun⟩
  | ok value => exact ⟨fun _ => ⟨value, rfl⟩, fun _ => ⟨f value, rfl⟩⟩

theorem exists_ok_bind_pure_iff {step : Except ε α} {f : α → β} :
    (∃ result, (step >>= fun value => pure (f value)) = .ok result) ↔
      ∃ value, step = .ok value := by
  rw [bind_pure_comp, exists_ok_map_iff]

theorem exists_ok_of_map {step : Except ε α} {f : α → β} {result : β}
    (hresult : step.map f = .ok result) : ∃ value, step = .ok value ∧ f value = result := by
  cases step with
  | error fault => contradiction
  | ok value => exact ⟨value, rfl, Except.ok.inj hresult⟩

variable {f : α → Except ε β} {as : List α}

theorem exists_mapM_eq_ok (hall : ∀ a ∈ as, ∃ b, f a = .ok b) : ∃ bs, as.mapM f = .ok bs := by
  induction as with
  | nil => exact ⟨[], rfl⟩
  | cons a as ih =>
      obtain ⟨b, hb⟩ := hall a List.mem_cons_self
      obtain ⟨bs, hbs⟩ := ih (fun other hother => hall other (List.mem_cons_of_mem a hother))
      refine ⟨b :: bs, ?_⟩
      rw [List.mapM_cons, hb, hbs]
      rfl

theorem mem_of_mapM_eq_ok {bs : List β} (hmap : as.mapM f = .ok bs) {b : β} (hb : b ∈ bs) :
    ∃ a ∈ as, f a = .ok b := by
  induction as generalizing bs with
  | nil =>
      cases hmap
      contradiction
  | cons a as ih =>
      rw [List.mapM_cons] at hmap
      obtain ⟨first, hfirst, hlater⟩ := exists_ok_of_bind hmap
      obtain ⟨rest, hrest, hcons⟩ := exists_ok_of_bind hlater
      cases hcons
      rcases List.mem_cons.mp hb with rfl | hmem
      · exact ⟨a, List.mem_cons_self, hfirst⟩
      · obtain ⟨other, hother, hresult⟩ := ih hrest hmem
        exact ⟨other, List.mem_cons_of_mem a hother, hresult⟩

end ApiStubs
