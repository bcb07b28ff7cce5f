import Mathlib.Data.List.Forall2

/-! # Computations that can fail

    What is known of the parts of a computation that has succeeded, and of one that has
    failed. -/

namespace SpannerDialect

/-- How a computation ends: with a failure of one sort or a result of another. -/
def Ends {ε α : Type} (failed : ε → Prop) (made : α → Prop) : Except ε α → Prop
  | .error e => failed e
  | .ok a => made a

theorem Ends.of_ok {ε α : Type} {failed : ε → Prop} {made : α → Prop} {x : Except ε α} {a : α}
    (h : Ends failed made x) (hx : x = .ok a) : made a := by
  rw [hx] at h
  exact h

theorem Ends.of_error {ε α : Type} {failed : ε → Prop} {made : α → Prop} {x : Except ε α} {e : ε}
    (h : Ends failed made x) (hx : x = .error e) : failed e := by
  rw [hx] at h
  exact h

theorem bind_eq_ok {ε α β : Type} {x : Except ε α} {g : α → Except ε β} {b : β} :
    x >>= g = .ok b ↔ ∃ a, x = .ok a ∧ g a = .ok b := by
  cases x with
  | error e =>
      constructor
      · intro h
        cases h
      · rintro ⟨a, ha, -⟩
        cases ha
  | ok a =>
      constructor
      · intro h
        exact ⟨a, rfl, h⟩
      · rintro ⟨a', ha, h⟩
        obtain rfl := Except.ok.inj ha
        exact h

theorem ok_eq_ok {ε α : Type} {a b : α} : (.ok a : Except ε α) = .ok b ↔ b = a := by
  rw [Except.ok.injEq, eq_comm]

/-- Each step of a computation that succeeds has succeeded. -/
theorem exists_of_bind_eq_ok {ε α β : Type} {x : Except ε α} {g : α → Except ε β} {b : β}
    (h : x >>= g = .ok b) : ∃ a, x = .ok a ∧ g a = .ok b :=
  bind_eq_ok.mp h

theorem exists_bind_eq_ok {ε α β : Type} {x : Except ε α} {g : α → Except ε β} :
    (∃ b, x >>= g = .ok b) ↔ ∃ a, x = .ok a ∧ ∃ b, g a = .ok b := by
  simp only [bind_eq_ok]
  constructor
  · rintro ⟨b, a, ha, hb⟩
    exact ⟨a, ha, b, hb⟩
  · rintro ⟨a, ha, b, hb⟩
    exact ⟨b, a, ha, hb⟩

theorem bind_pure_eq_map {ε α β : Type} (x : Except ε α) (g : α → β) :
    (x >>= fun a => pure (g a)) = x.map g := by
  cases x <;> rfl

theorem map_bind {ε α β γ : Type} (x : Except ε α) (g : α → Except ε β) (f : β → γ) :
    (x >>= g).map f = x >>= fun a => (g a).map f := by
  cases x <;> rfl

/-- Nothing fails after a last step whose result is only put to use. -/
theorem exists_bind_pure_eq_ok {ε α β : Type} {x : Except ε α} {g : α → β} :
    (∃ b, (x >>= fun a => pure (g a)) = .ok b) ↔ ∃ a, x = .ok a := by
  rw [exists_bind_eq_ok]
  constructor
  · rintro ⟨a, ha, -⟩
    exact ⟨a, ha⟩
  · rintro ⟨a, ha⟩
    exact ⟨a, ha, g a, rfl⟩

/-- Two steps succeed when each of them can, if it does not matter to the second what
    the first one gives. -/
theorem exists_bind_iff {ε α β : Type} {x : Except ε α} {g : α → Except ε β} {p q : Prop}
    (hx : (∃ a, x = .ok a) ↔ p) (hg : ∀ a, (∃ b, g a = .ok b) ↔ q) :
    (∃ b, x >>= g = .ok b) ↔ p ∧ q := by
  rw [exists_bind_eq_ok, ← hx]
  constructor
  · rintro ⟨a, ha, hb⟩
    exact ⟨⟨a, ha⟩, (hg a).mp hb⟩
  · rintro ⟨⟨a, ha⟩, hq⟩
    exact ⟨a, ha, (hg a).mpr hq⟩

/-- A list is worked through when each of its members can be. -/
theorem exists_mapM_eq_ok {ε α β : Type} {xs : List α} {f : α → Except ε β} :
    (∃ bs, xs.mapM f = .ok bs) ↔ ∀ a ∈ xs, ∃ b, f a = .ok b := by
  induction xs with
  | nil => simp [pure, Except.pure]
  | cons a xs ih =>
      rw [List.mapM_cons, exists_bind_eq_ok, List.forall_mem_cons, ← ih]
      simp only [exists_bind_pure_eq_ok]
      constructor
      · rintro ⟨b, hb, hbs⟩
        exact ⟨⟨b, hb⟩, hbs⟩
      · rintro ⟨⟨b, hb⟩, hbs⟩
        exact ⟨b, hb, hbs⟩

/-- What a list is worked into, member by member. -/
theorem mapM_eq_ok {ε α β : Type} {xs : List α} {f : α → Except ε β} {bs : List β} :
    xs.mapM f = .ok bs ↔ List.Forall₂ (fun a b => f a = .ok b) xs bs := by
  induction xs generalizing bs with
  | nil =>
      rw [List.mapM_nil, List.forall₂_nil_left_iff]
      exact ok_eq_ok
  | cons a xs ih =>
      rw [List.mapM_cons, bind_eq_ok, List.forall₂_cons_left_iff]
      simp only [bind_eq_ok, ih]
      constructor
      · rintro ⟨b, hb, bs', hbs, hlist⟩
        exact ⟨b, bs', hb, hbs, (Except.ok.inj hlist).symm⟩
      · rintro ⟨b, bs', hb, hbs, rfl⟩
        exact ⟨b, hb, bs', hbs, rfl⟩

/-- Each member of what a list is worked into is made of a member of the list. -/
theorem exists_of_mem_mapM {ε α β : Type} {xs : List α} {f : α → Except ε β} {bs : List β}
    {b : β} (h : xs.mapM f = .ok bs) (hb : b ∈ bs) : ∃ a ∈ xs, f a = .ok b := by
  rw [mapM_eq_ok] at h
  induction h with
  | nil => cases hb
  | cons hfirst hrest ih =>
      cases hb with
      | head => exact ⟨_, List.mem_cons_self, hfirst⟩
      | tail _ hb =>
          obtain ⟨a, ha, hmade⟩ := ih hb
          exact ⟨a, List.mem_cons_of_mem _ ha, hmade⟩

theorem length_of_mapM {ε α β : Type} {xs : List α} {f : α → Except ε β} {bs : List β}
    (h : xs.mapM f = .ok bs) : bs.length = xs.length :=
  (mapM_eq_ok.mp h).length_eq.symm

/-- At each place of what a list is worked into stands what the member at that place is
    worked into. -/
theorem getElem?_of_mapM {ε α β : Type} {xs : List α} {f : α → Except ε β} {bs : List β}
    (h : xs.mapM f = .ok bs) {i : Nat} {a : α} (ha : xs[i]? = some a) :
    ∃ b, bs[i]? = some b ∧ f a = .ok b := by
  rw [mapM_eq_ok] at h
  induction h generalizing i with
  | nil => cases ha
  | cons hfirst _ ih =>
      cases i with
      | zero =>
          obtain rfl := Option.some.inj ha
          exact ⟨_, rfl, hfirst⟩
      | succ i => exact ih ha

/-- A list fails as one of its members does. -/
theorem exists_of_mapM_eq_error {ε α β : Type} {xs : List α} {f : α → Except ε β} {e : ε}
    (h : xs.mapM f = .error e) : ∃ a ∈ xs, f a = .error e := by
  induction xs with
  | nil => cases h
  | cons a xs ih =>
      rw [List.mapM_cons] at h
      cases ha : f a with
      | error e' =>
          rw [ha] at h
          cases h
          exact ⟨a, List.mem_cons_self, ha⟩
      | ok b =>
          cases hxs : xs.mapM f with
          | error e' =>
              rw [ha, hxs] at h
              cases h
              obtain ⟨a', hmem, ha'⟩ := ih hxs
              exact ⟨a', List.mem_cons_of_mem _ hmem, ha'⟩
          | ok bs =>
              rw [ha, hxs] at h
              cases h

/-- A computation behind a check succeeds when the check does not refuse it. -/
theorem guard_eq_ok {ε α : Type} {p : Prop} [Decidable p] {e : ε} {x : Except ε α} {a : α} :
    (if p then .error e else x) = .ok a ↔ ¬ p ∧ x = .ok a := by
  by_cases h : p
  · simp [h]
  · simp [h]

/-- Another wording of a failure makes no success. -/
theorem mapError_eq_ok {ε ε' α : Type} {x : Except ε α} {f : ε → ε'} {a : α} :
    x.mapError f = .ok a ↔ x = .ok a := by
  cases x with
  | error e =>
      constructor
      · intro h
        cases h
      · intro h
        cases h
  | ok b =>
      constructor
      · intro h
        cases h
        rfl
      · intro h
        cases h
        rfl

theorem mapError_eq_error {ε ε' α : Type} {x : Except ε α} {f : ε → ε'} {e : ε'} :
    x.mapError f = .error e ↔ ∃ d, x = .error d ∧ e = f d := by
  cases x with
  | error d => simp [Except.mapError, eq_comm]
  | ok a => simp [Except.mapError]

theorem map_eq_ok {ε α β : Type} {x : Except ε α} {f : α → β} {b : β} :
    x.map f = .ok b ↔ ∃ a, x = .ok a ∧ b = f a := by
  cases x with
  | error e => simp [Except.map]
  | ok a => simp [Except.map, eq_comm]

/-- Nothing is lost of a result that is put under a constructor. -/
theorem map_eq_ok_apply {ε α β : Type} {x : Except ε α} {f : α → β} {a : α}
    (hf : ∀ {a b}, f a = f b → a = b) : x.map f = .ok (f a) ↔ x = .ok a := by
  rw [map_eq_ok]
  constructor
  · rintro ⟨b, hb, hab⟩
    obtain rfl := hf hab
    exact hb
  · intro h
    exact ⟨a, h, rfl⟩

theorem map_eq_error {ε α β : Type} {x : Except ε α} {f : α → β} {e : ε} :
    x.map f = .error e ↔ x = .error e := by
  cases x with
  | error e' => simp [Except.map]
  | ok a => simp [Except.map]

end SpannerDialect
