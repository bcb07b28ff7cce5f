import Mathlib.Data.List.Basic

/-! # Looking up in lists of pairs

    A list of pairs whose first parts are distinct is a map: what is looked up is
    what is a member, and a filter of the first parts is one of the map. -/

namespace SpannerDialect

variable {α β : Type} [BEq α] [LawfulBEq α] {l : List (α × β)} {k : α} {v : β}

theorem mem_of_lookup (h : l.lookup k = some v) : (k, v) ∈ l := by
  obtain ⟨before, after, rfl, -⟩ := List.lookup_eq_some_iff.mp h
  exact List.mem_append_right before (List.mem_cons_self ..)

/-- What is named once is looked up where it stands. -/
theorem lookup_of_mem (hkeys : (l.map Prod.fst).Nodup) {a : α × β} (ha : a ∈ l) :
    l.lookup a.1 = some a.2 := by
  induction l with
  | nil => cases ha
  | cons b l ih =>
      rw [List.map_cons, List.nodup_cons] at hkeys
      rw [List.lookup_cons]
      rcases List.mem_cons.mp ha with rfl | ha
      · rw [beq_self_eq_true]
      · have hne : a.1 ≠ b.1 := ne_of_mem_of_not_mem (List.mem_map_of_mem ha) hkeys.1
        rw [beq_eq_false_iff_ne.mpr hne]
        exact ih hkeys.2 ha

theorem lookup_eq_some_iff (hkeys : (l.map Prod.fst).Nodup) : l.lookup k = some v ↔ (k, v) ∈ l := by
  constructor
  · exact mem_of_lookup
  · intro h
    exact lookup_of_mem hkeys h

/-- Maps with the same members read the same. -/
theorem lookup_congr {l' : List (α × β)} (hkeys : (l.map Prod.fst).Nodup)
    (hkeys' : (l'.map Prod.fst).Nodup) (h : ∀ v, (k, v) ∈ l ↔ (k, v) ∈ l') :
    l.lookup k = l'.lookup k := by
  apply Option.ext
  intro v
  rw [lookup_eq_some_iff hkeys, lookup_eq_some_iff hkeys', h]

theorem lookup_eq_none_iff : l.lookup k = none ↔ k ∉ l.map Prod.fst := by
  rw [List.lookup_eq_none_iff]
  constructor
  · intro h hmem
    obtain ⟨a, ha, rfl⟩ := List.mem_map.mp hmem
    exact absurd (h a ha) (by simp)
  · intro h a ha
    have hne : k ≠ a.1 := by
      rintro rfl
      exact h (List.mem_map_of_mem ha)
    exact bne_iff_ne.mpr hne

omit [BEq α] [LawfulBEq α] in
theorem map_fst_map_snd {γ : Type} (f : β → γ) :
    (l.map fun a => (a.1, f a.2)).map Prod.fst = l.map Prod.fst :=
  List.map_map

omit [LawfulBEq α] in
/-- What is made of the second parts is made of what is looked up. -/
theorem lookup_map_snd {γ : Type} (f : β → γ) :
    (l.map fun a => (a.1, f a.2)).lookup k = (l.lookup k).map f := by
  induction l with
  | nil => rfl
  | cons a l ih =>
      rw [List.map_cons, List.lookup_cons, List.lookup_cons]
      cases hk : k == a.1 with
      | true => rfl
      | false => exact ih

theorem lookup_filter_fst (p : α → Bool) :
    (l.filter fun a => p a.1).lookup k = if p k then l.lookup k else none := by
  induction l with
  | nil => simp
  | cons a l ih =>
      obtain ⟨k', v'⟩ := a
      by_cases hk : k = k'
      · subst hk
        cases hp : p k with
        | true => simp [hp]
        | false => simp [hp, ih]
      · have hne : (k == k') = false := beq_eq_false_iff_ne.mpr hk
        cases hp : p k' with
        | true => simp [hp, List.lookup_cons, hne, ih]
        | false => simp [hp, List.lookup_cons, hne, ih]

end SpannerDialect
