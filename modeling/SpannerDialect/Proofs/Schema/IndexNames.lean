import Mathlib.Data.List.Basic
import SpannerDialect.Proofs.Except
import SpannerDialect.Schema.Diff

/-! # The names of indexes

    The name that an index is given is not taken: the search for a number strikes
    off what is taken, one number after the other, and ends at the first that is
    left (`exists_firstFree`).  So the names given one after the other are
    distinct, and ordering the indexes by their names loses none of them
    (`perm_of_indexesByName`). -/

namespace SpannerDialect.Schema

variable {taken : List String} {name : String} {i : Index} {is : List Index}
  {named : List (String × Index)}

/-! ## Numbers -/

theorem numbered_inj {m n : Nat} : numbered name m = numbered name n ↔ m = n := by
  constructor
  · intro h
    have hlist := congrArg String.toList h
    rw [numbered, numbered, String.toList_ofList, String.toList_ofList, List.append_cancel_left_eq,
      List.cons.injEq] at hlist
    rw [← Text.number_digits m, hlist.2, Text.number_digits]
  · rintro rfl
    rfl

/-- The search ends at the first number that is not taken. -/
theorem exists_firstFree (taken : List String) (name : String) (n : Nat) :
    ∃ k, n ≤ k ∧ firstFree taken name n = numbered name k ∧ numbered name k ∉ taken ∧
      ∀ j, n ≤ j → j < k → numbered name j ∈ taken := by
  induction taken, n using firstFree.induct name with
  | case1 taken n htaken ih =>
      obtain ⟨k, hk, heq, hfree, hbefore⟩ := ih
      -- what is struck off is none of the later names
      have herase : ∀ j, n + 1 ≤ j →
          (numbered name j ∈ taken.erase (numbered name n) ↔ numbered name j ∈ taken) := by
        intro j hj
        refine List.mem_erase_of_ne fun h => ?_
        have := numbered_inj.mp h
        omega
      refine ⟨k, by omega, ?_, ?_, ?_⟩
      · rw [firstFree, dif_pos htaken, heq]
      · rw [← herase k hk]
        exact hfree
      · intro j hj hlt
        rcases Nat.eq_or_lt_of_le hj with rfl | hj
        · exact htaken
        · exact (herase j hj).mp (hbefore j hj hlt)
  | case2 taken n hfree =>
      refine ⟨n, Nat.le_refl n, ?_, hfree, fun j hj hlt => absurd hlt (Nat.not_lt.mpr hj)⟩
      rw [firstFree, dif_neg hfree]

/-! ## One name -/

theorem freeName_notMem (taken : List String) (i : Index) : freeName taken i ∉ taken := by
  simp only [freeName]
  generalize (if i.storing.isEmpty then i.defaultName else i.storingName) = candidate
  split
  · assumption
  · split
    · assumption
    · obtain ⟨k, -, heq, hfree, -⟩ := exists_firstFree taken candidate 2
      rw [heq]
      exact hfree

/-- The name that an index is given is not taken. -/
theorem assignName_notMem (h : assignName taken i = .ok name) : name ∉ taken := by
  rw [assignName] at h
  split at h
  · obtain ⟨hfree, h⟩ := guard_eq_ok.mp h
    cases h
    exact hfree
  · cases h
    exact freeName_notMem taken i

/-- A name of its own, if it is not taken, is the one that an index is given. -/
theorem assignName_of_notMem (hname : i.name = some name) (h : name ∉ taken) :
    assignName taken i = .ok name := by
  rw [assignName, hname]
  exact if_neg h

/-! ## Names one after the other -/

theorem assignNames_cons :
    assignNames taken (i :: is) = .ok named ↔
      ∃ name rest, assignName taken i = .ok name ∧ assignNames (name :: taken) is = .ok rest ∧
        named = (name, i) :: rest := by
  rw [assignNames]
  simp only [bind_eq_ok]
  constructor
  · rintro ⟨name, hname, rest, hrest, h⟩
    cases h
    exact ⟨name, rest, hname, hrest, rfl⟩
  · rintro ⟨name, rest, hname, hrest, rfl⟩
    exact ⟨name, hname, rest, hrest, rfl⟩

theorem exists_of_assignNames_cons (h : assignNames taken (i :: is) = .ok named) :
    ∃ name rest, assignName taken i = .ok name ∧ assignNames (name :: taken) is = .ok rest ∧
      named = (name, i) :: rest :=
  assignNames_cons.mp h

theorem map_snd_of_assignNames (h : assignNames taken is = .ok named) :
    named.map Prod.snd = is := by
  induction is generalizing taken named with
  | nil =>
      cases h
      rfl
  | cons i is ih =>
      obtain ⟨name, rest, -, hrest, rfl⟩ := exists_of_assignNames_cons h
      rw [List.map_cons, ih hrest]

/-- None of the names has been taken before. -/
theorem notMem_of_assignNames (h : assignNames taken is = .ok named) :
    ∀ name ∈ named.map Prod.fst, name ∉ taken := by
  induction is generalizing taken named with
  | nil =>
      cases h
      exact nofun
  | cons i is ih =>
      obtain ⟨name, rest, hname, hrest, rfl⟩ := exists_of_assignNames_cons h
      refine List.forall_mem_cons.mpr ⟨assignName_notMem hname, ?_⟩
      intro other hother htaken
      exact ih hrest other hother (List.mem_cons_of_mem name htaken)

/-- No name is given twice. -/
theorem nodup_of_assignNames (h : assignNames taken is = .ok named) :
    (named.map Prod.fst).Nodup := by
  induction is generalizing taken named with
  | nil =>
      cases h
      exact List.nodup_nil
  | cons i is ih =>
      obtain ⟨name, rest, -, hrest, rfl⟩ := exists_of_assignNames_cons h
      refine List.nodup_cons.mpr ⟨?_, ih hrest⟩
      intro hmem
      exact notMem_of_assignNames hrest name hmem (List.mem_cons_self ..)

/-- A run goes on behind another one, with the names that this has given taken, the
    last of them first. -/
theorem assignNames_append {as bs : List Index} :
    assignNames taken (as ++ bs) = .ok named ↔
      ∃ front back, assignNames taken as = .ok front ∧
        assignNames ((front.map Prod.fst).reverse ++ taken) bs = .ok back ∧
        named = front ++ back := by
  induction as generalizing taken named with
  | nil =>
      constructor
      · intro h
        exact ⟨[], named, rfl, h, rfl⟩
      · rintro ⟨front, back, hfront, hback, rfl⟩
        cases hfront
        exact hback
  | cons i as ih =>
      rw [List.cons_append, assignNames_cons]
      constructor
      · rintro ⟨name, rest, hname, hrest, rfl⟩
        obtain ⟨front, back, hfront, hback, rfl⟩ := ih.mp hrest
        refine ⟨(name, i) :: front, back, assignNames_cons.mpr ⟨name, front, hname, hfront, rfl⟩,
          ?_, rfl⟩
        rw [List.map_cons, List.reverse_cons, List.append_assoc]
        exact hback
      · rintro ⟨front, back, hfront, hback, rfl⟩
        obtain ⟨name, rest, hname, hrest, rfl⟩ := assignNames_cons.mp hfront
        rw [List.map_cons, List.reverse_cons, List.append_assoc] at hback
        exact ⟨name, rest ++ back, hname, ih.mpr ⟨rest, back, hrest, hback, rfl⟩, rfl⟩

/-! ## The order of the names -/

/-- Indexes in the order of their names are the same ones. -/
theorem perm_assigned_of_indexesByName (h : indexesByName is = .ok named) :
    ∃ assigned, assignNames [] is = .ok assigned ∧ named.Perm assigned := by
  obtain ⟨assigned, hassigned, h⟩ := exists_of_bind_eq_ok h
  cases h
  exact ⟨assigned, hassigned, List.mergeSort_perm ..⟩

theorem nodup_of_indexesByName (h : indexesByName is = .ok named) :
    (named.map Prod.fst).Nodup := by
  obtain ⟨assigned, hassigned, hperm⟩ := perm_assigned_of_indexesByName h
  exact (hperm.map Prod.fst).nodup_iff.mpr (nodup_of_assignNames hassigned)

theorem perm_of_indexesByName (h : indexesByName is = .ok named) :
    (named.map Prod.snd).Perm is := by
  obtain ⟨assigned, hassigned, hperm⟩ := perm_assigned_of_indexesByName h
  rw [← map_snd_of_assignNames hassigned]
  exact hperm.map Prod.snd

end SpannerDialect.Schema
