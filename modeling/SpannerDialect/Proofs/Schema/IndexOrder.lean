import Mathlib.Data.List.Induction
import Mathlib.Data.List.Perm.Basic
import SpannerDialect.Proofs.Schema.IndexDifferences
import SpannerDialect.Proofs.Schema.NameRequests

/-! # The order in which indexes are declared

    An index without a name of its own wants the names that it gets when all other
    such indexes are left out (`wantedNames`).  Where no two want the same name,
    all get what they want (`mem_assignNames_iff`), in whatever order they are
    declared.  Where two do, the one declared first gets the name, and each can be
    that one (`exists_perm_assignNames`).  So a list of indexes does not differ from
    its reorderings just when there is no contention in it
    (`diffIndexes_reordered_iff`). -/

namespace SpannerDialect.Schema

variable {taken own : List String} {name : String} {i : Index}
  {is existing desired : List Index} {named old new : List (String × Index)}

/-! ## No differences -/

/-- Indexes that are like a third one are the same when they are named the same. -/
theorem Index.Alike.eq {a b c : Index} (hb : a.Alike b) (hc : a.Alike c)
    (hname : b.name = c.name) : b = c := by
  rw [Index.mk.injEq]
  exact ⟨hname, hb.table_eq ▸ hc.table_eq, hb.columns_eq ▸ hc.columns_eq,
    hb.unique_eq ▸ hc.unique_eq, hb.nullFiltered_eq ▸ hc.nullFiltered_eq,
    hb.storing_eq ▸ hc.storing_eq, hb.interleaveIn_eq ▸ hc.interleaveIn_eq⟩

/-- A name stands for the same on both sides when it is kept or stands for nothing. -/
theorem rel_alike_iff :
    Option.Rel Index.Alike (old.lookup name) (new.lookup name) ↔
      isKept old new name = true ∨ old.lookup name = none ∧ new.lookup name = none := by
  rw [isKept_eq_true]
  cases old.lookup name with
  | none =>
      cases new.lookup name with
      | none => simp
      | some b => simp
  | some a =>
      cases new.lookup name with
      | none => simp
      | some b => simp

/-- Nothing changes when every name stands for the same on both sides. -/
theorem Change.ofIndexes_eq_nil :
    ofIndexes old new = [] ↔
      ∀ name, Option.Rel Index.Alike (old.lookup name) (new.lookup name) := by
  simp only [ofIndexes, List.append_eq_nil_iff, List.map_eq_nil_iff, rel_alike_iff]
  constructor
  · rintro ⟨hdrops, hcreations⟩ name
    cases hkept : isKept old new name with
    | true => exact Or.inl rfl
    | false =>
        have hdropped : name ∉ droppedNames old new := by
          rw [hdrops]
          exact List.not_mem_nil
        have hcreated : (createdIndexes old new).lookup name = _ := lookup_createdIndexes
        rw [mem_droppedNames] at hdropped
        rw [hcreations, hkept] at hcreated
        exact Or.inr ⟨by_contra fun hold => hdropped ⟨hold, hkept⟩, hcreated.symm⟩
  · intro h
    constructor
    · refine List.eq_nil_iff_forall_not_mem.mpr fun name hmem => ?_
      obtain ⟨hold, hkept⟩ := mem_droppedNames.mp hmem
      rcases h name with hkept' | ⟨hold', -⟩
      · exact ne_true_of_eq_false hkept hkept'
      · exact hold hold'
    · refine List.eq_nil_iff_forall_not_mem.mpr fun b hmem => ?_
      rcases h b.1 with hkept | ⟨-, hnew⟩
      · exact ne_true_of_eq_false (isKept_of_mem_createdIndexes hmem) hkept
      · exact lookup_eq_none_iff.mp hnew (List.mem_map_of_mem (List.mem_of_mem_filter hmem))

/-- Indexes whose names are in order stay as they are. -/
theorem indexesByName_of_pairwise (h : assignNames [] is = .ok named)
    (hsorted : named.Pairwise fun a b => a.1 ≤ b.1) : indexesByName is = .ok named := by
  rw [indexesByName, h]
  exact congrArg Except.ok (List.mergeSort_of_pairwise (hsorted.imp decide_eq_true))

theorem indexesByName_of_assignNames (h : assignNames [] is = .ok named) :
    ∃ sorted, indexesByName is = .ok sorted ∧ ∀ name, sorted.lookup name = named.lookup name := by
  have hsorted : indexesByName is = .ok (named.mergeSort fun a b => decide (a.1 ≤ b.1)) := by
    rw [indexesByName, h]
    rfl
  refine ⟨_, hsorted, fun name => ?_⟩
  exact lookup_congr (nodup_of_indexesByName hsorted) (nodup_of_assignNames h)
    fun i => (List.mergeSort_perm ..).mem_iff

/-- Lists of indexes do not differ when their runs give each name to the same
    index, or to none. -/
theorem diffIndexes_eq_nil (hold : assignNames [] existing = .ok old)
    (hnew : assignNames [] desired = .ok new) :
    diffIndexes existing desired = .ok [] ↔
      ∀ name, Option.Rel Index.Alike (old.lookup name) (new.lookup name) := by
  obtain ⟨oldSorted, hold, hlookupOld⟩ := indexesByName_of_assignNames hold
  obtain ⟨newSorted, hnew, hlookupNew⟩ := indexesByName_of_assignNames hnew
  rw [diffIndexes_eq hold hnew, Except.ok.injEq, Change.ofIndexes_eq_nil]
  simp only [hlookupOld, hlookupNew]

/-- What a name stands for in a list that does not differ is like what it stands for
    in the other one. -/
theorem exists_alike_of_diffIndexes_eq_nil (hold : assignNames [] existing = .ok old)
    (hnew : assignNames [] desired = .ok new) (h : diffIndexes existing desired = .ok [])
    (hi : (name, i) ∈ new) : ∃ a, old.lookup name = some a ∧ a.Alike i := by
  have hrel := (diffIndexes_eq_nil hold hnew).mp h name
  rw [lookup_of_mem (nodup_of_assignNames hnew) hi] at hrel
  cases hlookup : old.lookup name with
  | none =>
      rw [hlookup] at hrel
      cases hrel
  | some a =>
      rw [hlookup] at hrel
      exact ⟨a, rfl, Option.rel_some_some.mp hrel⟩

/-! ## Names of their own -/

/-- The names that indexes have of their own. -/
def ownNames (is : List Index) : List String :=
  is.filterMap Index.name

theorem mem_ownNames : name ∈ ownNames is ↔ ∃ i ∈ is, i.name = some name :=
  List.mem_filterMap

theorem eq_of_assignName {given : String} (hname : i.name = some name)
    (h : assignName taken i = .ok given) : given = name := by
  rw [assignName, hname] at h
  obtain ⟨-, h⟩ := guard_eq_ok.mp h
  exact (Except.ok.inj h).symm

/-- In a run that succeeds no name of an index's own stands twice, and none was taken
    before. -/
theorem nodup_ownNames (h : assignNames taken is = .ok named) :
    (ownNames is).Nodup ∧ ∀ name ∈ ownNames is, name ∉ taken := by
  induction is generalizing taken named with
  | nil => exact ⟨List.nodup_nil, nofun⟩
  | cons i is ih =>
      obtain ⟨given, rest, hgiven, hrest, -⟩ := assignNames_cons.mp h
      obtain ⟨hnodup, hfree⟩ := ih hrest
      have hrestFree : ∀ name ∈ ownNames is, name ∉ taken := fun name hname htaken =>
        hfree name hname (List.mem_cons_of_mem given htaken)
      cases hname : i.name with
      | none =>
          rw [ownNames, List.filterMap_cons_none hname]
          exact ⟨hnodup, hrestFree⟩
      | some name =>
          rw [ownNames, List.filterMap_cons_some hname]
          obtain rfl := eq_of_assignName hname hgiven
          refine ⟨List.nodup_cons.mpr ⟨?_, hnodup⟩,
            List.forall_mem_cons.mpr ⟨assignName_notMem hgiven, hrestFree⟩⟩
          intro hmem
          exact hfree given hmem (List.mem_cons_self ..)

/-- The name that an index gets without one of its own is none that another has. -/
theorem notMem_ownNames (h : assignNames taken is = .ok named) {b : String × Index}
    (hb : b ∈ named) (hname : b.2.name = none) : b.1 ∉ ownNames is := by
  induction is generalizing taken named with
  | nil =>
      cases h
      cases hb
  | cons i is ih =>
      obtain ⟨given, rest, hgiven, hrest, rfl⟩ := assignNames_cons.mp h
      have hfree := (nodup_ownNames hrest).2
      rcases List.mem_cons.mp hb with rfl | hb
      · rw [ownNames, List.filterMap_cons_none hname]
        intro hmem
        exact hfree given hmem (List.mem_cons_self ..)
      · cases hi : i.name with
        | none =>
            rw [ownNames, List.filterMap_cons_none hi]
            exact ih hrest hb
        | some name =>
            obtain rfl := eq_of_assignName hi hgiven
            rw [ownNames, List.filterMap_cons_some hi, List.mem_cons, not_or]
            refine ⟨?_, ih hrest hb⟩
            intro heq
            refine notMem_of_assignNames hrest b.1 (List.mem_map_of_mem hb) ?_
            rw [heq]
            exact List.mem_cons_self ..

/-- Indexes with names of their own fail only where these are taken. -/
theorem exists_assignNames_of_own (hown : ∀ i ∈ is, i.name ≠ none)
    (hnodup : (ownNames is).Nodup) (hfree : ∀ name ∈ ownNames is, name ∉ taken) :
    ∃ named, assignNames taken is = .ok named := by
  induction is generalizing taken with
  | nil => exact ⟨[], rfl⟩
  | cons i is ih =>
      obtain ⟨hi, his⟩ := List.forall_mem_cons.mp hown
      obtain ⟨name, hname⟩ := Option.ne_none_iff_exists'.mp hi
      rw [ownNames, List.filterMap_cons_some hname] at hnodup hfree
      obtain ⟨hnew, hnodup⟩ := List.nodup_cons.mp hnodup
      obtain ⟨hnameFree, hfree⟩ := List.forall_mem_cons.mp hfree
      have hlater : ∀ other ∈ ownNames is, other ∉ name :: taken := by
        intro other hother
        rw [List.mem_cons, not_or]
        exact ⟨ne_of_mem_of_not_mem hother hnew, hfree other hother⟩
      obtain ⟨rest, hrest⟩ := ih his hnodup hlater
      exact ⟨_, assignNames_cons.mpr ⟨name, rest, assignName_of_notMem hname hnameFree, hrest, rfl⟩⟩

/-- Indexes without names of their own never fail. -/
theorem exists_assignNames_of_unnamed (taken : List String) (h : ∀ i ∈ is, i.name = none) :
    ∃ named, assignNames taken is = .ok named := by
  induction is generalizing taken with
  | nil => exact ⟨[], rfl⟩
  | cons i is ih =>
      obtain ⟨hi, his⟩ := List.forall_mem_cons.mp h
      obtain ⟨rest, hrest⟩ := ih (freeName taken i :: taken) his
      exact ⟨_, assignNames_cons.mpr ⟨_, rest, assignName_of_name_eq_none hi, hrest, rfl⟩⟩

theorem exists_assignNames_append {others : List Index} (h : assignNames taken is = .ok named)
    (hothers : ∀ i ∈ others, i.name = none) :
    ∃ rest, assignNames taken (is ++ others) = .ok (named ++ rest) := by
  obtain ⟨rest, hrest⟩ :=
    exists_assignNames_of_unnamed ((named.map Prod.fst).reverse ++ taken) hothers
  exact ⟨rest, assignNames_append.mpr ⟨named, rest, h, hrest, rfl⟩⟩

/-! ## Names that are wanted -/

/-- The names that an index wants for each of its declarations, the last first,
    when some are taken: its own, or those that it gets when no other index asks for
    a name. -/
def wantedNames (taken : List String) (i : Index) : Nat → List String
  | 0 => []
  | n + 1 =>
    i.name.getD (freeName (wantedNames taken i n ++ taken) i) :: wantedNames taken i n

/-- No two of the indexes without a name of their own want the same name, when some
    are taken. -/
def Uncontended (taken : List String) (is : List Index) : Prop :=
  ∀ i ∈ is, ∀ j ∈ is, i.name = none → j.name = none → i ≠ j →
    ∀ name ∈ wantedNames taken i (is.count i), name ∉ wantedNames taken j (is.count j)

instance (taken : List String) (is : List Index) : Decidable (Uncontended taken is) :=
  inferInstanceAs (Decidable (∀ i ∈ is, ∀ j ∈ is, _ → _ → _ → _))

theorem wantedNames_subset {m n : Nat} (h : m ≤ n) :
    wantedNames taken i m ⊆ wantedNames taken i n := by
  induction h with
  | refl => exact List.Subset.refl _
  | step _ ih => exact List.subset_cons_of_subset _ ih

theorem eq_of_mem_wantedNames {n : Nat} (hname : i.name = some name) {other : String}
    (h : other ∈ wantedNames taken i n) : other = name := by
  induction n with
  | zero => cases h
  | succ n ih =>
      rw [wantedNames, hname] at h
      rcases List.mem_cons.mp h with hfirst | hrest
      · exact hfirst
      · exact ih hrest

theorem Uncontended.of_append {as bs : List Index} (h : Uncontended taken (as ++ bs)) :
    Uncontended taken as := by
  intro i hi j hj hni hnj hne name hwi hwj
  have hsub := List.sublist_append_left as bs
  exact h i (hsub.subset hi) j (hsub.subset hj) hni hnj hne name
    (wantedNames_subset (hsub.count_le i) hwi) (wantedNames_subset (hsub.count_le j) hwj)

theorem Uncontended.perm {permuted : List Index} (h : Uncontended taken is)
    (hperm : permuted.Perm is) : Uncontended taken permuted := by
  intro i hi j hj hni hnj hne name
  rw [hperm.count_eq, hperm.count_eq]
  exact h i (hperm.mem_iff.mp hi) j (hperm.mem_iff.mp hj) hni hnj hne name

/-! ## Without contention -/

theorem mem_of_mem_wantedNames {j : Index} (h : name ∈ wantedNames taken j (is.count j)) :
    j ∈ is := by
  by_contra hnot
  rw [List.count_eq_zero_of_not_mem hnot] at h
  cases h

/-- What the last index wants is wanted by none of the other ones. -/
theorem Uncontended.notMem_wantedNames (h : Uncontended own (is ++ [i])) (his : ownNames is ⊆ own)
    (hname : i.name = none) {j : Index} (hij : i ≠ j) :
    freeName (wantedNames own i (is.count i) ++ own) i ∉ wantedNames own j (is.count j) := by
  intro hwants
  have hj := mem_of_mem_wantedNames hwants
  cases hnj : j.name with
  | some name =>
      refine freeName_notMem (wantedNames own i (is.count i) ++ own) i ?_
      rw [eq_of_mem_wantedNames hnj hwants]
      exact List.mem_append_right _ (his (mem_ownNames.mpr ⟨j, hj, hnj⟩))
  | none =>
      have hsub := List.sublist_append_left is [i]
      refine h i (List.mem_append_right _ (List.mem_cons_self ..)) j (hsub.subset hj) hname hnj hij
        _ ?_ (wantedNames_subset (hsub.count_le j) hwants)
      rw [List.count_append, List.count_singleton_self, wantedNames, hname]
      exact List.mem_cons_self ..

/-- Two names that an index is given are one when neither is taken on the side of the
    other. -/
theorem eq_of_assignName_of_subset {taken₁ taken₂ : List String} {name₁ name₂ : String}
    (h₁ : assignName taken₁ i = .ok name₁) (h₂ : assignName taken₂ i = .ok name₂)
    (hsub₁ : taken₁ ⊆ taken) (hsub₂ : taken₂ ⊆ taken) (hfree₁ : name₁ ∉ taken)
    (hfree₂ : name₂ ∉ taken) : name₁ = name₂ := by
  have h := (assignName_mono h₁ hsub₁ hfree₁).symm.trans (assignName_mono h₂ hsub₂ hfree₂)
  exact Except.ok.inj h

/-- Where all indexes before it have what they want, the last one gets what it
    wants. -/
theorem eq_wanted_of_assignName {given : String}
    (hgiven : assignName (named.map Prod.fst).reverse i = .ok given)
    (hnamed : ∀ name j, (name, j) ∈ named ↔ name ∈ wantedNames own j (is.count j))
    (his : ownNames is ⊆ own) (hown : i.name = none → given ∉ own)
    (hfree : Uncontended own (is ++ [i])) :
    given = i.name.getD (freeName (wantedNames own i (is.count i) ++ own) i) := by
  cases hname : i.name with
  | some name => exact eq_of_assignName hname hgiven
  | none =>
      have hwants : assignName (wantedNames own i (is.count i) ++ own) i = .ok _ :=
        assignName_of_name_eq_none hname
      have hwantedFree := assignName_notMem hwants
      rw [List.mem_append, not_or] at hwantedFree
      have hnotTaken : freeName (wantedNames own i (is.count i) ++ own) i
          ∉ (named.map Prod.fst).reverse := by
        rw [List.mem_reverse]
        intro hmem
        obtain ⟨⟨other, j⟩, hj, hother⟩ := List.mem_map.mp hmem
        rw [hnamed, show other = _ from hother] at hj
        by_cases hij : i = j
        · subst hij
          exact hwantedFree.1 hj
        · exact hfree.notMem_wantedNames his hname hij hj
      have hsub : wantedNames own i (is.count i) ++ own ⊆ (named.map Prod.fst).reverse ++ own := by
        refine List.append_subset.mpr ⟨?_, List.subset_append_right _ _⟩
        intro name hmem
        refine List.mem_append_left _ (List.mem_reverse.mpr ?_)
        exact List.mem_map_of_mem ((hnamed name i).mpr hmem)
      exact eq_of_assignName_of_subset hgiven hwants (List.subset_append_left _ own) hsub
        (List.not_mem_append (assignName_notMem hgiven) (hown hname))
        (List.not_mem_append hnotTaken hwantedFree.2)

/-- Without contention all indexes get what they want. -/
theorem mem_assignNames_iff (h : assignNames [] is = .ok named)
    (hown : ∀ b ∈ named, b.2.name = none → b.1 ∉ own) (his : ownNames is ⊆ own)
    (hfree : Uncontended own is) (name : String) (i : Index) :
    (name, i) ∈ named ↔ name ∈ wantedNames own i (is.count i) := by
  -- from the end of the list: what is taken there is what the run before has given
  induction is using List.reverseRecOn generalizing named name i with
  | nil =>
      cases h
      simp [wantedNames]
  | append_singleton is last ih =>
      obtain ⟨front, back, hfront, hback, rfl⟩ := assignNames_append.mp h
      obtain ⟨given, rest, hgiven, hrest, rfl⟩ := assignNames_cons.mp hback
      cases hrest
      have hbefore : ownNames is ⊆ own :=
        List.Subset.trans ((List.sublist_append_left is [last]).filterMap Index.name).subset his
      have ih := ih hfront (fun b hb => hown b (List.mem_append_left _ hb)) hbefore hfree.of_append
      rw [List.append_nil] at hgiven
      have hgets := eq_wanted_of_assignName hgiven ih hbefore
        (hown (given, last) (List.mem_append_right _ (List.mem_cons_self ..))) hfree
      rw [List.mem_append, ih, List.mem_singleton, List.count_append]
      by_cases hi : last = i
      · subst hi
        rw [List.count_singleton_self, wantedNames, List.mem_cons, ← hgets, Prod.mk.injEq,
          or_comm, and_iff_left rfl]
      · rw [List.count_singleton, if_neg (by simpa using hi), Nat.add_zero]
        simp [Ne.symm hi]

/-! ## With contention -/

/-- The indexes with names of their own, and behind them the declarations of one
    without. -/
def withOnly (is : List Index) (i : Index) : List Index :=
  (is.filter fun j => j.name.isSome) ++ is.filter fun j => j == i

theorem eq_of_mem_withOnly {j : Index} (h : j ∈ withOnly is i) (hj : j.name = none) : j = i := by
  rcases List.mem_append.mp h with h | h
  · have hsome := (List.mem_filter.mp h).2
    rw [hj] at hsome
    cases hsome
  · exact beq_iff_eq.mp (List.mem_filter.mp h).2

theorem ownNames_filter : ownNames (is.filter fun j => j.name.isSome) = ownNames is := by
  rw [ownNames, List.filterMap_filter]
  refine List.filterMap_congr fun j _ => ?_
  cases j.name with
  | none => rfl
  | some name => rfl

theorem ownNames_withOnly (hname : i.name = none) : ownNames (withOnly is i) = ownNames is := by
  have hcopies : ownNames (is.filter fun j => j == i) = [] := by
    refine List.filterMap_eq_nil_iff.mpr fun j hj => ?_
    rw [beq_iff_eq.mp (List.mem_filter.mp hj).2, hname]
  show List.filterMap _ (_ ++ _) = _
  rw [List.filterMap_append]
  show ownNames _ ++ ownNames _ = _
  rw [ownNames_filter, hcopies, List.append_nil]

/-- Only indexes without names of their own are left out. -/
theorem exists_perm_withOnly (is : List Index) (hname : i.name = none) :
    ∃ others, (withOnly is i ++ others).Perm is ∧ ∀ j ∈ others, j.name = none ∧ j ≠ i := by
  have hcopies : (is.filter fun j => j == i)
      = (is.filter fun j => !j.name.isSome).filter fun j => j == i := by
    rw [List.filter_filter]
    refine List.filter_congr fun j _ => ?_
    by_cases hj : j = i
    · rw [hj, hname]
      simp
    · simp [hj]
  refine ⟨(is.filter fun j => !j.name.isSome).filter fun j => !(j == i), ?_, ?_⟩
  · rw [withOnly, hcopies, List.append_assoc]
    refine List.Perm.trans ?_ (List.filter_append_perm (fun j => j.name.isSome) is)
    exact (List.filter_append_perm (fun j => j == i) _).append_left _
  · intro j hj
    obtain ⟨hunnamed, hother⟩ := List.mem_filter.mp hj
    refine ⟨?_, by simpa using hother⟩
    simpa using (List.mem_filter.mp hunnamed).2

theorem count_withOnly (hname : i.name = none) : (withOnly is i).count i = is.count i := by
  obtain ⟨others, hperm, hothers⟩ := exists_perm_withOnly is hname
  have hnone : others.count i = 0 := List.count_eq_zero_of_not_mem fun h => (hothers i h).2 rfl
  rw [← hperm.count_eq, List.count_append, hnone, Nat.add_zero]

/-- Next to names that indexes have of their own an index gets what it wants. -/
theorem mem_assignNames_withOnly (hname : i.name = none)
    (h : assignNames [] (withOnly is i) = .ok named) :
    (name, i) ∈ named ↔ name ∈ wantedNames (ownNames is) i (is.count i) := by
  have hfree : Uncontended (ownNames is) (withOnly is i) := by
    intro a ha b hb hna hnb hne
    exact absurd ((eq_of_mem_withOnly ha hna).trans (eq_of_mem_withOnly hb hnb).symm) hne
  have hown : ∀ b ∈ named, b.2.name = none → b.1 ∉ ownNames is := by
    intro b hb hnb
    rw [← ownNames_withOnly hname]
    exact notMem_ownNames h hb hnb
  have hsub : ownNames (withOnly is i) ⊆ ownNames is := by
    rw [ownNames_withOnly hname]
    exact List.Subset.refl _
  rw [mem_assignNames_iff h hown hsub hfree, count_withOnly hname]

theorem exists_assignNames_withOnly (h : assignNames [] is = .ok named) (hname : i.name = none) :
    ∃ assigned, assignNames [] (withOnly is i) = .ok assigned := by
  have hown : ∀ j ∈ is.filter fun j => j.name.isSome, j.name ≠ none := fun j hj =>
    Option.isSome_iff_ne_none.mp (List.mem_filter.mp hj).2
  have hcopies : ∀ j ∈ is.filter fun j => j == i, j.name = none := by
    intro j hj
    rw [beq_iff_eq.mp (List.mem_filter.mp hj).2, hname]
  have hnodup := (nodup_ownNames h).1
  rw [← ownNames_filter] at hnodup
  obtain ⟨front, hfront⟩ : ∃ front, assignNames [] _ = .ok front :=
    exists_assignNames_of_own hown hnodup fun _ _ => List.not_mem_nil
  obtain ⟨back, hrun⟩ := exists_assignNames_append hfront hcopies
  exact ⟨front ++ back, hrun⟩

/-- An index without a name of its own gets the names that it wants when it is
    declared before the others like it. -/
theorem exists_perm_assignNames (h : assignNames [] is = .ok named) (hname : i.name = none)
    (hwants : name ∈ wantedNames (ownNames is) i (is.count i)) :
    ∃ permuted assigned, permuted.Perm is ∧ assignNames [] permuted = .ok assigned ∧
      (name, i) ∈ assigned := by
  obtain ⟨others, hperm, hothers⟩ := exists_perm_withOnly is hname
  obtain ⟨assigned, hassigned⟩ := exists_assignNames_withOnly h hname
  obtain ⟨rest, hrun⟩ := exists_assignNames_append hassigned fun j hj => (hothers j hj).1
  refine ⟨_, _, hperm, hrun, List.mem_append_left rest ?_⟩
  exact (mem_assignNames_withOnly hname hassigned).mpr hwants

/-! ## Reordered indexes -/

/-- Without contention a reordering changes no name. -/
theorem lookup_assignNames_perm {permuted : List Index} (hold : assignNames [] is = .ok old)
    (hnew : assignNames [] permuted = .ok new) (hperm : permuted.Perm is)
    (hfree : Uncontended (ownNames is) is) (name : String) : old.lookup name = new.lookup name := by
  have hown : (ownNames permuted).Perm (ownNames is) := hperm.filterMap Index.name
  have hnewOwn : ∀ b ∈ new, b.2.name = none → b.1 ∉ ownNames is := by
    intro b hb hnb
    rw [← hown.mem_iff]
    exact notMem_ownNames hnew hb hnb
  refine lookup_congr (nodup_of_assignNames hold) (nodup_of_assignNames hnew) fun i => ?_
  rw [mem_assignNames_iff hold (fun b => notMem_ownNames hold) (List.Subset.refl _) hfree,
    mem_assignNames_iff hnew hnewOwn hown.subset (hfree.perm hperm), hperm.count_eq]

/-- **A list of indexes does not differ from its reorderings just when no two
    different indexes in it want the same name.**  The names that an index without
    one of its own wants are those that it gets next to the names that others have
    of their own. -/
theorem diffIndexes_reordered_iff (h : assignNames [] is = .ok named) :
    (∀ permuted, permuted.Perm is → (∃ assigned, assignNames [] permuted = .ok assigned) →
        diffIndexes is permuted = .ok [] ∧ diffIndexes permuted is = .ok []) ↔
      Uncontended (ownNames is) is := by
  constructor
  · intro hsame i hi j hj hni hnj hne name hwi hwj
    obtain ⟨first, firstNamed, hfirst, hfirstNamed, hgetsi⟩ := exists_perm_assignNames h hni hwi
    obtain ⟨second, secondNamed, hsecond, hsecondNamed, hgetsj⟩ := exists_perm_assignNames h hnj hwj
    -- what has the name in the list is like both
    obtain ⟨a, ha, hlikei⟩ := exists_alike_of_diffIndexes_eq_nil h hfirstNamed
      (hsame first hfirst ⟨_, hfirstNamed⟩).1 hgetsi
    obtain ⟨b, hb, hlikej⟩ := exists_alike_of_diffIndexes_eq_nil h hsecondNamed
      (hsame second hsecond ⟨_, hsecondNamed⟩).1 hgetsj
    obtain rfl := Option.some.inj (ha.symm.trans hb)
    exact hne (hlikei.eq hlikej (hni.trans hnj.symm))
  · rintro hfree permuted hperm ⟨assigned, hassigned⟩
    have hlookup := lookup_assignNames_perm h hassigned hperm hfree
    rw [diffIndexes_eq_nil h hassigned, diffIndexes_eq_nil hassigned h]
    have hrefl : ∀ name, Option.Rel Index.Alike (named.lookup name) (named.lookup name) := by
      intro name
      cases named.lookup name with
      | none => exact .none
      | some i => exact .some (i.alike_of_name i.name)
    simp only [← hlookup]
    exact ⟨hrefl, hrefl⟩

/-- An index of the names that stores the days of birth. -/
def storingIndex : Index :=
  { Index.ofColumns "User" ["name"] with storing := ["born"] }

/-- A plain index of the names, and one that stores the days of birth. -/
def contendingIndexes : List Index :=
  [.ofColumns "User" ["name"], storingIndex]

/-- Whichever of the two is declared first has the plain name, so that all indexes are
    dropped and created again when they are declared in the other order. -/
theorem diffIndexes_contendingIndexes :
    contendingIndexes.reverse.Perm contendingIndexes ∧
      (assignNames [] contendingIndexes).map (List.map Prod.fst)
        = .ok ["user_name_index", "user_name_storing_born_index"] ∧
      (assignNames [] contendingIndexes.reverse).map (List.map Prod.fst)
        = .ok ["user_name_index", "user_name_index_2"] ∧
      diffIndexes contendingIndexes contendingIndexes.reverse
        = .ok [.dropIndex "user_name_index", .dropIndex "user_name_storing_born_index",
            .createIndex { storingIndex with name := some "user_name_index" },
            .createIndex { Index.ofColumns "User" ["name"] with
              name := some "user_name_index_2" }] := by
  refine ⟨List.reverse_perm _, by decide +kernel, by decide +kernel, ?_⟩
  have hold : indexesByName contendingIndexes
      = .ok [("user_name_index", .ofColumns "User" ["name"]),
          ("user_name_storing_born_index", storingIndex)] := by
    refine indexesByName_of_pairwise (by decide +kernel) ?_
    decide
  have hnew : indexesByName contendingIndexes.reverse
      = .ok [("user_name_index", storingIndex),
          ("user_name_index_2", .ofColumns "User" ["name"])] := by
    refine indexesByName_of_pairwise (by decide +kernel) ?_
    decide
  rw [diffIndexes_eq hold hnew]
  rfl

/-- Two declarations of one index, one of it with a name of its own, and an index of the
    days of birth. -/
def repeatedIndexes : List Index :=
  [.ofColumns "User" ["name"], { Index.ofColumns "User" ["name"] with name := some "by_name" },
    .ofColumns "User" ["name"], { Index.ofColumns "User" ["born"] with unique := true }]

theorem diffIndexes_reordered_repeatedIndexes :
    ∃ named, assignNames [] repeatedIndexes = .ok named ∧
      named.map Prod.fst = ["user_name_index", "by_name", "user_name_index_2", "user_born_unique"] ∧
      Uncontended (ownNames repeatedIndexes) repeatedIndexes ∧
      ∀ permuted, permuted.Perm repeatedIndexes →
        (∃ assigned, assignNames [] permuted = .ok assigned) →
        diffIndexes repeatedIndexes permuted = .ok [] ∧
          diffIndexes permuted repeatedIndexes = .ok [] := by
  have hrun : (assignNames [] repeatedIndexes).map (List.map Prod.fst)
      = .ok ["user_name_index", "by_name", "user_name_index_2", "user_born_unique"] := by
    decide +kernel
  obtain ⟨named, hnamed, hnames⟩ := map_eq_ok.mp hrun
  have hfree : Uncontended (ownNames repeatedIndexes) repeatedIndexes :=
    by decide +kernel
  exact ⟨named, hnamed, hnames.symm, hfree, (diffIndexes_reordered_iff hnamed).mpr hfree⟩

end SpannerDialect.Schema
