import Mathlib.Data.Finset.Basic
import SpannerDialect.Proofs.Schema.Runs

/-! # The names of indexes and constraints

    A change that creates an index or a constraint takes a name that must be
    free, and one that drops it frees a name that must be in use.  A batch drops
    before it creates.  So it does with the names what the declared changes do
    just when no change drops what one before it has created; where one does,
    the batch cannot be carried out (`Synthesis.batch_keepsNames`). -/

namespace SpannerDialect.Schema

/-! ## Names in use -/

/-- An index or a constraint, by its name. -/
inductive Named
  | index (name : String)
  | constraint (name : String)
deriving DecidableEq

/-- The names in use when one is taken, which must be free. -/
def Named.take? (names : Finset Named) (n : Named) : Option (Finset Named) :=
  if n ∈ names then none else some (insert n names)

/-- The names in use when one is freed, which must be in use. -/
def Named.free? (names : Finset Named) (n : Named) : Option (Finset Named) :=
  if n ∈ names then some (names.erase n) else none

theorem Named.take?_take?_comm {names : Finset Named} {n m : Named} (h : m ≠ n) :
    (take? names n).bind (fun names => take? names m)
      = (take? names m).bind fun names => take? names n := by
  simp only [take?]
  by_cases hn : n ∈ names
  · by_cases hm : m ∈ names
    · simp [hn, hm]
    · simp [hn, hm]
  · by_cases hm : m ∈ names
    · simp [hn, hm]
    · simp [hn, hm, h, h.symm, Finset.insert_comm n m]

theorem Named.take?_free?_comm {names : Finset Named} {n m : Named} (h : m ≠ n) :
    (take? names n).bind (fun names => free? names m)
      = (free? names m).bind fun names => take? names n := by
  simp only [take?, free?]
  by_cases hn : n ∈ names
  · by_cases hm : m ∈ names
    · simp [hn, hm, h.symm]
    · simp [hn, hm]
  · by_cases hm : m ∈ names
    · simp [hn, hm, Finset.erase_insert_of_ne h.symm]
    · simp [hn, hm, h]

namespace Change

/-- What a change creates, by the name in its statement. -/
def creates? (table : String) : Change → Option Named
  | .createIndex i => some (.index i.defaultName)
  | .addForeignKey k => some (.constraint (k.defaultName table))
  | _ => none

/-- What a change drops. -/
def drops? : Change → Option Named
  | .dropIndex name => some (.index name)
  | .dropForeignKey name => some (.constraint name)
  | _ => none

/-- The names in use after the statement of a change, if it applies. -/
def rename? (table : String) (names : Finset Named) (c : Change) : Option (Finset Named) :=
  match c.creates? table, c.drops? with
  | some n, _ => Named.take? names n
  | none, some n => Named.free? names n
  | none, none => some names

/-- The names in use after the statements of some changes, if each applies
    where it stands. -/
def namesAfter? (table : String) (names : Finset Named) (cs : List Change) :
    Option (Finset Named) :=
  cs.foldlM (rename? table) names

/-- No change drops what one before it has created. -/
def KeepsCreated (table : String) (cs : List Change) : Prop :=
  cs.Pairwise fun c d => ∀ n ∈ c.creates? table, n ∉ d.drops?

instance (table : String) (cs : List Change) : Decidable (KeepsCreated table cs) := by
  unfold KeepsCreated; infer_instance

variable {table : String} {names final : Finset Named} {c d : Change}
  {cs ds rest : List Change} {n : Named}

theorem rename?_of_creates (h : c.creates? table = some n) :
    rename? table names c = Named.take? names n := by
  rw [rename?, h]

theorem rename?_of_drops (h : c.drops? = some n) :
    rename? table names c = Named.free? names n := by
  have hnew : c.creates? table = none := by
    cases c with
    | createIndex _ => cases h
    | addForeignKey _ => cases h
    | _ => rfl
  rw [rename?, hnew, h]

theorem rename?_of_neither (hcreates : c.creates? table = none) (hdrops : c.drops? = none) :
    rename? table names c = some names := by
  rw [rename?, hcreates, hdrops]

theorem namesAfter?_cons :
    namesAfter? table names (c :: cs)
      = (rename? table names c).bind fun names => namesAfter? table names cs :=
  List.foldlM_cons

theorem namesAfter?_append (as bs : List Change) :
    namesAfter? table names (as ++ bs)
      = (namesAfter? table names as).bind fun names => namesAfter? table names bs :=
  List.foldlM_append

theorem creates?_of_drops (h : c.group = .drops) : c.creates? table = none := by
  cases c with
  | createIndex _ => cases h
  | addForeignKey _ => cases h
  | _ => rfl

theorem drops?_of_group (h : c.group ≠ .drops) : c.drops? = none := by
  cases c with
  | dropIndex _ => exact absurd rfl h
  | dropForeignKey _ => exact absurd rfl h
  | _ => rfl

theorem group_of_drops? (h : n ∈ c.drops?) : c.group = .drops := by
  by_contra hgroup
  rw [drops?_of_group hgroup] at h
  cases h

theorem namesAfter?_of_neither (h : ∀ c ∈ cs, c.creates? table = none ∧ c.drops? = none) :
    namesAfter? table names cs = some names := by
  induction cs with
  | nil => rfl
  | cons c cs ih =>
      obtain ⟨⟨hcreates, hdrops⟩, htail⟩ := List.forall_mem_cons.mp h
      rw [namesAfter?_cons, rename?_of_neither hcreates hdrops]
      exact ih htail

/-! ## Creating later -/

/-- What is created and what a change of another name does come in either
    order. -/
theorem rename?_comm (hc : c.creates? table = some n) (hcreates : d.creates? table ≠ some n)
    (hdrops : d.drops? ≠ some n) :
    (rename? table names c).bind (fun names => rename? table names d)
      = (rename? table names d).bind fun names => rename? table names c := by
  simp only [rename?_of_creates hc]
  rcases hd : d.creates? table with _ | m
  · rcases hd' : d.drops? with _ | m
    · simp only [rename?_of_neither hd hd', Option.bind_fun_some, Option.bind_some]
    · simp only [rename?_of_drops hd']
      exact Named.take?_free?_comm fun h => hdrops (h ▸ hd')
  · simp only [rename?_of_creates hd]
    exact Named.take?_take?_comm fun h => hcreates (h ▸ hd)

/-- What is created may be created behind changes of other names. -/
theorem namesAfter?_later (hc : c.creates? table = some n)
    (hds : ∀ d ∈ ds, d.creates? table ≠ some n ∧ d.drops? ≠ some n) :
    namesAfter? table names (c :: (ds ++ rest)) = namesAfter? table names (ds ++ c :: rest) := by
  induction ds generalizing names with
  | nil => rfl
  | cons d ds ih =>
      obtain ⟨⟨hcreates, hdrops⟩, htail⟩ := List.forall_mem_cons.mp hds
      have hswap : namesAfter? table names (c :: d :: (ds ++ rest))
          = namesAfter? table names (d :: c :: (ds ++ rest)) := by
        simp only [namesAfter?_cons, ← Option.bind_assoc]
        rw [rename?_comm hc hcreates hdrops]
      rw [List.cons_append, List.cons_append, hswap, namesAfter?_cons, namesAfter?_cons]
      congr 1
      funext names
      exact ih htail

/-! ## Dropping first -/

/-- Some drops apply just when they drop different names, all in use. -/
theorem isSome_namesAfter?_of_drops (hds : ∀ d ∈ ds, d.group = .drops) :
    (namesAfter? table names ds).isSome = true ↔
      (ds.filterMap drops?).Nodup ∧ ∀ n ∈ ds.filterMap drops?, n ∈ names := by
  induction ds generalizing names with
  | nil => simp [namesAfter?]
  | cons d ds ih =>
      obtain ⟨hgroup, htail⟩ := List.forall_mem_cons.mp hds
      rw [namesAfter?_cons]
      rcases hd : d.drops? with _ | n
      · rw [rename?_of_neither (creates?_of_drops hgroup) hd, List.filterMap_cons_none hd]
        exact ih htail
      · rw [rename?_of_drops hd, List.filterMap_cons_some hd, List.nodup_cons,
          List.forall_mem_cons, Named.free?]
        by_cases hn : n ∈ names
        · rw [if_pos hn, Option.bind_some, ih htail]
          constructor
          · rintro ⟨hnodup, hmem⟩
            refine ⟨⟨?_, hnodup⟩, hn, ?_⟩
            · intro hn'
              exact Finset.notMem_erase n names (hmem n hn')
            · intro m hm
              exact Finset.mem_of_mem_erase (hmem m hm)
          · rintro ⟨⟨hnew, hnodup⟩, -, hmem⟩
            refine ⟨hnodup, ?_⟩
            intro m hm
            exact Finset.mem_erase.mpr ⟨fun h => hnew (h ▸ hm), hmem m hm⟩
        · rw [if_neg hn]
          exact iff_of_false (fun h => nomatch h) fun h => hn h.2.1

/-- Where a change drops what one before it has created, the drops do not apply
    without that creation. -/
theorem namesAfter?_drops_eq_none (hafter : namesAfter? table names cs = some final)
    (hkeeps : ¬ KeepsCreated table cs) :
    namesAfter? table names (ofGroup .drops cs) = none := by
  have hgroup : ∀ cs : List Change, ∀ d ∈ ofGroup .drops cs, d.group = .drops :=
    fun cs d hd => (mem_ofGroup.mp hd).2
  induction cs generalizing names with
  | nil => exact absurd List.Pairwise.nil hkeeps
  | cons c cs ih =>
      rw [namesAfter?_cons] at hafter
      obtain ⟨names', hnames', hafter⟩ := Option.bind_eq_some_iff.mp hafter
      rcases hc : c.creates? table with _ | n
      · have hrest : ¬ KeepsCreated table cs := by
          intro h
          refine hkeeps (List.pairwise_cons.mpr ⟨?_, h⟩)
          intro d _ m hm
          rw [hc] at hm
          cases hm
        have hnone := ih hafter hrest
        rw [ofGroup_cons]
        by_cases hdrops : c.group = .drops
        · rw [if_pos hdrops, namesAfter?_cons, hnames', Option.bind_some, hnone]
        · rw [rename?_of_neither hc (drops?_of_group hdrops)] at hnames'
          obtain rfl := Option.some.inj hnames'
          rw [if_neg hdrops, hnone]
      · have hdrops : c.group ≠ .drops := by
          intro h
          cases (creates?_of_drops h).symm.trans hc
        rw [ofGroup_cons, if_neg hdrops]
        rw [rename?_of_creates hc, Named.take?] at hnames'
        split at hnames'
        · cases hnames'
        · rename_i hfree
          obtain rfl := Option.some.inj hnames'
          rw [← Option.not_isSome_iff_eq_none, isSome_namesAfter?_of_drops (hgroup cs)]
          rintro ⟨hnodup, hmem⟩
          by_cases hlater : ∃ d ∈ cs, n ∈ d.drops?
          · obtain ⟨d, hd, hn⟩ := hlater
            have hd' : d ∈ ofGroup .drops cs :=
              mem_ofGroup.mpr ⟨hd, group_of_drops? hn⟩
            exact hfree (hmem n (List.mem_filterMap.mpr ⟨d, hd', hn⟩))
          · have hrest : ¬ KeepsCreated table cs := by
              intro h
              refine hkeeps (List.pairwise_cons.mpr ⟨?_, h⟩)
              intro d hd m hm hm'
              rw [hc] at hm
              obtain rfl := Option.some.inj hm
              exact hlater ⟨d, hd, hm'⟩
            have hnone := ih hafter hrest
            rw [← Option.not_isSome_iff_eq_none, isSome_namesAfter?_of_drops (hgroup cs)] at hnone
            exact hnone ⟨hnodup, fun m hm => Finset.mem_insert_of_mem (hmem m hm)⟩

/-! ## The order of a batch -/

/-- Names are changed by drops, by indexes and by constraints. -/
theorem namesAfter?_inGroups :
    namesAfter? table names (inGroups cs) = namesAfter? table names
      (ofGroup .drops cs ++ (ofGroup .indexes cs ++ ofGroup .constraints cs)) := by
  have hidle : ∀ g names, g = .table ∨ g = .policy ∨ g = .dropTable →
      namesAfter? table names (ofGroup g cs) = some names := by
    intro g names hg
    refine namesAfter?_of_neither fun c hc => ?_
    obtain ⟨-, rfl⟩ := mem_ofGroup.mp hc
    cases c with
    | createIndex _ | dropIndex _ | addForeignKey _ | dropForeignKey _ => simp [group] at hg
    | _ => exact ⟨rfl, rfl⟩
  rw [inGroups_eq]
  simp only [namesAfter?_append, hidle .table _ (by decide), hidle .policy _ (by decide),
    hidle .dropTable _ (by decide), Option.bind_some, Option.bind_fun_some]

/-- The first of some changes may be carried out first where no other drops what
    it creates. -/
theorem namesAfter?_inGroups_cons (h : ∀ d ∈ cs, ∀ n ∈ c.creates? table, n ∉ d.drops?) :
    namesAfter? table names (inGroups (c :: cs)) = namesAfter? table names (c :: inGroups cs) := by
  have hdrops : ∀ d ∈ ofGroup .drops cs, ∀ n ∈ c.creates? table,
      d.creates? table ≠ some n ∧ d.drops? ≠ some n := by
    intro d hd n hn
    obtain ⟨hmem, hgroup⟩ := mem_ofGroup.mp hd
    rw [creates?_of_drops hgroup]
    exact ⟨nofun, h d hmem n hn⟩
  rw [namesAfter?_cons]
  simp only [namesAfter?_inGroups]
  rw [← namesAfter?_cons]
  cases c with
  | createIndex i =>
      simp only [ofGroup_cons, group, reduceCtorEq, if_true, if_false]
      exact (namesAfter?_later rfl fun d hd => hdrops d hd _ rfl).symm
  | addForeignKey k =>
      simp only [ofGroup_cons, group, reduceCtorEq, if_true, if_false]
      rw [← List.append_assoc, ← List.append_assoc]
      refine (namesAfter?_later rfl fun d hd => ?_).symm
      rcases List.mem_append.mp hd with hd | hd
      · exact hdrops d hd _ rfl
      · have hgroup := (mem_ofGroup.mp hd).2
        cases d with
        | createIndex _ => exact ⟨nofun, nofun⟩
        | _ => cases hgroup
  | dropIndex _ | dropForeignKey _ | dropPolicy =>
      simp only [ofGroup_cons, group, reduceCtorEq, if_true, if_false]
      rfl
  | _ =>
      simp only [ofGroup_cons, group, reduceCtorEq, if_false]
      rfl

/-- Where no change drops what one before it has created, the batch does with
    the names what the declared changes do, on any names. -/
theorem namesAfter?_inGroups_of_keepsCreated (h : KeepsCreated table cs) :
    namesAfter? table names (inGroups cs) = namesAfter? table names cs := by
  induction cs generalizing names with
  | nil => rfl
  | cons c cs ih =>
      obtain ⟨hfirst, hrest⟩ := List.pairwise_cons.mp h
      rw [namesAfter?_inGroups_cons hfirst, namesAfter?_cons, namesAfter?_cons]
      congr 1
      funext names
      exact ih hrest

end Change

/-! ## Batches -/

/-- **A batch keeps the net effect on names** just when no change drops what one
    before it has created: then, wherever the declared changes apply in their
    order, the statements of the batch apply too and leave the same names in use.
    Otherwise a statement of the batch finds no name to drop. -/
theorem Synthesis.batch_keepsNames {s : Synthesis} {existing : Option Table} {b : Blueprint}
    {statements : List (List Char)} (h : s.batch existing b = .ok statements) :
    ∃ tr steps, s.run b.table (.start existing) b.changes = .ok (tr, steps) ∧
      statements = (grouped steps).map Step.statement ∧
      ∀ names final, Change.namesAfter? b.table names (steps.map Step.change) = some final →
        (Change.KeepsCreated b.table (steps.map Step.change) →
          Change.namesAfter? b.table names ((grouped steps).map Step.change) = some final) ∧
        (¬ Change.KeepsCreated b.table (steps.map Step.change) →
          Change.namesAfter? b.table names ((grouped steps).map Step.change) = none) := by
  obtain ⟨⟨tr, steps⟩, hrun, h⟩ := exists_of_bind_eq_ok h
  cases h
  refine ⟨tr, steps, hrun, rfl, ?_⟩
  intro names final hafter
  rw [map_change_grouped]
  constructor
  · intro hkeeps
    rw [Change.namesAfter?_inGroups_of_keepsCreated hkeeps, hafter]
  · intro hkeeps
    rw [Change.namesAfter?_inGroups, Change.namesAfter?_append,
      Change.namesAfter?_drops_eq_none hafter hkeeps]
    rfl

/-- An index that is created and dropped. -/
def droppedIndex : Blueprint where
  table := "User"
  changes := [.createIndex { Index.ofColumns "User" ["name"] with name := some "by_name" },
    .dropIndex "by_name"]

/-- In the batch, the index is dropped before there is one. -/
theorem droppedIndex_notThere :
    people.validate = .ok () ∧
      ∃ tr steps, Synthesis.run ⟨[], .utc⟩ "User" (.start (some people)) droppedIndex.changes
          = .ok (tr, steps) ∧
        Synthesis.batch ⟨[], .utc⟩ (some people) droppedIndex =
          .ok ["drop index `by_name`".toList,
            "create index `by_name` on `User` (`name`)".toList] ∧
        Change.namesAfter? "User" ∅ (steps.map Step.change) = some ∅ ∧
        Change.namesAfter? "User" ∅ ((Synthesis.grouped steps).map Step.change) = none :=
  ⟨rfl, _, _, rfl, rfl, by decide, by decide⟩

/-- An index and a constraint that are created anew, the former under its derived
    name. -/
def renewedNames : Blueprint where
  table := "User"
  changes := [.dropIndex "user_name_index", .createIndex (.ofColumns "User" ["name"]),
    .dropForeignKey "user_name_foreign",
    .addForeignKey ⟨none, ["name"], "Person", ["name"]⟩]

theorem batch_keepsNames_renewedNames :
    ∃ statements tr steps, Synthesis.batch ⟨[], .utc⟩ none renewedNames = .ok statements ∧
      Synthesis.run ⟨[], .utc⟩ "User" (.start none) renewedNames.changes = .ok (tr, steps) ∧
      Change.namesAfter? "User" {.index "user_name_index", .constraint "user_name_foreign"}
          ((Synthesis.grouped steps).map Step.change)
        = some {.index "user_name_index", .constraint "user_name_foreign"} := by
  have hbatch : ∃ statements,
      Synthesis.batch ⟨[], .utc⟩ none renewedNames = .ok statements := ⟨_, rfl⟩
  obtain ⟨statements, hbatch⟩ := hbatch
  obtain ⟨tr, steps, hrun, -, hnames⟩ := Synthesis.batch_keepsNames hbatch
  have hsteps : Synthesis.run ⟨[], .utc⟩ "User" (.start none) renewedNames.changes
      = .ok (tr, steps) := hrun
  refine ⟨statements, tr, steps, hbatch, hrun, ?_⟩
  cases hsteps
  exact (hnames _ _ (by decide)).1 (by decide)

end SpannerDialect.Schema
