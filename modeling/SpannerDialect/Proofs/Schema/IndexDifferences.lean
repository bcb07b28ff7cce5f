import Mathlib.Logic.Function.Basic
import SpannerDialect.Proofs.Lookup
import SpannerDialect.Proofs.Schema.IndexNames
import SpannerDialect.Proofs.Schema.Knowledge

/-! # Differences of indexes that are carried out

    The indexes of a database are a map of their names (`Change.reindex?`).  The
    changes between two lists of indexes drop and create what is not the same on
    both sides (`diffIndexes_eq`).  All drops apply, then all creations, and the
    map that is reached is the wanted one.  Every creation has its name already,
    so a batch of these changes gives the same names again
    (`Synthesis.diffIndexes_reaches`). -/

namespace SpannerDialect.Schema

variable {name : String} {old new : List (String × Index)}

/-! ## Indexes that are alike -/

/-- An index is another one but for its name. -/
structure Index.Alike (a b : Index) : Prop where
  table_eq : a.table = b.table
  columns_eq : a.columns = b.columns
  unique_eq : a.unique = b.unique
  nullFiltered_eq : a.nullFiltered = b.nullFiltered
  storing_eq : a.storing = b.storing
  interleaveIn_eq : a.interleaveIn = b.interleaveIn

namespace Index

variable {a b : Index}

theorem sameExceptName_eq_true : a.sameExceptName b = true ↔ a.Alike b := by
  rw [sameExceptName, beq_iff_eq, Index.mk.injEq]
  constructor
  · rintro ⟨-, htable, hcolumns, hunique, hnull, hstoring, hparent⟩
    exact ⟨htable, hcolumns, hunique, hnull, hstoring, hparent⟩
  · rintro ⟨htable, hcolumns, hunique, hnull, hstoring, hparent⟩
    exact ⟨rfl, htable, hcolumns, hunique, hnull, hstoring, hparent⟩

theorem sameExceptName_comm : a.sameExceptName b = b.sameExceptName a := by
  rw [sameExceptName, sameExceptName, BEq.comm]

theorem alike_of_name (i : Index) (name : Option String) : Alike { i with name } i :=
  ⟨rfl, rfl, rfl, rfl, rfl, rfl⟩

end Index

/-- Whether a name stands for the same index on both sides. -/
def isKept (old new : List (String × Index)) (name : String) : Bool :=
  match old.lookup name, new.lookup name with
  | some a, some b => a.sameExceptName b
  | _, _ => false

theorem isKept_eq_true :
    isKept old new name = true ↔
      ∃ a b, old.lookup name = some a ∧ new.lookup name = some b ∧ a.Alike b := by
  rw [isKept]
  cases old.lookup name with
  | none => simp
  | some a =>
      cases new.lookup name with
      | none => simp
      | some b => simp [Index.sameExceptName_eq_true]

theorem isUnchanged_of_mem_old {a : String × Index} (hold : (old.map Prod.fst).Nodup)
    (h : a ∈ old) : isUnchanged new a = isKept old new a.1 := by
  have ha : old.lookup a.1 = some a.2 := lookup_of_mem hold h
  rw [isUnchanged, isKept, ha]
  cases new.lookup a.1 with
  | none => rfl
  | some b => rfl

theorem isUnchanged_of_mem_new {b : String × Index} (hnew : (new.map Prod.fst).Nodup)
    (h : b ∈ new) : isUnchanged old b = isKept old new b.1 := by
  have hb : new.lookup b.1 = some b.2 := lookup_of_mem hnew h
  rw [isUnchanged, isKept, hb]
  cases old.lookup b.1 with
  | none => rfl
  | some a => exact Index.sameExceptName_comm

/-! ## What is dropped and what is created -/

/-- The names of the indexes that are dropped. -/
def droppedNames (old new : List (String × Index)) : List String :=
  (old.map Prod.fst).filter fun name => !isKept old new name

/-- The indexes that are created, with their names. -/
def createdIndexes (old new : List (String × Index)) : List (String × Index) :=
  new.filter fun b => !isKept old new b.1

namespace Change

/-- The creation of an index with its name. -/
def createNamed (b : String × Index) : Change :=
  .createIndex { b.2 with name := some b.1 }

/-- All drops and then all creations. -/
def ofIndexes (old new : List (String × Index)) : List Change :=
  (droppedNames old new).map dropIndex ++ (createdIndexes old new).map createNamed

/-- The name of the index that a change creates or drops. -/
def indexName? : Change → Option String
  | .createIndex i => i.name
  | .dropIndex name => some name
  | _ => none

/-- The indexes after a change of them, if it applies: what is dropped is there,
    and what is created has a name of its own that is not. -/
def reindex? (indexes : String → Option Index) : Change → Option (String → Option Index)
  | .createIndex i => do
    let name ← i.name
    if (indexes name).isSome then none else some (Function.update indexes name (some i))
  | .dropIndex name =>
    if (indexes name).isSome then some (Function.update indexes name none) else none
  | _ => none

end Change

theorem diffIndexes_eq {existing desired : List Index} (hold : indexesByName existing = .ok old)
    (hnew : indexesByName desired = .ok new) :
    diffIndexes existing desired = .ok (Change.ofIndexes old new) := by
  have hdrops : (old.filter fun a => !isUnchanged new a).map (fun a => Change.dropIndex a.1)
      = (droppedNames old new).map Change.dropIndex := by
    rw [droppedNames, List.filter_map, List.map_map]
    refine congrArg (List.map _) (List.filter_congr fun a ha => ?_)
    rw [isUnchanged_of_mem_old (nodup_of_indexesByName hold) ha]
    rfl
  have hcreations : (new.filter fun b => !isUnchanged old b) = createdIndexes old new := by
    refine List.filter_congr fun b hb => ?_
    rw [isUnchanged_of_mem_new (nodup_of_indexesByName hnew) hb]
  rw [diffIndexes, hold, hnew, Change.ofIndexes, ← hdrops, ← hcreations]
  rfl

theorem mem_droppedNames :
    name ∈ droppedNames old new ↔ old.lookup name ≠ none ∧ isKept old new name = false := by
  rw [droppedNames, List.mem_filter, Bool.not_eq_true', Ne, lookup_eq_none_iff, not_not]

theorem nodup_createdIndexes (hnew : (new.map Prod.fst).Nodup) :
    ((createdIndexes old new).map Prod.fst).Nodup :=
  hnew.sublist (List.filter_sublist.map Prod.fst)

theorem isKept_of_mem_createdIndexes {b : String × Index} (h : b ∈ createdIndexes old new) :
    isKept old new b.1 = false := by
  rw [createdIndexes, List.mem_filter, Bool.not_eq_true'] at h
  exact h.2

/-- What is kept is what the drops leave. -/
theorem lookup_behind_drops :
    (if name ∈ droppedNames old new then none else old.lookup name)
      = if isKept old new name then old.lookup name else none := by
  simp only [mem_droppedNames]
  cases isKept old new name with
  | true => simp
  | false => cases old.lookup name <;> simp

theorem lookup_createdIndexes :
    (createdIndexes old new).lookup name
      = if isKept old new name then none else new.lookup name := by
  rw [createdIndexes, lookup_filter_fst fun name => !isKept old new name]
  cases isKept old new name with
  | true => rfl
  | false => rfl

/-- What is kept is in no change. -/
theorem isKept_of_mem_ofIndexes {c : Change} (hc : c ∈ Change.ofIndexes old new)
    (hname : c.indexName? = some name) : isKept old new name = false := by
  rcases List.mem_append.mp hc with hc | hc
  · obtain ⟨dropped, hdropped, rfl⟩ := List.mem_map.mp hc
    obtain rfl := Option.some.inj hname
    exact (mem_droppedNames.mp hdropped).2
  · obtain ⟨b, hb, rfl⟩ := List.mem_map.mp hc
    obtain rfl := Option.some.inj hname
    exact isKept_of_mem_createdIndexes hb

/-! ## The indexes that are reached -/

namespace Change

variable {indexes : String → Option Index}

/-- Indexes of different names are dropped one by one. -/
theorem reindex?_dropIndexes {names : List String} (hnodup : names.Nodup)
    (h : ∀ name ∈ names, (indexes name).isSome) :
    (names.map dropIndex).foldlM reindex? indexes
      = some fun name => if name ∈ names then none else indexes name := by
  induction names generalizing indexes with
  | nil => simp
  | cons dropped names ih =>
      obtain ⟨hnew, hnodup⟩ := List.nodup_cons.mp hnodup
      obtain ⟨hdropped, hnames⟩ := List.forall_mem_cons.mp h
      have hlater : ∀ name ∈ names, (Function.update indexes dropped none name).isSome := by
        intro name hname
        rw [Function.update_of_ne (ne_of_mem_of_not_mem hname hnew)]
        exact hnames name hname
      have hfirst : reindex? indexes (dropIndex dropped)
          = some (Function.update indexes dropped none) := if_pos hdropped
      rw [List.map_cons, List.foldlM_cons, hfirst, Option.bind_eq_bind, Option.bind_some,
        ih hnodup hlater]
      congr 1
      funext name
      by_cases h : name = dropped
      · simp [h]
      · simp [h]

/-- Indexes of different names are created one by one. -/
theorem reindex?_createNamed {named : List (String × Index)} (hnodup : (named.map Prod.fst).Nodup)
    (h : ∀ name ∈ named.map Prod.fst, indexes name = none) :
    (named.map createNamed).foldlM reindex? indexes = some fun name =>
      ((named.lookup name).map fun i => { i with name := some name }).or (indexes name) := by
  induction named generalizing indexes with
  | nil => rfl
  | cons b named ih =>
      obtain ⟨created, i⟩ := b
      rw [List.map_cons] at hnodup h
      obtain ⟨hnew, hnodup⟩ := List.nodup_cons.mp hnodup
      obtain ⟨hcreated, hnames⟩ := List.forall_mem_cons.mp h
      have hlater : ∀ name ∈ named.map Prod.fst,
          Function.update indexes created (some { i with name := some created }) name = none := by
        intro name hname
        rw [Function.update_of_ne (ne_of_mem_of_not_mem hname hnew)]
        exact hnames name hname
      have hfirst : reindex? indexes (createNamed (created, i))
          = some (Function.update indexes created (some { i with name := some created })) :=
        if_neg (by simp [hcreated])
      rw [List.map_cons, List.foldlM_cons, hfirst, Option.bind_eq_bind, Option.bind_some,
        ih hnodup hlater]
      congr 1
      funext name
      rw [List.lookup_cons]
      by_cases h : name = created
      · subst h
        rw [lookup_eq_none_iff.mpr hnew]
        simp
      · simp [h, beq_eq_false_iff_ne.mpr h]

/-- The changes apply one after the other: what is kept stays, and all else is
    what is wanted, with its name. -/
theorem reindex?_ofIndexes (hold : (old.map Prod.fst).Nodup) (hnew : (new.map Prod.fst).Nodup) :
    (ofIndexes old new).foldlM reindex? (fun name => old.lookup name)
      = some fun name => if isKept old new name then old.lookup name else
          (new.lookup name).map fun i => { i with name := some name } := by
  have hdropped : (droppedNames old new).Nodup := hold.filter _
  have hthere : ∀ name ∈ droppedNames old new, (old.lookup name).isSome :=
    fun name hname => Option.isSome_iff_ne_none.mpr (mem_droppedNames.mp hname).1
  have hdrops : ((droppedNames old new).map dropIndex).foldlM reindex? (fun name => old.lookup name)
      = some fun name => if isKept old new name then old.lookup name else none := by
    rw [reindex?_dropIndexes hdropped hthere]
    simp only [lookup_behind_drops]
  have hfree : ∀ name ∈ (createdIndexes old new).map Prod.fst,
      (if isKept old new name then old.lookup name else none) = none := by
    intro name hname
    obtain ⟨b, hb, rfl⟩ := List.mem_map.mp hname
    rw [isKept_of_mem_createdIndexes hb]
    rfl
  rw [ofIndexes, List.foldlM_append, hdrops, Option.bind_eq_bind, Option.bind_some,
    reindex?_createNamed (nodup_createdIndexes hnew) hfree]
  congr 1
  funext name
  rw [lookup_createdIndexes]
  cases isKept old new name with
  | true => simp
  | false => simp

end Change

/-! ## The batch of the changes -/

theorem Index.validate_eq_ok {i : Index} : i.validate = .ok () ↔ i.columns ≠ [] := by
  rw [validate, guard_eq_ok, List.isEmpty_iff]
  exact and_iff_left rfl

namespace Change

/-- Drops of indexes and creations of indexes are in the order of the batch. -/
theorem inGroups_ofIndexes : inGroups (ofIndexes old new) = ofIndexes old new := by
  have hdrops : ∀ c ∈ (droppedNames old new).map dropIndex, c.group = .drops := by
    intro c hc
    obtain ⟨name, -, rfl⟩ := List.mem_map.mp hc
    rfl
  have hcreations : ∀ c ∈ (createdIndexes old new).map createNamed, c.group = .indexes := by
    intro c hc
    obtain ⟨b, -, rfl⟩ := List.mem_map.mp hc
    rfl
  simp only [inGroups_eq, ofIndexes, ofGroup_append, ofGroup_of_group hdrops,
    ofGroup_of_group hcreations, reduceCtorEq, if_true, if_false, List.append_nil, List.nil_append]

end Change

namespace Synthesis

variable {s : Synthesis} {blueprint : String} {tr : Tracker} {offset : Calendar.Offset}

theorem exists_runs_of_dropIndexes (ht : tr.table ≠ .dropped) (names : List String) :
    ∃ steps, s.Runs blueprint tr (names.map Change.dropIndex) tr steps ∧
      steps.map Step.change = names.map Change.dropIndex := by
  induction names with
  | nil => exact ⟨[], .nil tr, rfl⟩
  | cons name names ih =>
      obtain ⟨steps, hruns, hsteps⟩ := ih
      exact ⟨_, .cons (.beside ht (.dropIndex name)) rfl hruns, congrArg (List.cons _) hsteps⟩

/-- Indexes with names of their own, none of them given before, are created as
    they are. -/
theorem exists_runs_of_createNamed {named : List (String × Index)} (ht : tr.table = .unknown)
    (hnodup : (named.map Prod.fst).Nodup) (hfree : ∀ name ∈ named.map Prod.fst, name ∉ tr.indexNames)
    (hindexes : ∀ b ∈ named, b.2.table = blueprint ∧ b.2.columns ≠ []) :
    ∃ tr' steps, Runs ⟨[], offset⟩ blueprint tr (named.map Change.createNamed) tr' steps ∧
      steps.map Step.change = named.map Change.createNamed := by
  induction named generalizing tr with
  | nil => exact ⟨tr, [], .nil tr, rfl⟩
  | cons b named ih =>
      obtain ⟨name, i⟩ := b
      rw [List.map_cons] at hnodup hfree
      obtain ⟨hnew, hnodup⟩ := List.nodup_cons.mp hnodup
      obtain ⟨hname, hnames⟩ := List.forall_mem_cons.mp hfree
      obtain ⟨⟨htable, hcolumns⟩, hindexes⟩ := List.forall_mem_cons.mp hindexes
      have hcheck : Tracker.checkIndex [] blueprint { i with name := some name } = .ok () :=
        Tracker.checkIndex_nil_eq_ok.mpr ⟨htable, Index.validate_eq_ok.mpr hcolumns⟩
      -- the name that is given again is the one that the change has
      have hmove : tr.Moves [] blueprint (.createNamed (name, i)) _ (.createNamed (name, i)) :=
        .indexed (by rw [ht]; exact nofun) hcheck (fun t h => nomatch ht.symm.trans h)
          (assignName_of_notMem rfl hname)
      have hlater : ∀ other ∈ named.map Prod.fst, other ∉ name :: tr.indexNames := by
        intro other hother
        rw [List.mem_cons, not_or]
        exact ⟨ne_of_mem_of_not_mem hother hnew, hnames other hother⟩
      obtain ⟨tr', steps, hruns, hsteps⟩ : ∃ tr' steps, Runs ⟨[], offset⟩ blueprint
          { tr with indexNames := name :: tr.indexNames } _ tr' steps ∧ _ :=
        ih ht hnodup hlater hindexes
      exact ⟨tr', _, .cons hmove rfl hruns, congrArg (List.cons _) hsteps⟩

/-- Changes of the indexes of one table are carried out in their order, without
    any knowledge of the table. -/
theorem batch_ofIndexes {table : String} (hnew : (new.map Prod.fst).Nodup)
    (hindexes : ∀ b ∈ new, b.2.table = table ∧ b.2.columns ≠ []) :
    ∃ statements, batch ⟨[], offset⟩ none ⟨table, Change.ofIndexes old new⟩ = .ok statements ∧
      (Change.ofIndexes old new).mapM (Change.statement offset table) = .ok statements := by
  have hunknown : (Tracker.start none).table ≠ .dropped := nofun
  obtain ⟨dropping, hdrops, hdropping⟩ : ∃ steps, Runs ⟨[], offset⟩ table _ _ _ steps ∧ _ :=
    exists_runs_of_dropIndexes hunknown (droppedNames old new)
  obtain ⟨tr, creating, hcreations, hcreating⟩ : ∃ tr steps,
      Runs ⟨[], offset⟩ table (.start none) _ tr steps ∧ _ :=
    exists_runs_of_createNamed rfl (nodup_createdIndexes hnew) (fun name _ => List.not_mem_nil)
      fun b hb => hindexes b (List.mem_of_mem_filter hb)
  have hruns := hdrops.append hcreations
  have hstatements := hruns.mapM_statement_grouped
  rw [List.map_append, hdropping, hcreating] at hstatements
  refine ⟨_, batch_of_run (run_of_runs hruns), ?_⟩
  rw [← hstatements]
  exact congrArg _ Change.inGroups_ofIndexes.symm

/-- **Differences of indexes reach what is wanted.**  The changes apply one after
    the other to the indexes that are there, and leave the wanted names, each for
    an index like the wanted one.  What is the same on both sides is in no change.
    Where all wanted indexes are of one table and have key columns, a batch that
    knows nothing drops and creates just these names, in this order. -/
theorem diffIndexes_reaches {existing desired : List Index}
    (hold : indexesByName existing = .ok old) (hnew : indexesByName desired = .ok new) :
    ∃ changes final, diffIndexes existing desired = .ok changes ∧
      changes.foldlM Change.reindex? (fun name => old.lookup name) = some final ∧
      (∀ name, Option.Rel Index.Alike (final name) (new.lookup name)) ∧
      (∀ name a b, old.lookup name = some a → new.lookup name = some b → a.Alike b →
        ∀ c ∈ changes, c.indexName? ≠ some name) ∧
      ∀ table offset, (∀ i ∈ desired, i.table = table ∧ i.columns ≠ []) →
        ∃ statements, batch ⟨[], offset⟩ none ⟨table, changes⟩ = .ok statements ∧
          changes.mapM (Change.statement offset table) = .ok statements := by
  have hold' := nodup_of_indexesByName hold
  have hnew' := nodup_of_indexesByName hnew
  refine ⟨Change.ofIndexes old new, _, diffIndexes_eq hold hnew,
    Change.reindex?_ofIndexes hold' hnew', ?_, ?_, ?_⟩
  · -- what is kept is there under its old definition, which is like the wanted one
    intro name
    cases hkept : isKept old new name with
    | true =>
        obtain ⟨a, b, ha, hb, halike⟩ := isKept_eq_true.mp hkept
        rw [if_pos rfl, ha, hb]
        exact .some halike
    | false =>
        rw [if_neg Bool.false_ne_true]
        cases new.lookup name with
        | none => exact .none
        | some b => exact .some (b.alike_of_name _)
  · intro name a b ha hb halike c hc hname
    have hkept := isKept_eq_true.mpr ⟨a, b, ha, hb, halike⟩
    exact absurd hkept (ne_true_of_eq_false (isKept_of_mem_ofIndexes hc hname))
  · intro table offset hindexes
    refine batch_ofIndexes hnew' fun b hb => hindexes b.2 ?_
    exact (perm_of_indexesByName hnew).subset (List.mem_map_of_mem hb)

end Synthesis

/-- Two indexes of the names, told apart by what they store, and one of the days
    of birth. -/
def presentIndexes : List Index :=
  [.ofColumns "User" ["name"], { Index.ofColumns "User" ["name"] with storing := ["born"] },
    { Index.ofColumns "User" ["born"] with unique := true }]

/-- The storing index takes the name of the plain one, which comes back under a
    name of its own. -/
def wantedIndexes : List Index :=
  [{ Index.ofColumns "User" ["name"] with storing := ["born"] },
    { Index.ofColumns "User" ["born"] with unique := true },
    { Index.ofColumns "User" ["name"] with name := some "by_name" }]

theorem diffIndexes_reaches_wantedIndexes :
    (assignNames [] presentIndexes).map (List.map Prod.fst)
        = .ok ["user_name_index", "user_name_storing_born_index", "user_born_unique"] ∧
      (assignNames [] wantedIndexes).map (List.map Prod.fst)
        = .ok ["user_name_index", "user_born_unique", "by_name"] ∧
      (∀ i ∈ wantedIndexes, i.table = "User" ∧ i.columns ≠ []) ∧
      ∃ old new changes final statements,
        indexesByName presentIndexes = .ok old ∧ indexesByName wantedIndexes = .ok new ∧
        diffIndexes presentIndexes wantedIndexes = .ok changes ∧
        changes.foldlM Change.reindex? (fun name => old.lookup name) = some final ∧
        (∀ name, Option.Rel Index.Alike (final name) (new.lookup name)) ∧
        Synthesis.batch ⟨[], .utc⟩ none ⟨"User", changes⟩ = .ok statements := by
  have hold : ∃ old, indexesByName presentIndexes = .ok old := ⟨_, rfl⟩
  have hnew : ∃ new, indexesByName wantedIndexes = .ok new := ⟨_, rfl⟩
  obtain ⟨old, hold⟩ := hold
  obtain ⟨new, hnew⟩ := hnew
  have hindexes : ∀ i ∈ wantedIndexes, i.table = "User" ∧ i.columns ≠ [] := by decide
  obtain ⟨changes, final, hdiff, hfinal, hwanted, -, hbatch⟩ :=
    Synthesis.diffIndexes_reaches hold hnew
  obtain ⟨statements, hbatch, -⟩ := hbatch "User" .utc hindexes
  exact ⟨rfl, rfl, hindexes, old, new, changes, final, statements, hold, hnew, hdiff, hfinal,
    hwanted, hbatch⟩

end SpannerDialect.Schema
