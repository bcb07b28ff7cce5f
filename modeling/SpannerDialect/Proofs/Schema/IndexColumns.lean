import SpannerDialect.Proofs.Schema.Runs

/-! # The columns of created indexes

    A run looks for the columns of an index in the table of the moment at which
    the index is declared.  Its statement comes after those of all columns,
    though, and finds a column just when no later change takes it away for good
    (`Synthesis.batch_findsColumns`). -/

namespace SpannerDialect.Schema

/-! ## Columns that are there -/

namespace Change

/-- The columns that a created index names. -/
def indexColumns : Change → List String
  | .createIndex i => i.columns ++ i.storing
  | _ => []

/-- Whether the columns that a change names for an index are those of a
    table. -/
def findsColumns (t : Table) (c : Change) : Bool :=
  c.indexColumns.all fun name => (t.column? name).isSome

/-- Whether a column is there after a change. -/
def leavesColumn (name : String) (there : Bool) : Change → Bool
  | .addColumn c => there || c.name == name
  | .dropColumn dropped => there && dropped != name
  | _ => there

/-- Whether a column that is there is still there after some changes, or there
    again. -/
def columnSurvives (name : String) (cs : List Change) : Bool :=
  cs.foldl (leavesColumn name) true

variable {t : Table} {c : Change} {cs : List Change} {name : String} {there : Bool} {g : Group}

theorem isSome_column?_effect (hnew : c.createsTable = false) :
    ((c.effect t).column? name).isSome = c.leavesColumn name (t.column? name).isSome := by
  cases c with
  | createTable _ => cases hnew
  | addColumn c =>
      rw [Table.column?_addColumn, Option.isSome_or]
      by_cases h : c.name = name
      · simp [leavesColumn, h]
      · simp [leavesColumn, h]
  | alterColumn c =>
      rw [Table.column?_alterColumn]
      split
      · exact Option.isSome_map
      · rfl
  | dropColumn dropped =>
      rw [Table.column?_dropColumn]
      by_cases h : dropped = name
      · simp [leavesColumn, h]
      · simp [leavesColumn, h]
  | _ => rfl

theorem isSome_column?_effects (hnew : cs.any createsTable = false) :
    ((effects t cs).column? name).isSome
      = cs.foldl (leavesColumn name) (t.column? name).isSome := by
  induction cs generalizing t with
  | nil => rfl
  | cons c cs ih =>
      rw [List.any_cons, Bool.or_eq_false_iff] at hnew
      rw [effects_cons, ih hnew.2, isSome_column?_effect hnew.1, List.foldl_cons]

theorem leavesColumn_of_group (h : c.group ≠ .table) : c.leavesColumn name there = there := by
  cases c with
  | addColumn _ => exact absurd rfl h
  | dropColumn _ => exact absurd rfl h
  | _ => rfl

/-- Which columns are there is settled in the group of the columns. -/
theorem foldl_leavesColumn_ofGroup :
    (ofGroup g cs).foldl (leavesColumn name) there
      = if g = .table then cs.foldl (leavesColumn name) there else there := by
  induction cs generalizing there with
  | nil => exact (ite_self there).symm
  | cons c cs ih =>
      rw [ofGroup_cons, List.foldl_cons]
      by_cases hc : c.group = g
      · rw [if_pos hc, List.foldl_cons, ih]
        by_cases hg : g = .table
        · rw [if_pos hg, if_pos hg]
        · rw [if_neg hg, if_neg hg, leavesColumn_of_group (hc ▸ hg)]
      · rw [if_neg hc, ih]
        by_cases hg : g = .table
        · rw [if_pos hg, if_pos hg, leavesColumn_of_group (hg ▸ hc)]
        · rw [if_neg hg, if_neg hg]

theorem findsColumns_of_group (h : c.group ≠ .indexes) : c.findsColumns t = true := by
  cases c with
  | createIndex _ => exact absurd rfl h
  | _ => rfl

theorem effect_of_indexes (h : c.group = .indexes) : c.effect t = t := by
  cases c with
  | createIndex _ => rfl
  | _ => cases h

theorem any_createsTable_ofGroup (hnew : cs.any createsTable = false) :
    (ofGroup g cs).any createsTable = false := by
  rw [List.any_eq_false] at hnew ⊢
  exact fun c hc => hnew c (mem_ofGroup.mp hc).1

/-- Statements of indexes come behind all changes of columns. -/
theorem along_findsColumns (hnew : cs.any createsTable = false) :
    along findsColumns t (inGroups cs) = cs.all fun c => c.indexColumns.all fun name =>
      cs.foldl (leavesColumn name) (t.column? name).isSome := by
  have hgroups : along findsColumns t (inGroups cs) = along findsColumns
      (effects t ([.drops, .table, .policy].flatMap fun g => ofGroup g cs))
      (ofGroup .indexes cs) :=
    along_inGroups _ [.constraints, .dropTable] rfl (by decide) (by decide)
      fun _ _ h => findsColumns_of_group h
  have hthere : ∀ name,
      ((effects t ([.drops, .table, .policy].flatMap fun g => ofGroup g cs)).column? name).isSome
        = cs.foldl (leavesColumn name) (t.column? name).isSome := by
    intro name
    simp only [List.flatMap_cons, List.flatMap_nil, List.append_nil, effects_append,
      isSome_column?_effects (any_createsTable_ofGroup hnew), foldl_leavesColumn_ofGroup,
      reduceCtorEq, if_true, if_false]
  have hindexes : ∀ c : Change, (!c.indexColumns.all fun name =>
      cs.foldl (leavesColumn name) (t.column? name).isSome) = true → c.group = .indexes := by
    intro c hc
    cases c with
    | createIndex _ => rfl
    | _ => cases hc
  rw [hgroups, List.all_eq_not_any_not, ← any_ofGroup hindexes, ← List.all_eq_not_any_not]
  refine along_eq_all (fun u => ∀ name, (u.column? name).isSome
    = cs.foldl (leavesColumn name) (t.column? name).isSome) hthere ?_ ?_
  · intro c hc u hu
    rwa [effect_of_indexes (mem_ofGroup.mp hc).2]
  · intro c _ u hu
    simp only [findsColumns, hu]

end Change

/-! ## Batches -/

section

variable {s : Synthesis} {blueprint : String} {tr tr' : Tracker} {t : Table}
  {cs before after : List Change} {i : Index} {steps : List Step} {name : String}

namespace Synthesis.Runs

theorem foldl_change (f : Bool → Change → Bool)
    (hf : ∀ i name b, f b (.createIndex { i with name := some name }) = f b (.createIndex i))
    (h : s.Runs blueprint tr cs tr' steps) (b : Bool) :
    (steps.map Step.change).foldl f b = cs.foldl f b := by
  induction h generalizing b with
  | nil => rfl
  | cons hmove _ _ ih =>
      have hfirst := hmove.congr (fun c => f b c) fun i name => hf i name b
      rw [List.map_cons, List.foldl_cons, List.foldl_cons, ih, ← hfirst]

/-- The columns of an index are there where it is declared. -/
theorem foldl_leavesColumn
    (h : s.Runs blueprint tr (before ++ .createIndex i :: after) tr' steps)
    (ht : tr.table = .present t) (hname : name ∈ i.columns ++ i.storing) :
    (before ++ .createIndex i :: after).foldl (Change.leavesColumn name) (t.column? name).isSome
      = Change.columnSurvives name after := by
  obtain ⟨tr₁, tr₂, c', steps₁, steps₂, hbefore, hmove, -, -⟩ := h.split
  have hpresent : tr₁.table = .present (Change.effects t before) :=
    (hbefore.of_present ht).resolve_right hmove.ne_dropped
  have hthere : ((Change.effects t before).column? name).isSome = true := by
    cases hmove with
    | allowed _ hc => exact False.elim hc
    | unchecked hu _ _ => cases hu.symm.trans hpresent
    | indexed _ _ hcolumns _ =>
        exact Option.isSome_iff_ne_none.mpr (hcolumns _ hpresent name hname)
    | beside _ hc => cases hc
  have hnew := hbefore.any_createsTable ht
  rw [hbefore.any_change Change.createsTable fun _ _ => rfl] at hnew
  rw [Change.isSome_column?_effects hnew] at hthere
  rw [List.foldl_append, hthere]
  rfl

/-- What a run says of the columns of indexes along its batch. -/
theorem along_findsColumns (h : s.Runs blueprint tr cs tr' steps) (ht : tr.table = .present t) :
    Change.along Change.findsColumns t ((grouped steps).map Step.change)
      = cs.all fun c => c.indexColumns.all fun name =>
          cs.foldl (Change.leavesColumn name) (t.column? name).isSome := by
  have hfold : ∀ name there, (steps.map Step.change).foldl (Change.leavesColumn name) there
      = cs.foldl (Change.leavesColumn name) there :=
    fun name => h.foldl_change (Change.leavesColumn name) fun _ _ _ => rfl
  rw [map_change_grouped, Change.along_findsColumns (h.any_createsTable ht)]
  simp only [hfold]
  rw [List.all_eq_not_any_not, h.any_change _ fun _ _ => rfl, ← List.all_eq_not_any_not]

/-- The columns of all indexes are there in the end just when those of each
    one survive what is declared after it. -/
theorem all_indexColumns (h : s.Runs blueprint tr cs tr' steps) (ht : tr.table = .present t) :
    (cs.all fun c => c.indexColumns.all fun name =>
        cs.foldl (Change.leavesColumn name) (t.column? name).isSome) = true ↔
      ∀ before i after, cs = before ++ .createIndex i :: after →
        ∀ name ∈ i.columns ++ i.storing, Change.columnSurvives name after = true := by
  simp only [List.all_eq_true]
  constructor
  · rintro hall before i after rfl name hname
    have hmem : Change.createIndex i ∈ before ++ .createIndex i :: after :=
      List.mem_append_right _ (.head _)
    exact (h.foldl_leavesColumn ht hname).symm.trans (hall _ hmem name hname)
  · intro hall c hc name hname
    cases c with
    | createIndex i =>
        obtain ⟨before, after, rfl⟩ := List.mem_iff_append.mp hc
        exact (h.foldl_leavesColumn ht hname).trans (hall before i after rfl name hname)
    | _ => cases hname

end Synthesis.Runs

/-- **A created index finds its columns** just when no change that is declared
    after it takes one of them away for good: that they are there where the
    index is declared is not enough. -/
theorem Synthesis.batch_findsColumns {s : Synthesis} {t : Table} {b : Blueprint}
    {statements : List (List Char)} (h : s.batch (some t) b = .ok statements) :
    ∃ tr steps, s.run b.table (.start (some t)) b.changes = .ok (tr, steps) ∧
      statements = (grouped steps).map Step.statement ∧
      (Change.along Change.findsColumns t ((grouped steps).map Step.change) = true ↔
        ∀ before i after, b.changes = before ++ .createIndex i :: after →
          ∀ name ∈ i.columns ++ i.storing, Change.columnSurvives name after = true) := by
  obtain ⟨⟨tr, steps⟩, hrun, h⟩ := exists_of_bind_eq_ok h
  cases h
  refine ⟨tr, steps, hrun, rfl, ?_⟩
  rw [(runs_of_run hrun).along_findsColumns rfl]
  exact (runs_of_run hrun).all_indexColumns rfl

/-- An index on a column that goes. -/
def lostColumn : Blueprint where
  table := "User"
  changes := [.createIndex (.ofColumns "User" ["name"]), .dropColumn "name"]

/-- The column is gone when the index is created. -/
theorem lostColumn_missing :
    people.validate = .ok () ∧
      ∃ tr steps, Synthesis.run ⟨[], .utc⟩ "User" (.start (some people)) lostColumn.changes
          = .ok (tr, steps) ∧
        Synthesis.batch ⟨[], .utc⟩ (some people) lostColumn =
          .ok ["alter table `User` drop column `name`".toList,
            "create index `user_name_index` on `User` (`name`)".toList] ∧
        Change.along Change.findsColumns people ((Synthesis.grouped steps).map Step.change)
          = false :=
  ⟨rfl, _, _, rfl, rfl, rfl⟩

/-- An index on a column that goes and comes back. -/
def renewedColumn : Blueprint where
  table := "User"
  changes := [.createIndex { Index.ofColumns "User" ["name"] with storing := ["born"] },
    .dropColumn "name", .addColumn (.ofKind "name" .text)]

theorem batch_findsColumns_renewedColumn :
    ∃ statements tr steps, Synthesis.batch ⟨[], .utc⟩ (some people) renewedColumn = .ok statements ∧
      Synthesis.run ⟨[], .utc⟩ "User" (.start (some people)) renewedColumn.changes
        = .ok (tr, steps) ∧
      Change.along Change.findsColumns people ((Synthesis.grouped steps).map Step.change)
        = true := by
  have hbatch : ∃ statements,
      Synthesis.batch ⟨[], .utc⟩ (some people) renewedColumn = .ok statements := ⟨_, rfl⟩
  obtain ⟨statements, hbatch⟩ := hbatch
  obtain ⟨tr, steps, hrun, -, hfinds⟩ := Synthesis.batch_findsColumns hbatch
  refine ⟨statements, tr, steps, hbatch, hrun, hfinds.mpr ?_⟩
  intro before i after hsplit
  match before with
  | [] =>
      obtain ⟨hfirst, rfl⟩ := List.cons.inj hsplit
      obtain rfl := Change.createIndex.inj hfirst
      decide
  | [_] => cases hsplit
  | [_, _] => cases hsplit
  | _ :: _ :: _ :: _ => simp [renewedColumn] at hsplit

end

end SpannerDialect.Schema
