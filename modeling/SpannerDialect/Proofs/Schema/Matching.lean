import SpannerDialect.Proofs.Schema.Soundness
import SpannerDialect.Proofs.Value.Equality
import SpannerDialect.Schema.Diff

/-! # Tables that match

    Columns are compared as the program compares them: their defaults are
    compared as values.  A column that has DDL equals itself
    (`Column.same_self_of_ddl`).  Where the columns of two tables are equal name
    by name, and the tables are the same otherwise, nothing leads from one to the
    other (`Table.Matches.changesTo_eq_nil`). -/

namespace SpannerDialect.Schema

/-! ## Columns that equal themselves -/

theorem DefaultExpression.same_self_of_sql {offset : Calendar.Offset} {type : ColumnType}
    {d : DefaultExpression} {text : List Char} (h : d.sql offset type = .ok text) :
    (d == d) = true := by
  cases d with
  | value v =>
      obtain ⟨w, hw, h⟩ := exists_of_bind_eq_ok h
      obtain ⟨typed, htyped, -⟩ := exists_of_bind_eq_ok h
      exact Value.same_self_of_coerce hw (TypedValue.fitsColumn_of htyped)
  | currentTimestamp => rfl
  | raw text => exact beq_self_eq_true text

namespace Column

variable {offset : Calendar.Offset} {c d : Column} {text : List Char}

theorem same_self_of_defaultClause {type : ColumnType} {default : Option DefaultExpression}
    (h : defaultClause offset type default = .ok text) : (default == default) = true := by
  rw [defaultClause.eq_def] at h
  split at h
  · rfl
  · -- a default of NULL has no clause, and equals itself like any other
    show Value.null.same .null = true
    rw [Value.same]
  · rename_i d _
    obtain ⟨sql, hsql, -⟩ := exists_of_bind_eq_ok h
    exact DefaultExpression.same_self_of_sql hsql

/-- A column that has DDL equals itself: the only value that does not, "not a
    number", has no literal. -/
theorem same_self_of_ddl (h : c.ddl offset = .ok text) : (c == c) = true := by
  obtain ⟨clause, hclause, -⟩ := exists_of_bind_eq_ok h
  show (c.name == c.name && c.type == c.type && c.nullable == c.nullable &&
    c.default == c.default) = true
  rw [beq_self_eq_true, beq_self_eq_true, beq_self_eq_true, same_self_of_defaultClause hclause]
  rfl

theorem eq_of_same (h : (c == d) = true) : c.name = d.name ∧ c.type = d.type := by
  have hsame : (c.name == d.name && c.type == d.type && c.nullable == d.nullable &&
    c.default == d.default) = true := h
  simp only [Bool.and_eq_true, beq_iff_eq] at hsame
  exact hsame.1.1

end Column

/-! ## Tables that match -/

namespace Table

/-- A table is another one but for the order of its columns, each of which may
    also be one that equals it: a default of 0 equals one of -0. -/
structure Matches (t u : Table) : Prop where
  sameFrame : t.SameFrame u
  columns_nodup : (t.columns.map Column.name).Nodup
  column?_same : ∀ name, (t.column? name == u.column? name) = true
  policy_eq : t.policy = u.policy

/-- What comes to stand for a wanted column: the column that is there, if it
    equals the wanted one. -/
def settled (existing : Table) (wanted : Column) : Column :=
  match existing.column? wanted.name with
  | some current => if current == wanted then current else wanted
  | none => wanted

/-- The changes that lead from a table to another one of its name, with its key
    and its parent. -/
def changesTo (existing desired : Table) : List Change :=
  desired.columns.filterMap (columnChange existing) ++
    existing.columns.filterMap (columnDrop desired) ++
    policyChange existing.policy desired.policy

variable {t u existing desired : Table} {d : Column}

theorem settled_cases (d : Column) :
    existing.settled d = d ∨ ∃ current, existing.column? d.name = some current ∧
      (current == d) = true ∧ existing.settled d = current := by
  rw [settled]
  cases existing.column? d.name with
  | none => exact Or.inl rfl
  | some current =>
      by_cases hsame : (current == d) = true
      · exact Or.inr ⟨current, rfl, hsame, if_pos hsame⟩
      · exact Or.inl (if_neg hsame)

theorem settled_same (hself : (d == d) = true) : (existing.settled d == d) = true := by
  rcases existing.settled_cases d with hnew | ⟨current, -, hsame, hold⟩
  · rw [hnew]
    exact hself
  · rw [hold]
    exact hsame

theorem settled_type (d : Column) : (existing.settled d).type = d.type := by
  rcases existing.settled_cases d with hnew | ⟨current, -, hsame, hold⟩
  · rw [hnew]
  · rw [hold]
    exact (Column.eq_of_same hsame).2

theorem settled_column? (name : String) :
    (desired.column? name).map existing.settled = desired.column? name ∨
      (desired.column? name).map existing.settled = existing.column? name := by
  cases hd : desired.column? name with
  | none => exact Or.inl rfl
  | some d =>
      rw [Option.map_some]
      rcases existing.settled_cases d with hnew | ⟨current, hcurrent, -, hold⟩
      · rw [hnew]
        exact Or.inl rfl
      · rw [name_of_column? hd] at hcurrent
        rw [hcurrent, hold]
        exact Or.inr rfl

theorem diffTables_eq (h : existing.SameFrame desired) :
    diffTables (some existing) desired = .ok ⟨desired.name, existing.changesTo desired⟩ := by
  rw [diffTables, if_neg (not_not.mpr h.name_eq), if_neg (not_not.mpr h.primaryKey_eq),
    if_neg (not_not.mpr h.interleave_eq), changesTo]

/-- A table with the settled columns and the policy of another one matches it,
    where the wanted columns equal themselves. -/
theorem matches_of_settled (hframe : t.SameFrame desired)
    (hnodup : (t.columns.map Column.name).Nodup) (hpolicy : t.policy = desired.policy)
    (hcolumns : ∀ name, t.column? name = (desired.column? name).map existing.settled)
    (hself : ∀ d ∈ desired.columns, (d == d) = true) : t.Matches desired := by
  refine ⟨hframe, hnodup, ?_, hpolicy⟩
  intro name
  rw [hcolumns]
  cases hd : desired.column? name with
  | none => rfl
  | some d =>
      rw [Option.map_some, Option.some_beq_some]
      exact settled_same (hself d (mem_of_column? hd))

/-- Nothing leads from a table to one that it matches. -/
theorem Matches.changesTo_eq_nil (h : t.Matches u) (hnodup : (u.columns.map Column.name).Nodup) :
    t.changesTo u = [] := by
  have hwanted : u.columns.filterMap (columnChange t) = [] := by
    refine List.filterMap_eq_nil_iff.mpr fun d hd => ?_
    have hsame := h.column?_same d.name
    rw [column?_of_mem hnodup hd] at hsame
    rw [columnChange]
    cases hc : t.column? d.name with
    | none =>
        rw [hc] at hsame
        cases hsame
    | some c =>
        rw [hc, Option.some_beq_some] at hsame
        exact if_pos hsame
  have hdropped : t.columns.filterMap (columnDrop u) = [] := by
    refine List.filterMap_eq_nil_iff.mpr fun c hc => ?_
    have hsame := h.column?_same c.name
    rw [column?_of_mem h.columns_nodup hc] at hsame
    rw [columnDrop]
    cases hd : u.column? c.name with
    | none =>
        rw [hd] at hsame
        cases hsame
    | some d => rfl
  have hpolicy : policyChange t.policy u.policy = [] := by
    rw [h.policy_eq]
    cases u.policy with
    | none => rfl
    | some p => exact if_pos rfl
  rw [changesTo, hwanted, hdropped, hpolicy]
  rfl

end Table

end SpannerDialect.Schema
