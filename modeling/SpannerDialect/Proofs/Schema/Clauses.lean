import SpannerDialect.Proofs.Except
import SpannerDialect.Schema.Ddl

/-! # Statements clause by clause

    The statements that create a table or an index, from the left on: each clause with
    what follows it, and a clause that may be missing as that of an option
    (`Table.exists_of_creation`, `Index.creation_eq`). -/

namespace SpannerDialect.Schema

open Text

/-! ## Tables -/

/-- The clause of the policy of a table that is created. -/
def DeletionPolicy.clause (p : DeletionPolicy) : List Char :=
  ", row deletion policy (".toList ++ p.words p.column.toList ++ [')']

theorem DeletionPolicy.clause_eq (p : DeletionPolicy) :
    p.clause = ", row deletion policy (older_than(".toList ++ (p.column.toList ++
      (", interval ".toList ++ (digits p.days ++ " day))".toList))) := by
  unfold clause words
  simp

/-- The statement that creates a table. -/
theorem Table.exists_of_creation {offset : Calendar.Offset} {t : Table} {text : List Char}
    (h : t.creation offset = .ok text) :
    ∃ columns, t.columns.mapM (Column.ddl offset) = .ok columns ∧
      text = "create table ".toList ++ (quoteName t.name ++ (" (".toList ++
        (join [',', ' '] columns ++ ')' :: (" primary key (".toList ++ (quoteNames t.primaryKey ++
          ')' :: ((t.interleave.map Interleave.words).getD [] ++
            (t.policy.map DeletionPolicy.clause).getD [])))))) := by
  obtain ⟨columns, hcolumns, h⟩ := exists_of_bind_eq_ok h
  obtain rfl := Except.ok.inj h
  refine ⟨columns, hcolumns, ?_⟩
  have hkey : ") primary key (".toList = ')' :: " primary key (".toList := rfl
  cases t.policy <;> simp only [hkey, List.append_assoc, List.cons_append, List.nil_append] <;> rfl

/-! ## Indexes -/

namespace Index

/-- The stored columns, if there are any. -/
def stored? (i : Index) : Option (List String) :=
  if i.storing.isEmpty then none else some i.storing

/-- The clause of stored columns. -/
def storingClause (names : List String) : List Char :=
  " storing (".toList ++ (quoteNames names ++ [')'])

/-- The clause of a parent. -/
def parentClause (parent : String) : List Char :=
  ", interleave in ".toList ++ quoteName parent

theorem getD_stored? (i : Index) : i.stored?.getD [] = i.storing := by
  rw [stored?]
  split
  · rename_i h
    exact (List.isEmpty_iff.mp h).symm
  · rfl

theorem eq_of_mem_stored? {i : Index} {names : List String} (h : names ∈ i.stored?) :
    names = i.storing := by
  rw [← i.getD_stored?, Option.mem_def.mp h]
  rfl

/-- The statement that creates an index. -/
theorem creation_eq (i : Index) :
    i.creation = "create ".toList ++ ((if i.unique then "unique ".toList else []) ++
      ((if i.nullFiltered then "null_filtered ".toList else []) ++ ("index ".toList ++
        (quoteName i.defaultName ++ (" on ".toList ++ (quoteName i.table ++ (" (".toList ++
          (quoteNames i.columns ++ ')' :: ((i.stored?.map storingClause).getD [] ++
            (i.interleaveIn.map parentClause).getD []))))))))) := by
  have hstoring : (i.stored?.map storingClause).getD [] = if i.storing.isEmpty then []
      else " storing (".toList ++ (quoteNames i.storing ++ [')']) := by
    rw [stored?]
    split <;> rfl
  rw [hstoring]
  unfold creation
  cases i.interleaveIn <;> simp only [List.append_assoc, List.singleton_append] <;> rfl

end Index

end SpannerDialect.Schema
