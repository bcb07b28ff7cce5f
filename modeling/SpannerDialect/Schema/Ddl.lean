import SpannerDialect.Schema.Blueprint
import SpannerDialect.Schema.Naming

/-! # Changes as DDL

    The statement of each change.  Names are quoted wherever they stand,
    but for the column of the policy of a table that is created. -/

namespace SpannerDialect.Schema

/-- The words of a policy, for a column as it is to be written. -/
def DeletionPolicy.words (p : DeletionPolicy) (column : List Char) : List Char :=
  "older_than(".toList ++ column ++ ", interval ".toList ++ Text.digits p.days ++ " day)".toList

/-- The words of a policy with its column as a quoted name. -/
def DeletionPolicy.quotedWords (p : DeletionPolicy) : List Char :=
  p.words (Text.quoteName p.column)

/-- The words that place a table with its parent. -/
def Interleave.words (i : Interleave) : List Char :=
  ", interleave in parent ".toList ++ Text.quoteName i.parent ++
    (if i.onDelete = .cascade then " on delete cascade".toList else [])

/-- The statement that creates a table. -/
def Table.creation (offset : Calendar.Offset) (t : Table) : Except Mismatch (List Char) := do
  let columns ← t.columns.mapM (Column.ddl offset)
  return "create table ".toList ++ Text.quoteName t.name ++ " (".toList ++
    Text.join [',', ' '] columns ++ ") primary key (".toList ++ Text.quoteNames t.primaryKey ++
    [')'] ++ (t.interleave.map Interleave.words).getD [] ++
    match t.policy with
    | some p => ", row deletion policy (".toList ++ p.words p.column.toList ++ [')']
    | none => []

/-- The statement that creates an index. -/
def Index.creation (i : Index) : List Char :=
  "create ".toList ++ (if i.unique then "unique ".toList else []) ++
    (if i.nullFiltered then "null_filtered ".toList else []) ++
    "index ".toList ++ Text.quoteName i.defaultName ++ " on ".toList ++
    Text.quoteName i.table ++ " (".toList ++ Text.quoteNames i.columns ++ [')'] ++
    (if i.storing.isEmpty then []
     else " storing (".toList ++ Text.quoteNames i.storing ++ [')']) ++
    match i.interleaveIn with
    | some parent => ", interleave in ".toList ++ Text.quoteName parent
    | none => []

/-- The words of a constraint. -/
def ForeignKey.words (table : String) (k : ForeignKey) : List Char :=
  Text.quoteName (k.defaultName table) ++ " foreign key (".toList ++
    Text.quoteNames k.columns ++ ") references ".toList ++ Text.quoteName k.references ++
    " (".toList ++ Text.quoteNames k.referencedColumns ++ [')']

/-- The statement of a change of the given table. -/
def Change.statement (offset : Calendar.Offset) (table : String) :
    Change → Except Mismatch (List Char)
  | .createTable t => t.creation offset
  | .dropTable ifExists =>
    .ok ((if ifExists then "drop table if exists ".toList else "drop table ".toList) ++
      Text.quoteName table)
  | .addColumn c => do
    let column ← c.ddl offset
    return alter " add column " ++ column
  | .alterColumn c => do
    let column ← c.ddl offset
    return alter " alter column " ++ column
  | .dropColumn name => .ok (alter " drop column " ++ Text.quoteName name)
  | .createIndex i => .ok i.creation
  | .dropIndex name => .ok ("drop index ".toList ++ Text.quoteName name)
  | .addForeignKey k => .ok (alter " add constraint " ++ k.words table)
  | .dropForeignKey name => .ok (alter " drop constraint " ++ Text.quoteName name)
  | .addPolicy p => .ok (alter " add row deletion policy (" ++ p.quotedWords ++ [')'])
  | .replacePolicy p => .ok (alter " replace row deletion policy (" ++ p.quotedWords ++ [')'])
  | .dropPolicy => .ok (alter " drop row deletion policy")
where
  /-- The start of a statement that alters the table. -/
  alter (action : String) : List Char :=
    "alter table ".toList ++ Text.quoteName table ++ action.toList

end SpannerDialect.Schema
