import SpannerDialect.Sql.Expression

/-! # Statements

    Queries, writes, and DDL that is passed on as written. -/

namespace SpannerDialect.Sql

/-- A column with the expression that it gets. -/
abbrev Assignment := String × Expression

/-- New rows.  Every row names the same columns. -/
structure Insert where
  table : String
  mode : InsertMode
  rows : List (List Assignment)
  /-- Asks for the key that the backend gives to the row, which it cannot
      do. -/
  returningId : Bool

/-- New values of some columns. -/
structure Update where
  table : String
  assignments : List Assignment
  /-- Which rows; without a condition, all. -/
  filter : Option Expression

/-- Rows to remove. -/
structure Delete where
  table : String
  /-- Which rows; without a condition, all. -/
  filter : Option Expression

/-- A statement. -/
inductive Statement
  | select (s : Select)
  | insert (i : Insert)
  | update (u : Update)
  | delete (d : Delete)
  /-- DDL as written. -/
  | ddl (sql : String)

namespace Insert

/-- An insert without rows. -/
def into (table : String) : Insert :=
  ⟨table, .insert, [], false⟩

/-- One more row. -/
def row (i : Insert) (row : List Assignment) : Insert :=
  { i with rows := i.rows ++ [row] }

/-- The mutations of an insert: one for each column of each row. -/
def mutations (i : Insert) : Nat :=
  i.rows.flatten.length

end Insert

namespace Update

/-- An update without columns. -/
def ofTable (table : String) : Update :=
  ⟨table, [], none⟩

/-- One more column. -/
def set (u : Update) (column : String) (e : Expression) : Update :=
  { u with assignments := u.assignments ++ [(column, e)] }

/-- One more condition. -/
def where_ (u : Update) (e : Expression) : Update :=
  { u with filter := Expression.andAlso u.filter e }

end Update

namespace Delete

/-- Every row of a table. -/
def ofTable (table : String) : Delete :=
  ⟨table, none⟩

/-- One more condition. -/
def where_ (d : Delete) (e : Expression) : Delete :=
  { d with filter := Expression.andAlso d.filter e }

end Delete

namespace Statement

/-- The kind of a statement. -/
def kind : Statement → StatementKind
  | select _ => .select
  | insert _ => .insert
  | update _ => .update
  | delete _ => .delete
  | ddl _ => .ddl

/-- Whether a statement writes rows. -/
def isWrite (s : Statement) : Bool :=
  match s.kind with
  | .insert | .update | .delete => true
  | .select | .ddl => false

end Statement

end SpannerDialect.Sql
