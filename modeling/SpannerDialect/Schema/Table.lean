import SpannerDialect.Schema.Column

/-! # Tables

    A table has columns, a primary key of some of them, perhaps a parent
    whose rows its own rows lie with, and perhaps a policy that removes
    old rows.  A sound table names each column once, has a key of columns
    that never hold NULL, and a policy on a column of dates or times. -/

namespace SpannerDialect.Schema

/-- What becomes of child rows when their parent row is deleted. -/
inductive OnDelete
  /-- A parent row with children stays. -/
  | restrict
  | cascade
deriving DecidableEq

/-- The table whose rows the rows of another lie with. -/
structure Interleave where
  parent : String
  onDelete : OnDelete
deriving DecidableEq

/-- Rows are removed some days after the time in a column. -/
structure DeletionPolicy where
  column : String
  days : Nat
deriving DecidableEq

/-- A table. -/
structure Table where
  name : String
  columns : List Column
  /-- The names of the key columns, in order. -/
  primaryKey : List String
  interleave : Option Interleave
  policy : Option DeletionPolicy

/-- The columns for the times of creation and change. -/
def timestampColumns : List Column :=
  ["created_at", "updated_at"].map fun name =>
    { Column.ofKind name .timestamp with nullable := true }

namespace Table

/-- A table without columns. -/
def named (name : String) : Table :=
  ⟨name, [], [], none, none⟩

/-- The column of a name. -/
def column? (t : Table) (name : String) : Option Column :=
  t.columns.find? fun c => c.name == name

/-- No column has an empty name or the name of an earlier one. -/
def checkColumns (table : String) : List String → List Column → Except InvalidDefinition Unit
  | _, [] => .ok ()
  | seen, c :: cs =>
    if c.name = "" then .error (.emptyColumnName table)
    else if c.name ∈ seen then .error (.columnTwice c.name table)
    else checkColumns table (c.name :: seen) cs

/-- Each key column is named once, exists and never holds NULL. -/
def checkKey (t : Table) : List String → List String → Except InvalidDefinition Unit
  | _, [] => .ok ()
  | seen, name :: names =>
    if name ∈ seen then .error (.keyColumnTwice name t.name)
    else
      match t.column? name with
      | none => .error (.keyColumnMissing name t.name)
      | some c =>
        if c.nullable then .error (.keyColumnNullable name t.name)
        else checkKey t (name :: seen) names

/-- The column of a policy exists and holds dates or times. -/
def checkPolicy (t : Table) (policy : DeletionPolicy) : Except InvalidDefinition Unit :=
  match t.column? policy.column with
  | none => .error (.policyColumnMissing policy.column t.name)
  | some c =>
    if c.type.isTemporal then .ok () else .error (.policyColumnType policy.column c.type)

/-- Whether the table is sound. -/
def validate (t : Table) : Except InvalidDefinition Unit := do
  if t.name = "" then
    throw .emptyTableName
  checkColumns t.name [] t.columns
  checkKey t [] t.primaryKey
  match t.policy with
  | some policy => checkPolicy t policy
  | none => pure ()

/-- Whether the rows of a table can lie with those of a parent: it is the one
    named, and its key starts the key of the table. -/
def validateInterleave (t parent : Table) : Except InvalidDefinition Unit :=
  match t.interleave with
  | none => .error (.notInterleaved t.name)
  | some interleave =>
    if interleave.parent ≠ parent.name then
      .error (.otherParent t.name interleave.parent parent.name)
    else if parent.primaryKey.isPrefixOf t.primaryKey then
      .ok ()
    else
      .error (.keyOutsideParent t.name t.primaryKey parent.primaryKey parent.name)

end Table

end SpannerDialect.Schema
