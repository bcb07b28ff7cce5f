import SpannerDialect.Schema.Table

/-! # Indexes and foreign keys

    A secondary index over some columns of a table, and a constraint that
    pairs columns with columns of another table. -/

namespace SpannerDialect.Schema

/-- A secondary index. -/
structure Index where
  /-- The name; without one, it follows from table and columns. -/
  name : Option String
  table : String
  /-- The key columns, in order. -/
  columns : List String
  unique : Bool
  /-- Whether rows with NULL in a key column are left out. -/
  nullFiltered : Bool
  /-- Further columns whose values the index holds. -/
  storing : List String
  /-- The table whose rows the entries lie with. -/
  interleaveIn : Option String
deriving DecidableEq

namespace Index

/-- A plain index. -/
def ofColumns (table : String) (columns : List String) : Index :=
  ⟨none, table, columns, false, false, [], none⟩

/-- An index has key columns. -/
def validate (i : Index) : Except InvalidDefinition Unit :=
  if i.columns.isEmpty then .error (.indexWithoutColumns i.table) else .ok ()

/-- Whether the entries of an index can lie with the rows of a parent: it is
    the one named, and its key starts the key of the index. -/
def validateInterleave (i : Index) (parent : Table) : Except InvalidDefinition Unit :=
  if i.interleaveIn ≠ some parent.name then
    .error (.indexNotInterleaved i.table parent.name)
  else if parent.primaryKey.isPrefixOf i.columns then
    .ok ()
  else
    .error (.indexOutsideParent i.table i.columns parent.primaryKey parent.name)

/-- Whether two definitions give the same index, whatever its name. -/
def sameExceptName (a b : Index) : Bool :=
  { a with name := none } == { b with name := none }

end Index

/-- A constraint that pairs columns with those of another table. -/
structure ForeignKey where
  /-- The name; without one, it follows from table and columns. -/
  name : Option String
  columns : List String
  references : String
  referencedColumns : List String
deriving DecidableEq

/-- Each column has its partner. -/
def ForeignKey.validate (table : String) (k : ForeignKey) : Except InvalidDefinition Unit :=
  if k.columns.isEmpty ∨ k.columns.length ≠ k.referencedColumns.length then
    .error (.foreignKeyWidth table k.columns.length k.references k.referencedColumns.length)
  else
    .ok ()

end SpannerDialect.Schema
