import SpannerDialect.Schema.Index

/-! # Blueprints

    The changes that are asked of one table, in the order in which they
    are declared. -/

namespace SpannerDialect.Schema

/-- A change of a table. -/
inductive Change
  | createTable (table : Table)
  | dropTable (ifExists : Bool)
  | addColumn (column : Column)
  /-- Puts a column into the place of the one with its name. -/
  | alterColumn (column : Column)
  | dropColumn (name : String)
  | createIndex (index : Index)
  | dropIndex (name : String)
  | addForeignKey (key : ForeignKey)
  | dropForeignKey (name : String)
  | addPolicy (policy : DeletionPolicy)
  | replacePolicy (policy : DeletionPolicy)
  | dropPolicy

/-- The changes of one table. -/
structure Blueprint where
  table : String
  changes : List Change

/-- More columns for the last table that is created, if one is. -/
def Change.extendLastCreated? (columns : List Column) : List Change → Option (List Change)
  | [] => none
  | c :: cs =>
    match extendLastCreated? columns cs with
    | some cs => some (c :: cs)
    | none =>
      match c with
      | .createTable t => some (.createTable { t with columns := t.columns ++ columns } :: cs)
      | _ => none

namespace Blueprint

/-- No change yet. -/
def ofTable (table : String) : Blueprint :=
  ⟨table, []⟩

/-- One more change. -/
def push (b : Blueprint) (change : Change) : Blueprint :=
  { b with changes := b.changes ++ [change] }

/-- More changes. -/
def extend (b : Blueprint) (changes : List Change) : Blueprint :=
  { b with changes := b.changes ++ changes }

/-- The columns for the times of creation and change.  They go into the last
    table that the blueprint creates, or are added where it creates none. -/
def timestamps (b : Blueprint) : Blueprint :=
  match Change.extendLastCreated? timestampColumns b.changes with
  | some changes => { b with changes }
  | none => b.extend (timestampColumns.map .addColumn)

/-- A plain index of the table. -/
def index (b : Blueprint) (columns : List String) : Blueprint :=
  b.push (.createIndex (.ofColumns b.table columns))

/-- A unique index of the table. -/
def unique (b : Blueprint) (columns : List String) : Blueprint :=
  b.push (.createIndex { Index.ofColumns b.table columns with unique := true })

end Blueprint

end SpannerDialect.Schema
