import SpannerDialect.Form.Value
import SpannerDialect.Schema.Blueprint

/-! # Schemas in JSON

    Columns, tables, indexes, constraints, and the changes of a
    blueprint. -/

namespace SpannerDialect.Form

open Schema

/-- A column. -/
def column? (j : Json) : Option Column := do
  let field ← record? ["name", "column_type", "nullable", "default"] j
  let name ← text? (← field "name")
  let type ← columnType? (← field "column_type")
  let nullable ← flag? (← field "nullable")
  let default ← optional? (default? true) (field "default")
  return { name, type, nullable, default }

/-- A column in JSON. -/
def ofColumn (c : Column) : Json :=
  .object [("column_type", ofColumnType c.type), ("default", ofOption ofDefault c.default),
    ("name", .string c.name), ("nullable", .bool c.nullable)]

/-- What becomes of child rows. -/
def onDelete? : Json → Option OnDelete :=
  choice? [("Restrict", .restrict), ("Cascade", .cascade)]

/-- What becomes of child rows, in JSON. -/
def ofOnDelete : OnDelete → Json
  | .restrict => .string "Restrict"
  | .cascade => .string "Cascade"

/-- A parent. -/
def interleave? (j : Json) : Option Interleave := do
  let field ← record? ["parent", "on_delete"] j
  let parent ← text? (← field "parent")
  let onDelete ← onDelete? (← field "on_delete")
  return { parent, onDelete }

/-- A parent in JSON. -/
def ofInterleave (i : Interleave) : Json :=
  .object [("on_delete", ofOnDelete i.onDelete), ("parent", .string i.parent)]

/-- A policy. -/
def policy? (j : Json) : Option DeletionPolicy := do
  let field ← record? ["column", "days"] j
  let column ← text? (← field "column")
  let days ← word32? (← field "days")
  return { column, days }

/-- A policy in JSON. -/
def ofPolicy (p : DeletionPolicy) : Json :=
  .object [("column", .string p.column), ("days", ofInt p.days)]

/-- A table. -/
def table? (j : Json) : Option Table := do
  let field ← record? ["name", "columns", "primary_key", "interleave", "row_deletion_policy"] j
  let name ← text? (← field "name")
  let columns ← listOf? column? (← field "columns")
  let primaryKey ← names? (← field "primary_key")
  let interleave ← optional? interleave? (field "interleave")
  let policy ← optional? policy? (field "row_deletion_policy")
  return { name, columns, primaryKey, interleave, policy }

/-- A table in JSON. -/
def ofTable (t : Table) : Json :=
  .object [("columns", ofList ofColumn t.columns),
    ("interleave", ofOption ofInterleave t.interleave), ("name", .string t.name),
    ("primary_key", ofNames t.primaryKey), ("row_deletion_policy", ofOption ofPolicy t.policy)]

/-- An index. -/
def index? (j : Json) : Option Index := do
  let field ← record? ["name", "table", "columns", "unique", "null_filtered", "storing",
    "interleave_in"] j
  let name ← optional? text? (field "name")
  let table ← text? (← field "table")
  let columns ← names? (← field "columns")
  let unique ← flag? (← field "unique")
  let nullFiltered ← flag? (← field "null_filtered")
  let storing ← names? (← field "storing")
  let interleaveIn ← optional? text? (field "interleave_in")
  return { name, table, columns, unique, nullFiltered, storing, interleaveIn }

/-- An index in JSON. -/
def ofIndex (i : Index) : Json :=
  .object [("columns", ofNames i.columns), ("interleave_in", ofOption .string i.interleaveIn),
    ("name", ofOption .string i.name), ("null_filtered", .bool i.nullFiltered),
    ("storing", ofNames i.storing), ("table", .string i.table), ("unique", .bool i.unique)]

/-- A constraint. -/
def foreignKey? (j : Json) : Option ForeignKey := do
  let field ← record? ["name", "columns", "references", "referenced_columns"] j
  let name ← optional? text? (field "name")
  let columns ← names? (← field "columns")
  let references ← text? (← field "references")
  let referencedColumns ← names? (← field "referenced_columns")
  return { name, columns, references, referencedColumns }

/-- A constraint in JSON. -/
def ofForeignKey (k : ForeignKey) : Json :=
  .object [("columns", ofNames k.columns), ("name", ofOption .string k.name),
    ("referenced_columns", ofNames k.referencedColumns), ("references", .string k.references)]

/-- A change. -/
def change? (j : Json) : Option Change := do
  let (name, content) ← variant? j
  match name with
  | "CreateTable" => (table? content).map .createTable
  | "DropTable" =>
    let field ← object? content
    (flag? (← field "if_exists")).map .dropTable
  | "AddColumn" => (column? content).map .addColumn
  | "AlterColumn" => (column? content).map .alterColumn
  | "DropColumn" => (text? content).map .dropColumn
  | "CreateIndex" => (index? content).map .createIndex
  | "DropIndex" => (text? content).map .dropIndex
  | "AddForeignKey" => (foreignKey? content).map .addForeignKey
  | "DropForeignKey" => (text? content).map .dropForeignKey
  | "AddRowDeletionPolicy" => (policy? content).map .addPolicy
  | "ReplaceRowDeletionPolicy" => (policy? content).map .replacePolicy
  | "DropRowDeletionPolicy" => unit? .dropPolicy content
  | _ => none

/-- A change in JSON. -/
def ofChange : Change → Json
  | .createTable t => ofVariant "CreateTable" (ofTable t)
  | .dropTable ifExists => ofVariant "DropTable" (.object [("if_exists", .bool ifExists)])
  | .addColumn c => ofVariant "AddColumn" (ofColumn c)
  | .alterColumn c => ofVariant "AlterColumn" (ofColumn c)
  | .dropColumn name => ofVariant "DropColumn" (.string name)
  | .createIndex i => ofVariant "CreateIndex" (ofIndex i)
  | .dropIndex name => ofVariant "DropIndex" (.string name)
  | .addForeignKey k => ofVariant "AddForeignKey" (ofForeignKey k)
  | .dropForeignKey name => ofVariant "DropForeignKey" (.string name)
  | .addPolicy p => ofVariant "AddRowDeletionPolicy" (ofPolicy p)
  | .replacePolicy p => ofVariant "ReplaceRowDeletionPolicy" (ofPolicy p)
  | .dropPolicy => .string "DropRowDeletionPolicy"

/-- A blueprint. -/
def blueprint? (j : Json) : Option Blueprint := do
  let field ← record? ["table", "changes"] j
  let table ← text? (← field "table")
  let changes ← listOf? change? (← field "changes")
  return { table, changes }

/-- A blueprint in JSON. -/
def ofBlueprint (b : Blueprint) : Json :=
  .object [("changes", ofList ofChange b.changes), ("table", .string b.table)]

end SpannerDialect.Form
