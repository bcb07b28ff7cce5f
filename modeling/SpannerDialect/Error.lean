import SpannerDialect.Mismatch
import SpannerDialect.Sql.Basic
import SpannerDialect.Text.Quoted
import SpannerDialect.Value.Wire

/-! # Errors

    What can go wrong outside of single values, by cause.  The wording of
    every cause is in one place. -/

namespace SpannerDialect

/-! ## Statements -/

/-- A statement whose parts do not match each other. -/
inductive ShapeMismatch
  | bindings (placeholders values : Nat)
  | joinWithoutCondition (kind : Sql.JoinKind) (table : String)
  | insertWithoutRows (table : String)
  | insertWithoutColumns (table : String)
  | repeatedColumn (column table : String)
  | rowColumns (row : Nat) (table : String) (found expected : List String)
  | updateWithoutColumns (table : String)
deriving DecidableEq

/-- The wording of a shape mismatch. -/
def ShapeMismatch.message : ShapeMismatch → String
  | bindings placeholders values =>
    s!"statement has {placeholders} placeholders but {values} bindings"
  | joinWithoutCondition kind table => s!"{kind.name} join on `{table}` requires a condition"
  | insertWithoutRows table => s!"insert into `{table}` has no rows"
  | insertWithoutColumns table => s!"insert into `{table}` has no columns"
  | repeatedColumn column table => s!"column `{column}` given twice for `{table}`"
  | rowColumns row table found expected =>
    let found := ", ".intercalate found
    let expected := ", ".intercalate expected
    s!"row {row} of insert into `{table}` has columns ({found}), expected ({expected})"
  | updateWithoutColumns table => s!"update of `{table}` sets no columns"

/-- What the backend or the planner cannot do. -/
inductive UnsupportedFeature
  | useHint
  | ignoreHint
  | insertGetId
  | primaryKeyChange (table : String)
  | interleaveChange (table : String)
  | notAWrite (kind : Sql.StatementKind)
  | notPartitionable (kind : Sql.StatementKind)
deriving DecidableEq

/-- The wording of an unsupported feature. -/
def UnsupportedFeature.message : UnsupportedFeature → String
  | useHint => "Spanner does not support index hint type: use"
  | ignoreHint => "Spanner does not support index hint type: ignore"
  | insertGetId => "Spanner does not support insertGetId"
  | primaryKeyChange table => s!"Spanner does not support changing the primary key of `{table}`"
  | interleaveChange table => s!"Spanner does not support changing the interleaving of `{table}`"
  | notAWrite kind => s!"{kind.name} statements are not planned as writes"
  | notPartitionable kind =>
    s!"partitioned DML accepts only update and delete, not {kind.name}"

/-! ## Schemas -/

/-- A change that the state of the table does not allow. -/
inductive Conflict
  | tableExists (table : String)
  | columnExists (column table : String)
  | columnMissing (column table : String)
  | policyColumnType (column table : String)
  | policyColumnDropped (column table : String)
  | policyExists (table : String)
  | noPolicyToReplace (table : String)
  | noPolicyToDrop (table : String)
deriving DecidableEq

/-- The wording of a conflict. -/
def Conflict.message : Conflict → String
  | tableExists table => s!"table `{table}` already exists"
  | columnExists column table => s!"column `{column}` already exists in `{table}`"
  | columnMissing column table => s!"column `{column}` does not exist in `{table}`"
  | policyColumnType column table =>
    s!"column `{column}` of `{table}` drives its row deletion policy " ++
      "and must stay date or timestamp"
  | policyColumnDropped column table =>
    s!"column `{column}` of `{table}` drives its row deletion policy; drop the policy first"
  | policyExists table => s!"`{table}` already has a row deletion policy; replace it instead"
  | noPolicyToReplace table => s!"`{table}` has no row deletion policy to replace"
  | noPolicyToDrop table => s!"`{table}` has no row deletion policy to drop"

/-- A definition that contradicts itself, its surroundings or its batch. -/
inductive InvalidDefinition
  | hintName (index : String)
  | emptyTableName
  | emptyColumnName (table : String)
  | columnTwice (column table : String)
  | keyColumnTwice (column table : String)
  | keyColumnMissing (column table : String)
  | keyColumnNullable (column table : String)
  | policyColumnMissing (column table : String)
  | policyColumnType (column : String) (type : ColumnType)
  | notInterleaved (table : String)
  | otherParent (table named parent : String)
  | keyOutsideParent (table : String) (key parentKey : List String) (parent : String)
  | indexWithoutColumns (table : String)
  | indexNotInterleaved (table parent : String)
  | indexOutsideParent (table : String) (key parentKey : List String) (parent : String)
  | indexColumnMissing (column table : String)
  | indexNameTwice (name : String)
  | foreignKeyWidth (table : String) (columns : Nat) (references : String) (referenced : Nat)
  | changeAfterDrop (table : String)
  | createsOther (blueprint table : String)
  | indexesOther (blueprint table : String)
  | dropsKeyColumn (column table : String)
  | dropsOwnPolicy (blueprint : String)
  | otherTable (existing desired : String)
deriving DecidableEq

/-- Quoted names for a message. -/
def quotedList (names : List String) : String :=
  String.ofList (Text.quoteNames names)

/-- The wording of an invalid definition. -/
def InvalidDefinition.message : InvalidDefinition → String
  | hintName index => s!"`{index}` is not a valid index name for a FORCE_INDEX hint"
  | emptyTableName => "table name cannot be empty"
  | emptyColumnName table => s!"column name cannot be empty in `{table}`"
  | columnTwice column table => s!"column `{column}` declared twice in `{table}`"
  | keyColumnTwice column table =>
    s!"column `{column}` appears twice in the primary key of `{table}`"
  | keyColumnMissing column table =>
    s!"primary key column `{column}` does not exist in `{table}`"
  | keyColumnNullable column table =>
    s!"primary key column `{column}` of `{table}` cannot be nullable"
  | policyColumnMissing column table =>
    s!"row deletion policy column `{column}` does not exist in `{table}`"
  | policyColumnType column type =>
    s!"row deletion policy column `{column}` must be date or timestamp, not {type.name}"
  | notInterleaved table => s!"`{table}` is not interleaved"
  | otherParent table named parent => s!"`{table}` is interleaved in `{named}`, not `{parent}`"
  | keyOutsideParent table key parentKey parent =>
    s!"primary key ({quotedList key}) of `{table}` must start with " ++
      s!"the primary key ({quotedList parentKey}) of parent `{parent}`"
  | indexWithoutColumns table => s!"index on `{table}` has no key columns"
  | indexNotInterleaved table parent => s!"index on `{table}` is not interleaved in `{parent}`"
  | indexOutsideParent table key parentKey parent =>
    s!"index key ({quotedList key}) on `{table}` must start with " ++
      s!"the primary key ({quotedList parentKey}) of `{parent}`"
  | indexColumnMissing column table => s!"index column `{column}` does not exist in `{table}`"
  | indexNameTwice name => s!"index name `{name}` is used twice"
  | foreignKeyWidth table columns references referenced =>
    s!"foreign key on `{table}` must pair each of its {columns} columns " ++
      s!"with one of `{references}`'s, got {referenced}"
  | changeAfterDrop table => s!"`{table}` has changes after it is dropped"
  | createsOther blueprint table => s!"blueprint for `{blueprint}` cannot create `{table}`"
  | indexesOther blueprint table => s!"blueprint for `{blueprint}` cannot index `{table}`"
  | dropsKeyColumn column table =>
    s!"cannot drop primary key column `{column}` of `{table}`"
  | dropsOwnPolicy blueprint =>
    s!"blueprint for `{blueprint}` drops a row deletion policy it also adds or replaces"
  | otherTable existing desired => s!"cannot diff `{existing}` against `{desired}`"

/-! ## Execution -/

/-- What failed while a statement was carried out. -/
inductive ExecutionFailure
  /-- A query was answered with a count. -/
  | countInsteadOfRows
  /-- What an executor tells. -/
  | reported (message : String)
deriving DecidableEq

/-- The wording of a failed execution. -/
def ExecutionFailure.message : ExecutionFailure → String
  | countInsteadOfRows => "query returned an affected count instead of rows"
  | reported message => message

/-! ## All errors -/

/-- An error. -/
inductive Error
  | typeMismatch (m : Mismatch)
  | decoding (e : DecodeError)
  | shape (e : ShapeMismatch)
  | unsupported (f : UnsupportedFeature)
  | conflict (c : Conflict)
  | definition (d : InvalidDefinition)
  /-- More mutations than one commit may have, with their number if it is
      known. -/
  | mutationLimit (predicted : Option Nat) (budget : Nat)
  | execution (f : ExecutionFailure)

namespace Error

/-- The wording of an error. -/
def message : Error → String
  | typeMismatch m => s!"Type mismatch: {m.message}"
  | decoding e => s!"Decoding error: {e.message}"
  | shape e => s!"Shape mismatch: {e.message}"
  | unsupported f => f.message
  | conflict c => s!"Policy conflict: {c.message}"
  | definition d => s!"Invalid definition: {d.message}"
  | mutationLimit predicted budget =>
    let count := (predicted.map toString).getD "unknown"
    s!"Mutation limit exceeded: {count} mutations against a budget of {budget}; " ++
      "use partitioned_update or partitioned_delete for bulk writes"
  | execution f => s!"Execution error: {f.message}"

end Error

/-- A result whose failure is a type mismatch, among other failures. -/
def orMismatch {α : Type} : Except Mismatch α → Except Error α :=
  Except.mapError .typeMismatch

end SpannerDialect
