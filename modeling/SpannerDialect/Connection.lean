import SpannerDialect.Plan
import SpannerDialect.Schema.Batch

/-! # Connections

    A connection renders and plans what it is asked for and passes it to
    an executor, which alone talks to the backend.  A conversation keeps
    the requests made so far; the executor may answer each by all of
    those. -/

namespace SpannerDialect

open Sql

/-! ## What an executor exchanges -/

/-- The rows that answer a query, with the types to read them at. -/
structure RowSet where
  columns : List (String × ColumnType)
  rows : List (List Json)

/-- The answer to a statement. -/
inductive Reply
  | rows (set : RowSet)
  | affected (count : Nat)

/-- The number of rows that an answer tells of. -/
def Reply.count : Reply → Nat
  | rows set => set.rows.length
  | affected count => count

/-- A request to an executor. -/
inductive Request
  | execute (sql : List Char) (parameters : List Parameter) (options : TransactionOptions)
  | ddl (statements : List (List Char))
  | partitioned (sql : List Char) (parameters : List Parameter)

/-- An executor: how it answers each kind of request after earlier ones. -/
structure Executor where
  execute : List Request → List Char → List Parameter → TransactionOptions → Except Error Reply
  ddl : List Request → List (List Char) → Except Error Unit
  partitioned : List Request → List Char → List Parameter → Except Error Nat

/-! ## Conversations -/

/-- A computation that may make requests and may fail.  The requests made
    before a failure stay on record. -/
abbrev Conversation := ExceptT Error (StateM (List Request))

namespace Conversation

/-- Puts a request on record and takes the answer, given the earlier
    requests. -/
def request {α : Type} (r : Request) (answer : List Request → Except Error α) :
    Conversation α := fun earlier => (answer earlier, earlier ++ [r])

/-- A result that needs no request. -/
def settled {α : Type} (result : Except Error α) : Conversation α :=
  fun earlier => (result, earlier)

end Conversation

namespace Executor

/-- Asks for a statement to be carried out. -/
def askExecute (e : Executor) (sql : List Char) (parameters : List Parameter)
    (options : TransactionOptions) : Conversation Reply :=
  .request (.execute sql parameters options) fun earlier =>
    e.execute earlier sql parameters options

/-- Asks for a batch of DDL to be carried out. -/
def askDdl (e : Executor) (statements : List (List Char)) : Conversation Unit :=
  .request (.ddl statements) fun earlier => e.ddl earlier statements

/-- Asks for partitioned DML to be carried out. -/
def askPartitioned (e : Executor) (sql : List Char) (parameters : List Parameter) :
    Conversation Nat :=
  .request (.partitioned sql parameters) fun earlier => e.partitioned earlier sql parameters

end Executor

/-! ## Answers -/

/-- Rows of values. -/
structure Rows where
  columns : List String
  rows : List (List Value)

namespace Rows

/-- Reads a row of cells, one for each column. -/
def decodeRow (columns : List (String × ColumnType)) (cells : List Json) :
    Except DecodeError (List Value) :=
  if cells.length = columns.length then
    (columns.zip cells).mapM fun (column, cell) => Value.decode column.2 cell
  else
    .error (.rowWidth cells.length columns.length)

/-- Reads the answer to a query. -/
def decode (set : RowSet) : Except DecodeError Rows := do
  let rows ← set.rows.mapM (decodeRow set.columns)
  return { columns := set.columns.map Prod.fst, rows }

/-- The place of the first column of a name. -/
def columnIndex? (r : Rows) (name : String) : Option Nat :=
  r.columns.findIdx? (· == name)

/-- The value of a column in a row. -/
def get? (r : Rows) (row : Nat) (name : String) : Option Value := do
  let column ← r.columnIndex? name
  let values ← r.rows[row]?
  values[column]?

end Rows

/-- What a query is answered with. -/
def Reply.decode : Reply → Except Error Rows
  | rows set => (Rows.decode set).mapError .decoding
  | affected _ => .error (.execution .countInsteadOfRows)

/-! ## Calls -/

/-- The settings and the executor of a connection. -/
structure Connection where
  config : Config
  executor : Executor

namespace Connection

/-- Runs a query. -/
def select (c : Connection) (s : Select) : Conversation Rows := do
  let r ← .settled ((Statement.select s).render c.config)
  let (sql, parameters) ← .settled r.parameterize
  let reply ← c.executor.askExecute sql parameters r.options
  .settled reply.decode

/-- Runs a write in one commit and tells the number of rows. -/
def write (c : Connection) (s : Statement) : Conversation Nat := do
  let plan ← .settled (Plan.ofWrite c.config s)
  let (sql, parameters) ← .settled plan.rendered.parameterize
  let reply ← c.executor.askExecute sql parameters plan.rendered.options
  return reply.count

/-- Runs an update or a delete as partitioned DML and tells the number of
    rows. -/
def writePartitioned (c : Connection) (s : Statement) : Conversation Nat := do
  let plan ← .settled (Plan.ofPartitioned c.config s)
  let (sql, parameters) ← .settled plan.rendered.parameterize
  c.executor.askPartitioned sql parameters

/-- Runs an update as partitioned DML. -/
def partitionedUpdate (c : Connection) (u : Update) : Conversation Nat :=
  c.writePartitioned (.update u)

/-- Runs a delete as partitioned DML. -/
def partitionedDelete (c : Connection) (d : Delete) : Conversation Nat :=
  c.writePartitioned (.delete d)

/-- Carries out a blueprint as one batch, unless it is empty, and tells the
    statements. -/
def applySchema (c : Connection) (known : List Schema.Table) (existing : Option Schema.Table)
    (b : Schema.Blueprint) : Conversation (List (List Char)) := do
  let synthesis : Schema.Synthesis := { known, offset := c.config.timezone }
  let statements ← .settled (synthesis.batch existing b)
  if statements.isEmpty then
    return []
  else
    c.executor.askDdl statements
    return statements

end Connection

end SpannerDialect
