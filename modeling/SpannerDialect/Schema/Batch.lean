import SpannerDialect.Schema.Ddl
import SpannerDialect.Schema.Tracker

/-! # DDL batches

    Every change of a blueprint becomes one statement.  The batch holds
    the statements in groups, so that what depends on something comes
    after it: first what is dropped, then the table and its columns, the
    policy, the indexes, the constraints, and at the end the dropping of
    the table itself. -/

namespace SpannerDialect.Schema

/-- The groups of a batch, in order. -/
inductive Group
  | drops | table | policy | indexes | constraints | dropTable
deriving DecidableEq

/-- All groups in the order of the batch. -/
def Group.all : List Group :=
  [drops, table, policy, indexes, constraints, dropTable]

/-- The group of a change. -/
def Change.group : Change → Group
  | .dropIndex _ | .dropForeignKey _ | .dropPolicy => .drops
  | .createTable _ | .addColumn _ | .alterColumn _ | .dropColumn _ => .table
  | .addPolicy _ | .replacePolicy _ => .policy
  | .createIndex _ => .indexes
  | .addForeignKey _ => .constraints
  | .dropTable _ => .dropTable

/-- A change as it is carried out, with its statement. -/
structure Step where
  change : Change
  statement : List Char

/-- What a run is made with. -/
structure Synthesis where
  /-- Other tables of the database. -/
  known : List Table
  /-- Where local times are read. -/
  offset : Calendar.Offset

namespace Synthesis

/-- Carries out one change. -/
def step (s : Synthesis) (blueprint : String) (tracker : Tracker) (change : Change) :
    Except Error (Tracker × Step) := do
  let (tracker, change) ← tracker.apply s.known blueprint change
  let statement ← orMismatch (change.statement s.offset blueprint)
  return (tracker, { change, statement })

/-- Carries out changes in the order of their declaration. -/
def run (s : Synthesis) (blueprint : String) (tracker : Tracker) :
    List Change → Except Error (Tracker × List Step)
  | [] => .ok (tracker, [])
  | change :: changes => do
    let (tracker, first) ← s.step blueprint tracker change
    let (tracker, rest) ← s.run blueprint tracker changes
    return (tracker, first :: rest)

/-- The steps in the order of the batch: group by group, and in each group in
    the order of their declaration. -/
def grouped (steps : List Step) : List Step :=
  Group.all.flatMap fun g => steps.filter fun step => step.change.group = g

/-- The statements of a blueprint, in the order of the batch. -/
def batch (s : Synthesis) (existing : Option Table) (b : Blueprint) :
    Except Error (List (List Char)) := do
  let (_, steps) ← s.run b.table (.start existing) b.changes
  return (grouped steps).map Step.statement

end Synthesis

end SpannerDialect.Schema
