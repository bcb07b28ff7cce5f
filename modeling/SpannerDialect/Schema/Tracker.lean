import SpannerDialect.Schema.Blueprint
import SpannerDialect.Schema.Naming

/-! # Tracking a table through its changes

    While the state of the table is known, each change is checked against
    it and moves it on; what contradicts it is refused.  Other tables of
    the database, where they are known, are looked at for parents. -/

namespace SpannerDialect.Schema

/-! ## The state of a run -/

/-- What is known of the table. -/
inductive TableState
  | unknown
  | present (t : Table)
  | dropped

/-- What a run keeps between two changes. -/
structure Tracker where
  table : TableState
  /-- The index names that have been given. -/
  indexNames : List String
  /-- Whether the batch gives the table a policy. -/
  givesPolicy : Bool

/-- The start of a run, with the table as it is, if that is known. -/
def Tracker.start (existing : Option Table) : Tracker :=
  { table := match existing with
      | some t => .present t
      | none => .unknown
    indexNames := []
    givesPolicy := false }

/-- A result whose failure is an invalid definition, among other failures. -/
def orInvalid {α : Type} : Except InvalidDefinition α → Except Error α :=
  Except.mapError .definition

/-! ## Changes of a known table -/

namespace Table

/-- Whether a column drives the policy of the table. -/
def drivesPolicy (t : Table) (column : String) : Bool :=
  match t.policy with
  | some policy => policy.column == column
  | none => false

/-- The table with one more column. -/
def addColumn (t : Table) (c : Column) : Except Error Table :=
  if (t.column? c.name).isSome then .error (.conflict (.columnExists c.name t.name))
  else .ok { t with columns := t.columns ++ [c] }

/-- A column in the place of the first one with its name. -/
def replaceColumn (c : Column) : List Column → List Column
  | [] => []
  | d :: ds => if d.name = c.name then c :: ds else d :: replaceColumn c ds

/-- The table with a column in the place of the one with its name. -/
def alterColumn (blueprint : String) (t : Table) (c : Column) : Except Error Table :=
  if (t.column? c.name).isNone then .error (.conflict (.columnMissing c.name blueprint))
  else if t.drivesPolicy c.name ∧ !c.type.isTemporal then
    .error (.conflict (.policyColumnType c.name t.name))
  else .ok { t with columns := replaceColumn c t.columns }

/-- The table without a column. -/
def dropColumn (blueprint : String) (t : Table) (name : String) : Except Error Table :=
  if name ∈ t.primaryKey then .error (.definition (.dropsKeyColumn name t.name))
  else if t.drivesPolicy name then .error (.conflict (.policyColumnDropped name t.name))
  else if (t.column? name).isNone then .error (.conflict (.columnMissing name blueprint))
  else .ok { t with columns := t.columns.filter fun c => c.name != name }

/-- The table with a first policy. -/
def addPolicy (t : Table) (policy : DeletionPolicy) : Except Error Table :=
  if t.policy.isSome then .error (.conflict (.policyExists t.name))
  else do
    orInvalid (t.checkPolicy policy)
    return { t with policy := some policy }

/-- The table with another policy. -/
def replacePolicy (t : Table) (policy : DeletionPolicy) : Except Error Table :=
  if t.policy.isNone then .error (.conflict (.noPolicyToReplace t.name))
  else do
    orInvalid (t.checkPolicy policy)
    return { t with policy := some policy }

/-- The table without its policy. -/
def dropPolicy (t : Table) : Except Error Table :=
  if t.policy.isNone then .error (.conflict (.noPolicyToDrop t.name))
  else .ok { t with policy := none }

/-- Every column of an index is one of the table. -/
def checkIndexColumns (t : Table) : List String → Except Error Unit
  | [] => .ok ()
  | name :: names =>
    if (t.column? name).isNone then .error (.definition (.indexColumnMissing name t.name))
    else t.checkIndexColumns names

end Table

/-! ## One change -/

/-- The first table of a name. -/
def findTable? (tables : List Table) (name : String) : Option Table :=
  tables.find? fun t => t.name == name

namespace TableState

/-- Moves the table on, if it is known. -/
def update (s : TableState) (f : Table → Except Error Table) : Except Error TableState :=
  match s with
  | present t => (f t).map present
  | s => .ok s

/-- Checks the table, if it is known. -/
def check (s : TableState) (f : Table → Except Error Unit) : Except Error Unit :=
  match s with
  | present t => f t
  | _ => .ok ()

end TableState

namespace Tracker

/-- Checks the creation of a table against the blueprint, itself and its
    parent. -/
def checkCreation (known : List Table) (blueprint : String) (t : Table) : Except Error Unit := do
  if t.name ≠ blueprint then
    throw (.definition (.createsOther blueprint t.name))
  orInvalid t.validate
  match t.interleave.bind fun interleave => findTable? known interleave.parent with
  | some parent => orInvalid (t.validateInterleave parent)
  | none => pure ()

/-- Checks the creation of an index against the blueprint, itself and its
    parent. -/
def checkIndex (known : List Table) (blueprint : String) (i : Index) : Except Error Unit := do
  if i.table ≠ blueprint then
    throw (.definition (.indexesOther blueprint i.table))
  orInvalid i.validate
  match i.interleaveIn.bind (findTable? known) with
  | some parent => orInvalid (i.validateInterleave parent)
  | none => pure ()

/-- Checks a change and moves the state on.  The change comes back as it is
    carried out: a created index has its name. -/
def apply (known : List Table) (blueprint : String) (tracker : Tracker) (change : Change) :
    Except Error (Tracker × Change) := do
  if tracker.table matches .dropped then
    throw (.definition (.changeAfterDrop blueprint))
  match change with
  | .createTable t =>
    checkCreation known blueprint t
    if tracker.table matches .present _ then
      throw (.conflict (.tableExists blueprint))
    return ({ tracker with
      table := .present t, givesPolicy := tracker.givesPolicy || t.policy.isSome }, change)
  | .dropTable _ => return ({ tracker with table := .dropped }, change)
  | .addColumn c =>
    let table ← tracker.table.update (·.addColumn c)
    return ({ tracker with table }, change)
  | .alterColumn c =>
    let table ← tracker.table.update (·.alterColumn blueprint c)
    return ({ tracker with table }, change)
  | .dropColumn name =>
    let table ← tracker.table.update (·.dropColumn blueprint name)
    return ({ tracker with table }, change)
  | .addPolicy policy =>
    let table ← tracker.table.update (·.addPolicy policy)
    return ({ tracker with table, givesPolicy := true }, change)
  | .replacePolicy policy =>
    let table ← tracker.table.update (·.replacePolicy policy)
    return ({ tracker with table, givesPolicy := true }, change)
  | .dropPolicy =>
    if tracker.givesPolicy then
      throw (.definition (.dropsOwnPolicy blueprint))
    let table ← tracker.table.update (·.dropPolicy)
    return ({ tracker with table }, change)
  | .createIndex i =>
    checkIndex known blueprint i
    tracker.table.check (·.checkIndexColumns (i.columns ++ i.storing))
    let name ← orInvalid (assignName tracker.indexNames i)
    return ({ tracker with indexNames := name :: tracker.indexNames },
      .createIndex { i with name := some name })
  | .addForeignKey key =>
    orInvalid (key.validate blueprint)
    return (tracker, change)
  | .dropIndex _ | .dropForeignKey _ => return (tracker, change)

end Tracker

end SpannerDialect.Schema
