import SpannerDialect.Schema.Blueprint
import SpannerDialect.Schema.Naming

/-! # Differences of schemas

    The changes that lead from one table to another, and from one set of
    indexes to another.  A table keeps its key and its parent.  Indexes
    are told apart by their names; one that differs is dropped and created
    again. -/

namespace SpannerDialect.Schema

/-- What becomes of a wanted column, seen from the table that is there. -/
def columnChange (existing : Table) (wanted : Column) : Option Change :=
  match existing.column? wanted.name with
  | none => some (.addColumn wanted)
  | some current => if current == wanted then none else some (.alterColumn wanted)

/-- What becomes of a column that is there, seen from the wanted table. -/
def columnDrop (desired : Table) (current : Column) : Option Change :=
  match desired.column? current.name with
  | none => some (.dropColumn current.name)
  | some _ => none

/-- What becomes of the policy. -/
def policyChange : Option DeletionPolicy → Option DeletionPolicy → List Change
  | none, none => []
  | none, some wanted => [.addPolicy wanted]
  | some current, some wanted => if current = wanted then [] else [.replacePolicy wanted]
  | some _, none => [.dropPolicy]

/-- The changes that lead from the table that is there, if any, to the wanted
    one. -/
def diffTables (existing? : Option Table) (desired : Table) : Except Error Blueprint :=
  match existing? with
  | none => .ok ⟨desired.name, [.createTable desired]⟩
  | some existing =>
    if existing.name ≠ desired.name then
      .error (.definition (.otherTable existing.name desired.name))
    else if existing.primaryKey ≠ desired.primaryKey then
      .error (.unsupported (.primaryKeyChange desired.name))
    else if existing.interleave ≠ desired.interleave then
      .error (.unsupported (.interleaveChange desired.name))
    else
      .ok ⟨desired.name,
        desired.columns.filterMap (columnChange existing) ++
        existing.columns.filterMap (columnDrop desired) ++
        policyChange existing.policy desired.policy⟩

/-- Indexes with their names, in the order of the names. -/
def indexesByName (indexes : List Index) : Except InvalidDefinition (List (String × Index)) := do
  let named ← assignNames [] indexes
  return named.mergeSort fun a b => decide (a.1 ≤ b.1)

/-- Whether an index of a name is the same among others. -/
def isUnchanged (others : List (String × Index)) (named : String × Index) : Bool :=
  match others.lookup named.1 with
  | some other => named.2.sameExceptName other
  | none => false

/-- The changes that lead from the indexes that are there to the wanted ones:
    all drops and then all creations, each in the order of the names. -/
def diffIndexes (existing desired : List Index) : Except InvalidDefinition (List Change) := do
  let existing ← indexesByName existing
  let desired ← indexesByName desired
  let drops := existing.filter fun named => !isUnchanged desired named
  let creations := desired.filter fun named => !isUnchanged existing named
  return drops.map (fun named => .dropIndex named.1) ++
    creations.map (fun named => .createIndex { named.2 with name := some named.1 })

end SpannerDialect.Schema
