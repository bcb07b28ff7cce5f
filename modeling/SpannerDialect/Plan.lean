import SpannerDialect.Sql.Rendered

/-! # Planning writes

    One commit may have so many mutations.  An insert tells their number
    in advance, so it is checked before it is sent; an update or a delete
    may as well be sent as partitioned DML, which knows no such limit. -/

namespace SpannerDialect

open Sql

/-- How many mutations a statement makes. -/
inductive MutationEstimate
  | known (n : Nat)
  /-- Only the backend can tell. -/
  | unknown
  /-- The statement writes no rows. -/
  | readOnly
deriving DecidableEq

/-- The estimate of a statement. -/
def Sql.Statement.mutations : Statement → MutationEstimate
  | .insert i => .known i.mutations
  | .update _ | .delete _ => .unknown
  | .select _ | .ddl _ => .readOnly

/-- How a write is sent. -/
inductive Plan
  | direct (r : Rendered)
  | partitioned (r : Rendered)

namespace Plan

/-- The rendered statement. -/
def rendered : Plan → Rendered
  | direct r | partitioned r => r

/-- Whether the write is sent as partitioned DML. -/
def isPartitioned : Plan → Bool
  | direct _ => false
  | partitioned _ => true

/-- Plans a write in one commit. -/
def ofWrite (config : Config) (s : Statement) : Except Error Plan := do
  match s.mutations with
  | .readOnly => throw (.unsupported (.notAWrite s.kind))
  | .known n => if config.budget < n then throw (.mutationLimit (some n) config.budget)
  | .unknown => pure ()
  let r ← s.render config
  return direct r

/-- Plans an update or a delete as partitioned DML. -/
def ofPartitioned (config : Config) (s : Statement) : Except Error Plan := do
  match s.kind with
  | .update | .delete =>
    let r ← s.render config
    return partitioned r
  | kind => throw (.unsupported (.notPartitionable kind))

end Plan

/-- The items in groups of the given size, the last one perhaps smaller. -/
def groupsOf {α : Type} (size : Nat) (positive : 0 < size) (items : List α) : List (List α) :=
  match items with
  | [] => []
  | a :: as => (a :: as).take size :: groupsOf size positive ((a :: as).drop size)
termination_by items.length
decreasing_by simp only [List.length_drop, List.length_cons]; omega

/-- Splits an insert into inserts that each keep to the budget, by the width
    of its first row. -/
def Sql.Insert.chunks (budget : Nat) (i : Insert) : Except Error (List Insert) :=
  let width := (i.rows.head?.getD []).length
  if w : width = 0 then .ok [i]
  else if fits : width ≤ budget then
    .ok ((groupsOf (budget / width) (Nat.div_pos fits (Nat.pos_of_ne_zero w)) i.rows).map
      fun rows => { i with rows })
  else .error (.mutationLimit (some width) budget)

end SpannerDialect
