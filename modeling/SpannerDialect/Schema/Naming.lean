import SpannerDialect.Schema.Index
import SpannerDialect.Text.Lowercase

/-! # Derived names

    An index or a constraint without a name gets one from its table and
    its columns.  Within one run no two indexes get the same name: a taken
    name gives way to one with the stored columns, and that to one with a
    number. -/

namespace SpannerDialect.Schema

/-- Table, columns and ending with `_` between them, in lower case, with `_`
    for hyphens and points. -/
def deriveName (table : String) (columns : List String) (ending : String) : String :=
  let joined := Text.join ['_'] ((table :: columns ++ [ending]).map String.toList)
  String.ofList ((Text.lowercase joined).map fun c => if c = '-' ∨ c = '.' then '_' else c)

namespace Index

/-- The ending of a derived name. -/
def ending (i : Index) : String :=
  if i.unique then "unique" else "index"

/-- The name of an index for which no other competes. -/
def defaultName (i : Index) : String :=
  i.name.getD (deriveName i.table i.columns i.ending)

/-- The derived name with the stored columns in it. -/
def storingName (i : Index) : String :=
  deriveName i.table (i.columns ++ "storing" :: i.storing) i.ending

end Index

/-- The name of a constraint. -/
def ForeignKey.defaultName (table : String) (k : ForeignKey) : String :=
  k.name.getD (deriveName table k.columns "foreign")

/-- A name with a number at its end. -/
def numbered (name : String) (n : Nat) : String :=
  String.ofList (name.toList ++ '_' :: Text.digits n)

/-- The first numbered name, from `n` on, that is not taken.  A taken one is
    struck off, so the search ends. -/
def firstFree (taken : List String) (name : String) (n : Nat) : String :=
  if h : numbered name n ∈ taken then
    firstFree (taken.erase (numbered name n)) name (n + 1)
  else
    numbered name n
termination_by taken.length
decreasing_by
  rw [List.length_erase_of_mem h]
  exact Nat.sub_lt (List.length_pos_of_mem h) Nat.one_pos

/-- The name of an index that has none of its own, when some are taken. -/
def freeName (taken : List String) (i : Index) : String :=
  let base := i.defaultName
  let candidate := if i.storing.isEmpty then base else i.storingName
  if base ∉ taken then base
  else if candidate ∉ taken then candidate
  else firstFree taken candidate 2

/-- The name of an index, when some are taken.  A name of its own must not be
    among those. -/
def assignName (taken : List String) (i : Index) : Except InvalidDefinition String :=
  match i.name with
  | some name => if name ∈ taken then .error (.indexNameTwice name) else .ok name
  | none => .ok (freeName taken i)

/-- A request for the name of an index, when some are taken: what comes of it,
    and the names that are taken behind it. -/
def requestName (taken : List String) (i : Index) :
    Except InvalidDefinition String × List String :=
  match assignName taken i with
  | .ok name => (.ok name, name :: taken)
  | .error e => (.error e, taken)

/-- Requests one after the other, going on behind those that fail: what comes of
    each, and the names that are taken in the end. -/
def requestNames (taken : List String) :
    List Index → List (Except InvalidDefinition String) × List String
  | [] => ([], taken)
  | i :: is =>
    let (outcome, taken) := requestName taken i
    let (outcomes, taken) := requestNames taken is
    (outcome :: outcomes, taken)

/-- The names of some indexes, one after the other. -/
def assignNames (taken : List String) :
    List Index → Except InvalidDefinition (List (String × Index))
  | [] => .ok []
  | i :: is => do
    let name ← assignName taken i
    let rest ← assignNames (name :: taken) is
    return (name, i) :: rest

end SpannerDialect.Schema
