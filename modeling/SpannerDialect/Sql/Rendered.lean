import SpannerDialect.Config
import SpannerDialect.Sql.Render.Write
import SpannerDialect.Text.Scan

/-! # Rendered statements

    SQL with its bindings, its kind and the options that travel beside it.
    It is sent with named parameters in the places of its placeholders; to
    look at, it can be written with literals there. -/

namespace SpannerDialect.Sql

/-- A rendered statement. -/
structure Rendered where
  /-- SQL with a placeholder for each binding. -/
  sql : List Char
  /-- The values of the placeholders, in order. -/
  bindings : List TypedValue
  options : TransactionOptions
  kind : StatementKind

/-- A named parameter on the wire. -/
structure Parameter where
  name : String
  /-- The descriptor of the type. -/
  type : Json
  value : Json

/-- The options of a statement.  Only queries have any; what a query leaves
    open, the settings decide. -/
def Statement.options (config : Config) : Statement → TransactionOptions
  | .select s => .read (s.staleness <|> config.staleness) (s.dataBoost.getD config.dataBoost)
  | _ => .none

/-- The SQL of a statement with its bindings. -/
def Statement.fragment : Statement → Except Error Fragment
  | .select s => s.render
  | .insert i => i.render
  | .update u => u.render
  | .delete d => d.render
  | .ddl sql => .ok (.words sql)

/-- Renders a statement. -/
def Statement.render (config : Config) (s : Statement) : Except Error Rendered := do
  let f ← s.fragment
  return { sql := f.text, bindings := f.bindings, options := s.options config, kind := s.kind }

/-- Puts one text into the place of each placeholder, where their numbers
    are the same. -/
def substitute (sql : List Char) (texts : List (List Char)) : Except Error (List Char) :=
  if Text.placeholders sql = texts.length then .ok (Text.fill sql texts)
  else .error (.shape (.bindings (Text.placeholders sql) texts.length))

/-- The name of a parameter by its place, from zero. -/
def parameterName (index : Nat) : List Char :=
  'p' :: Text.digits (index + 1)

/-- A binding as a parameter. -/
def parameter (index : Nat) (v : TypedValue) : Except Error Parameter := do
  let value ← orMismatch v.wire
  return { name := String.ofList (parameterName index), type := v.type.wireType, value }

/-- Bindings as parameters, from a place on. -/
def parametersFrom : Nat → List TypedValue → Except Error (List Parameter)
  | _, [] => .ok []
  | index, v :: vs => do
    let p ← parameter index v
    let ps ← parametersFrom (index + 1) vs
    return p :: ps

namespace Rendered

/-- The texts that stand for the parameters in SQL. -/
def parameterMarks (r : Rendered) : List (List Char) :=
  (List.range r.bindings.length).map fun index => '@' :: parameterName index

/-- SQL with named parameters, and the parameters. -/
def parameterize (r : Rendered) : Except Error (List Char × List Parameter) := do
  let sql ← substitute r.sql r.parameterMarks
  let parameters ← parametersFrom 0 r.bindings
  return (sql, parameters)

/-- SQL with a literal in the place of each placeholder.  It is meant to be
    looked at and not to be sent. -/
def rawSql (r : Rendered) : Except Error (List Char) := do
  let literals ← orMismatch (r.bindings.mapM TypedValue.literal)
  substitute r.sql literals

end Rendered

end SpannerDialect.Sql
