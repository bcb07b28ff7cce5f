import SpannerDialect.Sql.Basic
import SpannerDialect.Staleness
import SpannerDialect.TypedValue

/-! # Expressions and queries

    Expressions and queries hold each other.  Binary predicates and
    operations on numbers come with their sign; what can be negated in
    place has a flag. -/

namespace SpannerDialect.Sql

mutual

/-- An expression. -/
inductive Expression
  /-- Every column. -/
  | all
  | column (ref : ColumnRef)
  /-- A parameter, sent beside the SQL. -/
  | bind (v : TypedValue)
  /-- A value as a literal. -/
  | literal (v : TypedValue)
  /-- SQL as written, with the values of its placeholders. -/
  | raw (sql : String) (bindings : List TypedValue)
  | call (function : String) (args : List Expression)
  /-- An expression in parentheses. -/
  | nested (e : Expression)
  /-- Whether a query has rows. -/
  | existsIn (query : Select) (negated : Bool)
  /-- A query as a value. -/
  | subquery (query : Select)
  | and (l r : Expression)
  | or (l r : Expression)
  | not (e : Expression)
  | compare (op : Comparison) (l r : Expression)
  | isNull (e : Expression) (negated : Bool)
  /-- Membership in a list of expressions. -/
  | inList (e : Expression) (items : List Expression) (negated : Bool)
  /-- Membership in an array. -/
  | inUnnest (e array : Expression) (negated : Bool)
  | between (e low high : Expression) (negated : Bool)
  | arithmetic (op : Arithmetic) (l r : Expression)

/-- A column of a result, with the name it goes by there. -/
structure SelectItem where
  expr : Expression
  label : Option String

/-- A further table of a query.  The condition of a cross join is not looked
    at. -/
structure Join where
  kind : JoinKind
  table : TableRef
  condition : Option Expression

/-- An expression to sort by. -/
structure SortKey where
  expr : Expression
  direction : Direction

/-- A query. -/
structure Select where
  distinct : Bool
  /-- The columns of the result; without any, all columns. -/
  columns : List SelectItem
  table : TableRef
  hint : Option IndexHint
  joins : List Join
  filter : Option Expression
  groupBy : List Expression
  having : Option Expression
  orderBy : List SortKey
  limit : Option Nat
  offset : Option Nat
  /-- Not written: the backend has no row locks. -/
  lock : Option LockMode
  /-- Told beside the SQL; without one, that of the settings. -/
  staleness : Option StalenessBound
  /-- Told beside the SQL; without one, that of the settings. -/
  dataBoost : Option Bool

end

namespace Expression

/-- A column by its name. -/
def columnNamed (name : String) : Expression :=
  column ⟨none, name⟩

/-- A column of a table. -/
def qualified (table name : String) : Expression :=
  column ⟨some table, name⟩

/-- A parameter under its natural type. -/
def bindValue (v : Value) : Except Mismatch Expression :=
  (TypedValue.infer v).map bind

/-- A literal under its natural type. -/
def literalValue (v : Value) : Except Mismatch Expression :=
  (TypedValue.infer v).map literal

/-- All of some conditions; without any there is none. -/
def allOf? : List Expression → Option Expression
  | [] => none
  | e :: es => some (es.foldl and e)

/-- A condition beside one that may be there already. -/
def andAlso (filter : Option Expression) (e : Expression) : Option Expression :=
  match filter with
  | some f => some (and f e)
  | none => some e

end Expression

namespace Select

/-- Every row and column of a table. -/
def ofTable (table : TableRef) : Select :=
  { distinct := false, columns := [], table, hint := none, joins := [], filter := none
    groupBy := [], having := none, orderBy := [], limit := none, offset := none
    lock := none, staleness := none, dataBoost := none }

/-- One more column of the result. -/
def column (s : Select) (expr : Expression) (label : Option String) : Select :=
  { s with columns := s.columns ++ [⟨expr, label⟩] }

/-- One more table. -/
def join (s : Select) (kind : JoinKind) (table : TableRef) (condition : Option Expression) :
    Select :=
  { s with joins := s.joins ++ [⟨kind, table, condition⟩] }

/-- One more condition. -/
def where_ (s : Select) (e : Expression) : Select :=
  { s with filter := Expression.andAlso s.filter e }

/-- One more expression to group by. -/
def group (s : Select) (e : Expression) : Select :=
  { s with groupBy := s.groupBy ++ [e] }

/-- One more expression to sort by. -/
def sort (s : Select) (e : Expression) (direction : Direction) : Select :=
  { s with orderBy := s.orderBy ++ [⟨e, direction⟩] }

end Select

end SpannerDialect.Sql
