import SpannerDialect.Proofs.Lookup
import SpannerDialect.Sql.Render.Query
import SpannerDialect.Sql.Statement

/-! # Parameters as literals

    The same statement with a literal in the place of each parameter, at
    every depth.  Nothing else changes, and no expression binds tighter or
    looser than before. -/

namespace SpannerDialect.Sql

mutual

/-- An expression with literals for its parameters. -/
def Expression.inlined : Expression → Expression
  | .all => .all
  | .column c => .column c
  | .bind v => .literal v
  | .literal v => .literal v
  | .raw sql bindings => .raw sql bindings
  | .call function args => .call function (Expression.inlinedAll args)
  | .nested e => .nested e.inlined
  | .existsIn query negated => .existsIn query.inlined negated
  | .subquery query => .subquery query.inlined
  | .and l r => .and l.inlined r.inlined
  | .or l r => .or l.inlined r.inlined
  | .not e => .not e.inlined
  | .compare op l r => .compare op l.inlined r.inlined
  | .isNull e negated => .isNull e.inlined negated
  | .inList e items negated => .inList e.inlined (Expression.inlinedAll items) negated
  | .inUnnest e array negated => .inUnnest e.inlined array.inlined negated
  | .between e low high negated => .between e.inlined low.inlined high.inlined negated
  | .arithmetic op l r => .arithmetic op l.inlined r.inlined

/-- Expressions with literals for their parameters. -/
def Expression.inlinedAll : List Expression → List Expression
  | [] => []
  | e :: es => e.inlined :: Expression.inlinedAll es

/-- An expression, if there is one, with literals for its parameters. -/
def Expression.inlinedOption : Option Expression → Option Expression
  | none => none
  | some e => some e.inlined

/-- A column of a result with literals for its parameters. -/
def SelectItem.inlined : SelectItem → SelectItem
  | ⟨e, label⟩ => ⟨e.inlined, label⟩

/-- Columns of a result with literals for their parameters. -/
def SelectItem.inlinedAll : List SelectItem → List SelectItem
  | [] => []
  | item :: items => item.inlined :: SelectItem.inlinedAll items

/-- A join with literals for its parameters. -/
def Join.inlined : Join → Join
  | ⟨kind, table, condition⟩ => ⟨kind, table, Expression.inlinedOption condition⟩

/-- Joins with literals for their parameters. -/
def Join.inlinedAll : List Join → List Join
  | [] => []
  | join :: joins => join.inlined :: Join.inlinedAll joins

/-- A sort key with literals for its parameters. -/
def SortKey.inlined : SortKey → SortKey
  | ⟨e, direction⟩ => ⟨e.inlined, direction⟩

/-- Sort keys with literals for their parameters. -/
def SortKey.inlinedAll : List SortKey → List SortKey
  | [] => []
  | key :: keys => key.inlined :: SortKey.inlinedAll keys

/-- A query with literals for its parameters. -/
def Select.inlined : Select → Select
  | ⟨distinct, columns, table, hint, joins, filter, groupBy, having, orderBy, limit, offset,
      lock, staleness, dataBoost⟩ =>
    { distinct, columns := SelectItem.inlinedAll columns, table, hint
      joins := Join.inlinedAll joins, filter := Expression.inlinedOption filter
      groupBy := Expression.inlinedAll groupBy, having := Expression.inlinedOption having
      orderBy := SortKey.inlinedAll orderBy, limit, offset, lock, staleness, dataBoost }

end

/-- An assignment with literals for its parameters. -/
def inlinedAssignment (a : Assignment) : Assignment :=
  (a.1, a.2.inlined)

/-- An insert with literals for its parameters. -/
def Insert.inlined (i : Insert) : Insert :=
  { i with rows := i.rows.map fun row => row.map inlinedAssignment }

/-- An update with literals for its parameters. -/
def Update.inlined (u : Update) : Update :=
  { u with
    assignments := u.assignments.map inlinedAssignment
    filter := Expression.inlinedOption u.filter }

/-- A delete with literals for its parameters. -/
def Delete.inlined (d : Delete) : Delete :=
  { d with filter := Expression.inlinedOption d.filter }

/-- A statement with literals for its parameters. -/
def Statement.inlined : Statement → Statement
  | .select s => .select s.inlined
  | .insert i => .insert i.inlined
  | .update u => .update u.inlined
  | .delete d => .delete d.inlined
  | .ddl sql => .ddl sql

/-! ## What stays -/

@[simp] theorem Expression.strength_inlined (e : Expression) :
    e.inlined.strength = e.strength := by
  cases e <;> rfl

theorem Expression.isNone_inlinedOption (e : Option Expression) :
    (Expression.inlinedOption e).isNone = e.isNone := by
  cases e <;> rfl

theorem lookup_inlined (row : List Assignment) (column : String) :
    (row.map inlinedAssignment).lookup column = (row.lookup column).map Expression.inlined :=
  lookup_map_snd Expression.inlined

end SpannerDialect.Sql
