import SpannerDialect.Proofs.Lookup
import SpannerDialect.Sql.Rendered

/-! # Statements without read modifiers

    A lock, a bound on staleness and data boost modify how a query is run and not
    what it asks for.  Here they are taken off a statement, from the query itself and
    from every query inside, and nothing else changes.  What is left has the same SQL
    and the same bindings, or fails alike (`Statement.fragment_unmodified`). -/

namespace SpannerDialect.Sql

open Fragment

/-! ## Statements without modifiers -/

mutual

/-- An expression whose queries have no modifiers. -/
def Expression.unmodified : Expression → Expression
  | .all => .all
  | .column c => .column c
  | .bind v => .bind v
  | .literal v => .literal v
  | .raw sql bindings => .raw sql bindings
  | .call function args => .call function (Expression.unmodifiedAll args)
  | .nested e => .nested e.unmodified
  | .existsIn query negated => .existsIn query.unmodified negated
  | .subquery query => .subquery query.unmodified
  | .and l r => .and l.unmodified r.unmodified
  | .or l r => .or l.unmodified r.unmodified
  | .not e => .not e.unmodified
  | .compare op l r => .compare op l.unmodified r.unmodified
  | .isNull e negated => .isNull e.unmodified negated
  | .inList e items negated => .inList e.unmodified (Expression.unmodifiedAll items) negated
  | .inUnnest e array negated => .inUnnest e.unmodified array.unmodified negated
  | .between e low high negated =>
    .between e.unmodified low.unmodified high.unmodified negated
  | .arithmetic op l r => .arithmetic op l.unmodified r.unmodified

/-- Expressions whose queries have no modifiers. -/
def Expression.unmodifiedAll : List Expression → List Expression
  | [] => []
  | e :: es => e.unmodified :: Expression.unmodifiedAll es

/-- An expression, if there is one, whose queries have no modifiers. -/
def Expression.unmodifiedOption : Option Expression → Option Expression
  | none => none
  | some e => some e.unmodified

/-- A column of a result whose queries have no modifiers. -/
def SelectItem.unmodified : SelectItem → SelectItem
  | ⟨e, label⟩ => ⟨e.unmodified, label⟩

/-- Columns of a result whose queries have no modifiers. -/
def SelectItem.unmodifiedAll : List SelectItem → List SelectItem
  | [] => []
  | item :: items => item.unmodified :: SelectItem.unmodifiedAll items

/-- A join whose queries have no modifiers. -/
def Join.unmodified : Join → Join
  | ⟨kind, table, condition⟩ => ⟨kind, table, Expression.unmodifiedOption condition⟩

/-- Joins whose queries have no modifiers. -/
def Join.unmodifiedAll : List Join → List Join
  | [] => []
  | join :: joins => join.unmodified :: Join.unmodifiedAll joins

/-- A sort key whose queries have no modifiers. -/
def SortKey.unmodified : SortKey → SortKey
  | ⟨e, direction⟩ => ⟨e.unmodified, direction⟩

/-- Sort keys whose queries have no modifiers. -/
def SortKey.unmodifiedAll : List SortKey → List SortKey
  | [] => []
  | key :: keys => key.unmodified :: SortKey.unmodifiedAll keys

/-- A query that has no modifiers, nor have the queries inside. -/
def Select.unmodified : Select → Select
  | ⟨distinct, columns, table, hint, joins, filter, groupBy, having, orderBy, limit, offset,
      _, _, _⟩ =>
    { distinct, columns := SelectItem.unmodifiedAll columns, table, hint
      joins := Join.unmodifiedAll joins, filter := Expression.unmodifiedOption filter
      groupBy := Expression.unmodifiedAll groupBy, having := Expression.unmodifiedOption having
      orderBy := SortKey.unmodifiedAll orderBy, limit, offset
      lock := none, staleness := none, dataBoost := none }

end

/-- An assignment whose queries have no modifiers. -/
def unmodifiedAssignment (a : Assignment) : Assignment :=
  (a.1, a.2.unmodified)

/-- An insert whose queries have no modifiers. -/
def Insert.unmodified (i : Insert) : Insert :=
  { i with rows := i.rows.map fun row => row.map unmodifiedAssignment }

/-- An update whose queries have no modifiers. -/
def Update.unmodified (u : Update) : Update :=
  { u with
    assignments := u.assignments.map unmodifiedAssignment
    filter := Expression.unmodifiedOption u.filter }

/-- A delete whose queries have no modifiers. -/
def Delete.unmodified (d : Delete) : Delete :=
  { d with filter := Expression.unmodifiedOption d.filter }

/-- A statement whose queries have no modifiers. -/
def Statement.unmodified : Statement → Statement
  | .select s => .select s.unmodified
  | .insert i => .insert i.unmodified
  | .update u => .update u.unmodified
  | .delete d => .delete d.unmodified
  | .ddl sql => .ddl sql

theorem Statement.kind_unmodified (s : Statement) : s.unmodified.kind = s.kind := by
  cases s <;> rfl

/-! ## Expressions and queries -/

/-- Modifiers of a query inside bind nothing tighter or looser. -/
theorem operand_unmodified (asked : Nat) (e : Expression) (f : Fragment) :
    operand asked e.unmodified f = operand asked e f := by
  cases e <;> rfl

theorem Expression.isNone_unmodifiedOption (e : Option Expression) :
    (Expression.unmodifiedOption e).isNone = e.isNone := by
  cases e <;> rfl

mutual

/-- An expression is rendered as without the modifiers of its queries. -/
theorem Expression.render_unmodified : ∀ e : Expression, e.unmodified.render = e.render
  | .all | .column _ | .bind _ | .literal _ | .raw _ _ => rfl
  | .call function args => by
      simp only [Expression.unmodified, Expression.render, Expression.renderAll_unmodified args]
  | .nested e => by
      simp only [Expression.unmodified, Expression.render, Expression.render_unmodified e]
  | .existsIn query negated => by
      simp only [Expression.unmodified, Expression.render, Select.render_unmodified query]
  | .subquery query => by
      simp only [Expression.unmodified, Expression.render, Select.render_unmodified query]
  | .and l r => by
      simp only [Expression.unmodified, Expression.render, operand_unmodified,
        Expression.render_unmodified l, Expression.render_unmodified r]
  | .or l r => by
      simp only [Expression.unmodified, Expression.render, operand_unmodified,
        Expression.render_unmodified l, Expression.render_unmodified r]
  | .not e => by
      simp only [Expression.unmodified, Expression.render, Expression.render_unmodified e]
  | .compare op l r => by
      simp only [Expression.unmodified, Expression.render, operand_unmodified,
        Expression.render_unmodified l, Expression.render_unmodified r]
  | .isNull e negated => by
      simp only [Expression.unmodified, Expression.render, operand_unmodified,
        Expression.render_unmodified e]
  | .inList _ [] _ => rfl
  | .inList e (item :: items) negated => by
      simp only [Expression.unmodified, Expression.unmodifiedAll, Expression.render,
        operand_unmodified, Expression.render_unmodified e, Expression.render_unmodified item,
        Expression.renderAll_unmodified items]
  | .inUnnest e array negated => by
      simp only [Expression.unmodified, Expression.render, operand_unmodified,
        Expression.render_unmodified e, Expression.render_unmodified array]
  | .between e low high negated => by
      simp only [Expression.unmodified, Expression.render, operand_unmodified,
        Expression.render_unmodified e, Expression.render_unmodified low,
        Expression.render_unmodified high]
  | .arithmetic op l r => by
      simp only [Expression.unmodified, Expression.render, operand_unmodified,
        Expression.render_unmodified l, Expression.render_unmodified r]

theorem Expression.renderAll_unmodified :
    ∀ es : List Expression,
      Expression.renderAll (Expression.unmodifiedAll es) = Expression.renderAll es
  | [] => rfl
  | e :: es => by
      simp only [Expression.unmodifiedAll, Expression.renderAll, Expression.render_unmodified e,
        Expression.renderAll_unmodified es]

theorem Expression.renderClause_unmodified (start : String) :
    ∀ e : Option Expression,
      Expression.renderClause start (Expression.unmodifiedOption e) =
        Expression.renderClause start e
  | none => rfl
  | some e => by
      simp only [Expression.unmodifiedOption, Expression.renderClause,
        Expression.render_unmodified e]

theorem SelectItem.render_unmodified : ∀ item : SelectItem, item.unmodified.render = item.render
  | ⟨e, label⟩ => by
      simp only [SelectItem.unmodified, SelectItem.render, Expression.render_unmodified e]

theorem SelectItem.renderAll_unmodified :
    ∀ items : List SelectItem,
      SelectItem.renderAll (SelectItem.unmodifiedAll items) = SelectItem.renderAll items
  | [] => rfl
  | item :: items => by
      simp only [SelectItem.unmodifiedAll, SelectItem.renderAll,
        SelectItem.render_unmodified item, SelectItem.renderAll_unmodified items]

theorem Join.render_unmodified : ∀ join : Join, join.unmodified.render = join.render
  | ⟨kind, table, condition⟩ => by
      simp only [Join.unmodified, Join.render, Expression.isNone_unmodifiedOption,
        Expression.renderClause_unmodified " on " condition]

theorem Join.renderAll_unmodified :
    ∀ joins : List Join, Join.renderAll (Join.unmodifiedAll joins) = Join.renderAll joins
  | [] => rfl
  | join :: joins => by
      simp only [Join.unmodifiedAll, Join.renderAll, Join.render_unmodified join,
        Join.renderAll_unmodified joins]

theorem SortKey.render_unmodified : ∀ key : SortKey, key.unmodified.render = key.render
  | ⟨e, direction⟩ => by
      simp only [SortKey.unmodified, SortKey.render, Expression.render_unmodified e]

theorem SortKey.renderAll_unmodified :
    ∀ keys : List SortKey,
      SortKey.renderAll (SortKey.unmodifiedAll keys) = SortKey.renderAll keys
  | [] => rfl
  | key :: keys => by
      simp only [SortKey.unmodifiedAll, SortKey.renderAll, SortKey.render_unmodified key,
        SortKey.renderAll_unmodified keys]

/-- **A query is rendered as without modifiers**, its own and those of the queries
    inside. -/
theorem Select.render_unmodified : ∀ s : Select, s.unmodified.render = s.render
  | ⟨distinct, columns, table, hint, joins, filter, groupBy, having, orderBy, limit, offset,
      _, _, _⟩ => by
      simp only [Select.unmodified, Select.render, SelectItem.renderAll_unmodified columns,
        Join.renderAll_unmodified joins, Expression.renderClause_unmodified _ filter,
        Expression.renderAll_unmodified groupBy, Expression.renderClause_unmodified _ having,
        SortKey.renderAll_unmodified orderBy]

end

/-! ## Writes -/

theorem columnNames_unmodified (row : List Assignment) :
    columnNames (row.map unmodifiedAssignment) = columnNames row :=
  map_fst_map_snd Expression.unmodified

theorem renderCell_unmodified (row : List Assignment) (column : String) :
    renderCell (row.map unmodifiedAssignment) column = renderCell row column := by
  have hlookup : (row.map unmodifiedAssignment).lookup column =
      (row.lookup column).map Expression.unmodified := lookup_map_snd Expression.unmodified
  rw [renderCell, renderCell, hlookup]
  cases row.lookup column with
  | none => rfl
  | some e => exact Expression.render_unmodified e

theorem renderRow_unmodified (table : String) (columns : List String) (index : Nat)
    (row : List Assignment) :
    renderRow table columns index (row.map unmodifiedAssignment) =
      renderRow table columns index row := by
  have hcells : renderCell (row.map unmodifiedAssignment) = renderCell row :=
    funext (renderCell_unmodified row)
  rw [renderRow, renderRow, columnNames_unmodified, hcells]

theorem renderRows_unmodified (table : String) (columns : List String) (index : Nat)
    (rows : List (List Assignment)) :
    renderRows table columns index (rows.map fun row => row.map unmodifiedAssignment) =
      renderRows table columns index rows := by
  induction rows generalizing index with
  | nil => rfl
  | cons row rows ih =>
      rw [List.map_cons, renderRows, renderRows, renderRow_unmodified, ih]

/-- An insert is rendered as without the modifiers of its queries. -/
theorem Insert.render_unmodified (i : Insert) : i.unmodified.render = i.render := by
  obtain ⟨table, mode, rows, returningId⟩ := i
  cases rows with
  | nil => rfl
  | cons first rows =>
      have hrows := renderRows_unmodified table (columnNames first) 0 (first :: rows)
      simp only [List.map_cons] at hrows
      simp only [Insert.unmodified, Insert.render, List.map_cons, List.isEmpty_map,
        columnNames_unmodified, hrows]

theorem renderAssignment_unmodified (a : Assignment) :
    renderAssignment (unmodifiedAssignment a) = renderAssignment a := by
  simp only [renderAssignment, unmodifiedAssignment, Expression.render_unmodified]

theorem requiredFilter_unmodified (e : Option Expression) :
    requiredFilter (Expression.unmodifiedOption e) = requiredFilter e := by
  cases e with
  | none => rfl
  | some e =>
      simp only [Expression.unmodifiedOption, requiredFilter, Expression.render_unmodified]

/-- An update is rendered as without the modifiers of its queries. -/
theorem Update.render_unmodified (u : Update) : u.unmodified.render = u.render := by
  simp only [Update.unmodified, Update.render, List.isEmpty_map, columnNames_unmodified,
    List.mapM_map, Function.comp_def, renderAssignment_unmodified, requiredFilter_unmodified]

/-- A delete is rendered as without the modifiers of its queries. -/
theorem Delete.render_unmodified (d : Delete) : d.unmodified.render = d.render := by
  simp only [Delete.unmodified, Delete.render, requiredFilter_unmodified]

/-- **The SQL of a statement and its bindings are those without modifiers**, and so is
    the failure of one that has none. -/
theorem Statement.fragment_unmodified (s : Statement) : s.unmodified.fragment = s.fragment := by
  cases s with
  | select s => exact Select.render_unmodified s
  | insert i => exact Insert.render_unmodified i
  | update u => exact Update.render_unmodified u
  | delete d => exact Delete.render_unmodified d
  | ddl sql => rfl

end SpannerDialect.Sql
