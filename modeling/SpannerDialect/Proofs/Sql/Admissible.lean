import SpannerDialect.Sql.Statement
import SpannerDialect.Text.Scan

/-! # Admissible statements

    Names are written between back-quotes and function names and raw SQL as
    they are, so a few of them can upset the text around them.  A statement
    is admissible when none of its parts does, at any depth: no name holds
    a backslash, no function name a quote or a placeholder, and raw SQL is
    as asked.  What is asked of raw SQL differs, and is a parameter. -/

namespace SpannerDialect.Sql

/-- A name that stays whole between back-quotes. -/
def PlainName (name : String) : Prop :=
  '\\' ∉ name.toList

/-- A label, if there is one. -/
def PlainLabel (label : Option String) : Prop :=
  ∀ name ∈ label, PlainName name

/-- A function name without quotes and placeholders. -/
def PlainFunction (name : String) : Prop :=
  ∀ c ∈ name.toList, Text.isQuote c = false ∧ c ≠ '?'

instance (name : String) : Decidable (PlainName name) :=
  inferInstanceAs (Decidable ('\\' ∉ name.toList))

instance : (label : Option String) → Decidable (PlainLabel label)
  | none => .isTrue fun _ h => absurd h (by simp)
  | some name => decidable_of_iff (PlainName name)
      ⟨fun h _ hn => Option.some.inj hn ▸ h, fun h => h name rfl⟩

instance (name : String) : Decidable (PlainFunction name) :=
  List.decidableBAll _ name.toList

/-- A column whose names stay whole. -/
def ColumnRef.Admissible (c : ColumnRef) : Prop :=
  PlainLabel c.table ∧ PlainName c.name

/-- A table whose names stay whole. -/
def TableRef.Admissible (t : TableRef) : Prop :=
  PlainName t.name ∧ PlainLabel t.label

mutual

/-- An expression whose parts are admissible, with what is asked of raw
    SQL. -/
def Expression.Admissible (raw : String → List TypedValue → Prop) : Expression → Prop
  | .all => True
  | .column c => c.Admissible
  | .bind _ => True
  | .literal _ => True
  | .raw sql bindings => raw sql bindings
  | .call function args => PlainFunction function ∧ Expression.AllAdmissible raw args
  | .nested e => e.Admissible raw
  | .existsIn query _ => query.Admissible raw
  | .subquery query => query.Admissible raw
  | .and l r => l.Admissible raw ∧ r.Admissible raw
  | .or l r => l.Admissible raw ∧ r.Admissible raw
  | .not e => e.Admissible raw
  | .compare _ l r => l.Admissible raw ∧ r.Admissible raw
  | .isNull e _ => e.Admissible raw
  | .inList e items _ => e.Admissible raw ∧ Expression.AllAdmissible raw items
  | .inUnnest e array _ => e.Admissible raw ∧ array.Admissible raw
  | .between e low high _ => e.Admissible raw ∧ low.Admissible raw ∧ high.Admissible raw
  | .arithmetic _ l r => l.Admissible raw ∧ r.Admissible raw

/-- Admissible expressions. -/
def Expression.AllAdmissible (raw : String → List TypedValue → Prop) : List Expression → Prop
  | [] => True
  | e :: es => e.Admissible raw ∧ Expression.AllAdmissible raw es

/-- An admissible expression, if there is one. -/
def Expression.OptionAdmissible (raw : String → List TypedValue → Prop) :
    Option Expression → Prop
  | none => True
  | some e => e.Admissible raw

/-- An admissible column of a result. -/
def SelectItem.Admissible (raw : String → List TypedValue → Prop) : SelectItem → Prop
  | ⟨e, label⟩ => e.Admissible raw ∧ PlainLabel label

/-- Admissible columns of a result. -/
def SelectItem.AllAdmissible (raw : String → List TypedValue → Prop) : List SelectItem → Prop
  | [] => True
  | item :: items => item.Admissible raw ∧ SelectItem.AllAdmissible raw items

/-- An admissible join. -/
def Join.Admissible (raw : String → List TypedValue → Prop) : Join → Prop
  | ⟨_, table, condition⟩ => table.Admissible ∧ Expression.OptionAdmissible raw condition

/-- Admissible joins. -/
def Join.AllAdmissible (raw : String → List TypedValue → Prop) : List Join → Prop
  | [] => True
  | join :: joins => join.Admissible raw ∧ Join.AllAdmissible raw joins

/-- An admissible sort key. -/
def SortKey.Admissible (raw : String → List TypedValue → Prop) : SortKey → Prop
  | ⟨e, _⟩ => e.Admissible raw

/-- Admissible sort keys. -/
def SortKey.AllAdmissible (raw : String → List TypedValue → Prop) : List SortKey → Prop
  | [] => True
  | key :: keys => key.Admissible raw ∧ SortKey.AllAdmissible raw keys

/-- A query whose parts are admissible.  The name in a hint is checked when
    the query is rendered. -/
def Select.Admissible (raw : String → List TypedValue → Prop) : Select → Prop
  | ⟨_, columns, table, _, joins, filter, groupBy, having, orderBy, _, _, _, _, _⟩ =>
    SelectItem.AllAdmissible raw columns ∧ table.Admissible ∧ Join.AllAdmissible raw joins ∧
      Expression.OptionAdmissible raw filter ∧ Expression.AllAdmissible raw groupBy ∧
      Expression.OptionAdmissible raw having ∧ SortKey.AllAdmissible raw orderBy

end

/-! ## Statements -/

/-- Assignments of admissible expressions to columns whose names stay whole. -/
def AssignmentsAdmissible (raw : String → List TypedValue → Prop) (row : List Assignment) :
    Prop :=
  ∀ a ∈ row, PlainName a.1 ∧ a.2.Admissible raw

/-- An insert whose parts are admissible. -/
def Insert.Admissible (raw : String → List TypedValue → Prop) (i : Insert) : Prop :=
  PlainName i.table ∧ ∀ row ∈ i.rows, AssignmentsAdmissible raw row

/-- An update whose parts are admissible. -/
def Update.Admissible (raw : String → List TypedValue → Prop) (u : Update) : Prop :=
  PlainName u.table ∧ AssignmentsAdmissible raw u.assignments ∧
    Expression.OptionAdmissible raw u.filter

/-- A delete whose parts are admissible. -/
def Delete.Admissible (raw : String → List TypedValue → Prop) (d : Delete) : Prop :=
  PlainName d.table ∧ Expression.OptionAdmissible raw d.filter

/-- A statement whose parts are admissible.  Of DDL, which is passed on as
    written, nothing is asked here. -/
def Statement.Admissible (raw : String → List TypedValue → Prop) : Statement → Prop
  | .select s => s.Admissible raw
  | .insert i => i.Admissible raw
  | .update u => u.Admissible raw
  | .delete d => d.Admissible raw
  | .ddl _ => True

end SpannerDialect.Sql
