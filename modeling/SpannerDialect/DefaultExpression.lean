import SpannerDialect.Value.Coercion
import SpannerDialect.Value.Literal

/-! # Column defaults

    What a column holds where a row gives nothing: a value, turned toward
    the type of the column, the time of the commit, or SQL as written. -/

namespace SpannerDialect

/-- The default of a column. -/
inductive DefaultExpression
  /-- A value, written as a literal. -/
  | value (v : Value)
  /-- The time of the commit. -/
  | currentTimestamp
  /-- SQL as written. -/
  | raw (sql : String)

namespace DefaultExpression

/-- The call that gives the time of the commit. -/
def commitTime : List Char :=
  "CURRENT_TIMESTAMP()".toList

/-- Equality of defaults; values are compared as values. -/
def same : DefaultExpression → DefaultExpression → Bool
  | value v, value w => v.same w
  | currentTimestamp, currentTimestamp => true
  | raw a, raw b => a == b
  | _, _ => false

instance : BEq DefaultExpression := ⟨same⟩

/-- The expression of a default for a column type. -/
def sql (offset : Calendar.Offset) (type : ColumnType) :
    DefaultExpression → Except Mismatch (List Char)
  | value v => do
    let v ← v.coerce offset type
    let typed ← TypedValue.of type v
    typed.literal
  | currentTimestamp =>
    if type = .scalar .timestamp then .ok commitTime else .error (.notTimestampColumn type)
  | raw text => .ok text.toList

end DefaultExpression

end SpannerDialect
