import SpannerDialect.Value.Check

/-! # Typed values

    A value with the column type it is declared as.  The type accepts the
    value, so it can be sent and written without further checks. -/

namespace SpannerDialect

/-- A value that its column type accepts. -/
structure TypedValue where
  type : ColumnType
  value : Value
  fits : value.check type = .ok ()

namespace TypedValue

/-- Pairs a value with a type that accepts it. -/
def of (type : ColumnType) (value : Value) : Except Mismatch TypedValue :=
  match h : value.check type with
  | .ok () => .ok ⟨type, value, h⟩
  | .error e => .error e

/-- NULL of a type. -/
def null (type : ColumnType) : TypedValue :=
  ⟨type, .null, by cases type <;> rfl⟩

/-- Pairs a value with its natural type. -/
def infer (value : Value) : Except Mismatch TypedValue :=
  value.inferType.bind fun type => of type value

/-- Whether the value is NULL. -/
def isNull (v : TypedValue) : Bool :=
  v.value.isNull

end TypedValue

end SpannerDialect
