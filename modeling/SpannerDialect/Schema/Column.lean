import SpannerDialect.DefaultExpression
import SpannerDialect.Error

/-! # Columns of tables

    A column has a name and a type; it may allow NULL and may have a
    default.  The usual kinds of columns come with the type that the
    backend has for them. -/

namespace SpannerDialect.Schema

/-- A column of a table. -/
structure Column where
  name : String
  type : ColumnType
  nullable : Bool
  default : Option DefaultExpression

/-- The usual kinds of columns. -/
inductive ColumnKind
  | uuid | string | char | text | mediumText | longText
  | integer | bigInteger | float | double | decimal | boolean
  | date | dateTime | timestamp | binary | json
  | integerArray | booleanArray | floatArray | decimalArray | stringArray | dateArray
  | timestampArray
deriving DecidableEq

/-- The length of text and byte strings that do not say. -/
def usualLength : Length := .bounded 255 (by decide)

/-- The length of a UUID with its hyphens. -/
def uuidLength : Length := .bounded 36 (by decide)

/-- The type of a kind of column. -/
def ColumnKind.type : ColumnKind → ColumnType
  | uuid => .scalar (.string uuidLength)
  | string | char => .scalar (.string usualLength)
  | text | mediumText | longText => .scalar (.string .max)
  | integer | bigInteger => .scalar .int64
  | float | double => .scalar .float64
  | decimal => .scalar .numeric
  | boolean => .scalar .bool
  | date => .scalar .date
  | dateTime | timestamp => .scalar .timestamp
  | binary => .scalar (.bytes usualLength)
  | json => .scalar .json
  | integerArray => .array .int64
  | booleanArray => .array .bool
  | floatArray => .array .float64
  | decimalArray => .array .numeric
  | stringArray => .array (.string usualLength)
  | dateArray => .array .date
  | timestampArray => .array .timestamp

namespace Column

/-- A column that does not allow NULL. -/
def ofType (name : String) (type : ColumnType) : Column :=
  ⟨name, type, false, none⟩

/-- A column of one of the usual kinds. -/
def ofKind (name : String) (kind : ColumnKind) : Column :=
  ofType name kind.type

/-- A column of text of some length. -/
def ofStringLength (name : String) (length : Nat) : Except Mismatch Column := do
  let length ← Length.ofNat length
  return ofType name (.scalar (.string length))

/-- Equality of columns; defaults are compared as values. -/
def same (a b : Column) : Bool :=
  a.name == b.name && a.type == b.type && a.nullable == b.nullable && a.default == b.default

instance : BEq Column := ⟨same⟩

/-- The clause of a default.  A default of NULL is none. -/
def defaultClause (offset : Calendar.Offset) (type : ColumnType) :
    Option DefaultExpression → Except Mismatch (List Char)
  | none | some (.value .null) => .ok []
  | some d => do
    let sql ← d.sql offset type
    return " default (".toList ++ sql ++ [')']

/-- The column in DDL. -/
def ddl (offset : Calendar.Offset) (c : Column) : Except Mismatch (List Char) := do
  let default ← defaultClause offset c.type c.default
  return Text.quoteName c.name ++ ' ' :: c.type.ddl ++
    (if c.nullable then [] else " not null".toList) ++ default

end Column

end SpannerDialect.Schema
