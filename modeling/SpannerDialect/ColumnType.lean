import SpannerDialect.Json.Basic
import SpannerDialect.Text.Digits

/-! # Column types

    Nine scalar types, and arrays of them.  An array of arrays is not a
    type. -/

namespace SpannerDialect

/-- The longest text or byte string of a column. -/
inductive Length
  /-- Bounded only by the size of a cell. -/
  | max
  /-- A positive length, in characters or in bytes. -/
  | bounded (n : Nat) (positive : 0 < n)
deriving DecidableEq

namespace Length

/-- Whether so many units fit. -/
def admits : Length → Nat → Bool
  | max, _ => true
  | bounded n _, size => size ≤ n

/-- The length in DDL. -/
def ddl : Length → List Char
  | max => ['m', 'a', 'x']
  | bounded n _ => Text.digits n

end Length

/-- A type of single values. -/
inductive ScalarType
  | bool
  | int64
  | float64
  | numeric
  | string (length : Length)
  | bytes (length : Length)
  | date
  | timestamp
  | json
deriving DecidableEq

/-- A column type. -/
inductive ColumnType
  | scalar (type : ScalarType)
  | array (elem : ScalarType)
deriving DecidableEq

namespace ScalarType

/-- The type in DDL. -/
def ddl : ScalarType → List Char
  | bool => "bool".toList
  | int64 => "int64".toList
  | float64 => "float64".toList
  | numeric => "numeric".toList
  | string n => "string(".toList ++ n.ddl ++ [')']
  | bytes n => "bytes(".toList ++ n.ddl ++ [')']
  | date => "date".toList
  | timestamp => "timestamp".toList
  | json => "json".toList

/-- The code of the type on the wire. -/
def code : ScalarType → String
  | bool => "BOOL"
  | int64 => "INT64"
  | float64 => "FLOAT64"
  | numeric => "NUMERIC"
  | string _ => "STRING"
  | bytes _ => "BYTES"
  | date => "DATE"
  | timestamp => "TIMESTAMP"
  | json => "JSON"

/-- The descriptor of the type on the wire. -/
def wireType (t : ScalarType) : Json :=
  .object [("code", .string t.code)]

/-- The same type without a bound on its length. -/
def unbounded : ScalarType → ScalarType
  | string _ => string .max
  | bytes _ => bytes .max
  | t => t

end ScalarType

namespace ColumnType

/-- Whether the type is an array. -/
def isArray : ColumnType → Bool
  | scalar _ => false
  | array _ => true

/-- Whether a column of the type can drive a row deletion policy. -/
def isTemporal : ColumnType → Bool
  | scalar .date | scalar .timestamp => true
  | _ => false

/-- The type of the elements. -/
def element? : ColumnType → Option ScalarType
  | scalar _ => none
  | array t => some t

/-- The type in DDL. -/
def ddl : ColumnType → List Char
  | scalar t => t.ddl
  | array t => "array<".toList ++ t.ddl ++ ['>']

/-- The type in DDL, as a string. -/
def name (t : ColumnType) : String :=
  String.ofList t.ddl

/-- The code of the type on the wire. -/
def code : ColumnType → String
  | scalar t => t.code
  | array _ => "ARRAY"

/-- The descriptor of the type on the wire. -/
def wireType : ColumnType → Json
  | scalar t => t.wireType
  | array t => .object [("arrayElementType", t.wireType), ("code", .string "ARRAY")]

/-- The same type without a bound on its length. -/
def unbounded : ColumnType → ColumnType
  | scalar t => scalar t.unbounded
  | array t => array t.unbounded

end ColumnType

end SpannerDialect
