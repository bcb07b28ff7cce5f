import SpannerDialect.Calendar.Relaxed
import SpannerDialect.DefaultExpression
import SpannerDialect.Form.Basic
import SpannerDialect.Value.Wire

/-! # Types and values in JSON

    Floating point numbers and documents stand as text.  A typed value is
    read only if its type accepts the value. -/

namespace SpannerDialect.Form

/-- A length. -/
def length? (j : Json) : Option Length := do
  let (name, content) ← variant? j
  match name with
  | "Max" => unit? .max content
  | "Bounded" =>
    let n ← word32? content
    if h : 0 < n then some (.bounded n h) else none
  | _ => none

/-- A length in JSON. -/
def ofLength : Length → Json
  | .max => .string "Max"
  | .bounded n _ => ofVariant "Bounded" (ofInt n)

/-- A scalar type. -/
def scalarType? (j : Json) : Option ScalarType := do
  let (name, content) ← variant? j
  match name with
  | "Bool" => unit? .bool content
  | "Int64" => unit? .int64 content
  | "Float64" => unit? .float64 content
  | "Numeric" => unit? .numeric content
  | "String" => (length? content).map .string
  | "Bytes" => (length? content).map .bytes
  | "Date" => unit? .date content
  | "Timestamp" => unit? .timestamp content
  | "Json" => unit? .json content
  | _ => none

/-- A scalar type in JSON. -/
def ofScalarType : ScalarType → Json
  | .bool => .string "Bool"
  | .int64 => .string "Int64"
  | .float64 => .string "Float64"
  | .numeric => .string "Numeric"
  | .string n => ofVariant "String" (ofLength n)
  | .bytes n => ofVariant "Bytes" (ofLength n)
  | .date => .string "Date"
  | .timestamp => .string "Timestamp"
  | .json => .string "Json"

/-- A column type. -/
def columnType? (j : Json) : Option ColumnType := do
  let (name, content) ← variant? j
  if name = "Array" then (scalarType? content).map .array
  else (scalarType? j).map .scalar

/-- A column type in JSON. -/
def ofColumnType : ColumnType → Json
  | .scalar t => ofScalarType t
  | .array t => ofVariant "Array" (ofScalarType t)

/-- An exact decimal. -/
def numeric? (j : Json) : Option Numeric := do
  let s ← text? j
  (Numeric.parse s.toList).toOption

/-- A floating point number.  In a structure it has to be finite. -/
def float? (inside : Bool) (j : Json) : Option Binary64 := do
  let s ← text? j
  let x ← Binary64.ofText? s.toList
  if inside ∧ x.finite?.isNone then none else some x

/-- A day. -/
def date? (j : Json) : Option Calendar.Date := do
  let s ← text? j
  Calendar.Date.readRelaxed? s.toList

/-- An instant, with any offset. -/
def timestamp? (j : Json) : Option Calendar.Timestamp := do
  let s ← text? j
  Calendar.Timestamp.readRelaxed? s.toList

/-- A document. -/
def document? (j : Json) : Option Json.Document := do
  let s ← text? j
  (Json.Document.read s.toList).toOption

/-- A byte. -/
def byte? (j : Json) : Option UInt8 :=
  (natBelow? 256 j).map UInt8.ofNat

/-- A whole number of 64 bits with a sign. -/
def int64? (j : Json) : Option Int64 :=
  (int? j).bind Value.int64?

/-- A value that is no array, from its name and its content. -/
def plainValue? (inside : Bool) (name : String) (content : Json) : Option Value :=
  match name with
  | "Null" => unit? .null content
  | "Bool" => (flag? content).map .bool
  | "Int64" => (int64? content).map .int64
  | "Float64" => (float? inside content).map .float64
  | "Numeric" => (numeric? content).map .numeric
  | "String" => (text? content).map .string
  | "Bytes" => (listOf? byte? content).map .bytes
  | "Date" => (date? content).map .date
  | "Timestamp" => (timestamp? content).map .timestamp
  | "Json" => (document? content).map .json
  | _ => none

mutual

/-- A value.  Inside of a structure, floating point numbers have to be
    finite. -/
def value? (inside : Bool) : Json → Option Value
  | .string name => plainValue? inside name .null
  | .object [(name, .array items)] =>
    if name = "Array" then (values? inside items).map .array
    else plainValue? inside name (.array items)
  | .object [(name, content)] => plainValue? inside name content
  | _ => none

/-- Some values. -/
def values? (inside : Bool) : List Json → Option (List Value)
  | [] => some []
  | j :: js => do
    let v ← value? inside j
    let vs ← values? inside js
    return v :: vs

end

mutual

/-- A value in JSON. -/
def ofValue : Value → Json
  | .null => .string "Null"
  | .bool b => ofVariant "Bool" (.bool b)
  | .int64 i => ofVariant "Int64" (ofInt i.toInt)
  | .float64 x => ofVariant "Float64" (ofText (Binary64.Layout.sql.text x))
  | .numeric n => ofVariant "Numeric" (ofText n.text)
  | .string s => ofVariant "String" (.string s)
  | .bytes bs => ofVariant "Bytes" (ofList (fun b => ofInt b.toNat) bs)
  | .date d => ofVariant "Date" (ofText d.text)
  | .timestamp ts => ofVariant "Timestamp" (ofText ts.wireText)
  | .json d => ofVariant "Json" (ofText d.print)
  | .array items => ofVariant "Array" (.array (ofValues items))

/-- Some values in JSON. -/
def ofValues : List Value → List Json
  | [] => []
  | v :: vs => ofValue v :: ofValues vs

end

/-- A typed value.  Its type has to accept it. -/
def typedValue? (j : Json) : Option TypedValue := do
  let field ← record? ["column_type", "value"] j
  let type ← columnType? (← field "column_type")
  let value ← value? true (← field "value")
  (TypedValue.of type value).toOption

/-- A typed value in JSON. -/
def ofTypedValue (v : TypedValue) : Json :=
  .object [("column_type", ofColumnType v.type), ("value", ofValue v.value)]

/-- The default of a column. -/
def default? (inside : Bool) (j : Json) : Option DefaultExpression := do
  let (name, content) ← variant? j
  match name with
  | "Value" => (value? inside content).map .value
  | "CurrentTimestamp" => unit? .currentTimestamp content
  | "Raw" => (text? content).map .raw
  | _ => none

/-- The default of a column in JSON. -/
def ofDefault : DefaultExpression → Json
  | .value v => ofVariant "Value" (ofValue v)
  | .currentTimestamp => .string "CurrentTimestamp"
  | .raw sql => ofVariant "Raw" (.string sql)

end SpannerDialect.Form
