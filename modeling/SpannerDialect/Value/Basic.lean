import SpannerDialect.Binary64.Text
import SpannerDialect.Calendar.Printer
import SpannerDialect.Json.Printer
import SpannerDialect.Numeric

/-! # Values

    What a column can hold, before it is paired with a type.  Arrays may
    hold anything here; a type says later what they may hold. -/

namespace SpannerDialect

/-- A value. -/
inductive Value
  | null
  | bool (b : Bool)
  | int64 (i : Int64)
  | float64 (x : Binary64)
  | numeric (n : Numeric)
  | string (s : String)
  | bytes (bs : List UInt8)
  | date (d : Calendar.Date)
  | timestamp (ts : Calendar.Timestamp)
  | json (d : Json.Document)
  | array (items : List Value)

namespace Value

/-- The kinds of values. -/
inductive Kind
  | null | bool | int64 | float64 | numeric | string | bytes | date | timestamp | json | array
deriving DecidableEq, Repr

/-- The name of a kind. -/
def Kind.name : Kind → String
  | null => "null"
  | bool => "bool"
  | int64 => "int64"
  | float64 => "float64"
  | numeric => "numeric"
  | string => "string"
  | bytes => "bytes"
  | date => "date"
  | timestamp => "timestamp"
  | json => "json"
  | array => "array"

/-- The kind of a value. -/
def kind : Value → Kind
  | null => .null
  | bool _ => .bool
  | int64 _ => .int64
  | float64 _ => .float64
  | numeric _ => .numeric
  | string _ => .string
  | bytes _ => .bytes
  | date _ => .date
  | timestamp _ => .timestamp
  | json _ => .json
  | array _ => .array

/-- Whether the value is NULL. -/
def isNull (v : Value) : Bool :=
  v.kind == .null

/-- Whether the value is an array. -/
def isArray (v : Value) : Bool :=
  v.kind == .array

mutual

/-- Equality of values; floating point numbers are compared as numbers. -/
def same : Value → Value → Bool
  | null, null => true
  | bool a, bool b => a == b
  | int64 a, int64 b => a == b
  | float64 a, float64 b => a.same b
  | numeric a, numeric b => a == b
  | string a, string b => a == b
  | bytes a, bytes b => a == b
  | date a, date b => a == b
  | timestamp a, timestamp b => a == b
  | json a, json b => a.same b
  | array as, array bs => sameItems as bs
  | _, _ => false

/-- Equality of lists of values. -/
def sameItems : List Value → List Value → Bool
  | [], [] => true
  | a :: as, b :: bs => same a b && sameItems as bs
  | _, _ => false

end

instance : BEq Value := ⟨same⟩

mutual

/-- A value on display. -/
def display : Value → List Char
  | null => "NULL".toList
  | bool true => "true".toList
  | bool false => "false".toList
  | int64 i => Text.signed i.toInt
  | float64 x => Binary64.Layout.sql.text x
  | numeric n => n.text
  | string s => s.toList
  | bytes bs => '<' :: Text.digits bs.length ++ " bytes>".toList
  | date d => d.text
  | timestamp ts => ts.displayText
  | json d => d.print
  | array [] => ['[', ']']
  | array (v :: vs) => '[' :: display v ++ displayItems vs

/-- The items after the first on display, with the closing bracket. -/
def displayItems : List Value → List Char
  | [] => [']']
  | v :: vs => ',' :: ' ' :: display v ++ displayItems vs

end

end Value

end SpannerDialect
