import SpannerDialect.Mismatch
import SpannerDialect.Calendar.Reader
import SpannerDialect.Json.Reader

/-! # Coercion

    A value of a convenient kind turned toward a column type: text into
    dates, times, exact decimals and documents, whole numbers into
    decimals and floating point, dates and times into each other.  Local
    times are read at a given offset.  Whatever needs no conversion stays;
    whether it fits is checked afterwards. -/

namespace SpannerDialect.Value

open Calendar

/-- The instant of a local time. -/
def localize (offset : Offset) (t : LocalTime) : Except Mismatch Timestamp :=
  match Timestamp.ofLocal? offset t with
  | some ts => .ok ts
  | none => .error (.beyondCalendar t)

/-- The instant of a text: one with an offset of its own, or a local time. -/
def readTimestamp (offset : Offset) (s : String) : Except Mismatch Timestamp :=
  match Timestamp.read? s.toList with
  | some ts => .ok ts
  | none =>
    match LocalTime.read? s.toList with
    | some t => localize offset t
    | none => .error (.notTimestamp s)

/-- The local day of an instant. -/
def localDate (offset : Offset) (ts : Timestamp) : Except Mismatch Date :=
  match ts.toLocal? offset with
  | some t => .ok t.date
  | none => .error (.beyondCalendar ts.utc)

/-- The day of a text. -/
def readDate (s : String) : Except Mismatch Date :=
  match Date.read? s.toList with
  | some d => .ok d
  | none => .error (.notDate s)

/-- The exact decimal of a text. -/
def readNumeric (s : String) : Except Mismatch Numeric :=
  match Numeric.parse s.toList with
  | .ok n => .ok n
  | .error fault => .error (.notNumeric s fault)

/-- The document of a text. -/
def readDocument (s : String) : Except Mismatch Json.Document :=
  match Json.Document.read s.toList with
  | .ok d => .ok d
  | .error _ => .error (.notJson s)

/-- Turns a value toward a scalar type. -/
def coerceScalar (offset : Offset) (type : ScalarType) (v : Value) : Except Mismatch Value :=
  match type, v with
  | .date, string s => (readDate s).map date
  | .date, timestamp ts => (localDate offset ts).map date
  | .timestamp, string s => (readTimestamp offset s).map timestamp
  | .timestamp, date d => (localize offset (.midnight d)).map timestamp
  | .numeric, string s => (readNumeric s).map numeric
  | .numeric, int64 i => .ok (numeric (.ofInt64 i))
  | .float64, int64 i => .ok (float64 (.ofInt i.toInt))
  | .json, string s => (readDocument s).map json
  | _, v => .ok v

/-- Turns a value toward a column type, an array element by element. -/
def coerce (offset : Offset) (type : ColumnType) (v : Value) : Except Mismatch Value :=
  match type, v with
  | .scalar t, v => coerceScalar offset t v
  | .array elem, array items => (items.mapM (coerceScalar offset elem)).map array
  | .array _, v => .ok v

end SpannerDialect.Value
