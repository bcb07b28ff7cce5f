import SpannerDialect.TypedValue
import SpannerDialect.Json.Reader
import SpannerDialect.Text.Base64
import SpannerDialect.Calendar.Reader

/-! # Values on the wire

    The backend exchanges values as JSON.  Whole numbers of 64 bits and
    exact decimals travel as text, byte strings as base64, documents as
    their text, times in UTC.  A cell is read at a column type; what does
    not fit the form of the type is no value, and neither is an array with
    a NULL. -/

namespace SpannerDialect

/-! ## What can be wrong -/

/-- Why a cell or a result is not what the backend should send. -/
inductive DecodeError
  /-- A cell that is no form of a value of its type. -/
  | cell (type : ColumnType) (json : Json)
  /-- A byte string that is not base64. -/
  | base64 (e : Text.Base64.DecodeError)
  /-- A document that is not JSON text. -/
  | document (e : Json.ReadError)
  /-- A NULL inside of an array. -/
  | nullElement (elem : ScalarType)
  /-- A row with a cell too many or too few. -/
  | rowWidth (cells columns : Nat)
  /-- What an executor could not read. -/
  | reported (message : String)

/-- The wording of an error. -/
def DecodeError.message : DecodeError → String
  | cell type json => s!"invalid {type.code} value: {json.text}"
  | base64 e => s!"invalid base64: {e.message}"
  | document e => s!"invalid JSON text: {e.message}"
  | nullElement elem => s!"null element in {elem.code} array"
  | rowWidth cells columns => s!"row has {cells} cells for {columns} columns"
  | reported message => message

/-! ## Writing -/

namespace Value

/-- A text as JSON. -/
def wireText (text : List Char) : Json :=
  .string (String.ofList text)

mutual

/-- The wire form of a value.  A floating point number has one only if it is
    finite. -/
def wire : Value → Except Mismatch Json
  | null => .ok .null
  | bool b => .ok (.bool b)
  | int64 i => .ok (wireText (Text.signed i.toInt))
  | float64 (.finite x) => .ok (.number (.float x))
  | float64 x => .error (.notFinite x)
  | numeric n => .ok (wireText n.text)
  | string s => .ok (.string s)
  | bytes bs => .ok (wireText (Text.Base64.encode bs))
  | date d => .ok (wireText d.text)
  | timestamp ts => .ok (wireText ts.wireText)
  | json d => .ok (wireText d.print)
  | array items => (wireItems items).map .array

/-- The wire forms of the items of an array. -/
def wireItems : List Value → Except Mismatch (List Json)
  | [] => .ok []
  | v :: vs => do
    let j ← wire v
    let js ← wireItems vs
    return j :: js

end

/-! ## Reading -/

/-- A whole number of 64 bits in a word. -/
def int64? (n : Int) : Option Int64 :=
  if -0x8000000000000000 ≤ n ∧ n < 0x8000000000000000 then some (Int64.ofInt n) else none

/-- A number as floating point. -/
def numberValue : Json.Number → Binary64
  | .integer n _ => Binary64.ofInt n
  | .float x => .finite x

/-- A floating point number from a word for one that is not finite. -/
def specialFloat? (s : String) : Option Binary64 :=
  if s = "NaN" then some .nan
  else if s = "Infinity" then some (.infinite false)
  else if s = "-Infinity" then some (.infinite true)
  else none

/-- Reads a cell that is not NULL at a scalar type. -/
def decodeScalar (type : ScalarType) (cell : Json) : Except DecodeError Value :=
  let read (v? : Option Value) : Except DecodeError Value :=
    match v? with
    | some v => .ok v
    | none => .error (.cell (.scalar type) cell)
  match type, cell with
  | .bool, .bool b => .ok (bool b)
  | .int64, .string s => read ((Text.readInteger? s.toList).bind int64? |>.map int64)
  | .int64, .number (.integer n _) => read ((int64? n).map int64)
  | .float64, .number n => .ok (float64 (numberValue n))
  | .float64, .string s => read ((specialFloat? s).map float64)
  | .numeric, .string s =>
    match Numeric.parse s.toList with
    | .ok n => .ok (numeric n)
    | .error _ => .error (.cell (.scalar type) cell)
  | .string _, .string s => .ok (string s)
  | .bytes _, .string s =>
    match Text.Base64.decode s.toList with
    | .ok bs => .ok (bytes bs)
    | .error e => .error (.base64 e)
  | .date, .string s => read ((Calendar.Date.read? s.toList).map date)
  | .timestamp, .string s => read ((Calendar.Timestamp.read? s.toList).map timestamp)
  | .json, .string s =>
    match Json.Document.read s.toList with
    | .ok d => .ok (json d)
    | .error e => .error (.document e)
  | _, _ => .error (.cell (.scalar type) cell)

/-- Reads an element of an array. -/
def decodeElement (elem : ScalarType) : Json → Except DecodeError Value
  | .null => .error (.nullElement elem)
  | cell => decodeScalar elem cell

/-- Reads a cell at a column type. -/
def decode (type : ColumnType) (cell : Json) : Except DecodeError Value :=
  match type, cell with
  | _, .null => .ok null
  | .scalar t, cell => decodeScalar t cell
  | .array elem, .array items => (items.mapM (decodeElement elem)).map array
  | .array _, cell => .error (.cell type cell)

end Value

/-- The wire form of a typed value. -/
def TypedValue.wire (v : TypedValue) : Except Mismatch Json :=
  v.value.wire

end SpannerDialect
