import SpannerDialect.ColumnType
import SpannerDialect.Value.Basic

/-! # Type mismatches

    Why a value, a text or a type is not what it should be.  Each cause
    says what was expected and what was found. -/

namespace SpannerDialect

/-- Why something is not of the type it should be. -/
inductive Mismatch
  /-- A value of another kind. -/
  | kind (expected : ColumnType) (found : Value.Kind)
  /-- A text or byte string that is too long. -/
  | tooLong (expected : ColumnType) (length : Nat)
  /-- A floating point number that is not finite. -/
  | notFinite (x : Binary64)
  /-- A NULL inside of an array. -/
  | nullElement (elem : ScalarType) (position : Nat)
  /-- A NULL whose type is not known. -/
  | untypedNull
  /-- An array without an element that has a type. -/
  | untypedArray
  /-- An array as the element of an array. -/
  | nestedArray (elem : ScalarType)
  /-- A length of zero. -/
  | zeroLength
  /-- Text that is no exact decimal. -/
  | notNumeric (text : String) (fault : Numeric.Fault)
  /-- Text that is no JSON. -/
  | notJson (text : String)
  /-- Text that is no date. -/
  | notDate (text : String)
  /-- Text that is no time. -/
  | notTimestamp (text : String)
  /-- A local time without an instant in the calendar. -/
  | beyondCalendar (t : Calendar.LocalTime)
  /-- The commit time as the default of a column that holds no times. -/
  | notTimestampColumn (found : ColumnType)

namespace Mismatch

/-- A text between single quotes. -/
def quoted (text : String) : String :=
  s!"'{text}'"

/-- What was expected. -/
def expected : Mismatch → String
  | kind expected _ => expected.name
  | tooLong expected _ => expected.name
  | notFinite _ => "finite float64"
  | nullElement elem _ => s!"non-null {String.ofList elem.ddl} element"
  | untypedNull => "declared column type"
  | untypedArray => "array with a typed element"
  | nestedArray _ => "scalar array element type"
  | zeroLength => "positive length"
  | notNumeric _ .notDecimal => "NUMERIC"
  | notNumeric _ .tooWide => "NUMERIC with at most 29 integer and 9 fractional digits"
  | notJson _ => "JSON text"
  | notDate _ => "date"
  | notTimestamp _ => "timestamp"
  | beyondCalendar _ => "timestamp"
  | notTimestampColumn _ => "timestamp column for current timestamp"

/-- What was found. -/
def found : Mismatch → String
  | kind _ found => found.name
  | tooLong _ length => s!"length {length}"
  | notFinite x => String.ofList (Binary64.Layout.sql.text x)
  | nullElement _ position => s!"null at position {position}"
  | untypedNull => "untyped null"
  | untypedArray => "empty array"
  | nestedArray elem => (ColumnType.array elem).name
  | zeroLength => "0"
  | notNumeric text _ => quoted text
  | notJson text => quoted text
  | notDate text => quoted text
  | notTimestamp text => quoted text
  | beyondCalendar t => String.ofList (t.text ' ')
  | notTimestampColumn found => found.name

/-- The wording of a mismatch. -/
def message (m : Mismatch) : String :=
  s!"expected {m.expected}, found {m.found}"

end Mismatch

/-- A bounded length; zero is none. -/
def Length.ofNat (n : Nat) : Except Mismatch Length :=
  if h : 0 < n then .ok (.bounded n h) else .error .zeroLength

/-- The array of a type, unless that is an array itself. -/
def ColumnType.arrayOf : ColumnType → Except Mismatch ColumnType
  | .scalar t => .ok (.array t)
  | .array t => .error (.nestedArray t)

end SpannerDialect
