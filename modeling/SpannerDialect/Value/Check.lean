import SpannerDialect.Mismatch

/-! # Which values a type accepts

    NULL fits every type, but an array has no NULL among its elements.
    Texts and byte strings keep to the length of their type, and floating
    point numbers are finite.  The natural type of a value is the widest
    one of its kind. -/

namespace SpannerDialect.Value

/-- Whether so many units fit the length of a type. -/
def checkLength (type : ScalarType) (length : Length) (size : Nat) : Except Mismatch Unit :=
  if length.admits size then .ok () else .error (.tooLong (.scalar type) size)

/-- Whether a scalar type accepts a value. -/
def checkScalar (type : ScalarType) (v : Value) : Except Mismatch Unit :=
  match type, v with
  | _, null => .ok ()
  | .bool, bool _ => .ok ()
  | .int64, int64 _ => .ok ()
  | .float64, float64 (.finite _) => .ok ()
  | .float64, float64 x => .error (.notFinite x)
  | .numeric, numeric _ => .ok ()
  | .string n, string s => checkLength type n s.length
  | .bytes n, bytes bs => checkLength type n bs.length
  | .date, date _ => .ok ()
  | .timestamp, timestamp _ => .ok ()
  | .json, json _ => .ok ()
  | _, v => .error (.kind (.scalar type) v.kind)

/-- Whether the elements of an array, from a position on, are of a type. -/
def checkItems (elem : ScalarType) : Nat → List Value → Except Mismatch Unit
  | _, [] => .ok ()
  | position, v :: vs =>
    if v.isNull then .error (.nullElement elem position)
    else do
      checkScalar elem v
      checkItems elem (position + 1) vs

/-- Whether a type accepts a value. -/
def check (type : ColumnType) (v : Value) : Except Mismatch Unit :=
  match type, v with
  | .scalar t, v => checkScalar t v
  | .array _, null => .ok ()
  | .array elem, array items => checkItems elem 0 items
  | .array _, v => .error (.kind type v.kind)

mutual

/-- The natural type of a value. -/
def inferType : Value → Except Mismatch ColumnType
  | null => .error .untypedNull
  | bool _ => .ok (.scalar .bool)
  | int64 _ => .ok (.scalar .int64)
  | float64 _ => .ok (.scalar .float64)
  | numeric _ => .ok (.scalar .numeric)
  | string _ => .ok (.scalar (.string .max))
  | bytes _ => .ok (.scalar (.bytes .max))
  | date _ => .ok (.scalar .date)
  | timestamp _ => .ok (.scalar .timestamp)
  | json _ => .ok (.scalar .json)
  | array items => (inferElement items).bind ColumnType.arrayOf

/-- The natural type of the first value that is not NULL. -/
def inferElement : List Value → Except Mismatch ColumnType
  | [] => .error .untypedArray
  | null :: vs => inferElement vs
  | v :: _ => inferType v

end

end SpannerDialect.Value
