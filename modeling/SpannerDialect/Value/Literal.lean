import SpannerDialect.TypedValue
import SpannerDialect.Text.Base64
import SpannerDialect.Text.Quoted

/-! # Values as SQL literals

    The text that stands for a value inside of SQL. -/

namespace SpannerDialect

namespace Value

mutual

/-- The literal of a value.  A floating point number has one only if it is
    finite. -/
def literal : Value → Except Mismatch (List Char)
  | null => .ok "NULL".toList
  | bool true => .ok "true".toList
  | bool false => .ok "false".toList
  | int64 i => .ok (Text.signed i.toInt)
  | float64 (.finite x) => .ok (Binary64.Layout.sql.finite x)
  | float64 x => .error (.notFinite x)
  | numeric n => .ok n.text
  | string s => .ok (Text.quoteText s.toList)
  | bytes bs => .ok ("FROM_BASE64(\"".toList ++ Text.Base64.encode bs ++ "\")".toList)
  | date d => .ok ("DATE \"".toList ++ d.text ++ ['"'])
  | timestamp ts => .ok ("TIMESTAMP \"".toList ++ ts.literalText ++ ['"'])
  | json d => .ok ("JSON ".toList ++ Text.quoteText d.print)
  | array items => do
    let texts ← literals items
    return '[' :: Text.join [',', ' '] texts ++ [']']

/-- The literals of the items of an array. -/
def literals : List Value → Except Mismatch (List (List Char))
  | [] => .ok []
  | v :: vs => do
    let t ← literal v
    let ts ← literals vs
    return t :: ts

end

end Value

/-- The literal of a typed value. -/
def TypedValue.literal (v : TypedValue) : Except Mismatch (List Char) :=
  v.value.literal

end SpannerDialect
