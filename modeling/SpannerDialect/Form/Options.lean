import SpannerDialect.Config
import SpannerDialect.Connection
import SpannerDialect.Form.Value

/-! # Options, settings and messages in JSON

    What travels beside SQL, and what an executor exchanges. -/

namespace SpannerDialect.Form

/-- The names of the parts of a length of time. -/
def durationParts : List String := ["secs", "nanos"]

/-- Whether an object has no other fields than those of the given names. -/
def hasOnly (names : List String) : Json → Bool
  | .object fields => fields.all (·.1 ∈ names)
  | _ => true

/-- A length of time.  Nanoseconds past a second are carried, and there are
    no other fields. -/
def duration? (j : Json) : Option Duration := do
  guard (hasOnly durationParts j)
  let field ← record? durationParts j
  let seconds ← word64? (← field "secs")
  let nanos ← word32? (← field "nanos")
  let total := seconds + nanos / 1000000000
  if total < 0x10000000000000000 then
    some ⟨total, nanos % 1000000000, Nat.mod_lt _ (by decide)⟩
  else
    none

/-- A length of time in JSON. -/
def ofDuration (d : Duration) : Json :=
  .object [("nanos", ofInt d.nanos), ("secs", ofInt d.seconds)]

/-- A bound of staleness. -/
def staleness? (j : Json) : Option StalenessBound := do
  let (name, content) ← variant? j
  match name with
  | "Strong" => unit? .strong content
  | "ExactStaleness" => (duration? content).map .exactStaleness
  | "MinReadTimestamp" => (timestamp? content).map .minReadTimestamp
  | "MaxStaleness" => (duration? content).map .maxStaleness
  | "ReadTimestamp" => (timestamp? content).map .readTimestamp
  | _ => none

/-- A bound of staleness in JSON. -/
def ofStaleness : StalenessBound → Json
  | .strong => .string "Strong"
  | .exactStaleness age => ofVariant "ExactStaleness" (ofDuration age)
  | .minReadTimestamp time => ofVariant "MinReadTimestamp" (ofText time.wireText)
  | .maxStaleness age => ofVariant "MaxStaleness" (ofDuration age)
  | .readTimestamp time => ofVariant "ReadTimestamp" (ofText time.wireText)

/-- The options of a transaction that only reads. -/
def readOnly? (j : Json) : Option ReadOnlyOptions := do
  let field ← partialRecord? ["strong", "minReadTimestamp", "maxStaleness", "readTimestamp",
    "exactStaleness", "returnReadTimestamp"] j
  let strong ← optional? flag? (field "strong")
  let minReadTimestamp ← optional? text? (field "minReadTimestamp")
  let maxStaleness ← optional? text? (field "maxStaleness")
  let readTimestamp ← optional? text? (field "readTimestamp")
  let exactStaleness ← optional? text? (field "exactStaleness")
  let returnReadTimestamp ← withDefault? false flag? (field "returnReadTimestamp")
  return { strong, minReadTimestamp, maxStaleness, readTimestamp, exactStaleness
           returnReadTimestamp }

/-- A field that is left out when there is nothing to tell. -/
def presentField (name : String) : Option Json → List (String × Json)
  | some j => [(name, j)]
  | none => []

/-- A field that is left out when it is false. -/
def trueField (name : String) (b : Bool) : List (String × Json) :=
  if b then [(name, .bool true)] else []

/-- The options of a transaction that only reads, in JSON. -/
def ofReadOnly (o : ReadOnlyOptions) : Json :=
  .object <|
    presentField "exactStaleness" (o.exactStaleness.map .string) ++
    presentField "maxStaleness" (o.maxStaleness.map .string) ++
    presentField "minReadTimestamp" (o.minReadTimestamp.map .string) ++
    presentField "readTimestamp" (o.readTimestamp.map .string) ++
    trueField "returnReadTimestamp" o.returnReadTimestamp ++
    presentField "strong" (o.strong.map .bool)

/-- The options of a transaction. -/
def options? (j : Json) : Option TransactionOptions := do
  let field ← partialRecord? ["readOnly", "dataBoostEnabled"] j
  let readOnly ← optional? readOnly? (field "readOnly")
  let dataBoost ← withDefault? false flag? (field "dataBoostEnabled")
  return { readOnly, dataBoost }

/-- The options of a transaction in JSON. -/
def ofOptions (o : TransactionOptions) : Json :=
  .object <|
    trueField "dataBoostEnabled" o.dataBoost ++
    presentField "readOnly" (o.readOnly.map ofReadOnly)

/-- Seconds to the east of UTC; null is UTC itself. -/
def timezone? : Json → Option Calendar.Offset :=
  orElse? .utc fun j => (int? j).bind Calendar.Offset.of?

/-- Settings in an object; what is left out or null has its usual value. -/
def settings? : Json → Option Config
  | .object fields => do
    let setting (name : String) := (fields.lookup name).getD .null
    let usual : Config := {}
    let budget ← orElse? usual.budget word64? (setting "budget")
    let dataBoost ← orElse? usual.dataBoost flag? (setting "data_boost")
    let staleness ← nullable? staleness? (setting "staleness")
    let timezone ← timezone? (setting "timezone")
    return { budget, dataBoost, staleness, timezone }
  | _ => none

/-- Settings, or null for the usual ones. -/
def config? : Json → Option Config :=
  orElse? {} settings?

/-- A parameter on the wire. -/
def parameter? (j : Json) : Option Sql.Parameter := do
  let field ← record? ["name", "typeSpec", "value"] j
  let name ← text? (← field "name")
  let type ← field "typeSpec"
  let value ← field "value"
  return { name, type, value }

/-- A parameter on the wire in JSON. -/
def ofParameter (p : Sql.Parameter) : Json :=
  .object [("name", .string p.name), ("typeSpec", p.type), ("value", p.value)]

/-- The rows of an answer, their cells as they are. -/
def rowSet? (j : Json) : Option RowSet := do
  let field ← record? ["columns", "rows"] j
  let columns ← listOf? (pair? text? columnType?) (← field "columns")
  let rows ← listOf? (listOf? some) (← field "rows")
  return { columns, rows }

/-- The rows of an answer in JSON. -/
def ofRowSet (set : RowSet) : Json :=
  .object [
    ("columns", ofList (fun c => .array [.string c.1, ofColumnType c.2]) set.columns),
    ("rows", ofList .array set.rows)]

end SpannerDialect.Form
