import SpannerDialect.Calendar.Printer

/-! # Staleness of reads

    How old the data of a read may be, and the options that tell the
    backend so.  Options travel beside the SQL, never in it. -/

namespace SpannerDialect

/-- A length of time in seconds and nanoseconds. -/
structure Duration where
  seconds : Nat
  nanos : Nat
  nanos_lt : nanos < 1000000000
deriving DecidableEq

/-- Seconds with as many digits after the point as are exact, at most nine. -/
def Duration.text (d : Duration) : List Char :=
  if d.nanos = 0 then Text.digits d.seconds ++ ['s']
  else Text.digits d.seconds ++ '.' :: Text.trimZerosRight (Text.padded 9 d.nanos) ++ ['s']

/-- How old the data of a read may be. -/
inductive StalenessBound
  /-- The latest data. -/
  | strong
  /-- Data exactly this old. -/
  | exactStaleness (age : Duration)
  /-- Data at this time or later. -/
  | minReadTimestamp (time : Calendar.Timestamp)
  /-- Data at most this old. -/
  | maxStaleness (age : Duration)
  /-- Data exactly at this time. -/
  | readTimestamp (time : Calendar.Timestamp)
deriving DecidableEq

/-- Whether the backend picks the time of the read. -/
def StalenessBound.isBounded : StalenessBound → Bool
  | minReadTimestamp _ | maxStaleness _ => true
  | _ => false

/-- The options of a transaction that only reads. -/
structure ReadOnlyOptions where
  strong : Option Bool := none
  minReadTimestamp : Option String := none
  maxStaleness : Option String := none
  readTimestamp : Option String := none
  exactStaleness : Option String := none
  /-- Whether the backend tells the time of the read. -/
  returnReadTimestamp : Bool := false
deriving DecidableEq

/-- The options of a read with a bound. -/
def StalenessBound.readOnly (bound : StalenessBound) : ReadOnlyOptions :=
  let options : ReadOnlyOptions :=
    match bound with
    | strong => { strong := some true }
    | exactStaleness age => { exactStaleness := some (String.ofList age.text) }
    | minReadTimestamp time => { minReadTimestamp := some (String.ofList time.wireText) }
    | maxStaleness age => { maxStaleness := some (String.ofList age.text) }
    | readTimestamp time => { readTimestamp := some (String.ofList time.wireText) }
  { options with returnReadTimestamp := bound.isBounded }

/-- The options of the transaction of a statement. -/
structure TransactionOptions where
  readOnly : Option ReadOnlyOptions := none
  dataBoost : Bool := false
deriving DecidableEq

namespace TransactionOptions

/-- No options. -/
def none : TransactionOptions := {}

/-- The options of a read. -/
def read (bound : Option StalenessBound) (dataBoost : Bool) : TransactionOptions :=
  { readOnly := bound.map StalenessBound.readOnly, dataBoost }

/-- Whether there is nothing to tell. -/
def isEmpty (options : TransactionOptions) : Bool :=
  options == none

end TransactionOptions

end SpannerDialect
