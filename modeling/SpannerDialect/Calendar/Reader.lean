import SpannerDialect.Calendar.Timestamp
import SpannerDialect.Text.Blank
import SpannerDialect.Text.Digits

/-! # Reading dates and times

    Two manners of reading.  The lenient one skips blanks before each
    number and takes one or two digits; a year may have a sign.  The
    strict one is RFC 3339, where every field has its full width and an
    offset stands at the end. -/

namespace SpannerDialect.Calendar

/-! ## Fields -/

/-- At most `limit` digits in front, and at least one. -/
def digitsUpTo (limit : Nat) (cs : List Char) : Option (Nat × List Char) :=
  let ds := (Text.leadingDigits cs).take limit
  if ds = [] then none else some (Text.number ds, cs.drop ds.length)

/-- Exactly `width` digits in front. -/
def digitsExactly (width : Nat) (cs : List Char) : Option (Nat × List Char) :=
  let ds := (Text.leadingDigits cs).take width
  if ds.length = width then some (Text.number ds, cs.drop width) else none

/-- One given character. -/
def expect (mark : Char) : List Char → Option (List Char)
  | [] => none
  | c :: cs => if c = mark then some cs else none

/-- A fraction of a second in nanoseconds; digits after the ninth are
    dropped.  Without a point there is none. -/
def readFraction : List Char → Option (Nat × List Char)
  | '.' :: cs =>
    let ds := Text.leadingDigits cs
    if ds = [] then none
    else some (Text.number (ds.take 9) * Text.placeValue (9 - ds.length), Text.afterDigits cs)
  | cs => some (0, cs)

/-! ## The lenient manner -/

namespace Lenient

/-- A year: with a sign any number of digits, without one at most four. -/
def year (cs : List Char) : Option (Int × List Char) :=
  match Text.skipBlanks cs with
  | '-' :: cs => (digitsUpTo cs.length cs).map fun (n, rest) => (-n, rest)
  | '+' :: cs => (digitsUpTo cs.length cs).map fun (n, rest) => (n, rest)
  | cs => (digitsUpTo 4 cs).map fun (n, rest) => (n, rest)

/-- A field of one or two digits. -/
def field (cs : List Char) : Option (Nat × List Char) :=
  digitsUpTo 2 (Text.skipBlanks cs)

/-- A day. -/
def date (cs : List Char) : Option (Date × List Char) := do
  let (y, cs) ← year cs
  let (m, cs) ← field (← expect '-' cs)
  let (d, cs) ← field (← expect '-' cs)
  let date ← Date.of? y m d
  return (date, cs)

/-- Hours and minutes. -/
def hourMinute (cs : List Char) : Option ((Nat × Nat) × List Char) := do
  let (h, cs) ← field cs
  let (m, cs) ← field (← expect ':' cs)
  return ((h, m), cs)

/-- A time of day with seconds and a fraction, up to the end. -/
def clock (date : Date) (cs : List Char) : Option LocalTime := do
  let ((h, m), cs) ← hourMinute cs
  let (s, cs) ← field (← expect ':' cs)
  let (nano, cs) ← readFraction cs
  if cs = [] then LocalTime.of? date h m s nano else none

/-- A time of day without seconds, up to the end. -/
def shortClock (date : Date) (cs : List Char) : Option LocalTime := do
  let ((h, m), cs) ← hourMinute cs
  if cs = [] then LocalTime.of? date h m 0 0 else none

end Lenient

/-- A day and nothing else. -/
def Date.read? (text : List Char) : Option Date := do
  let (date, rest) ← Lenient.date text
  if rest = [] then some date else none

/-- A local time in one of three forms, or a day alone for its midnight: a
    blank before the time of day, a `T` before it, or a time of day
    without seconds after a blank. -/
def LocalTime.read? (text : List Char) : Option LocalTime := do
  let (date, rest) ← Lenient.date text
  Lenient.clock date (Text.skipBlanks rest) <|>
    (expect 'T' rest).bind (Lenient.clock date) <|>
    Lenient.shortClock date (Text.skipBlanks rest) <|>
    if rest = [] then some (.midnight date) else none

/-! ## The strict manner -/

namespace Strict

/-- A day in full width. -/
def date (cs : List Char) : Option (Date × List Char) := do
  let (y, cs) ← digitsExactly 4 cs
  let (m, cs) ← digitsExactly 2 (← expect '-' cs)
  let (d, cs) ← digitsExactly 2 (← expect '-' cs)
  let date ← Date.of? y m d
  return (date, cs)

/-- What stands between the day and the time of day. -/
def separator : List Char → Option (List Char)
  | c :: cs => if c = 'T' ∨ c = 't' ∨ c = ' ' then some cs else none
  | [] => none

/-- Whether a character is the sign of an offset to the west: a hyphen or
    the minus sign of mathematics. -/
def isMinus (c : Char) : Bool :=
  c = '-' || c = '−'

/-- Hours and minutes of an offset. -/
def offsetSize (cs : List Char) : Option (Nat × List Char) := do
  let (h, cs) ← digitsExactly 2 cs
  let (m, cs) ← digitsExactly 2 (← expect ':' cs)
  if h < 24 ∧ m < 60 then some (h * 3600 + m * 60, cs) else none

/-- An offset, up to the end. -/
def offset : List Char → Option Offset
  | [] => none
  | c :: cs =>
    if c = 'Z' ∨ c = 'z' then
      if cs = [] then some .utc else none
    else if c = '+' ∨ isMinus c then do
      let (n, rest) ← offsetSize cs
      if rest = [] then Offset.of? (if isMinus c then -n else n) else none
    else
      none

end Strict

/-- An instant in the form of RFC 3339. -/
def Timestamp.read? (text : List Char) : Option Timestamp := do
  let (date, cs) ← Strict.date text
  let (h, cs) ← digitsExactly 2 (← Strict.separator cs)
  let (m, cs) ← digitsExactly 2 (← expect ':' cs)
  let (s, cs) ← digitsExactly 2 (← expect ':' cs)
  let (nano, cs) ← readFraction cs
  let offset ← Strict.offset cs
  let t ← LocalTime.of? date h m s nano
  Timestamp.ofLocal? offset t

end SpannerDialect.Calendar
