import SpannerDialect.Calendar.Timestamp
import SpannerDialect.Text.Digits

/-! # Dates and times as text

    Years from 0 to 9999 have four digits; others have a sign and at
    least four.  A leap second is written as the second past a full one.
    Fractions of a second have three, six or nine digits, as few as are
    exact, except where a width is fixed. -/

namespace SpannerDialect.Calendar

/-- A year. -/
def yearText (year : Int) : List Char :=
  if 0 ≤ year ∧ year ≤ 9999 then Text.padded 4 year.natAbs
  else (if year < 0 then '-' else '+') :: Text.padded 4 year.natAbs

/-- A day. -/
def Date.text (d : Date) : List Char :=
  yearText d.year ++ '-' :: Text.padded 2 d.month ++ '-' :: Text.padded 2 d.day

namespace LocalTime

/-- The nanoseconds after the last full second. -/
def fraction (t : LocalTime) : Nat :=
  t.nano % secondNanos

/-- Hours, minutes and seconds. -/
def clockText (t : LocalTime) : List Char :=
  Text.padded 2 (t.second / 3600) ++ ':' :: Text.padded 2 (t.second / 60 % 60) ++
    ':' :: Text.padded 2 (t.second % 60 + t.nano / secondNanos)

/-- The fraction in no, three, six or nine digits, as few as are exact. -/
def fractionText (t : LocalTime) : List Char :=
  let f := t.fraction
  if f = 0 then []
  else if f % 1000000 = 0 then '.' :: Text.padded 3 (f / 1000000)
  else if f % 1000 = 0 then '.' :: Text.padded 6 (f / 1000)
  else '.' :: Text.padded 9 f

/-- The fraction in six digits, the rest cut off. -/
def microsText (t : LocalTime) : List Char :=
  '.' :: Text.padded 6 (t.fraction / 1000)

/-- A day, the given separator and a time of day with an exact fraction. -/
def text (separator : Char) (t : LocalTime) : List Char :=
  t.date.text ++ separator :: t.clockText ++ t.fractionText

end LocalTime

namespace Timestamp

/-- UTC as an offset of hours and minutes. -/
def utcOffsetText : List Char :=
  ['+', '0', '0', ':', '0', '0']

/-- An instant on display. -/
def displayText (ts : Timestamp) : List Char :=
  ts.utc.text 'T' ++ utcOffsetText

/-- An instant on the wire. -/
def wireText (ts : Timestamp) : List Char :=
  ts.utc.text 'T' ++ ['Z']

/-- An instant inside of a SQL literal: always six digits of a fraction. -/
def literalText (ts : Timestamp) : List Char :=
  ts.utc.date.text ++ 'T' :: ts.utc.clockText ++ ts.utc.microsText ++ utcOffsetText

end Timestamp

end SpannerDialect.Calendar
