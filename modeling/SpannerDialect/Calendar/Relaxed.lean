import SpannerDialect.Calendar.Reader

/-! # Dates and instants in a relaxed form

    The form in which dates and instants stand in data.  It is that of
    RFC 3339 with lenient fields: a year may have a sign, the other fields
    one or two digits, and blanks may stand around every mark.  An offset
    may lack its colon, and it may be the word `UTC`. -/

namespace SpannerDialect.Calendar

namespace Relaxed

/-- A mark after blanks. -/
def mark (c : Char) (cs : List Char) : Option (List Char) :=
  expect c (Text.skipBlanks cs)

/-- A day. -/
def date (cs : List Char) : Option (Date × List Char) := do
  let (y, cs) ← Lenient.year cs
  let (m, cs) ← Lenient.field (← mark '-' cs)
  let (d, cs) ← Lenient.field (← mark '-' cs)
  let date ← Date.of? y m d
  return (date, cs)

/-- A time of day with seconds and a fraction. -/
def clock (date : Date) (cs : List Char) : Option (LocalTime × List Char) := do
  let (h, cs) ← Lenient.field cs
  let (m, cs) ← Lenient.field (← mark ':' cs)
  let (s, cs) ← Lenient.field (← mark ':' cs)
  let (nano, cs) ← readFraction cs
  let t ← LocalTime.of? date h m s nano
  return (t, cs)

/-- Whether a character may stand between the hours and the minutes of an
    offset. -/
def isGap (c : Char) : Bool :=
  c = ':' || Text.isBlank c

/-- Hours and minutes of an offset, with any gap between them. -/
def offsetSize (cs : List Char) : Option (Nat × List Char) := do
  let (h, cs) ← digitsExactly 2 cs
  let (m, cs) ← digitsExactly 2 (cs.dropWhile isGap)
  if m < 60 then some (h * 3600 + m * 60, cs) else none

/-- Whether text starts with the word `UTC` in any case. -/
def startsWithUtc (cs : List Char) : Bool :=
  (cs.take 3).map Char.toUpper = ['U', 'T', 'C']

/-- An offset. -/
def offset (cs : List Char) : Option (Offset × List Char) :=
  if startsWithUtc cs then
    some (.utc, cs.drop 3)
  else
    match cs with
    | [] => none
    | c :: cs =>
      if c = 'Z' ∨ c = 'z' then
        some (.utc, cs)
      else if c = '+' ∨ Strict.isMinus c then do
        let (n, rest) ← offsetSize cs
        let o ← Offset.of? (if Strict.isMinus c then -n else n)
        return (o, rest)
      else
        none

end Relaxed

/-- A day in the relaxed form, with blanks at most after it. -/
def Date.readRelaxed? (text : List Char) : Option Date := do
  let (date, rest) ← Relaxed.date text
  if Text.skipBlanks rest = [] then some date else none

/-- An instant in the relaxed form, with blanks at most after it. -/
def Timestamp.readRelaxed? (text : List Char) : Option Timestamp := do
  let (date, cs) ← Relaxed.date text
  let (t, cs) ← Relaxed.clock date (← Strict.separator cs)
  let (offset, rest) ← Relaxed.offset (Text.skipBlanks cs)
  if Text.skipBlanks rest = [] then Timestamp.ofLocal? offset t else none

end SpannerDialect.Calendar
