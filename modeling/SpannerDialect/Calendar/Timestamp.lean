import SpannerDialect.Calendar.Date

/-! # Times of day, offsets and instants

    A local time is a day with a time of day; it says nothing about where
    it is read.  An instant is a local time read in UTC, and an offset
    leads from one to the other.  A leap second is a second that counts
    past a full one in nanoseconds, so moving to another offset keeps it. -/

namespace SpannerDialect.Calendar

/-- The seconds of a day. -/
def daySeconds : Nat := 86400

/-- The nanoseconds of a second. -/
def secondNanos : Nat := 1000000000

/-- A day and a time of day.  Nanoseconds past a full second are in a leap
    second. -/
structure LocalTime where
  date : Date
  second : Nat
  nano : Nat
  second_lt : second < daySeconds
  nano_lt : nano < 2 * secondNanos
deriving DecidableEq

/-- A distance from UTC of less than a day, in seconds to the east. -/
structure Offset where
  seconds : Int
  within : -86400 < seconds ∧ seconds < 86400
deriving DecidableEq

namespace Offset

/-- UTC itself. -/
def utc : Offset := ⟨0, by decide⟩

/-- The offset of some seconds to the east. -/
def of? (seconds : Int) : Option Offset :=
  if h : -86400 < seconds ∧ seconds < 86400 then some ⟨seconds, h⟩ else none

end Offset

namespace LocalTime

/-- The first moment of a day. -/
def midnight (date : Date) : LocalTime :=
  ⟨date, 0, 0, by decide, by decide⟩

/-- The day before, the same day or the day after, by the sign of `days`. -/
def onNeighbour? (date : Date) (days : Int) : Option Date :=
  if days < 0 then date.previous? else if days = 0 then some date else date.next?

/-- The time some seconds later, for less than a day of seconds. -/
def shift? (t : LocalTime) (seconds : Int) : Option LocalTime :=
  let total := t.second + seconds
  (onNeighbour? t.date (total / daySeconds)).map fun date =>
    { date, second := (total % daySeconds).toNat, nano := t.nano
      second_lt := by
        have h1 := Int.emod_nonneg total (b := daySeconds) (by decide)
        have h2 := Int.emod_lt_of_pos total (b := daySeconds) (by decide)
        omega
      nano_lt := t.nano_lt }

/-- A time from hours, minutes, seconds and a fraction; a second 60 is a
    leap second. -/
def of? (date : Date) (hour minute second nano : Nat) : Option LocalTime :=
  if h : hour < 24 ∧ minute < 60 ∧ second ≤ 60 ∧ nano < secondNanos then
    if leap : second = 60 then
      some ⟨date, hour * 3600 + minute * 60 + 59, secondNanos + nano,
        by simp only [daySeconds]; omega, by omega⟩
    else
      some ⟨date, hour * 3600 + minute * 60 + second, nano,
        by simp only [daySeconds]; omega, by omega⟩
  else
    none

end LocalTime

/-- An instant: a local time in UTC. -/
structure Timestamp where
  utc : LocalTime
deriving DecidableEq

namespace Timestamp

/-- The instant of a local time at an offset, if UTC still has that day. -/
def ofLocal? (offset : Offset) (t : LocalTime) : Option Timestamp :=
  (t.shift? (-offset.seconds)).map Timestamp.mk

/-- The local time of an instant at an offset, if there is such a day. -/
def toLocal? (offset : Offset) (ts : Timestamp) : Option LocalTime :=
  ts.utc.shift? offset.seconds

end Timestamp

end SpannerDialect.Calendar
