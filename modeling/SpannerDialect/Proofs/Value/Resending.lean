import SpannerDialect.Proofs.Calendar.LeapSeconds
import SpannerDialect.Proofs.Value.Timezones
import SpannerDialect.Value.Wire

/-! # Timestamps sent back

    A timestamp that has been accepted, as a cell or as a text in a column of times, is
    kept in UTC, and is sent as a text in UTC.  The text can be read only if its year
    still has four digits there, and it says the same instant only if a leap second still
    ends a minute there (`decode_wire_timestamp`).  An offset can take away both. -/

namespace SpannerDialect.Value

open Calendar

variable {z : Offset} {s : String} {ts : Timestamp}

/-- A text is accepted for an instant: as a cell of a column of times, or turned toward
    such a column at an offset. -/
def AcceptedAs (z : Offset) (s : String) (ts : Timestamp) : Prop :=
  decode (.scalar .timestamp) (.string s) = .ok (timestamp ts) ∨
    coerce z (.scalar .timestamp) (string s) = .ok (timestamp ts)

/-! ## Cells -/

/-- The text of a cell is read as an instant, or the cell is refused. -/
theorem decode_timestamp (s : String) :
    decode (.scalar .timestamp) (.string s) =
      match Timestamp.read? s.toList with
      | some ts => .ok (timestamp ts)
      | none => .error (.cell (.scalar .timestamp) (.string s)) := by
  show decodeScalar .timestamp (.string s) = _
  rw [decodeScalar]
  cases Timestamp.read? s.toList <;> rfl

theorem decode_timestamp_eq_ok :
    decode (.scalar .timestamp) (.string s) = .ok (timestamp ts) ↔
      Timestamp.read? s.toList = some ts := by
  rw [decode_timestamp]
  cases Timestamp.read? s.toList with
  | some ts' => rw [Except.ok.injEq, Value.timestamp.injEq, Option.some.injEq]
  | none => exact iff_of_false nofun nofun

/-! ## Texts that are accepted -/

/-- An accepted text has an offset of its own, or stands for a local time. -/
theorem acceptedAs_iff : AcceptedAs z s ts ↔
    Timestamp.read? s.toList = some ts ∨
      ∃ t, StandsFor (string s) t ∧ ts.toLocal? z = some t := by
  rw [AcceptedAs, decode_timestamp_eq_ok, coerce_string_eq_ok, readTimestamp_eq_ok]
  -- what is accepted as a cell is accepted as a text as well
  exact or_iff_right_of_imp .inl

/-- A leap second of an accepted text ends a minute in UTC just when the text has an offset
    of its own or has been read at one of whole minutes. -/
theorem AcceptedAs.leapAtMinuteEnd_iff (h : AcceptedAs z s ts) :
    ts.utc.LeapAtMinuteEnd ↔
      (secondNanos ≤ ts.utc.nano → HasOffset s.toList ∨ 60 ∣ z.seconds) := by
  rcases acceptedAs_iff.mp h with hread | ⟨t, hstands, hlocal⟩
  · -- an offset of RFC 3339 is whole minutes, whatever the configured one is
    obtain ⟨t, offset, htext, hts⟩ := Timestamp.read?_eq_some_iff.mp hread
    have hend := (Timestamp.leapAtMinuteEnd_iff htext.leapAtMinuteEnd
      (Timestamp.ofLocal?_eq_some_iff.mp hts)).mpr fun _ => htext.sixty_dvd
    exact iff_of_true hend fun _ => .inl ⟨t, offset, htext⟩
  · obtain ⟨hoffset, ht⟩ := hstands
    rw [Timestamp.leapAtMinuteEnd_iff (LocalTime.leapAtMinuteEnd_of_read? ht) hlocal,
      or_iff_right hoffset]

/-- **Which accepted timestamps come back.**  Every one of them can be sent.  What is read
    of it is what its text says, if its year in UTC has four digits, and otherwise the
    cell is refused.  So it comes back as it was just when its year has four digits and
    its leap second, if it is in one, comes from a text with an offset of its own or has
    been read at an offset of whole minutes. -/
theorem decode_wire_timestamp (h : AcceptedAs z s ts) :
    ∃ cell, TypedValue.wire ⟨.scalar .timestamp, timestamp ts, rfl⟩ = .ok cell ∧
      (decode (.scalar .timestamp) cell = .ok (timestamp ts) ↔
        ts.FourDigitYear ∧
          (secondNanos ≤ ts.utc.nano → HasOffset s.toList ∨ 60 ∣ z.seconds)) ∧
      (ts.FourDigitYear →
        decode (.scalar .timestamp) cell = .ok (timestamp ⟨ts.utc.written⟩)) ∧
      (¬ ts.FourDigitYear →
        decode (.scalar .timestamp) cell = .error (.cell (.scalar .timestamp) cell)) := by
  refine ⟨wireText ts.wireText, rfl, ?_, fun hyear => ?_, fun hyear => ?_⟩
  · rw [← h.leapAtMinuteEnd_iff, wireText, decode_timestamp_eq_ok, String.toList_ofList,
      Timestamp.read?_wireText_eq, Option.ite_none_right_eq_some, Option.some.injEq,
      ← LocalTime.written_eq_self_iff]
    exact and_congr_right fun _ => ⟨congrArg Timestamp.utc, congrArg Timestamp.mk⟩
  · rw [wireText, decode_timestamp, String.toList_ofList, Timestamp.read?_wireText_eq,
      if_pos hyear]
  · rw [wireText, decode_timestamp, String.toList_ofList, Timestamp.read?_wireText_eq,
      if_neg hyear]

/-- The first hour of the year 10000 but for a second. -/
def tenthMillennium : Timestamp :=
  ⟨{ LocalTime.midnight ⟨10000, 1, 1, by decide⟩ with second := 3599, second_lt := by decide }⟩

/-- An offset to the west can lead into the year 10000, which is sent with a sign and cannot
    be read. -/
theorem tenthMillennium_refused :
    decode (.scalar .timestamp) (.string "9999-12-31T23:59:59-01:00") =
      .ok (timestamp tenthMillennium) ∧
    TypedValue.wire ⟨.scalar .timestamp, timestamp tenthMillennium, rfl⟩ =
      .ok (.string "+10000-01-01T00:59:59Z") ∧
    decode (.scalar .timestamp) (.string "+10000-01-01T00:59:59Z") =
      .error (.cell (.scalar .timestamp) (.string "+10000-01-01T00:59:59Z")) := by
  have hread : Timestamp.read? "9999-12-31T23:59:59-01:00".toList = some tenthMillennium := by
    decide +kernel
  have hrefused : Timestamp.read? "+10000-01-01T00:59:59Z".toList = none := by decide +kernel
  refine ⟨decode_timestamp_eq_ok.mpr hread, rfl, ?_⟩
  rw [decode_timestamp, hrefused]

/-- Half a minute to the east of UTC. -/
def halfMinuteEast : Offset :=
  ⟨30, by decide⟩

/-- A leap second in the morning, nine hours to the east. -/
def leapMorning : LocalTime :=
  ⟨⟨2017, 1, 1, by decide⟩, 32399, 1000000000, by decide, by decide⟩

theorem standsFor_leapMorning : StandsFor (string "2017-01-01 08:59:60") leapMorning :=
  .text (Timestamp.read?_eq_none_iff.mp (by decide +kernel)) (by decide +kernel)

/-- A leap second nine hours to the east comes back; half a minute to the east it comes
    back as the next full second. -/
theorem decode_wire_timestamp_leapMorning :
    (∃ ts, AcceptedAs nineEast "2017-01-01 08:59:60" ts ∧
      ∃ cell, TypedValue.wire ⟨.scalar .timestamp, timestamp ts, rfl⟩ = .ok cell ∧
        decode (.scalar .timestamp) cell = .ok (timestamp ts)) ∧
    ∃ ts, AcceptedAs halfMinuteEast "2017-01-01 08:59:60" ts ∧
      ∃ cell, TypedValue.wire ⟨.scalar .timestamp, timestamp ts, rfl⟩ = .ok cell ∧
        decode (.scalar .timestamp) cell ≠ .ok (timestamp ts) := by
  obtain ⟨hoffset, -⟩ := standsFor_leapMorning
  constructor
  · have haccepted : AcceptedAs nineEast "2017-01-01 08:59:60"
        ⟨⟨2016, 12, 31, by decide⟩, 86399, 1000000000, by decide, by decide⟩ :=
      acceptedAs_iff.mpr (.inr ⟨leapMorning, standsFor_leapMorning, by decide +kernel⟩)
    obtain ⟨cell, hcell, hback, -⟩ := decode_wire_timestamp haccepted
    exact ⟨_, haccepted, cell, hcell, hback.mpr ⟨by decide, fun _ => .inr (by decide)⟩⟩
  · have haccepted : AcceptedAs halfMinuteEast "2017-01-01 08:59:60"
        ⟨⟨2017, 1, 1, by decide⟩, 32369, 1000000000, by decide, by decide⟩ :=
      acceptedAs_iff.mpr (.inr ⟨leapMorning, standsFor_leapMorning, by decide +kernel⟩)
    obtain ⟨cell, hcell, hback, -⟩ := decode_wire_timestamp haccepted
    refine ⟨_, haccepted, cell, hcell, fun h => ?_⟩
    rcases (hback.mp h).2 (by decide) with htext | hminutes
    · exact hoffset htext
    · exact absurd hminutes (by decide)

end SpannerDialect.Value
