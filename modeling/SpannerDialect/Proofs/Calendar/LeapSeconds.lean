import SpannerDialect.Proofs.Calendar.InstantText

/-! # Leap seconds and years on the wire

    A leap second can be written at the end of a minute only, and there it stands in every
    time that is read.  Offsets of whole minutes keep it there, as those of RFC 3339 are;
    behind another offset it lies within a minute, where the next full second is written
    in its place (`LocalTime.written`).  A year can be written with four digits only.  So
    what is read of the text of an instant is what was written, if the year has four
    digits, and nothing otherwise (`Timestamp.read?_wireText_eq`). -/

namespace SpannerDialect.Calendar

/-! ## Times that are read -/

theorem Lenient.exists_of_clock {d : Date} {cs : List Char} {t : LocalTime}
    (h : Lenient.clock d cs = some t) :
    ∃ hour minute second nano, LocalTime.of? d hour minute second nano = some t := by
  simp only [Lenient.clock, Option.bind_eq_bind, Option.bind_eq_some_iff, Prod.exists,
    Option.ite_none_right_eq_some] at h
  obtain ⟨hour, minute, _, -, _, -, second, _, -, nano, _, -, -, ht⟩ := h
  exact ⟨hour, minute, second, nano, ht⟩

theorem Lenient.exists_of_shortClock {d : Date} {cs : List Char} {t : LocalTime}
    (h : Lenient.shortClock d cs = some t) :
    ∃ hour minute, LocalTime.of? d hour minute 0 0 = some t := by
  simp only [Lenient.shortClock, Option.bind_eq_bind, Option.bind_eq_some_iff, Prod.exists,
    Option.ite_none_right_eq_some] at h
  obtain ⟨hour, minute, _, -, -, ht⟩ := h
  exact ⟨hour, minute, ht⟩

/-- A local time that is read ends a minute where it is in a leap second. -/
theorem LocalTime.leapAtMinuteEnd_of_read? {text : List Char} {t : LocalTime}
    (h : LocalTime.read? text = some t) : t.LeapAtMinuteEnd := by
  simp only [LocalTime.read?, Option.bind_eq_bind, Option.bind_eq_some_iff, Prod.exists,
    Option.orElse_eq_some, Option.ite_none_right_eq_some] at h
  obtain ⟨d, rest, -, hclock | ⟨-, ⟨cs, -, hclock⟩ | ⟨-, hshort | ⟨-, -, hday⟩⟩⟩⟩ := h
  · obtain ⟨_, _, _, _, ht⟩ := Lenient.exists_of_clock hclock
    exact (LocalTime.of?_spec ht).2
  · obtain ⟨_, _, _, _, ht⟩ := Lenient.exists_of_clock hclock
    exact (LocalTime.of?_spec ht).2
  · obtain ⟨_, _, ht⟩ := Lenient.exists_of_shortClock hshort
    exact (LocalTime.of?_spec ht).2
  · cases hday
    exact fun hleap => absurd hleap (show ¬ secondNanos ≤ 0 by decide)

theorem IsInstantText.leapAtMinuteEnd {text : List Char} {t : LocalTime} {offset : Offset}
    (h : IsInstantText text t offset) : t.LeapAtMinuteEnd := by
  obtain ⟨-, -, -, -, ht⟩ := h
  exact (LocalTime.of?_spec ht).2

/-! ## Offsets -/

/-- The offsets of RFC 3339 are whole minutes. -/
theorem IsOffset.sixty_dvd {zone : List Char} {o : Offset} (h : IsOffset zone o) :
    60 ∣ o.seconds := by
  cases h with
  | utc => exact ⟨0, rfl⟩
  | signed hsign hhour hminute ho =>
      rw [ho]
      cases hsign <;> omega

theorem IsInstantText.sixty_dvd {text : List Char} {t : LocalTime} {offset : Offset}
    (h : IsInstantText text t offset) : 60 ∣ offset.seconds := by
  obtain ⟨-, -, -, hzone, -⟩ := h
  exact hzone.sixty_dvd

/-- The seconds of a day are whole minutes. -/
theorem LocalTime.seconds_emod_sixty (t : LocalTime) : t.seconds % 60 = (t.second % 60 : Nat) := by
  rw [seconds, show (daySeconds : Int) = 86400 from rfl]
  omega

/-- An offset keeps a leap second at the end of a minute just when it is whole minutes. -/
theorem Timestamp.leapAtMinuteEnd_iff {ts : Timestamp} {offset : Offset} {t : LocalTime}
    (ht : t.LeapAtMinuteEnd) (h : ts.toLocal? offset = some t) :
    ts.utc.LeapAtMinuteEnd ↔ (secondNanos ≤ ts.utc.nano → 60 ∣ offset.seconds) := by
  obtain ⟨hseconds, hnano⟩ := seconds_of_toLocal? h
  have hutc := ts.utc.seconds_emod_sixty
  have hlocal := t.seconds_emod_sixty
  rw [LocalTime.LeapAtMinuteEnd, hnano] at ht
  refine imp_congr_right fun hleap => ?_
  have hend := ht hleap
  omega

/-! ## What is written -/

namespace LocalTime

variable {t : LocalTime}

/-- The time that a text says: a leap second within a minute is written as the next full
    second. -/
def written (t : LocalTime) : LocalTime :=
  if h : secondNanos ≤ t.nano ∧ t.second % 60 ≠ 59 then
    { date := t.date, second := t.second + 1, nano := t.nano - secondNanos
      second_lt := by
        have hlt : t.second < 86400 := t.second_lt
        show t.second + 1 < 86400
        omega
      nano_lt := Nat.lt_of_le_of_lt (Nat.sub_le _ _) t.nano_lt }
  else
    t

theorem written_eq_self_iff : t.written = t ↔ t.LeapAtMinuteEnd := by
  rw [written, LeapAtMinuteEnd]
  split
  · rename_i h
    refine iff_of_false (fun heq => ?_) fun hend => h.2 (hend h.1)
    have hsecond : t.second + 1 = t.second := congrArg second heq
    omega
  · rename_i h
    exact iff_of_true rfl fun hleap => Classical.not_not.mp fun hend => h ⟨hleap, hend⟩

/-- What is written has its leap second, if any, at the end of a minute. -/
theorem leapAtMinuteEnd_written (t : LocalTime) : t.written.LeapAtMinuteEnd := by
  rw [written]
  split
  · intro hleap
    have hlt : t.nano < 2 * secondNanos := t.nano_lt
    have hrest : secondNanos ≤ t.nano - secondNanos := hleap
    have hunit : secondNanos = 1000000000 := rfl
    omega
  · rename_i h
    exact fun hleap => Classical.not_not.mp fun hend => h ⟨hleap, hend⟩

theorem date_written (t : LocalTime) : t.written.date = t.date := by
  rw [written]
  split <;> rfl

theorem fraction_written (t : LocalTime) : t.written.fraction = t.fraction := by
  rw [written]
  split
  · rename_i h
    exact (Nat.mod_eq_sub_mod h.1).symm
  · rfl

theorem clockText_written (t : LocalTime) : t.written.clockText = t.clockText := by
  rw [written]
  split
  · rename_i h
    obtain ⟨hleap, hend⟩ := h
    have hlt : t.nano < 2 * secondNanos := t.nano_lt
    have hunit : secondNanos = 1000000000 := rfl
    have hfull : t.nano / secondNanos = 1 := by rw [hunit]; omega
    have hrest : (t.nano - secondNanos) / secondNanos = 0 := by rw [hunit]; omega
    -- the next second is still within the minute
    have hhour : (t.second + 1) / 3600 = t.second / 3600 := by omega
    have hminute : (t.second + 1) / 60 % 60 = t.second / 60 % 60 := by omega
    have hsecond : (t.second + 1) % 60 = t.second % 60 + 1 := by omega
    simp only [clockText, hfull, hrest, hhour, hminute, hsecond, Nat.add_zero]
  · rfl

/-- A time and what is written of it have the same text. -/
theorem text_written (t : LocalTime) (mark : Char) : t.written.text mark = t.text mark := by
  rw [text, text, date_written, clockText_written, fractionText, fraction_written]
  rfl

end LocalTime

namespace Timestamp

variable {ts : Timestamp}

/-- The year of an instant in UTC has four digits. -/
def FourDigitYear (ts : Timestamp) : Prop :=
  0 ≤ ts.utc.date.year ∧ ts.utc.date.year ≤ 9999

instance (ts : Timestamp) : Decidable ts.FourDigitYear :=
  inferInstanceAs (Decidable (_ ∧ _))

theorem portable_iff : ts.Portable ↔ ts.FourDigitYear ∧ ts.utc.LeapAtMinuteEnd :=
  and_assoc.symm

/-- A text that starts with a sign is no instant. -/
theorem read?_signed {c : Char} (hc : c = '-' ∨ c = '+') (cs : List Char) :
    read? (c :: cs) = none := by
  rcases hc with rfl | rfl <;> rfl

/-- **What is read of an instant on the wire** is what was written, if its year has four
    digits; otherwise it is no instant. -/
theorem read?_wireText_eq (ts : Timestamp) :
    read? ts.wireText = if ts.FourDigitYear then some ⟨ts.utc.written⟩ else none := by
  split
  · rename_i hyear
    have hportable : Portable ⟨ts.utc.written⟩ := by
      refine portable_iff.mpr ⟨?_, ts.utc.leapAtMinuteEnd_written⟩
      rw [FourDigitYear, ts.utc.date_written]
      exact hyear
    have htext : wireText ⟨ts.utc.written⟩ = ts.wireText :=
      congrArg (· ++ ['Z']) (ts.utc.text_written 'T')
    exact htext ▸ read?_wireText hportable
  · rename_i hyear
    -- such a year is written with its sign, and the strict reader takes no sign
    have hsigned : ¬ (0 ≤ ts.utc.date.year ∧ ts.utc.date.year ≤ 9999) := hyear
    rw [wireText, LocalTime.text, Date.text, yearText, if_neg hsigned]
    simp only [List.cons_append]
    refine read?_signed ?_ _
    split
    · exact .inl rfl
    · exact .inr rfl

end Timestamp

end SpannerDialect.Calendar
