import SpannerDialect.Calendar.Printer
import SpannerDialect.Calendar.Reader
import SpannerDialect.Proofs.Text.Digits

/-! # Dates and times read back

    Every field of a date or a time is written in digits, and what follows
    it is no digit, so a reader takes each field as it was written.  Days
    are read back in the lenient manner (`Date.read?_text`), instants in
    the strict one, where the year has its four digits and a leap second
    stands at the end of a minute (`Timestamp.read?_wireText`). -/

namespace SpannerDialect.Calendar

open Text

/-! ## Fields -/

theorem digitsUpTo_append {limit : Nat} {ds : List Char} (hds : ds.all Char.isDigit = true)
    (hne : ds ≠ []) (hlen : ds.length ≤ limit) {rest : List Char} (hrest : StopsDigits rest) :
    digitsUpTo limit (ds ++ rest) = some (number ds, rest) := by
  rw [digitsUpTo]
  rw [leadingDigits_append hds hrest, List.take_of_length_le hlen, if_neg hne,
    List.drop_left]

theorem digitsExactly_padded {width n : Nat} (hw : 0 < width) (h : n < 10 ^ width)
    {rest : List Char} (hrest : StopsDigits rest) :
    digitsExactly width (padded width n ++ rest) = some (n, rest) := by
  have hlen := length_padded hw h
  rw [digitsExactly]
  rw [leadingDigits_append (all_padded width n) hrest, List.take_of_length_le (Nat.le_of_eq hlen),
    if_pos hlen, number_padded, List.drop_left' hlen]

theorem expect_self (mark : Char) (cs : List Char) : expect mark (mark :: cs) = some cs :=
  if_pos rfl

theorem isBlank_of_isDigit {c : Char} (h : c.isDigit = true) : isBlank c = false := by
  have hrange : 48 ≤ c.toNat ∧ c.toNat ≤ 57 := by
    rw [Char.isDigit, Bool.and_eq_true, decide_eq_true_iff, decide_eq_true_iff] at h
    exact h
  simp only [isBlank, blankRanges, List.any_eq_false, List.forall_mem_cons, Bool.and_eq_true,
    decide_eq_true_eq]
  refine ⟨?_, ?_, ?_, ?_, ?_, ?_, ?_, ?_, ?_, ?_, fun _ h => absurd h List.not_mem_nil⟩ <;> omega

/-- There are no blanks before digits. -/
theorem skipBlanks_digits {ds : List Char} (hds : ds.all Char.isDigit = true) (hne : ds ≠ [])
    (rest : List Char) : skipBlanks (ds ++ rest) = ds ++ rest := by
  cases ds with
  | nil => exact absurd rfl hne
  | cons c cs =>
      have hc : c.isDigit = true := (Bool.and_eq_true_iff.mp hds).1
      rw [skipBlanks, List.cons_append, List.dropWhile_cons, isBlank_of_isDigit hc,
        if_neg Bool.false_ne_true]

/-- A field of two digits. -/
theorem field_padded {n : Nat} (h : n < 100) {rest : List Char} (hrest : StopsDigits rest) :
    Lenient.field (padded 2 n ++ rest) = some (n, rest) := by
  have hlen : (padded 2 n).length = 2 := length_padded (by decide) h
  rw [Lenient.field, skipBlanks_digits (all_padded 2 n) (padded_ne_nil 2 n),
    digitsUpTo_append (all_padded 2 n) (padded_ne_nil 2 n) (Nat.le_of_eq hlen) hrest,
    number_padded]

/-! ## Days -/

/-- A year without a sign. -/
theorem year_padded {n : Nat} (h : n ≤ 9999) {rest : List Char} (hrest : StopsDigits rest) :
    Lenient.year (padded 4 n ++ rest) = some ((n : Int), rest) := by
  have hall := all_padded 4 n
  have hne := padded_ne_nil 4 n
  have hlen : (padded 4 n).length = 4 := length_padded (by decide) (by omega)
  have hdigits := digitsUpTo_append hall hne (Nat.le_of_eq hlen) hrest
  rw [number_padded] at hdigits
  rw [Lenient.year, skipBlanks_digits hall hne]
  obtain ⟨c, cs, hcons⟩ := List.exists_cons_of_ne_nil hne
  rw [hcons] at hall hdigits ⊢
  have hc : c.isDigit = true := (Bool.and_eq_true_iff.mp hall).1
  rw [List.cons_append] at hdigits ⊢
  split
  · rename_i heq
    obtain ⟨rfl, -⟩ := List.cons.inj heq
    cases hc
  · rename_i heq
    obtain ⟨rfl, -⟩ := List.cons.inj heq
    cases hc
  · rw [hdigits]
    rfl

theorem year_yearText (year : Int) {rest : List Char} (hrest : StopsDigits rest) :
    Lenient.year (yearText year ++ rest) = some (year, rest) := by
  have hall := all_padded 4 year.natAbs
  have hne := padded_ne_nil 4 year.natAbs
  -- after a sign the digits may go on for as long as there is text
  have hdigits : digitsUpTo (padded 4 year.natAbs ++ rest).length (padded 4 year.natAbs ++ rest)
      = some (year.natAbs, rest) := by
    have hlen : (padded 4 year.natAbs).length ≤ (padded 4 year.natAbs ++ rest).length := by
      rw [List.length_append]
      omega
    rw [digitsUpTo_append hall hne hlen hrest, number_padded]
  rw [yearText]
  split
  · rename_i hyear
    rw [year_padded (by omega) hrest, Int.natAbs_of_nonneg hyear.1]
  · split
    · rename_i hneg
      show (digitsUpTo (padded 4 year.natAbs ++ rest).length
        (padded 4 year.natAbs ++ rest)).map _ = _
      rw [hdigits]
      show some (-(year.natAbs : Int), rest) = _
      rw [show -(year.natAbs : Int) = year by omega]
    · rename_i hneg
      show (digitsUpTo (padded 4 year.natAbs ++ rest).length
        (padded 4 year.natAbs ++ rest)).map _ = _
      rw [hdigits]
      show some ((year.natAbs : Int), rest) = _
      rw [show (year.natAbs : Int) = year by omega]

theorem daysIn_le (year : Int) (month : Nat) : daysIn year month ≤ 31 := by
  rw [daysIn]
  split
  · split <;> decide
  · split <;> decide

theorem Date.month_lt (d : Date) : d.month < 100 := by
  obtain ⟨-, -, -, hmonth, -, -⟩ := d.valid
  omega

theorem Date.day_lt (d : Date) : d.day < 100 := by
  obtain ⟨-, -, -, -, -, hday⟩ := d.valid
  have hmost := daysIn_le d.year d.month
  omega

theorem Date.of?_self (d : Date) : Date.of? d.year d.month d.day = some d :=
  dif_pos d.valid

/-- A day is read from its text, whatever its year, and leaves what follows. -/
theorem Lenient.date_text (d : Date) {rest : List Char} (hrest : StopsDigits rest) :
    Lenient.date (d.text ++ rest) = some (d, rest) := by
  have hmark : ∀ cs, StopsDigits ('-' :: cs) := stopsDigits_cons rfl
  simp only [Date.text, List.append_assoc, List.cons_append, Lenient.date,
    year_yearText _ (hmark _), Option.bind_eq_bind, Option.bind_some, expect_self,
    field_padded d.month_lt (hmark _), field_padded d.day_lt hrest, d.of?_self]
  rfl

/-- **A day is read back from its text**, whatever its year. -/
theorem Date.read?_text (d : Date) : Date.read? d.text = some d := by
  have hdate := Lenient.date_text d stopsDigits_nil
  rw [List.append_nil] at hdate
  rw [Date.read?, hdate]
  rfl

/-! ## Instants -/

theorem digitsExactly_two {n : Nat} (h : n < 100) {rest : List Char} (hrest : StopsDigits rest) :
    digitsExactly 2 (padded 2 n ++ rest) = some (n, rest) :=
  digitsExactly_padded (by decide) h hrest

/-- A day with a year of four digits, in the strict manner. -/
theorem Date.strict_text {d : Date} (h0 : 0 ≤ d.year) (h1 : d.year ≤ 9999) {rest : List Char}
    (hrest : StopsDigits rest) : Strict.date (d.text ++ rest) = some (d, rest) := by
  have hmark : ∀ cs, StopsDigits ('-' :: cs) := stopsDigits_cons rfl
  have hyear : ∀ cs, digitsExactly 4 (padded 4 d.year.natAbs ++ '-' :: cs)
      = some (d.year.natAbs, '-' :: cs) :=
    fun cs => digitsExactly_padded (by decide) (by omega) (hmark cs)
  have hof : Date.of? (d.year.natAbs : Int) d.month d.day = some d := by
    rw [Int.natAbs_of_nonneg h0, d.of?_self]
  rw [Date.text, yearText, if_pos ⟨h0, h1⟩, Strict.date]
  simp only [List.append_assoc, List.cons_append, hyear, Option.bind_eq_bind, Option.bind_some,
    expect_self, digitsExactly_two d.month_lt (hmark _), digitsExactly_two d.day_lt hrest, hof]
  rfl

/-- A fraction of at most nine digits. -/
theorem readFraction_padded {width n : Nat} (hw : 0 < width) (hle : width ≤ 9)
    (h : n < 10 ^ width) {rest : List Char} (hrest : StopsDigits rest) :
    readFraction ('.' :: (padded width n ++ rest)) = some (n * placeValue (9 - width), rest) := by
  have hall := all_padded width n
  have hlen := length_padded hw h
  rw [readFraction, leadingDigits_append hall hrest, afterDigits_append hall hrest,
    if_neg (padded_ne_nil _ _), List.take_of_length_le (by omega), number_padded, hlen]

namespace LocalTime

/-- A fraction is read back, however many digits it is written in. -/
theorem readFraction_fractionText (t : LocalTime) :
    readFraction (t.fractionText ++ ['Z']) = some (t.fraction, ['Z']) := by
  have hlt : t.fraction < 1000000000 := Nat.mod_lt _ (by decide)
  have hrest : StopsDigits ['Z'] := stopsDigits_cons rfl []
  rw [fractionText]
  split
  · rename_i hzero
    rw [hzero]
    rfl
  · split
    · rename_i hmillis
      have hsize : t.fraction / 1000000 < 10 ^ 3 := by omega
      rw [List.cons_append, readFraction_padded (by decide) (by decide) hsize hrest,
        show placeValue (9 - 3) = 1000000 from rfl,
        Nat.div_mul_cancel (Nat.dvd_of_mod_eq_zero hmillis)]
    · split
      · rename_i hmicros
        have hsize : t.fraction / 1000 < 10 ^ 6 := by omega
        rw [List.cons_append, readFraction_padded (by decide) (by decide) hsize hrest,
          show placeValue (9 - 6) = 1000 from rfl,
          Nat.div_mul_cancel (Nat.dvd_of_mod_eq_zero hmicros)]
      · rw [List.cons_append, readFraction_padded (by decide) (by decide) hlt hrest]
        show some (t.fraction * 1, _) = _
        rw [Nat.mul_one]

/-- A leap second, if the time is in one, ends a minute. -/
def LeapAtMinuteEnd (t : LocalTime) : Prop :=
  secondNanos ≤ t.nano → t.second % 60 = 59

/-- A time is made up of its fields. -/
theorem of?_fields {t : LocalTime} (h : t.LeapAtMinuteEnd) :
    LocalTime.of? t.date (t.second / 3600) (t.second / 60 % 60)
      (t.second % 60 + t.nano / secondNanos) t.fraction = some t := by
  obtain ⟨date, second, nano, hsecond, hnano⟩ := t
  have hday : second < 86400 := hsecond
  have hunit : secondNanos = 1000000000 := rfl
  simp only [LeapAtMinuteEnd, fraction, hunit] at h hnano ⊢
  -- a leap second is written as the second 60 and read as one
  by_cases hleap : 1000000000 ≤ nano
  · have hend := h hleap
    have hone : nano / 1000000000 = 1 := by omega
    rw [LocalTime.of?, dif_pos (by rw [hunit]; omega), dif_pos (by omega)]
    congr 2
    · omega
    · rw [hunit]
      omega
  · have hzero : nano / 1000000000 = 0 := by omega
    rw [LocalTime.of?, dif_pos (by rw [hunit]; omega), dif_neg (by omega)]
    congr 2
    · omega
    · omega

/-- Moving by nothing changes nothing. -/
theorem shift?_zero (t : LocalTime) : t.shift? 0 = some t := by
  obtain ⟨date, second, nano, hsecond, hnano⟩ := t
  have hday : second < 86400 := hsecond
  have hdiv : ((second : Int) + 0) / (daySeconds : Nat) = 0 := by
    show ((second : Int) + 0) / 86400 = 0
    omega
  have hmod : (((second : Int) + 0) % (daySeconds : Nat)).toNat = second := by
    show (((second : Int) + 0) % 86400).toNat = second
    omega
  rw [shift?]
  rw [hdiv]
  refine congrArg some ?_
  simp only [hmod]

end LocalTime

/-- An instant that RFC 3339 can write: its year has four digits, and a leap
    second ends a minute. -/
def Timestamp.Portable (ts : Timestamp) : Prop :=
  0 ≤ ts.utc.date.year ∧ ts.utc.date.year ≤ 9999 ∧ ts.utc.LeapAtMinuteEnd

theorem Strict.offset_utc : Strict.offset ['Z'] = some .utc :=
  rfl

/-- **An instant is read back from its text.** -/
theorem Timestamp.read?_wireText {ts : Timestamp} (h : ts.Portable) :
    Timestamp.read? ts.wireText = some ts := by
  obtain ⟨h0, h1, hleap⟩ := h
  have hhour : ts.utc.second / 3600 < 100 := by
    have hlt : ts.utc.second < 86400 := ts.utc.second_lt
    omega
  have hminute : ts.utc.second / 60 % 60 < 100 := by omega
  have hsecond : ts.utc.second % 60 + ts.utc.nano / secondNanos < 100 := by
    have hlt : ts.utc.nano < 2 * 1000000000 := ts.utc.nano_lt
    show ts.utc.second % 60 + ts.utc.nano / 1000000000 < 100
    omega
  have hmark : ∀ cs, StopsDigits ('T' :: cs) := stopsDigits_cons rfl
  have hcolon : ∀ cs, StopsDigits (':' :: cs) := stopsDigits_cons rfl
  have hfraction : StopsDigits (ts.utc.fractionText ++ ['Z']) := by
    rw [LocalTime.fractionText]
    split
    · exact stopsDigits_cons rfl []
    · split
      · exact stopsDigits_cons rfl _
      · split <;> exact stopsDigits_cons rfl _
  have hseparator : ∀ cs, Strict.separator ('T' :: cs) = some cs := fun cs => rfl
  have hutc : Timestamp.ofLocal? .utc ts.utc = some ts := by
    show (ts.utc.shift? 0).map Timestamp.mk = some ts
    rw [ts.utc.shift?_zero]
    rfl
  rw [Timestamp.wireText, LocalTime.text, LocalTime.clockText, Timestamp.read?]
  simp only [List.append_assoc, List.cons_append, Date.strict_text h0 h1 (hmark _),
    Option.bind_eq_bind, Option.bind_some, hseparator, digitsExactly_two hhour (hcolon _),
    expect_self, digitsExactly_two hminute (hcolon _), digitsExactly_two hsecond hfraction,
    ts.utc.readFraction_fractionText, Strict.offset_utc, LocalTime.of?_fields hleap, hutc]

end SpannerDialect.Calendar
