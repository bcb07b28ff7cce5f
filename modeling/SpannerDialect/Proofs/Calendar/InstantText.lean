import SpannerDialect.Proofs.Calendar.Count
import SpannerDialect.Proofs.Calendar.Reader

/-! # Texts of instants

    The form of RFC 3339 as a grammar: a day whose year has four digits, a time of day
    in full width and an offset (`IsInstantText`).  The reader of instants takes just
    the texts of this form (`Timestamp.read?_eq_some_iff`), and every one of them,
    since no such year comes near the ends of the calendar
    (`Timestamp.exists_read?_iff`).  The text of a day alone is not of this form, and
    as a local time it is read as the first moment of the day
    (`LocalTime.read?_of_date`). -/

namespace SpannerDialect.Calendar

open Text

/-! ## Fields in full width -/

theorem expect_eq_some_iff {mark : Char} {cs rest : List Char} :
    expect mark cs = some rest ↔ cs = mark :: rest := by
  cases cs with
  | nil => exact iff_of_false nofun nofun
  | cons c cs =>
      rw [expect]
      by_cases hc : c = mark
      · rw [if_pos hc, Option.some.injEq, List.cons.injEq, and_iff_right hc]
      · rw [if_neg hc]
        exact iff_of_false nofun fun h => hc (List.cons.inj h).1

/-- A field of full width is a padded number. -/
theorem digitsExactly_eq_some_iff {width n : Nat} (hw : 0 < width) {cs rest : List Char} :
    digitsExactly width cs = some (n, rest) ↔
      n < 10 ^ width ∧ cs = padded width n ++ rest := by
  constructor
  · intro h
    rw [digitsExactly] at h
    obtain ⟨hlen, h⟩ := Option.ite_none_right_eq_some.mp h
    obtain ⟨rfl, rfl⟩ := Prod.mk.inj (Option.some.inj h)
    have hall : ((leadingDigits cs).take width).all Char.isDigit = true :=
      List.all_eq_true.mpr fun c hc =>
        List.all_eq_true.mp List.all_takeWhile c (List.mem_of_mem_take hc)
    have hne : (leadingDigits cs).take width ≠ [] :=
      List.ne_nil_of_length_pos (hlen.symm ▸ hw)
    have hprefix : (leadingDigits cs).take width <+: cs :=
      (List.take_prefix _ _).trans (List.takeWhile_prefix _)
    have hlt := number_lt hall
    have hpadded := padded_number hall hne
    rw [hlen] at hlt hpadded
    refine ⟨hlt, ?_⟩
    rw [hpadded]
    conv => rhs; lhs; rw [List.prefix_iff_eq_take.mp hprefix, hlen]
    exact (List.take_append_drop width cs).symm
  · rintro ⟨hlt, rfl⟩
    have hlen := length_padded hw hlt
    have hleading : (leadingDigits (padded width n ++ rest)).take width = padded width n := by
      rw [leadingDigits, List.takeWhile_append_of_pos (List.all_eq_true.mp (all_padded width n)),
        List.take_left' hlen]
    rw [digitsExactly]
    rw [hleading, if_pos hlen, number_padded, List.drop_left' hlen]

theorem digitsExactly_two_iff {n : Nat} {cs rest : List Char} :
    digitsExactly 2 cs = some (n, rest) ↔ n < 100 ∧ cs = padded 2 n ++ rest :=
  digitsExactly_eq_some_iff (by decide)

/-- A day in the strict manner is the text of a day whose year has four digits. -/
theorem Strict.date_eq_some_iff {cs rest : List Char} {d : Date} :
    Strict.date cs = some (d, rest) ↔
      (0 ≤ d.year ∧ d.year ≤ 9999) ∧ cs = d.text ++ rest := by
  simp only [Strict.date, Option.bind_eq_bind, Option.bind_eq_some_iff, Prod.exists,
    expect_eq_some_iff, digitsExactly_eq_some_iff (show 0 < 4 by decide), digitsExactly_two_iff]
  constructor
  · rintro ⟨y, _, ⟨hy, rfl⟩, _, rfl, m, _, ⟨-, rfl⟩, _, rfl, day, _, ⟨-, rfl⟩, e, he, hpair⟩
    obtain ⟨rfl, rfl⟩ := Prod.mk.inj (Option.some.inj hpair)
    obtain ⟨hyear, rfl, rfl⟩ := Date.of?_eq_some_iff.mp he
    have hfour : 0 ≤ e.year ∧ e.year ≤ 9999 := by omega
    have habs : e.year.natAbs = y := by omega
    refine ⟨hfour, ?_⟩
    rw [Date.text, yearText, if_pos hfour, habs]
    simp only [List.append_assoc, List.cons_append]
  · rintro ⟨hyear, rfl⟩
    refine ⟨d.year.natAbs, _, ⟨by omega, ?_⟩, _, rfl, d.month, _, ⟨d.month_lt, rfl⟩, _, rfl, d.day,
      rest, ⟨d.day_lt, rfl⟩, d, ?_, rfl⟩
    · rw [Date.text, yearText, if_pos hyear]
      simp only [List.append_assoc, List.cons_append]
    · rw [Int.natAbs_of_nonneg hyear.1, d.of?_self]

/-! ## The form -/

/-- A fraction of a second and its nanoseconds: nothing, or a point and digits, of
    which those behind the ninth count for nothing. -/
inductive IsFraction : List Char → Nat → Prop
  | none : IsFraction [] 0
  | digits {ds : List Char} (hds : ds.all Char.isDigit = true) (hne : ds ≠ []) :
      IsFraction ('.' :: ds) (number (ds.take 9) * placeValue (9 - ds.length))

/-- A sign of an offset; the minus sign of mathematics may stand for the hyphen. -/
inductive IsOffsetSign : Char → Int → Prop
  | east : IsOffsetSign '+' 1
  | west : IsOffsetSign '-' (-1)
  | minus : IsOffsetSign '−' (-1)

/-- An offset: the letter of UTC, or a sign with hours and minutes. -/
inductive IsOffset : List Char → Offset → Prop
  | utc {c : Char} (h : c = 'Z' ∨ c = 'z') : IsOffset [c] .utc
  | signed {c : Char} {sign : Int} {hour minute : Nat} {o : Offset} (hsign : IsOffsetSign c sign)
      (hhour : hour < 24) (hminute : minute < 60)
      (ho : o.seconds = sign * (hour * 3600 + minute * 60)) :
      IsOffset (c :: (padded 2 hour ++ ':' :: padded 2 minute)) o

/-- The text of a local time and an offset in the form of RFC 3339: a day whose year
    has four digits, a mark, a time of day in full width, and the offset. -/
inductive IsInstantText : List Char → LocalTime → Offset → Prop
  | intro {date : Date} {mark : Char} {hour minute second nano : Nat} {fraction zone : List Char}
      {t : LocalTime} {offset : Offset} (hyear : 0 ≤ date.year ∧ date.year ≤ 9999)
      (hmark : mark = 'T' ∨ mark = 't' ∨ mark = ' ') (hfraction : IsFraction fraction nano)
      (hzone : IsOffset zone offset)
      (htime : LocalTime.of? date hour minute second nano = some t) :
      IsInstantText (date.text ++ mark :: (padded 2 hour ++ ':' :: (padded 2 minute ++
        ':' :: (padded 2 second ++ (fraction ++ zone))))) t offset

/-! ## The reader -/

theorem exists_isFraction {cs rest : List Char} {nano : Nat}
    (h : readFraction cs = some (nano, rest)) :
    ∃ fraction, IsFraction fraction nano ∧ cs = fraction ++ rest := by
  unfold readFraction at h
  split at h
  · rename_i ds
    obtain ⟨hne, h⟩ := Option.ite_none_left_eq_some.mp h
    obtain ⟨rfl, rfl⟩ := Prod.mk.inj (Option.some.inj h)
    refine ⟨'.' :: leadingDigits ds, .digits List.all_takeWhile hne, ?_⟩
    rw [List.cons_append, leadingDigits, afterDigits, List.takeWhile_append_dropWhile]
  · obtain ⟨rfl, rfl⟩ := Prod.mk.inj (Option.some.inj h)
    exact ⟨[], .none, rfl⟩

/-- What starts an offset does not go on with a fraction. -/
theorem IsOffset.exists_cons {zone : List Char} {o : Offset} (h : IsOffset zone o) :
    ∃ c cs, zone = c :: cs ∧ c.isDigit = false ∧ c ≠ '.' := by
  cases h with
  | @utc c hc =>
      refine ⟨c, [], rfl, ?_⟩
      rcases hc with rfl | rfl <;> decide
  | signed hsign =>
      refine ⟨_, _, rfl, ?_⟩
      cases hsign <;> decide

theorem readFraction_append {fraction zone : List Char} {nano : Nat} {o : Offset}
    (h : IsFraction fraction nano) (hzone : IsOffset zone o) :
    readFraction (fraction ++ zone) = some (nano, zone) := by
  obtain ⟨c, cs, rfl, hdigit, hpoint⟩ := hzone.exists_cons
  cases h with
  | none =>
      rw [List.nil_append]
      unfold readFraction
      split
      · rename_i heq
        exact absurd (List.cons.inj heq).1 hpoint
      · rfl
  | @digits ds hds hne =>
      have hrest := stopsDigits_cons hdigit cs
      rw [List.cons_append, readFraction]
      rw [leadingDigits_append hds hrest, afterDigits_append hds hrest, if_neg hne]

theorem Strict.offsetSize_eq_some_iff {cs rest : List Char} {n : Nat} :
    Strict.offsetSize cs = some (n, rest) ↔
      ∃ hour minute, (hour < 24 ∧ minute < 60) ∧ n = hour * 3600 + minute * 60 ∧
        cs = padded 2 hour ++ ':' :: (padded 2 minute ++ rest) := by
  simp only [Strict.offsetSize, Option.bind_eq_bind, Option.bind_eq_some_iff, Prod.exists,
    expect_eq_some_iff, digitsExactly_two_iff, Option.ite_none_right_eq_some, Option.some.injEq,
    Prod.mk.injEq]
  constructor
  · rintro ⟨hour, _, ⟨-, rfl⟩, _, rfl, minute, _, ⟨-, rfl⟩, hlt, rfl, rfl⟩
    exact ⟨hour, minute, hlt, rfl, rfl⟩
  · rintro ⟨hour, minute, hlt, rfl, rfl⟩
    exact ⟨hour, _, ⟨by omega, rfl⟩, _, rfl, minute, rest, ⟨by omega, rfl⟩, hlt, rfl, rfl⟩

theorem Offset.of?_eq_some_iff {n : Int} {o : Offset} : Offset.of? n = some o ↔ o.seconds = n := by
  rw [Offset.of?]
  constructor
  · intro h
    split at h
    · cases h
      rfl
    · cases h
  · rintro rfl
    exact dif_pos o.within

theorem Strict.offset_eq_some_iff {cs : List Char} {o : Offset} :
    Strict.offset cs = some o ↔ IsOffset cs o := by
  constructor
  · intro h
    cases cs with
    | nil => cases h
    | cons c cs =>
      rw [Strict.offset] at h
      split at h
      · rename_i hutc
        obtain ⟨rfl, h⟩ := Option.ite_none_right_eq_some.mp h
        cases h
        exact .utc hutc
      · obtain ⟨hsign, h⟩ := Option.ite_none_right_eq_some.mp h
        simp only [Option.bind_eq_bind, Option.bind_eq_some_iff, Prod.exists,
          Strict.offsetSize_eq_some_iff, Option.ite_none_right_eq_some, Offset.of?_eq_some_iff] at h
        obtain ⟨n, rest, ⟨hour, minute, ⟨hhour, hminute⟩, rfl, rfl⟩, rfl, ho⟩ := h
        rw [List.append_nil]
        rcases hsign with rfl | hminus
        · exact .signed .east hhour hminute (by rw [ho, if_neg (by decide)]; omega)
        · rw [if_pos hminus] at ho
          rw [isMinus, Bool.or_eq_true, decide_eq_true_iff, decide_eq_true_iff] at hminus
          rcases hminus with rfl | rfl
          · exact .signed .west hhour hminute (by omega)
          · exact .signed .minus hhour hminute (by omega)
  · intro h
    cases h with
    | @utc c hc =>
        rw [Strict.offset, if_pos hc, if_pos rfl]
    | @signed c sign hour minute o hsign hhour hminute ho =>
        have hsize : Strict.offsetSize (padded 2 hour ++ ':' :: padded 2 minute) =
            some (hour * 3600 + minute * 60, []) :=
          Strict.offsetSize_eq_some_iff.mpr
            ⟨hour, minute, ⟨hhour, hminute⟩, rfl, by rw [List.append_nil]⟩
        have hutc : ¬ (c = 'Z' ∨ c = 'z') := by cases hsign <;> decide
        have hmark : c = '+' ∨ isMinus c = true := by cases hsign <;> decide
        rw [Strict.offset, if_neg hutc, if_pos hmark, hsize]
        refine Offset.of?_eq_some_iff.mpr ?_
        rw [ho]
        cases hsign with
        | east =>
            rw [if_neg (by decide)]
            omega
        | west | minus =>
            rw [if_pos (by decide)]
            omega

theorem Strict.separator_eq_some_iff {cs rest : List Char} :
    Strict.separator cs = some rest ↔
      ∃ mark, (mark = 'T' ∨ mark = 't' ∨ mark = ' ') ∧ cs = mark :: rest := by
  cases cs with
  | nil => exact iff_of_false nofun (by rintro ⟨mark, -, h⟩; cases h)
  | cons c cs =>
      rw [Strict.separator, Option.ite_none_right_eq_some, Option.some.injEq]
      constructor
      · rintro ⟨hmark, rfl⟩
        exact ⟨c, hmark, rfl⟩
      · rintro ⟨mark, hmark, h⟩
        obtain ⟨rfl, rfl⟩ := List.cons.inj h
        exact ⟨hmark, rfl⟩

/-- The fields of a time are in range. -/
theorem LocalTime.fields_of_of? {d : Date} {hour minute second nano : Nat} {t : LocalTime}
    (h : LocalTime.of? d hour minute second nano = some t) :
    hour < 24 ∧ minute < 60 ∧ second ≤ 60 ∧ nano < secondNanos := by
  rw [LocalTime.of?] at h
  split at h
  · assumption
  · cases h

/-- **The reader takes the texts of RFC 3339**, for the instant of the local time at the
    offset that they are made of. -/
theorem Timestamp.read?_eq_some_iff {text : List Char} {ts : Timestamp} :
    Timestamp.read? text = some ts ↔
      ∃ t offset, IsInstantText text t offset ∧ Timestamp.ofLocal? offset t = some ts := by
  simp only [Timestamp.read?, Option.bind_eq_bind, Option.bind_eq_some_iff, Prod.exists,
    expect_eq_some_iff, digitsExactly_two_iff, Strict.date_eq_some_iff,
    Strict.separator_eq_some_iff, Strict.offset_eq_some_iff]
  constructor
  · rintro ⟨d, _, ⟨hyear, rfl⟩, _, ⟨mark, hmark, rfl⟩, hour, _, ⟨-, rfl⟩, _, rfl, minute, _,
      ⟨-, rfl⟩, _, rfl, second, rest, ⟨-, rfl⟩, nano, zone, hnano, offset, hzone, t, ht, hts⟩
    obtain ⟨fraction, hfraction, rfl⟩ := exists_isFraction hnano
    exact ⟨t, offset, .intro hyear hmark hfraction hzone ht, hts⟩
  · rintro ⟨t, offset, h, hts⟩
    obtain ⟨hyear, hmark, hfraction, hzone, ht⟩ := h
    obtain ⟨hhour, hminute, hsecond, -⟩ := LocalTime.fields_of_of? ht
    exact ⟨_, _, ⟨hyear, rfl⟩, _, ⟨_, hmark, rfl⟩, _, _, ⟨by omega, rfl⟩, _, rfl, _, _,
      ⟨by omega, rfl⟩, _, rfl, _, _, ⟨by omega, rfl⟩, _, _, readFraction_append hfraction hzone, _,
      hzone, t, ht, hts⟩

/-! ## The range of the years -/

/-- A time has the day it was made of, and ends a minute where it is in a leap
    second. -/
theorem LocalTime.of?_spec {d : Date} {hour minute second nano : Nat} {t : LocalTime}
    (h : LocalTime.of? d hour minute second nano = some t) :
    t.date = d ∧ t.LeapAtMinuteEnd := by
  rw [LocalTime.of?] at h
  split at h
  · rename_i hfields
    split at h
    · cases h
      refine ⟨rfl, fun _ => ?_⟩
      show (hour * 3600 + minute * 60 + 59) % 60 = 59
      omega
    · cases h
      exact ⟨rfl, fun hleap => absurd hfields.2.2.2 (Nat.not_lt.mpr hleap)⟩
  · cases h

/-- A time whose year has four digits has an instant at every offset. -/
theorem Timestamp.exists_ofLocal? {t : LocalTime} (offset : Offset)
    (h : 0 ≤ t.date.year ∧ t.date.year ≤ 9999) : ∃ ts, Timestamp.ofLocal? offset t = some ts := by
  cases hts : Timestamp.ofLocal? offset t with
  | some ts => exact ⟨ts, rfl⟩
  | none =>
      obtain ⟨hlow, hhigh⟩ := t.date.number_of_year
      have hstart := daysBeforeYear_mono h.1
      have hend := daysBeforeYear_mono (Int.add_le_add_right h.2 1)
      have hzero : daysBeforeYear 0 = 0 := by decide
      have hlast : daysBeforeYear (9999 + 1) = 3652425 := by decide
      have hfirst : LocalTime.firstSecond < -86400 := by decide
      have hafter : (3652426 : Int) * 86400 < LocalTime.lastSecond := by decide
      have hsecond : t.second < 86400 := t.second_lt
      obtain ⟨hwest, heast⟩ := offset.within
      have hout := Timestamp.ofLocal?_eq_none_iff.mp hts
      rw [LocalTime.seconds, show (daySeconds : Int) = 86400 from rfl] at hout
      omega

theorem IsInstantText.exists_ofLocal? {text : List Char} {t : LocalTime} {offset : Offset}
    (h : IsInstantText text t offset) : ∃ ts, Timestamp.ofLocal? offset t = some ts := by
  obtain ⟨hyear, -, -, -, ht⟩ := h
  obtain ⟨rfl, -⟩ := LocalTime.of?_spec ht
  exact Timestamp.exists_ofLocal? offset hyear

/-- A text with an offset of its own: one in the form of RFC 3339. -/
def HasOffset (text : List Char) : Prop :=
  ∃ t offset, IsInstantText text t offset

/-- The texts of the form are read, and no others. -/
theorem Timestamp.exists_read?_iff {text : List Char} :
    (∃ ts, Timestamp.read? text = some ts) ↔ HasOffset text := by
  constructor
  · rintro ⟨ts, h⟩
    obtain ⟨t, offset, htext, -⟩ := Timestamp.read?_eq_some_iff.mp h
    exact ⟨t, offset, htext⟩
  · rintro ⟨t, offset, htext⟩
    obtain ⟨ts, hts⟩ := htext.exists_ofLocal?
    exact ⟨ts, Timestamp.read?_eq_some_iff.mpr ⟨t, offset, htext, hts⟩⟩

theorem Timestamp.read?_eq_none_iff {text : List Char} :
    Timestamp.read? text = none ↔ ¬ HasOffset text := by
  rw [← Timestamp.exists_read?_iff, Option.eq_none_iff_forall_ne_some, not_exists]

/-! ## Texts of days -/

/-- A text in the form of RFC 3339 goes on behind its day. -/
theorem HasOffset.not_date {text : List Char} (h : HasOffset text) : Date.read? text = none := by
  obtain ⟨t, offset, htext⟩ := h
  obtain ⟨-, hmark, -, -, -⟩ := htext
  have hrest : ∀ {mark : Char} (cs : List Char), mark = 'T' ∨ mark = 't' ∨ mark = ' ' →
      StopsDigits (mark :: cs) := by
    rintro mark cs (rfl | rfl | rfl) <;> exact stopsDigits_cons rfl cs
  rw [Date.read?, Lenient.date_text _ (hrest _ hmark)]
  rfl

/-- The text of a day alone, read as a local time, is the first moment of the day. -/
theorem LocalTime.read?_of_date {text : List Char} {d : Date} (h : Date.read? text = some d) :
    LocalTime.read? text = some (.midnight d) := by
  simp only [Date.read?, Option.bind_eq_bind, Option.bind_eq_some_iff, Prod.exists,
    Option.ite_none_right_eq_some, Option.some.injEq] at h
  obtain ⟨_, _, hdate, rfl, rfl⟩ := h
  rw [LocalTime.read?, hdate]
  rfl

end SpannerDialect.Calendar
