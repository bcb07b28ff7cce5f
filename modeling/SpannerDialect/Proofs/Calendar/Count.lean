import SpannerDialect.Calendar.Timestamp

/-! # Days and seconds counted

    The days are numbered from the first day of the year zero, and every number has
    one day at most (`Date.number_inj`).  The neighbours of a day are the days with
    the numbers beside its own, so a time that is moved ends up just as many seconds
    away, and cannot be moved only out of the calendar (`LocalTime.shift?_eq_some_iff`,
    `LocalTime.shift?_eq_none_iff`).  So an instant and its local time at an offset
    determine each other (`Timestamp.ofLocal?_eq_some_iff`). -/

namespace SpannerDialect.Calendar

/-! ## Days before a year and a month -/

/-- The days from the first day of the year zero to that of a year: of the years
    before it, every fourth one has a day more, but of the full centuries only every
    fourth. -/
def daysBeforeYear (year : Int) : Int :=
  365 * year + (year + 3) / 4 - (year + 99) / 100 + (year + 399) / 400

/-- The days of a year before a month. -/
def daysBeforeMonth (year : Int) : Nat → Nat
  | 0 | 1 => 0
  | month + 2 => daysBeforeMonth year (month + 1) + daysIn year (month + 1)

/-- The days from the first day of the year zero to a day. -/
def Date.number (d : Date) : Int :=
  daysBeforeYear d.year + daysBeforeMonth d.year d.month + (d.day - 1)

example : Date.number ⟨1970, 1, 1, by decide⟩ = 719528 := by decide

theorem isLeap_iff (year : Int) :
    isLeap year = true ↔ year % 4 = 0 ∧ (year % 100 ≠ 0 ∨ year % 400 = 0) := by
  simp only [isLeap, Bool.and_eq_true, Bool.or_eq_true, decide_eq_true_eq]

theorem daysBeforeYear_mono {a b : Int} (h : a ≤ b) : daysBeforeYear a ≤ daysBeforeYear b := by
  unfold daysBeforeYear
  omega

theorem daysBeforeMonth_succ (year : Int) {month : Nat} (h : 0 < month) :
    daysBeforeMonth year (month + 1) = daysBeforeMonth year month + daysIn year month := by
  cases month with
  | zero => cases h
  | succ month => rfl

theorem daysBeforeMonth_mono (year : Int) {a b : Nat} (h : a ≤ b) :
    daysBeforeMonth year a ≤ daysBeforeMonth year b := by
  induction h with
  | refl => exact Nat.le_refl _
  | @step b h ih =>
      cases b with
      | zero => exact ih
      | succ b => exact Nat.le_trans ih (Nat.le_add_right ..)

theorem daysBeforeMonth_thirteen (year : Int) :
    daysBeforeMonth year 13 = 365 + if isLeap year = true then 1 else 0 := by
  cases hleap : isLeap year <;> simp [daysBeforeMonth, daysIn, hleap]

/-- Twelve months fill a year. -/
theorem daysBeforeYear_succ (year : Int) :
    daysBeforeYear (year + 1) = daysBeforeYear year + daysBeforeMonth year 13 := by
  have hleap := isLeap_iff year
  rw [daysBeforeMonth_thirteen]
  unfold daysBeforeYear
  by_cases h : isLeap year = true
  · rw [if_pos h]
    rw [hleap] at h
    omega
  · rw [if_neg h]
    rw [hleap] at h
    omega

namespace Date

variable {d e : Date}

/-! ## Days -/

/-- A day lies within its month. -/
theorem number_of_month (d : Date) :
    daysBeforeYear d.year + daysBeforeMonth d.year d.month ≤ d.number ∧
      d.number < daysBeforeYear d.year + daysBeforeMonth d.year (d.month + 1) := by
  obtain ⟨-, -, hmonth, -, hday, hlast⟩ := d.valid
  rw [daysBeforeMonth_succ d.year hmonth, number]
  omega

/-- A day lies within its year. -/
theorem number_of_year (d : Date) :
    daysBeforeYear d.year ≤ d.number ∧ d.number < daysBeforeYear (d.year + 1) := by
  obtain ⟨hlow, hhigh⟩ := d.number_of_month
  obtain ⟨-, -, -, hmonth, -, -⟩ := d.valid
  have hmono : daysBeforeMonth d.year (d.month + 1) ≤ daysBeforeMonth d.year 13 :=
    daysBeforeMonth_mono d.year (Nat.succ_le_succ hmonth)
  rw [daysBeforeYear_succ]
  omega

theorem year_eq_of_number (h : d.number = e.number) : d.year = e.year := by
  obtain ⟨hdlow, hdhigh⟩ := d.number_of_year
  obtain ⟨helow, hehigh⟩ := e.number_of_year
  -- the years fill stretches of numbers that do not overlap
  rcases Int.lt_trichotomy d.year e.year with hlt | heq | hgt
  · have hmono := daysBeforeYear_mono (Int.add_one_le_of_lt hlt)
    omega
  · exact heq
  · have hmono := daysBeforeYear_mono (Int.add_one_le_of_lt hgt)
    omega

theorem month_eq_of_number (h : d.number = e.number) : d.month = e.month := by
  have hyear := year_eq_of_number h
  obtain ⟨hdlow, hdhigh⟩ := d.number_of_month
  obtain ⟨helow, hehigh⟩ := e.number_of_month
  rw [hyear] at hdlow hdhigh
  rcases Nat.lt_trichotomy d.month e.month with hlt | heq | hgt
  · have hmono : daysBeforeMonth e.year (d.month + 1) ≤ daysBeforeMonth e.year e.month :=
      daysBeforeMonth_mono e.year hlt
    omega
  · exact heq
  · have hmono : daysBeforeMonth e.year (e.month + 1) ≤ daysBeforeMonth e.year d.month :=
      daysBeforeMonth_mono e.year hgt
    omega

theorem eq_of_fields (hyear : d.year = e.year) (hmonth : d.month = e.month)
    (hday : d.day = e.day) : d = e := by
  cases d
  cases e
  cases hyear
  cases hmonth
  cases hday
  rfl

/-- A day is told by its number. -/
theorem number_inj : d.number = e.number ↔ d = e := by
  constructor
  · intro h
    have hyear := year_eq_of_number h
    have hmonth := month_eq_of_number h
    rw [number, number, hyear, hmonth] at h
    exact eq_of_fields hyear hmonth (by omega)
  · rintro rfl
    rfl

/-! ## Neighbours -/

theorem of?_eq_some_iff {year : Int} {month day : Nat} :
    of? year month day = some d ↔ d.year = year ∧ d.month = month ∧ d.day = day := by
  constructor
  · intro h
    rw [of?] at h
    split at h
    · cases h
      exact ⟨rfl, rfl, rfl⟩
    · cases h
  · rintro ⟨rfl, rfl, rfl⟩
    exact dif_pos d.valid

theorem of?_eq_none_iff {year : Int} {month day : Nat} :
    of? year month day = none ↔ ¬ IsDay year month day := by
  rw [of?]
  split
  · rename_i hday
    exact iff_of_false (Option.some_ne_none _) (not_not_intro hday)
  · rename_i hday
    exact iff_of_true rfl hday

theorem one_le_daysIn (year : Int) (month : Nat) : 1 ≤ daysIn year month := by
  rw [daysIn]
  split
  · split <;> decide
  · split <;> decide

theorem number_next? (h : d.next? = some e) : e.number = d.number + 1 := by
  obtain ⟨-, -, hfirst, hmonth, -, hlast⟩ := d.valid
  rw [next?] at h
  split at h
  · obtain ⟨hy, hm, hd⟩ := of?_eq_some_iff.mp h
    rw [number, number, hy, hm, hd]
    omega
  · -- the last day of a month: the numbers of the month after go on from here
    have hday : d.day = daysIn d.year d.month := by omega
    have hsucc := daysBeforeMonth_succ d.year hfirst
    split at h
    · obtain ⟨hy, hm, hd⟩ := of?_eq_some_iff.mp h
      rw [number, number, hy, hm, hd, hsucc, hday]
      omega
    · obtain ⟨hy, hm, hd⟩ := of?_eq_some_iff.mp h
      have hdecember : d.month = 12 := by omega
      rw [hdecember] at hsucc hday
      rw [number, number, hy, hm, hd, daysBeforeYear_succ, hsucc, hdecember, hday,
        show daysBeforeMonth (d.year + 1) 1 = 0 from rfl]
      omega

theorem number_previous? (h : d.previous? = some e) : e.number = d.number - 1 := by
  obtain ⟨-, -, hfirst, hmonth, hday, -⟩ := d.valid
  rw [previous?] at h
  split at h
  · obtain ⟨hy, hm, hd⟩ := of?_eq_some_iff.mp h
    rw [number, number, hy, hm, hd]
    omega
  · split at h
    · rename_i hlater
      obtain ⟨hy, hm, hd⟩ := of?_eq_some_iff.mp h
      have hsucc := daysBeforeMonth_succ d.year (Nat.sub_pos_of_lt hlater)
      rw [Nat.sub_add_cancel hfirst] at hsucc
      rw [number, number, hy, hm, hd, hsucc]
      omega
    · obtain ⟨hy, hm, hd⟩ := of?_eq_some_iff.mp h
      have hyear := daysBeforeYear_succ (d.year - 1)
      rw [Int.sub_add_cancel, daysBeforeMonth_succ _ (by decide),
        show daysIn (d.year - 1) 12 = 31 from rfl] at hyear
      have hjanuary : d.month = 1 := by omega
      rw [number, number, hy, hm, hd, hyear, hjanuary,
        show daysBeforeMonth d.year 1 = 0 from rfl]
      omega

/-- The first day of the calendar. -/
def first : Date :=
  ⟨firstYear, 1, 1, by decide⟩

/-- The last day of the calendar. -/
def last : Date :=
  ⟨lastYear, 12, 31, by decide⟩

theorem number_bounds (d : Date) : first.number ≤ d.number ∧ d.number ≤ last.number := by
  obtain ⟨hlow, hhigh⟩ := d.number_of_year
  obtain ⟨hfirst, hlast, -⟩ := d.valid
  have hstart := daysBeforeYear_mono hfirst
  have hend := daysBeforeYear_mono (Int.add_le_add_right hlast 1)
  have hfirst : first.number = daysBeforeYear firstYear := by decide
  have hlast : last.number + 1 = daysBeforeYear (lastYear + 1) := by decide
  omega

theorem eq_last_of_next? (h : d.next? = none) : d = last := by
  obtain ⟨hfirst, hlast, hmonth, hmonth', hday, hday'⟩ := d.valid
  rw [next?] at h
  split at h
  · exact absurd ⟨hfirst, hlast, hmonth, hmonth', by omega, by omega⟩ (of?_eq_none_iff.mp h)
  · split at h
    · exact absurd ⟨hfirst, hlast, by omega, by omega, by omega, one_le_daysIn ..⟩
        (of?_eq_none_iff.mp h)
    · have hyear : ¬ d.year + 1 ≤ lastYear := fun hle => of?_eq_none_iff.mp h
        ⟨by omega, hle, by decide, by decide, by decide, one_le_daysIn ..⟩
      have heq : d.year = lastYear := by omega
      have hdecember : d.month = 12 := by omega
      have hfull : d.day = daysIn d.year d.month := by omega
      rw [hdecember] at hfull
      exact eq_of_fields heq hdecember hfull

theorem eq_first_of_previous? (h : d.previous? = none) : d = first := by
  obtain ⟨hfirst, hlast, hmonth, hmonth', hday, hday'⟩ := d.valid
  rw [previous?] at h
  split at h
  · exact absurd ⟨hfirst, hlast, hmonth, hmonth', by omega, by omega⟩ (of?_eq_none_iff.mp h)
  · split at h
    · exact absurd ⟨hfirst, hlast, by omega, by omega, one_le_daysIn .., Nat.le_refl _⟩
        (of?_eq_none_iff.mp h)
    · have hyear : ¬ firstYear ≤ d.year - 1 := fun hle => of?_eq_none_iff.mp h
        ⟨hle, by omega, by decide, by decide, by decide, Nat.le_refl _⟩
      exact eq_of_fields (show d.year = firstYear by omega) (show d.month = 1 by omega)
        (show d.day = 1 by omega)

/-- The day before, the same day or the day after is the one with the number before,
    the same or the number after. -/
theorem onNeighbour?_eq_some_iff {days : Int} (h : -1 ≤ days ∧ days ≤ 1) :
    LocalTime.onNeighbour? d days = some e ↔ e.number = d.number + days := by
  have hrange := number_bounds e
  rw [LocalTime.onNeighbour?]
  constructor
  · intro he
    split at he
    · rw [number_previous? he]
      omega
    · split at he
      · cases he
        omega
      · rw [number_next? he]
        omega
  · intro he
    split
    · cases hprevious : d.previous? with
      | none =>
          have hd := congrArg number (eq_first_of_previous? hprevious)
          omega
      | some p =>
          have hp := number_previous? hprevious
          exact congrArg some (number_inj.mp (by omega))
    · split
      · exact congrArg some (number_inj.mp (by omega))
      · cases hnext : d.next? with
        | none =>
            have hd := congrArg number (eq_last_of_next? hnext)
            omega
        | some n =>
            have hn := number_next? hnext
            exact congrArg some (number_inj.mp (by omega))

theorem onNeighbour?_eq_none_iff {days : Int} (h : -1 ≤ days ∧ days ≤ 1) :
    LocalTime.onNeighbour? d days = none ↔
      d.number + days < first.number ∨ last.number < d.number + days := by
  have hrange := number_bounds d
  constructor
  · intro hnone
    rw [LocalTime.onNeighbour?] at hnone
    split at hnone
    · have hd := congrArg number (eq_first_of_previous? hnone)
      omega
    · split at hnone
      · cases hnone
      · have hd := congrArg number (eq_last_of_next? hnone)
        omega
  · intro hout
    cases hsome : LocalTime.onNeighbour? d days with
    | none => rfl
    | some e =>
        have he := (onNeighbour?_eq_some_iff h).mp hsome
        have hrange := number_bounds e
        omega

end Date

/-! ## Times -/

namespace LocalTime

variable {t u : LocalTime}

/-- The full seconds from the first moment of the year zero to a time, a leap second
    not counted. -/
def seconds (t : LocalTime) : Int :=
  t.date.number * daySeconds + t.second

/-- The first second of the calendar. -/
def firstSecond : Int :=
  (midnight .first).seconds

/-- The last second of the calendar. -/
def lastSecond : Int :=
  (midnight .last).seconds + 86399

/-- A time is told by its second and its nanoseconds. -/
theorem eq_of_seconds (hseconds : t.seconds = u.seconds) (hnano : t.nano = u.nano) : t = u := by
  obtain ⟨date, second, nano, hsecond, _⟩ := t
  obtain ⟨date', second', nano', hsecond', _⟩ := u
  have hunit : daySeconds = 86400 := rfl
  rw [hunit] at hsecond hsecond'
  simp only [seconds, hunit] at hseconds
  obtain rfl : date = date' := Date.number_inj.mp (by omega)
  obtain rfl : second = second' := by omega
  obtain rfl : nano = nano' := hnano
  rfl

variable {n : Int}

theorem days_bounds (t : LocalTime) (h : -86400 < n ∧ n < 86400) :
    -1 ≤ (t.second + n) / (daySeconds : Nat) ∧ (t.second + n) / (daySeconds : Nat) ≤ 1 := by
  have hsecond : t.second < 86400 := t.second_lt
  have hunit : daySeconds = 86400 := rfl
  rw [hunit]
  omega

/-- A time moved by less than a day is the one so many seconds away, with the same
    nanoseconds. -/
theorem shift?_eq_some_iff (h : -86400 < n ∧ n < 86400) :
    t.shift? n = some u ↔ u.seconds = t.seconds + n ∧ u.nano = t.nano := by
  have hdays := t.days_bounds h
  have hunit : daySeconds = 86400 := rfl
  rw [shift?]
  rw [Option.map_eq_some_iff]
  constructor
  · rintro ⟨date, hdate, rfl⟩
    rw [Date.onNeighbour?_eq_some_iff hdays, hunit] at hdate
    refine ⟨?_, rfl⟩
    simp only [seconds, hunit, hdate]
    omega
  · rintro ⟨hseconds, hnano⟩
    have hlt : u.second < 86400 := u.second_lt
    simp only [seconds, hunit] at hseconds
    refine ⟨u.date, (Date.onNeighbour?_eq_some_iff hdays).mpr ?_, ?_⟩
    · rw [hunit]
      omega
    · refine eq_of_seconds ?_ hnano.symm
      simp only [seconds, hunit]
      omega

/-- A time cannot be moved just where that would leave the calendar. -/
theorem shift?_eq_none_iff (h : -86400 < n ∧ n < 86400) :
    t.shift? n = none ↔ t.seconds + n < firstSecond ∨ lastSecond < t.seconds + n := by
  have hdays := t.days_bounds h
  have hsecond : t.second < 86400 := t.second_lt
  have hunit : daySeconds = 86400 := rfl
  rw [shift?]
  rw [Option.map_eq_none_iff, Date.onNeighbour?_eq_none_iff hdays]
  simp only [firstSecond, lastSecond, seconds, midnight, hunit]
  omega

end LocalTime

namespace Timestamp

variable {offset : Offset} {t : LocalTime} {ts : Timestamp}

/-- A local time is so many seconds away from its instant. -/
theorem seconds_of_toLocal? (h : ts.toLocal? offset = some t) :
    t.seconds = ts.utc.seconds + offset.seconds ∧ t.nano = ts.utc.nano :=
  (LocalTime.shift?_eq_some_iff offset.within).mp h

/-- An instant is the one of a local time at an offset just when that time is its
    local time there. -/
theorem ofLocal?_eq_some_iff : ofLocal? offset t = some ts ↔ ts.toLocal? offset = some t := by
  obtain ⟨hlow, hhigh⟩ := offset.within
  rw [ofLocal?, toLocal?, Option.map_eq_some_iff, LocalTime.shift?_eq_some_iff ⟨hlow, hhigh⟩]
  constructor
  · rintro ⟨u, hu, rfl⟩
    obtain ⟨hseconds, hnano⟩ := (LocalTime.shift?_eq_some_iff (by omega)).mp hu
    exact ⟨by dsimp only; omega, hnano.symm⟩
  · rintro ⟨hseconds, hnano⟩
    exact ⟨ts.utc, (LocalTime.shift?_eq_some_iff (by omega)).mpr ⟨by omega, hnano.symm⟩, rfl⟩

theorem ofLocal?_eq_none_iff :
    ofLocal? offset t = none ↔ t.seconds - offset.seconds < LocalTime.firstSecond ∨
      LocalTime.lastSecond < t.seconds - offset.seconds := by
  obtain ⟨hlow, hhigh⟩ := offset.within
  rw [ofLocal?, Option.map_eq_none_iff, LocalTime.shift?_eq_none_iff (by omega), Int.sub_eq_add_neg]

end Timestamp

end SpannerDialect.Calendar
