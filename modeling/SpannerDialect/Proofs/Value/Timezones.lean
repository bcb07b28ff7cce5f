import SpannerDialect.Proofs.Calendar.InstantText
import SpannerDialect.Proofs.Except
import SpannerDialect.Value.Coercion

/-! # Times and the offset they are read at

    A value stands for a local time when it is a text without an offset, or a day
    (`StandsFor`).  Turned toward a column of times it becomes the instant of that time
    at the configured offset (`coerceScalar_of_standsFor`), and the offset does not
    matter to any other value (`coerceScalar_of_not_standsFor`).  So two offsets give two
    instants of one local time, or one of them leads out of the calendar
    (`coerce_timezones`), and a day is the same whether it is written as a text or not,
    and comes back from its instant (`coerce_days`). -/

namespace SpannerDialect.Value

open Calendar

variable {z z₁ z₂ offset : Offset} {v w w₁ w₂ : Value} {s : String} {t : LocalTime}
variable {ts ts₁ ts₂ : Timestamp} {e : Mismatch}

/-! ## Local times -/

/-- A local time has its instant outside of the calendar. -/
def LeavesCalendar (z : Offset) (t : LocalTime) : Prop :=
  t.seconds - z.seconds < LocalTime.firstSecond ∨ LocalTime.lastSecond < t.seconds - z.seconds

theorem localize_eq_ok : localize z t = .ok ts ↔ ts.toLocal? z = some t := by
  rw [← Timestamp.ofLocal?_eq_some_iff, localize]
  cases Timestamp.ofLocal? z t with
  | some ts => rw [Except.ok.injEq, Option.some.injEq]
  | none => exact iff_of_false nofun nofun

theorem localize_eq_error :
    localize z t = .error e ↔ e = .beyondCalendar t ∧ LeavesCalendar z t := by
  rw [LeavesCalendar, ← Timestamp.ofLocal?_eq_none_iff, localize]
  cases Timestamp.ofLocal? z t with
  | some ts => exact iff_of_false nofun fun h => nomatch h.2
  | none => rw [Except.error.injEq, and_iff_left rfl, eq_comm]

/-! ## What a value stands for -/

/-- The local time that a value stands for: a text without an offset for the time that
    it names, a day for its first moment. -/
inductive StandsFor : Value → LocalTime → Prop
  | text {s : String} {t : LocalTime} (hoffset : ¬ HasOffset s.toList)
      (ht : LocalTime.read? s.toList = some t) : StandsFor (string s) t
  | date (d : Date) : StandsFor (date d) (.midnight d)

theorem not_standsFor_of_hasOffset (h : HasOffset s.toList) : ¬ StandsFor (string s) t
  | .text hoffset _ => hoffset h

/-- The text of a day stands for its first moment, as the day does. -/
theorem standsFor_of_date {d : Date} (h : Date.read? s.toList = some d) :
    StandsFor (string s) (.midnight d) := by
  refine .text ?_ (LocalTime.read?_of_date h)
  intro hoffset
  exact Option.some_ne_none d (h.symm.trans hoffset.not_date)

/-- A text is read as the instant that it names, or as that of the local time that it
    stands for. -/
theorem readTimestamp_eq_ok : readTimestamp z s = .ok ts ↔
    Timestamp.read? s.toList = some ts ∨
      ∃ t, StandsFor (string s) t ∧ ts.toLocal? z = some t := by
  rw [readTimestamp]
  constructor
  · intro h
    split at h
    · rename_i hread
      exact .inl (hread.trans (congrArg some (Except.ok.inj h)))
    · rename_i hread
      split at h
      · rename_i t ht
        exact .inr ⟨t, .text (Timestamp.read?_eq_none_iff.mp hread) ht, localize_eq_ok.mp h⟩
      · cases h
  · rintro (hread | ⟨t, ⟨hoffset, ht⟩, hlocal⟩)
    · rw [hread]
    · rw [Timestamp.read?_eq_none_iff.mpr hoffset, ht]
      exact localize_eq_ok.mpr hlocal

theorem coerce_string_eq_ok : coerce z (.scalar .timestamp) (string s) = .ok (timestamp ts) ↔
    readTimestamp z s = .ok ts :=
  map_eq_ok_apply Value.timestamp.inj

/-- A text with an offset of its own is read at that offset, whatever the other one is. -/
theorem readTimestamp_of_isInstantText (h : IsInstantText s.toList t offset) :
    ∃ ts, ts.toLocal? offset = some t ∧ ∀ z, readTimestamp z s = .ok ts := by
  obtain ⟨ts, hts⟩ := h.exists_ofLocal?
  have hread : Timestamp.read? s.toList = some ts :=
    Timestamp.read?_eq_some_iff.mpr ⟨t, offset, h, hts⟩
  exact ⟨ts, Timestamp.ofLocal?_eq_some_iff.mp hts, fun z => readTimestamp_eq_ok.mpr (.inl hread)⟩

/-- A value that stands for a local time becomes its instant. -/
theorem coerceScalar_of_standsFor (h : StandsFor v t) :
    coerceScalar z .timestamp v = (localize z t).map timestamp := by
  cases h with
  | @text s t hoffset ht =>
      show (readTimestamp z s).map timestamp = _
      rw [readTimestamp, Timestamp.read?_eq_none_iff.mpr hoffset, ht]
  | date d => rfl

/-- The offset makes no difference to a value that stands for no local time. -/
theorem coerceScalar_of_not_standsFor (h : ∀ t, ¬ StandsFor v t) :
    coerceScalar z₁ .timestamp v = coerceScalar z₂ .timestamp v := by
  cases v with
  | date d => exact absurd (.date d) (h (.midnight d))
  | string s =>
      show (readTimestamp z₁ s).map timestamp = (readTimestamp z₂ s).map timestamp
      by_cases hoffset : HasOffset s.toList
      · obtain ⟨t, offset, htext⟩ := hoffset
        obtain ⟨ts, -, hts⟩ := readTimestamp_of_isInstantText htext
        rw [hts, hts]
      · cases ht : LocalTime.read? s.toList with
        | some t => exact absurd (.text hoffset ht) (h t)
        | none => rw [readTimestamp, readTimestamp, Timestamp.read?_eq_none_iff.mpr hoffset, ht]
  | _ => rfl

/-! ## Two offsets -/

/-- What one value has become at two offsets: two instants of the local time that it
    stands for, as far apart as the offsets and with the same nanoseconds, or the same
    value if it stands for none. -/
inductive Agree (z₁ z₂ : Offset) : Value → Value → Value → Prop
  | shifted {v : Value} {t : LocalTime} {ts₁ ts₂ : Timestamp} (hv : StandsFor v t)
      (h₁ : ts₁.toLocal? z₁ = some t) (h₂ : ts₂.toLocal? z₂ = some t)
      (hseconds : ts₁.utc.seconds - ts₂.utc.seconds = z₂.seconds - z₁.seconds)
      (hnano : ts₁.utc.nano = ts₂.utc.nano) :
      Agree z₁ z₂ v (timestamp ts₁) (timestamp ts₂)
  | fixed {v w : Value} (hv : ∀ t, ¬ StandsFor v t) : Agree z₁ z₂ v w w

/-- A value is refused only because the local time that it stands for has its instant
    outside of the calendar. -/
def OutOfRange (z : Offset) (v : Value) (e : Mismatch) : Prop :=
  ∃ t, StandsFor v t ∧ e = .beyondCalendar t ∧ LeavesCalendar z t

theorem agree_of_coerceScalar (h₁ : coerceScalar z₁ .timestamp v = .ok w₁)
    (h₂ : coerceScalar z₂ .timestamp v = .ok w₂) : Agree z₁ z₂ v w₁ w₂ := by
  by_cases hv : ∃ t, StandsFor v t
  · obtain ⟨t, hv⟩ := hv
    rw [coerceScalar_of_standsFor hv, map_eq_ok] at h₁ h₂
    obtain ⟨ts₁, hts₁, rfl⟩ := h₁
    obtain ⟨ts₂, hts₂, rfl⟩ := h₂
    rw [localize_eq_ok] at hts₁ hts₂
    -- both instants are told by the one local time
    obtain ⟨hseconds₁, hnano₁⟩ := Timestamp.seconds_of_toLocal? hts₁
    obtain ⟨hseconds₂, hnano₂⟩ := Timestamp.seconds_of_toLocal? hts₂
    exact .shifted hv hts₁ hts₂ (by omega) (hnano₁.symm.trans hnano₂)
  · have hnone : ∀ t, ¬ StandsFor v t := not_exists.mp hv
    rw [coerceScalar_of_not_standsFor hnone, h₂] at h₁
    obtain rfl := Except.ok.inj h₁
    exact .fixed hnone

theorem outOfRange_of_coerceScalar (h₁ : coerceScalar z₁ .timestamp v = .error e)
    (h₂ : coerceScalar z₂ .timestamp v = .ok w) : OutOfRange z₁ v e := by
  by_cases hv : ∃ t, StandsFor v t
  · obtain ⟨t, hv⟩ := hv
    rw [coerceScalar_of_standsFor hv, map_eq_error, localize_eq_error] at h₁
    exact ⟨t, hv, h₁⟩
  · rw [coerceScalar_of_not_standsFor (not_exists.mp hv), h₂] at h₁
    cases h₁

/-! ## Columns of times -/

/-- **The offset moves local times and nothing else.**  A text with an offset of its own
    is the instant of its local time there, wherever other times are read, and a value that
    stands for no local time has the same outcome.  What succeeds at two offsets agrees;
    what is refused at only one of them is a local time whose instant would lie outside of
    the calendar.  The same holds of the items of an array. -/
theorem coerce_timezones (z₁ z₂ : Offset) :
    (∀ s t offset, IsInstantText s.toList t offset → ∃ ts, ts.toLocal? offset = some t ∧
      ∀ z, coerce z (.scalar .timestamp) (string s) = .ok (timestamp ts)) ∧
    (∀ v, (∀ t, ¬ StandsFor v t) →
      coerce z₁ (.scalar .timestamp) v = coerce z₂ (.scalar .timestamp) v) ∧
    (∀ v w₁ w₂, coerce z₁ (.scalar .timestamp) v = .ok w₁ →
      coerce z₂ (.scalar .timestamp) v = .ok w₂ → Agree z₁ z₂ v w₁ w₂) ∧
    (∀ v e w, coerce z₁ (.scalar .timestamp) v = .error e →
      coerce z₂ (.scalar .timestamp) v = .ok w → OutOfRange z₁ v e) ∧
    (∀ items w₁ w₂, coerce z₁ (.array .timestamp) (array items) = .ok w₁ →
      coerce z₂ (.array .timestamp) (array items) = .ok w₂ →
      ∃ ws₁ ws₂, w₁ = array ws₁ ∧ w₂ = array ws₂ ∧
        ws₁.length = items.length ∧ ws₂.length = items.length ∧
        ∀ (i : Nat) (v : Value), items[i]? = some v →
          ∃ u₁ u₂, ws₁[i]? = some u₁ ∧ ws₂[i]? = some u₂ ∧ Agree z₁ z₂ v u₁ u₂) ∧
    (∀ items e w, coerce z₁ (.array .timestamp) (array items) = .error e →
      coerce z₂ (.array .timestamp) (array items) = .ok w →
      ∃ v ∈ items, OutOfRange z₁ v e) := by
  refine ⟨?text, ?other, ?agree, ?range, ?items, ?itemRange⟩
  case text =>
    intro s t offset htext
    obtain ⟨ts, hlocal, hts⟩ := readTimestamp_of_isInstantText htext
    exact ⟨ts, hlocal, fun z => coerce_string_eq_ok.mpr (hts z)⟩
  case other => exact fun v => coerceScalar_of_not_standsFor
  case agree => exact fun v w₁ w₂ => agree_of_coerceScalar
  case range => exact fun v e w => outOfRange_of_coerceScalar
  case items =>
    intro items w₁ w₂ h₁ h₂
    obtain ⟨ws₁, hws₁, rfl⟩ := map_eq_ok.mp h₁
    obtain ⟨ws₂, hws₂, rfl⟩ := map_eq_ok.mp h₂
    refine ⟨ws₁, ws₂, rfl, rfl, length_of_mapM hws₁, length_of_mapM hws₂, ?_⟩
    intro i v hv
    obtain ⟨u₁, hu₁, hmade₁⟩ := getElem?_of_mapM hws₁ hv
    obtain ⟨u₂, hu₂, hmade₂⟩ := getElem?_of_mapM hws₂ hv
    exact ⟨u₁, u₂, hu₁, hu₂, agree_of_coerceScalar hmade₁ hmade₂⟩
  case itemRange =>
    intro items e w h₁ h₂
    obtain ⟨v, hv, herror⟩ := exists_of_mapM_eq_error (map_eq_error.mp h₁)
    obtain ⟨ws, hws, rfl⟩ := map_eq_ok.mp h₂
    obtain ⟨u, hu⟩ := exists_mapM_eq_ok.mp ⟨ws, hws⟩ v hv
    exact ⟨v, hv, outOfRange_of_coerceScalar herror hu⟩

/-- The first of March of a leap year. -/
def march : Date :=
  ⟨2024, 3, 1, by decide⟩

/-- Nine hours to the east of UTC. -/
def nineEast : Offset :=
  ⟨32400, by decide⟩

/-- Two hours to the west of UTC. -/
def twoWest : Offset :=
  ⟨-7200, by decide⟩

/-- The last full hour of the calendar. -/
def lastHour : LocalTime :=
  { LocalTime.midnight .last with second := 82800, second_lt := by decide }

theorem read?_march : Date.read? " 2024-3-1".toList = some march := by decide +kernel

theorem standsFor_march : StandsFor (string " 2024-3-1") (.midnight march) :=
  standsFor_of_date read?_march

theorem standsFor_lastHour : StandsFor (string "+262142-12-31 23:00") lastHour :=
  .text (Timestamp.read?_eq_none_iff.mp (by decide +kernel)) (by decide +kernel)

theorem hasOffset_march : HasOffset "2024-03-01T00:00:00+09:00".toList := by
  apply Timestamp.exists_read?_iff.mp
  cases hread : Timestamp.read? "2024-03-01T00:00:00+09:00".toList with
  | some ts => exact ⟨ts, rfl⟩
  | none => exact absurd hread (by decide +kernel)

/-- The first of March is there at every offset. -/
theorem exists_localize_march (z : Offset) : ∃ ts, localize z (.midnight march) = .ok ts := by
  obtain ⟨ts, hts⟩ := Timestamp.exists_ofLocal? (t := .midnight march) z (by decide)
  exact ⟨ts, localize_eq_ok.mpr (Timestamp.ofLocal?_eq_some_iff.mp hts)⟩

theorem exists_coerceScalar_march (z : Offset) :
    ∃ ts, coerceScalar z .timestamp (string " 2024-3-1") = .ok (timestamp ts) := by
  obtain ⟨ts, hts⟩ := exists_localize_march z
  exact ⟨ts, (coerceScalar_of_standsFor standsFor_march).trans (map_eq_ok.mpr ⟨ts, hts, rfl⟩)⟩

/-- A text with an offset and one without, nine hours to the east and in UTC; and the
    last hour of the calendar, of which the west has none. -/
theorem coerce_timezones_march :
    (∃ ts, ∀ z, coerce z (.scalar .timestamp) (string "2024-03-01T00:00:00+09:00") =
      .ok (timestamp ts)) ∧
    coerce nineEast (.scalar .timestamp) (string "2024-03-01T00:00:00+09:00") =
      coerce .utc (.scalar .timestamp) (string "2024-03-01T00:00:00+09:00") ∧
    (∃ ts₁ ts₂, Agree nineEast .utc (string " 2024-3-1") (timestamp ts₁) (timestamp ts₂)) ∧
    (∃ e, OutOfRange twoWest (string "+262142-12-31 23:00") e) ∧
    (∃ u₁ u₂, Agree nineEast .utc (string " 2024-3-1") u₁ u₂) ∧
    (∃ v ∈ [null, string "+262142-12-31 23:00"], ∃ e, OutOfRange twoWest v e) := by
  obtain ⟨text, other, agree, -, items, -⟩ := coerce_timezones nineEast .utc
  obtain ⟨-, -, -, range, -, itemRange⟩ := coerce_timezones twoWest .utc
  obtain ⟨ts₁, hts₁⟩ := exists_coerceScalar_march nineEast
  obtain ⟨ts₂, hts₂⟩ := exists_coerceScalar_march .utc
  have hwest : coerceScalar twoWest .timestamp (string "+262142-12-31 23:00") =
      .error (.beyondCalendar lastHour) := coerceScalar_of_standsFor standsFor_lastHour
  have hutc : coerceScalar .utc .timestamp (string "+262142-12-31 23:00") =
      .ok (timestamp ⟨lastHour⟩) := coerceScalar_of_standsFor standsFor_lastHour
  obtain ⟨t, offset, htext⟩ := hasOffset_march
  obtain ⟨ts, -, hts⟩ := text _ _ _ htext
  refine ⟨⟨ts, hts⟩, other _ fun t => not_standsFor_of_hasOffset hasOffset_march,
    ⟨ts₁, ts₂, agree _ _ _ hts₁ hts₂⟩, ⟨_, range _ _ _ hwest hutc⟩, ?_, ?_⟩
  · have hone : ∀ {z ts}, coerceScalar z .timestamp (string " 2024-3-1") = .ok (timestamp ts) →
        coerce z (.array .timestamp) (array [string " 2024-3-1"]) = .ok (array [timestamp ts]) :=
      fun h => map_eq_ok.mpr ⟨_, mapM_eq_ok.mpr (.cons h .nil), rfl⟩
    obtain ⟨ws₁, ws₂, -, -, -, -, hitems⟩ := items _ _ _ (hone hts₁) (hone hts₂)
    obtain ⟨u₁, u₂, -, -, hagree⟩ := hitems 0 _ rfl
    exact ⟨u₁, u₂, hagree⟩
  · have herror : coerce twoWest (.array .timestamp) (array [null, string "+262142-12-31 23:00"]) =
        .error (.beyondCalendar lastHour) := by
      rw [coerce, List.mapM_cons, List.mapM_cons, hwest]
      rfl
    have hok : coerce .utc (.array .timestamp) (array [null, string "+262142-12-31 23:00"]) =
        .ok (array [null, timestamp ⟨lastHour⟩]) :=
      map_eq_ok.mpr ⟨_, mapM_eq_ok.mpr (.cons rfl (.cons hutc .nil)), rfl⟩
    obtain ⟨v, hv, hrange⟩ := itemRange _ _ _ herror hok
    exact ⟨v, hv, _, hrange⟩

/-! ## Days -/

variable {d : Date}

theorem readDate_eq_ok : readDate s = .ok d ↔ Date.read? s.toList = some d := by
  rw [readDate]
  cases Date.read? s.toList with
  | some d' => rw [Except.ok.injEq, Option.some.injEq]
  | none => exact iff_of_false nofun nofun

theorem coerce_date_string_eq_ok : coerce z (.scalar .date) (string s) = .ok (date d) ↔
    Date.read? s.toList = some d :=
  (map_eq_ok_apply Value.date.inj).trans readDate_eq_ok

theorem coerce_date_eq_ok : coerce z (.scalar .timestamp) (date d) = .ok (timestamp ts) ↔
    ts.toLocal? z = some (.midnight d) :=
  (map_eq_ok_apply Value.timestamp.inj).trans localize_eq_ok

/-- **Days are kept by columns of times.**  A text that is read as a day becomes the same
    instant as the day does, or is refused as it is, and an instant made of a day is on
    that day at the offset it was made at. -/
theorem coerce_days :
    (∀ s d z z', coerce z' (.scalar .date) (string s) = .ok (date d) →
      coerce z (.scalar .timestamp) (string s) = coerce z (.scalar .timestamp) (date d)) ∧
    (∀ d z ts, coerce z (.scalar .timestamp) (date d) = .ok (timestamp ts) →
      coerce z (.scalar .date) (timestamp ts) = .ok (date d)) := by
  constructor
  · intro s d z z' h
    have htext : StandsFor (string s) (.midnight d) :=
      standsFor_of_date (coerce_date_string_eq_ok.mp h)
    exact (coerceScalar_of_standsFor htext).trans (coerceScalar_of_standsFor (.date d)).symm
  · intro d z ts h
    show (localDate z ts).map date = _
    rw [localDate, coerce_date_eq_ok.mp h]
    rfl

/-- The first of March nine hours to the east begins on the leap day in UTC, and stays the
    first of March there. -/
theorem coerce_days_march :
    coerce .utc (.scalar .date) (string " 2024-3-1") = .ok (date march) ∧
    coerce nineEast (.scalar .timestamp) (string " 2024-3-1") =
      coerce nineEast (.scalar .timestamp) (date march) ∧
    ∃ ts, coerce nineEast (.scalar .timestamp) (date march) = .ok (timestamp ts) ∧
      coerce nineEast (.scalar .date) (timestamp ts) = .ok (date march) := by
  obtain ⟨text, day⟩ := coerce_days
  have hdate : coerce .utc (.scalar .date) (string " 2024-3-1") = .ok (date march) :=
    coerce_date_string_eq_ok.mpr read?_march
  obtain ⟨ts, hts⟩ := exists_localize_march nineEast
  have hinstant : coerce nineEast (.scalar .timestamp) (date march) = .ok (timestamp ts) :=
    coerce_date_eq_ok.mpr (localize_eq_ok.mp hts)
  exact ⟨hdate, text _ _ _ _ hdate, ts, hinstant, day _ _ _ hinstant⟩

end SpannerDialect.Value
