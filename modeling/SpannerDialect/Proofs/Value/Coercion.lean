import SpannerDialect.DefaultExpression
import SpannerDialect.Proofs.Except
import SpannerDialect.Proofs.Value.Fits

/-! # What coercion leaves alone

    Coercion turns some kinds of values into the kind of the column type.  What it
    makes is of a kind that it never turns into anything, and so is whatever the
    type accepts (`coerceScalar_coerceScalar`, `coerceScalar_of_fits`).  So a value
    that fits stays as it is, and to coerce once more changes nothing, wherever
    local times are read (`coerce_settles`). -/

namespace SpannerDialect

namespace Value

variable {offset offset' : Calendar.Offset} {type : ColumnType} {t : ScalarType} {v w : Value}

/-! ## Scalars -/

/-- A value that a scalar type accepts stays as it is. -/
theorem coerceScalar_of_fits (h : Fits t v) : coerceScalar offset t v = .ok v := by
  cases h with
  | null t => cases t <;> rfl
  | _ => rfl

/-- What is made for a scalar type stays as it is. -/
theorem coerceScalar_coerceScalar (h : coerceScalar offset t v = .ok w) :
    coerceScalar offset' t w = .ok w := by
  unfold coerceScalar at h
  split at h
  case h_6 =>
    cases h
    rfl
  case h_7 =>
    cases h
    rfl
  case h_9 =>
    -- Nothing was made: the value is of none of the kinds that are converted.
    obtain rfl := Except.ok.inj h
    rw [coerceScalar] <;> assumption
  all_goals
    obtain ⟨made, -, rfl⟩ := map_eq_ok.mp h
    rfl

/-! ## Columns -/

/-- The items of an array that are to stay as they are make an array that does. -/
theorem coerce_array_of_items {items : List Value}
    (h : ∀ v ∈ items, coerceScalar offset t v = .ok v) :
    coerce offset (.array t) (array items) = .ok (array items) :=
  map_eq_ok.mpr ⟨items, mapM_eq_ok.mpr (List.forall₂_same.mpr h), rfl⟩

/-- A value that a column type accepts stays as it is. -/
theorem coerce_of_fitsColumn (h : FitsColumn type v) : coerce offset type v = .ok v := by
  cases h with
  | scalar h => exact coerceScalar_of_fits h
  | null t => rfl
  | array h => exact coerce_array_of_items fun item hitem => coerceScalar_of_fits (h item hitem).2

/-- What is made for a column type stays as it is. -/
theorem coerce_coerce (h : coerce offset type v = .ok w) : coerce offset' type w = .ok w := by
  unfold coerce at h
  split at h
  · exact coerceScalar_coerceScalar h
  · obtain ⟨made, hmade, rfl⟩ := map_eq_ok.mp h
    apply coerce_array_of_items
    intro item hitem
    obtain ⟨source, -, hsource⟩ := exists_of_mem_mapM hmade hitem
    exact coerceScalar_coerceScalar hsource
  · obtain rfl := Except.ok.inj h
    rw [coerce]
    assumption

end Value

/-! ## What settles -/

/-- A typed value is what its type and its value make. -/
theorem TypedValue.of_type_value (v : TypedValue) : TypedValue.of v.type v.value = .ok v := by
  rw [TypedValue.of]
  split
  · rfl
  · rename_i hrefused
    cases v.fits.symm.trans hrefused

namespace Value

/-- A default that the type of its column accepts is written as its literal. -/
theorem sql_default_of_check (h : v.check type = .ok ()) :
    (DefaultExpression.value v).sql offset type = TypedValue.literal ⟨type, v, h⟩ := by
  have htyped : TypedValue.of type v = .ok ⟨type, v, h⟩ := TypedValue.of_type_value ⟨type, v, h⟩
  rw [DefaultExpression.sql, coerce_of_fitsColumn (TypedValue.fitsColumn ⟨type, v, h⟩)]
  show (TypedValue.of type v).bind TypedValue.literal = _
  rw [htyped]
  rfl

/-- **Coercion leaves fitting values alone and settles at once.**  A value that a column
    type accepts stays as it is, so a default that fits is written as its literal.  What
    is made of any other value stays as it is from then on, at the same offset and at
    every other one. -/
theorem coerce_settles (offset offset' : Calendar.Offset) (type : ColumnType) (v w : Value) :
    (∀ h : v.check type = .ok (), v.coerce offset type = .ok v ∧
      (DefaultExpression.value v).sql offset type = TypedValue.literal ⟨type, v, h⟩) ∧
    (v.coerce offset type = .ok w → w.coerce offset' type = .ok w) :=
  ⟨fun h => ⟨coerce_of_fitsColumn (TypedValue.fitsColumn ⟨type, v, h⟩), sql_default_of_check h⟩,
    coerce_coerce⟩

/-- A day, and its first moment as a text without an offset. -/
def newYear : Value :=
  array [date ⟨2022, 1, 1, by decide⟩, string "2022-01-01 00:00"]

theorem readTimestamp_newYear (offset : Calendar.Offset) :
    readTimestamp offset "2022-01-01 00:00" =
      localize offset (.midnight ⟨2022, 1, 1, by decide⟩) := by
  have hstrict : Calendar.Timestamp.read? "2022-01-01 00:00".toList = none := by decide +kernel
  have hlocal : Calendar.LocalTime.read? "2022-01-01 00:00".toList =
      some (.midnight ⟨2022, 1, 1, by decide⟩) := by decide +kernel
  rw [readTimestamp, hstrict, hlocal]

/-- Nine hours east of UTC both are one instant, and stay it in UTC. -/
theorem coerce_settles_newYear :
    ∃ ts, newYear.coerce ⟨32400, by decide⟩ (.array .timestamp) =
        .ok (array [timestamp ts, timestamp ts]) ∧
      (array [timestamp ts, timestamp ts]).coerce .utc (.array .timestamp) =
        .ok (array [timestamp ts, timestamp ts]) ∧
      (array [timestamp ts, timestamp ts]).check (.array .timestamp) = .ok () ∧
      (DefaultExpression.value (array [timestamp ts, timestamp ts])).sql .utc (.array .timestamp) =
        (array [timestamp ts, timestamp ts]).literal := by
  have hday : ∃ ts, localize ⟨32400, by decide⟩ (.midnight ⟨2022, 1, 1, by decide⟩) = .ok ts :=
    ⟨_, rfl⟩
  obtain ⟨ts, hday⟩ := hday
  have hdate : coerceScalar ⟨32400, by decide⟩ .timestamp (date ⟨2022, 1, 1, by decide⟩) =
      .ok (timestamp ts) := map_eq_ok.mpr ⟨ts, hday, rfl⟩
  have htext : coerceScalar ⟨32400, by decide⟩ .timestamp (string "2022-01-01 00:00") =
      .ok (timestamp ts) := map_eq_ok.mpr ⟨ts, (readTimestamp_newYear _).trans hday, rfl⟩
  have hmade : newYear.coerce ⟨32400, by decide⟩ (.array .timestamp) =
      .ok (array [timestamp ts, timestamp ts]) :=
    map_eq_ok.mpr ⟨_, mapM_eq_ok.mpr (.cons hdate (.cons htext .nil)), rfl⟩
  obtain ⟨-, hagain⟩ := coerce_settles ⟨32400, by decide⟩ .utc (.array .timestamp) newYear
    (array [timestamp ts, timestamp ts])
  obtain ⟨hfits, -⟩ := coerce_settles .utc .utc (.array .timestamp)
    (array [timestamp ts, timestamp ts]) newYear
  exact ⟨ts, hmade, hagain hmade, rfl, (hfits rfl).2⟩

end Value

end SpannerDialect
