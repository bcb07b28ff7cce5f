import SpannerDialect.TypedValue

/-! # What fits a type

    A type accepts a value when the check of the type says so.  Here the
    accepted values are listed: NULL, the values of the kind of the type,
    and arrays of such values without NULL (`fits_of_check`). -/

namespace SpannerDialect

namespace Value

/-- The values that a scalar type accepts. -/
inductive Fits : ScalarType → Value → Prop
  | null (t : ScalarType) : Fits t .null
  | bool (b : Bool) : Fits .bool (.bool b)
  | int64 (i : Int64) : Fits .int64 (.int64 i)
  | float64 (x : Binary64.Finite) : Fits .float64 (.float64 (.finite x))
  | numeric (n : Numeric) : Fits .numeric (.numeric n)
  | string (n : Length) (s : String) (h : n.admits s.length = true) : Fits (.string n) (.string s)
  | bytes (n : Length) (bs : List UInt8) (h : n.admits bs.length = true) :
      Fits (.bytes n) (.bytes bs)
  | date (d : Calendar.Date) : Fits .date (.date d)
  | timestamp (ts : Calendar.Timestamp) : Fits .timestamp (.timestamp ts)
  | json (d : Json.Document) : Fits .json (.json d)

/-- The values that a column type accepts. -/
inductive FitsColumn : ColumnType → Value → Prop
  | scalar {t : ScalarType} {v : Value} (h : Fits t v) : FitsColumn (.scalar t) v
  | null (t : ScalarType) : FitsColumn (.array t) .null
  | array {t : ScalarType} {items : List Value}
      (h : ∀ v ∈ items, v.isNull = false ∧ Fits t v) : FitsColumn (.array t) (.array items)

theorem admits_of_checkLength {t : ScalarType} {n : Length} {size : Nat}
    (h : checkLength t n size = .ok ()) : n.admits size = true := by
  rw [checkLength] at h
  split at h
  · rename_i hadmits
    exact hadmits
  · cases h

theorem fits_of_checkScalar {t : ScalarType} {v : Value} (h : checkScalar t v = .ok ()) :
    Fits t v := by
  unfold checkScalar at h
  split at h
  case h_5 => cases h
  case h_7 n s => exact Fits.string n s (admits_of_checkLength h)
  case h_8 n bs => exact Fits.bytes n bs (admits_of_checkLength h)
  case h_12 => cases h
  all_goals constructor

theorem fits_of_checkItems {t : ScalarType} {items : List Value} {position : Nat}
    (h : checkItems t position items = .ok ()) :
    ∀ v ∈ items, v.isNull = false ∧ Fits t v := by
  induction items generalizing position with
  | nil =>
      intro v hv
      cases hv
  | cons w ws ih =>
      rw [checkItems] at h
      split at h
      · cases h
      · rename_i hnull
        cases hw : checkScalar t w with
        | error e =>
            rw [hw] at h
            cases h
        | ok u =>
            rw [hw] at h
            intro v hv
            rcases List.mem_cons.mp hv with heq | htail
            · subst heq
              exact ⟨by simpa using hnull, fits_of_checkScalar hw⟩
            · exact ih h v htail

end Value

/-- A typed value is one that its type accepts. -/
theorem TypedValue.fitsColumn (v : TypedValue) : Value.FitsColumn v.type v.value := by
  obtain ⟨type, value, h⟩ := v
  cases type with
  | scalar t => exact .scalar (Value.fits_of_checkScalar h)
  | array t =>
      cases value with
      | null => exact .null t
      | array items => exact .array (Value.fits_of_checkItems h)
      | _ => cases h

theorem TypedValue.fitsColumn_of {type : ColumnType} {v : Value} {typed : TypedValue}
    (h : TypedValue.of type v = .ok typed) : Value.FitsColumn type v := by
  rw [TypedValue.of] at h
  split at h
  · rename_i hcheck
    exact TypedValue.fitsColumn ⟨type, v, hcheck⟩
  · cases h

end SpannerDialect
