import SpannerDialect.Proofs.Calendar.Reader
import SpannerDialect.Proofs.Json.Document
import SpannerDialect.Proofs.Numeric
import SpannerDialect.Proofs.Text.Base64
import SpannerDialect.Proofs.Value.Fits
import SpannerDialect.Value.Wire

/-! # There and back

    A typed value is read back from its wire form at its type.  Each format
    reads its own texts back; instants and documents have values that
    their formats cannot carry, and these are left out. -/

namespace SpannerDialect

namespace Value

/-- A value other than an array that its format can carry. -/
def ScalarPortable : Value → Prop
  | timestamp ts => ts.Portable
  | json d => d.Portable
  | _ => True

/-- A value that the formats of the wire can carry. -/
def Portable : Value → Prop
  | array items => ∀ v ∈ items, v.ScalarPortable
  | v => v.ScalarPortable

/-! ## Scalars -/

theorem eq_null_of_isNull {v : Value} (h : v.isNull = true) : v = .null := by
  cases v with
  | null => rfl
  | _ => cases h

/-- A scalar type accepts no array. -/
theorem Fits.scalarPortable {t : ScalarType} {v : Value} (h : Fits t v) (hv : v.Portable) :
    v.ScalarPortable := by
  cases h <;> exact hv

theorem int64?_toInt (i : Int64) : int64? i.toInt = some i := by
  have hlow := i.le_toInt
  have hhigh := i.toInt_lt
  rw [int64?, if_pos (by omega), Int64.ofInt_toInt]

/-- A value that is not NULL is read back at a scalar type. -/
theorem decodeScalar_wire {t : ScalarType} {v : Value} (h : Fits t v) (hnull : v.isNull = false)
    (hv : v.ScalarPortable) :
    ∃ j, v.wire = .ok j ∧ j ≠ .null ∧ decodeScalar t j = .ok v := by
  cases h with
  | null => cases hnull
  | bool b => exact ⟨_, rfl, by simp, rfl⟩
  | int64 i =>
      refine ⟨_, rfl, by simp [wireText], ?_⟩
      simp only [wireText, decodeScalar, String.toList_ofList, Text.readInteger?_signed,
        Option.bind_some, int64?_toInt, Option.map_some]
  | float64 x => exact ⟨_, rfl, by simp, rfl⟩
  | numeric n =>
      refine ⟨_, rfl, by simp [wireText], ?_⟩
      simp only [wireText, decodeScalar, String.toList_ofList, Numeric.parse_text]
  | string n s => exact ⟨_, rfl, by simp, rfl⟩
  | bytes n bs =>
      refine ⟨_, rfl, by simp [wireText], ?_⟩
      simp only [wireText, decodeScalar, String.toList_ofList, Text.Base64.decode_encode]
  | date d =>
      refine ⟨_, rfl, by simp [wireText], ?_⟩
      simp only [wireText, decodeScalar, String.toList_ofList, Calendar.Date.read?_text,
        Option.map_some]
  | timestamp ts =>
      refine ⟨_, rfl, by simp [wireText], ?_⟩
      simp only [wireText, decodeScalar, String.toList_ofList,
        Calendar.Timestamp.read?_wireText hv, Option.map_some]
  | json d =>
      refine ⟨_, rfl, by simp [wireText], ?_⟩
      simp only [wireText, decodeScalar, String.toList_ofList, Json.Document.read_print hv]

/-! ## Arrays -/

theorem decodeElement_of_ne_null {t : ScalarType} {j : Json} (h : j ≠ .null) :
    decodeElement t j = decodeScalar t j := by
  cases j with
  | null => exact absurd rfl h
  | _ => rfl

theorem mapM_decodeElement_wireItems {t : ScalarType} {items : List Value}
    (h : ∀ v ∈ items, v.isNull = false ∧ Fits t v) (hitems : ∀ v ∈ items, v.ScalarPortable) :
    ∃ js, wireItems items = .ok js ∧ js.mapM (decodeElement t) = .ok items := by
  induction items with
  | nil => exact ⟨[], rfl, rfl⟩
  | cons v vs ih =>
      obtain ⟨⟨hnull, hv⟩, hvs⟩ := List.forall_mem_cons.mp h
      obtain ⟨hpv, hpvs⟩ := List.forall_mem_cons.mp hitems
      obtain ⟨j, hj, hne, hread⟩ := decodeScalar_wire hv hnull hpv
      obtain ⟨js, hjs, hreads⟩ := ih hvs hpvs
      refine ⟨j :: js, ?_, ?_⟩
      · rw [wireItems, hj, hjs]
        rfl
      · rw [List.mapM_cons, decodeElement_of_ne_null hne, hread, hreads]
        rfl

theorem decode_scalar_of_ne_null {t : ScalarType} {j : Json} (h : j ≠ .null) :
    decode (.scalar t) j = decodeScalar t j := by
  cases j with
  | null => exact absurd rfl h
  | _ => rfl

end Value

/-- **A typed value is read back from its wire form.**  NULL and the empty
    array are told apart, and an array comes back element by element. -/
theorem TypedValue.decode_wire (v : TypedValue) (h : v.value.Portable) :
    ∃ j, v.wire = .ok j ∧ Value.decode v.type j = .ok v.value := by
  obtain ⟨type, value, hcheck⟩ := v
  have hfits : Value.FitsColumn type value := TypedValue.fitsColumn ⟨type, value, hcheck⟩
  rw [TypedValue.wire]
  cases hfits with
  | null t => exact ⟨_, rfl, rfl⟩
  | scalar hv =>
      -- NULL is read at every type before the type is looked at
      by_cases hnull : value.isNull = true
      · obtain rfl := Value.eq_null_of_isNull hnull
        exact ⟨_, rfl, rfl⟩
      · obtain ⟨j, hj, hne, hread⟩ :=
          Value.decodeScalar_wire hv (Bool.eq_false_iff.mpr hnull) (hv.scalarPortable h)
        exact ⟨j, hj, (Value.decode_scalar_of_ne_null hne).trans hread⟩
  | @array t items hitems =>
      obtain ⟨js, hjs, hreads⟩ := Value.mapM_decodeElement_wireItems hitems h
      refine ⟨.array js, ?_, ?_⟩
      · rw [Value.wire, hjs]
        rfl
      · show (js.mapM (Value.decodeElement t)).map Value.array = _
        rw [hreads]
        rfl

/-- A leap second at the end of the year 9999, with a fraction of six
    digits. -/
def leapSecond : Calendar.Timestamp :=
  ⟨⟨9999, 12, 31, by decide⟩, 86399, 1999999000, by decide, by decide⟩

theorem decode_wire_leapSeconds :
    (Value.array [.timestamp leapSecond, .timestamp leapSecond]).Portable ∧
      ∃ j, Value.wire (.array [.timestamp leapSecond, .timestamp leapSecond]) = .ok j ∧
        Value.decode (.array .timestamp) j
          = .ok (.array [.timestamp leapSecond, .timestamp leapSecond]) := by
  have hportable : (Value.array [.timestamp leapSecond, .timestamp leapSecond]).Portable := by
    have hone : leapSecond.Portable := ⟨by decide, by decide, fun _ => rfl⟩
    exact List.forall_mem_cons.mpr ⟨hone, List.forall_mem_singleton.mpr hone⟩
  exact ⟨hportable, TypedValue.decode_wire ⟨.array .timestamp, _, rfl⟩ hportable⟩

end SpannerDialect
