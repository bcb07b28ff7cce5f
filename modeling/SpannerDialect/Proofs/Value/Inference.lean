import SpannerDialect.Proofs.Except
import SpannerDialect.Proofs.Value.Coercion
import SpannerDialect.Proofs.Value.Fits

/-! # Natural types

    A value gives away its type as soon as one type accepts it: the natural type is
    that type without a bound on its length, and accepts the value as well
    (`inferType_of_fitsColumn`, `FitsColumn.unbounded`).  An array gives it away by its
    first element; the check of the others comes behind, so an element that does not
    belong is found wherever it stands (`TypedValue.infer_principal`). -/

namespace SpannerDialect

namespace Value

variable {type : ColumnType} {t : ScalarType} {v w : Value} {items : List Value}

/-! ## The check of a type and what fits it -/

theorem checkScalar_of_fits (h : Fits t v) : checkScalar t v = .ok () := by
  cases h with
  | null t => cases t <;> rfl
  | string n s hadmits => exact if_pos hadmits
  | bytes n bs hadmits => exact if_pos hadmits
  | _ => rfl

theorem checkItems_of_fits (h : ∀ v ∈ items, v.isNull = false ∧ Fits t v) (position : Nat) :
    checkItems t position items = .ok () := by
  induction items generalizing position with
  | nil => rfl
  | cons v vs ih =>
      obtain ⟨⟨hnull, hv⟩, hvs⟩ := List.forall_mem_cons.mp h
      rw [checkItems, if_neg (Bool.eq_false_iff.mp hnull), checkScalar_of_fits hv]
      exact ih hvs (position + 1)

theorem check_eq_ok_iff : v.check type = .ok () ↔ FitsColumn type v := by
  constructor
  · intro h
    exact TypedValue.fitsColumn ⟨type, v, h⟩
  · intro h
    cases h with
    | scalar h => exact checkScalar_of_fits h
    | null t => rfl
    | array h => exact checkItems_of_fits h 0

/-- What fits a type fits it without a bound on the length. -/
theorem Fits.unbounded (h : Fits t v) : Fits t.unbounded v := by
  cases h with
  | null t => exact .null _
  | string n s _ => exact .string .max s rfl
  | bytes n bs _ => exact .bytes .max bs rfl
  | _ => constructor

theorem FitsColumn.unbounded (h : FitsColumn type v) : FitsColumn type.unbounded v := by
  cases h with
  | scalar h => exact .scalar h.unbounded
  | null t => exact .null _
  | array h => exact .array fun v hv => ⟨(h v hv).1, (h v hv).2.unbounded⟩

/-- All values other than NULL that fit one scalar type are of one kind. -/
theorem Fits.kind_eq (hv : Fits t v) (hvnull : v.isNull = false) (hw : Fits t w)
    (hwnull : w.isNull = false) : v.kind = w.kind := by
  cases hv with
  | null t => cases hvnull
  | _ =>
      cases hw with
      | null t => cases hwnull
      | _ => rfl

/-! ## The natural type -/

/-- A value other than NULL gives away the scalar type that it fits. -/
theorem inferType_of_fits (h : Fits t v) (hnull : v.isNull = false) :
    v.inferType = .ok (.scalar t.unbounded) := by
  cases h with
  | null t => cases hnull
  | _ => rfl

/-- The first element speaks for an array without NULL. -/
theorem inferElement_cons (hnull : v.isNull = false) :
    inferElement (v :: items) = v.inferType := by
  cases v with
  | null => cases hnull
  | _ => rfl

/-- A value that some type accepts gives that type away but for a bound on its length,
    unless it is NULL or an empty array, which many types accept. -/
theorem inferType_of_fitsColumn (h : FitsColumn type v) (hnull : v ≠ null)
    (hempty : v ≠ array []) : v.inferType = .ok type.unbounded := by
  cases h with
  | scalar h =>
      refine inferType_of_fits h ?_
      cases v with
      | null => exact absurd rfl hnull
      | _ => rfl
  | null t => exact absurd rfl hnull
  | @array t items h =>
      cases items with
      | nil => exact absurd rfl hempty
      | cons v vs =>
          obtain ⟨hfirst, hv⟩ := h v List.mem_cons_self
          rw [inferType, inferElement_cons hfirst, inferType_of_fits hv hfirst]
          rfl

/-! ## Arrays that no type accepts -/

/-- Some element of an array is NULL, an array or no finite number, or two are of
    different kinds. -/
inductive Misfits (items : List Value) : Prop
  | null (h : .null ∈ items)
  | nested (inner : List Value) (h : .array inner ∈ items)
  | notFinite (x : Binary64) (hx : ∀ y, x ≠ .finite y) (h : .float64 x ∈ items)
  | mixed (v w : Value) (hv : v ∈ items) (hw : w ∈ items) (hkinds : v.kind ≠ w.kind)

theorem Misfits.not_fits (h : Misfits items) : ¬ ∀ v ∈ items, v.isNull = false ∧ Fits t v := by
  intro hall
  cases h with
  | null h => cases (hall _ h).1
  | nested inner h => cases (hall _ h).2
  | notFinite x hx h =>
      cases (hall _ h).2 with
      | float64 y => exact hx y rfl
  | mixed v w hv hw hkinds =>
      obtain ⟨hvnull, hv⟩ := hall v hv
      obtain ⟨hwnull, hw⟩ := hall w hw
      exact hkinds (hv.kind_eq hvnull hw hwnull)

end Value

namespace TypedValue

variable {type : ColumnType} {v : Value} {typed : TypedValue}

theorem of_eq_ok_iff : TypedValue.of type v = .ok typed ↔ typed.type = type ∧ typed.value = v := by
  constructor
  · intro h
    rw [TypedValue.of] at h
    split at h
    · cases h
      exact ⟨rfl, rfl⟩
    · cases h
  · rintro ⟨rfl, rfl⟩
    exact of_type_value typed

/-- Inference finds a value with its natural type, if that accepts the value. -/
theorem infer_eq_ok_iff :
    infer v = .ok typed ↔ v.inferType = .ok typed.type ∧ typed.value = v := by
  show (v.inferType >>= fun type => TypedValue.of type v) = .ok typed ↔ _
  simp only [bind_eq_ok, of_eq_ok_iff]
  constructor
  · rintro ⟨type, htype, rfl, hvalue⟩
    exact ⟨htype, hvalue⟩
  · rintro ⟨htype, hvalue⟩
    exact ⟨typed.type, htype, rfl, hvalue⟩

/-- **Inference finds the principal type.**  The type of a value can be inferred just
    when some type accepts it and it is neither NULL nor an empty array.  What is
    inferred is then every type that accepts the value, without a bound on its length.
    So an array is refused for an element that is NULL, an array or no finite number,
    and for two elements of different kinds, wherever they stand. -/
theorem infer_principal :
    (∀ v, (∃ typed, infer v = .ok typed) ↔
      v ≠ .null ∧ v ≠ .array [] ∧ ∃ type, v.check type = .ok ()) ∧
    (∀ v typed, infer v = .ok typed → typed.value = v ∧
      ∀ type, v.check type = .ok () → typed.type = type.unbounded) ∧
    ∀ items, Value.Misfits items → ∃ e, infer (.array items) = .error e := by
  have hinferred : ∀ v typed, infer v = .ok typed → v ≠ .null ∧ v ≠ .array [] := by
    intro v typed h
    obtain ⟨htype, -⟩ := infer_eq_ok_iff.mp h
    constructor
    · rintro rfl
      cases htype
    · rintro rfl
      cases htype
  refine ⟨?inferred, ?principal, ?misfits⟩
  case inferred =>
    intro v
    constructor
    · rintro ⟨typed, h⟩
      obtain ⟨hnull, hempty⟩ := hinferred v typed h
      obtain ⟨-, rfl⟩ := infer_eq_ok_iff.mp h
      exact ⟨hnull, hempty, typed.type, typed.fits⟩
    · rintro ⟨hnull, hempty, type, hcheck⟩
      have hfits := Value.check_eq_ok_iff.mp hcheck
      exact ⟨⟨type.unbounded, v, Value.check_eq_ok_iff.mpr hfits.unbounded⟩,
        infer_eq_ok_iff.mpr ⟨Value.inferType_of_fitsColumn hfits hnull hempty, rfl⟩⟩
  case principal =>
    intro v typed h
    obtain ⟨hnull, hempty⟩ := hinferred v typed h
    obtain ⟨htype, hvalue⟩ := infer_eq_ok_iff.mp h
    refine ⟨hvalue, fun type hcheck => ?_⟩
    have hfits := Value.check_eq_ok_iff.mp hcheck
    rw [Value.inferType_of_fitsColumn hfits hnull hempty] at htype
    exact (Except.ok.inj htype).symm
  case misfits =>
    intro items hmisfits
    cases h : infer (.array items) with
    | error e => exact ⟨e, rfl⟩
    | ok typed =>
        have hfits := typed.fitsColumn
        rw [(infer_eq_ok_iff.mp h).2] at hfits
        -- no scalar type accepts an array
        generalize typed.type = type at hfits
        cases hfits with
        | scalar hscalar => cases hscalar
        | array hitems => exact absurd hitems hmisfits.not_fits

/-- Two words, neither of more than nine letters. -/
def shortWords : Value :=
  .array [.string "spanner", .string "wire"]

/-- The words are texts of any length; with NULL behind them no type is found. -/
theorem infer_principal_shortWords :
    (∃ typed, infer shortWords = .ok typed ∧ typed.value = shortWords ∧
      typed.type = .array (.string .max)) ∧
    ∃ e, infer (.array [.string "spanner", .string "wire", .null]) = .error e := by
  obtain ⟨inferred, principal, misfits⟩ := infer_principal
  have hcheck : shortWords.check (.array (.string (.bounded 9 (by decide)))) = .ok () :=
    rfl
  obtain ⟨typed, h⟩ := (inferred shortWords).mpr ⟨nofun, nofun, _, hcheck⟩
  obtain ⟨hvalue, htype⟩ := principal shortWords typed h
  exact ⟨⟨typed, h, hvalue, htype _ hcheck⟩, misfits _ (.null (by simp))⟩

end TypedValue

end SpannerDialect
