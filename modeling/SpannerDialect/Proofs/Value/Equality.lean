import SpannerDialect.Proofs.Except
import SpannerDialect.Proofs.Value.Fits
import SpannerDialect.Value.Coercion

/-! # Values that equal themselves

    Values are compared as numbers where they hold numbers, and "not a number"
    differs from itself.  Documents have no such number, and column types accept
    none.  So whatever can be turned into a value that a column type accepts
    equals itself (`Value.same_self_of_coerce`). -/

namespace SpannerDialect

theorem Binary64.Finite.same_self (x : Finite) : x.same x = true := by
  rw [same, beq_self_eq_true, Bool.or_true]

/-! ## Documents -/

namespace Json

theorem Number.same_self (n : Number) : n.same n = true := by
  cases n with
  | integer n _ => exact beq_self_eq_true n
  | float x => exact x.same_self

mutual

theorem same_self : ∀ j : Json, j.same j = true
  | null => by rw [same]
  | bool b => by rw [same, beq_self_eq_true]
  | number n => by rw [same, n.same_self]
  | string s => by rw [same, beq_self_eq_true]
  | array items => by rw [same, sameItems_self items]
  | object fields => by rw [same, sameFields_self fields]

theorem sameItems_self : ∀ items : List Json, sameItems items items = true
  | [] => by rw [sameItems]
  | a :: as => by rw [sameItems, same_self a, sameItems_self as, Bool.and_self]

theorem sameFields_self : ∀ fields : List (String × Json), sameFields fields fields = true
  | [] => by rw [sameFields]
  | (k, a) :: as => by
      rw [sameFields, beq_self_eq_true, same_self a, sameFields_self as, Bool.and_self,
        Bool.and_self]

end

end Json

/-! ## Values -/

namespace Value

variable {offset : Calendar.Offset} {type : ColumnType} {t : ScalarType} {v w : Value}

theorem sameItems_self {items : List Value} (h : ∀ v ∈ items, v.same v = true) :
    sameItems items items = true := by
  induction items with
  | nil => rw [sameItems]
  | cons v vs ih =>
      obtain ⟨hfirst, hrest⟩ := List.forall_mem_cons.mp h
      rw [sameItems, hfirst, ih hrest, Bool.and_self]

/-- What is turned into a value that a scalar type accepts equals itself: a
    floating point number and an array stay what they are, and of these the type
    accepts only the finite numbers. -/
theorem same_self_of_coerceScalar (hv : coerceScalar offset t v = .ok w) (hw : Fits t w) :
    v.same v = true := by
  cases v with
  | float64 x =>
      have hstays : coerceScalar offset t (float64 x) = .ok (float64 x) := by
        cases t <;> rfl
      obtain rfl := Except.ok.inj (hstays.symm.trans hv)
      cases hw with
      | float64 x =>
          rw [same]
          exact x.same_self
  | array items =>
      have hstays : coerceScalar offset t (array items) = .ok (array items) := by
        cases t <;> rfl
      obtain rfl := Except.ok.inj (hstays.symm.trans hv)
      cases hw
  | null => rw [same]
  | json d =>
      rw [same]
      exact d.tree.same_self
  | bool _ | int64 _ | numeric _ | string _ | bytes _ | date _ | timestamp _ =>
      rw [same, beq_self_eq_true]

theorem same_self_of_coerceItems {items ws : List Value}
    (hitems : items.mapM (coerceScalar offset t) = .ok ws) (hws : ∀ w ∈ ws, Fits t w) :
    ∀ v ∈ items, v.same v = true := by
  induction items generalizing ws with
  | nil => nofun
  | cons v vs ih =>
      rw [List.mapM_cons] at hitems
      obtain ⟨w, hv, hitems⟩ := exists_of_bind_eq_ok hitems
      obtain ⟨rest, hvs, hitems⟩ := exists_of_bind_eq_ok hitems
      obtain rfl := Except.ok.inj hitems
      obtain ⟨hw, hrest⟩ := List.forall_mem_cons.mp hws
      exact List.forall_mem_cons.mpr ⟨same_self_of_coerceScalar hv hw, ih hvs hrest⟩

/-- What is turned into a value that a column type accepts equals itself. -/
theorem same_self_of_coerce (hv : v.coerce offset type = .ok w) (hw : FitsColumn type w) :
    v.same v = true := by
  cases type with
  | scalar t =>
      cases hw with
      | scalar hw => exact same_self_of_coerceScalar hv hw
  | array t =>
      cases v with
      | array items =>
          obtain ⟨ws, hitems, rfl⟩ := map_eq_ok.mp hv
          cases hw with
          | array hws =>
              rw [same]
              exact sameItems_self (same_self_of_coerceItems hitems fun w h => (hws w h).2)
      | null => rw [same]
      | _ =>
          -- a single value stays, and no array type accepts it
          obtain rfl := Except.ok.inj hv
          cases hw

end Value

end SpannerDialect
