import SpannerDialect.Proofs.Value.Fits
import SpannerDialect.Value.Wire

/-! # Wire forms of typed values

    Every typed value can be sent.  Only NULL is sent as NULL. -/

namespace SpannerDialect

namespace Value

/-- The wire form of a value that a scalar type accepts. -/
theorem exists_wire {t : ScalarType} {v : Value} (h : Fits t v) :
    ∃ j, v.wire = .ok j ∧ (v.isNull = false → j ≠ .null) := by
  cases h with
  | null => exact ⟨_, rfl, Bool.noConfusion⟩
  | _ => exact ⟨_, rfl, fun _ => by simp [wireText]⟩

theorem exists_wireItems {t : ScalarType} {items : List Value} (h : ∀ v ∈ items, Fits t v) :
    ∃ js, wireItems items = .ok js := by
  induction items with
  | nil => exact ⟨[], rfl⟩
  | cons v vs ih =>
      obtain ⟨j, hv, -⟩ := exists_wire (h v (List.mem_cons_self ..))
      obtain ⟨js, hvs⟩ := ih fun w hw => h w (List.mem_cons_of_mem _ hw)
      refine ⟨j :: js, ?_⟩
      rw [wireItems, hv, hvs]
      rfl

end Value

/-- Every typed value has a wire form. -/
theorem TypedValue.exists_wire (v : TypedValue) : ∃ j, v.wire = .ok j := by
  obtain ⟨type, value, hfits⟩ := v
  have h : Value.FitsColumn type value := TypedValue.fitsColumn ⟨type, value, hfits⟩
  rw [TypedValue.wire]
  cases h with
  | scalar h =>
      obtain ⟨j, hj, -⟩ := Value.exists_wire h
      exact ⟨j, hj⟩
  | null => exact ⟨.null, rfl⟩
  | array h =>
      obtain ⟨js, hjs⟩ := Value.exists_wireItems fun v hv => (h v hv).2
      refine ⟨.array js, ?_⟩
      rw [Value.wire, hjs]
      rfl

end SpannerDialect
