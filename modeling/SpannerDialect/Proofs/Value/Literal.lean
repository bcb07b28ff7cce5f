import SpannerDialect.Proofs.Text.Literals
import SpannerDialect.Proofs.Text.Plain
import SpannerDialect.Proofs.Value.Fits
import SpannerDialect.Value.Literal

/-! # Literals of typed values

    Every typed value has a literal, and the scanner passes over it: a
    literal neither holds a placeholder nor leaves a quote or a bracket open,
    whatever text the value has (`TypedValue.exists_enclosed_literal`).  Nor
    can the text of a literal run on into what follows it
    (`TypedValue.literal_closed`). -/

namespace SpannerDialect

open Text

namespace Value

/-- The literal of a value that a scalar type accepts. -/
theorem exists_literal {t : ScalarType} {v : Value} (h : Fits t v) :
    ∃ text, v.literal = .ok text ∧ Enclosed .outside text := by
  cases h with
  | null => exact ⟨_, rfl, enclosed_unmarked (by decide)⟩
  | bool b => cases b <;> exact ⟨_, rfl, enclosed_unmarked (by decide)⟩
  | int64 i => exact ⟨_, rfl, (numeral_signed _).enclosed⟩
  | float64 x => exact ⟨_, rfl, (Binary64.Layout.numeral_finite _ x).enclosed⟩
  | numeric n => exact ⟨_, rfl, n.numeral_text.enclosed⟩
  | string n s => exact ⟨_, rfl, enclosed_quoteText _⟩
  | bytes n bs =>
      have hall : Enclosed .outside
          ("FROM_BASE64".toList ++ ('(' :: ('"' :: Base64.encode bs ++ ['"']) ++ [')'])) :=
        (enclosed_unmarked (by decide)).append (plain_encode bs).enclosed_region.group
      refine ⟨_, rfl, ?_⟩
      simpa using hall
  | date d =>
      have hall : Enclosed .outside ("DATE ".toList ++ ('"' :: d.text ++ ['"'])) :=
        (enclosed_unmarked (by decide)).append d.plain_text.enclosed_region
      refine ⟨_, rfl, ?_⟩
      simpa using hall
  | timestamp ts =>
      have hall : Enclosed .outside ("TIMESTAMP ".toList ++ ('"' :: ts.literalText ++ ['"'])) :=
        (enclosed_unmarked (by decide)).append ts.plain_literalText.enclosed_region
      refine ⟨_, rfl, ?_⟩
      simpa using hall
  | json d => exact ⟨_, rfl, (enclosed_unmarked (by decide)).append (enclosed_quoteText _)⟩

theorem exists_literals {t : ScalarType} {items : List Value} (h : ∀ v ∈ items, Fits t v) :
    ∃ texts, literals items = .ok texts ∧ ∀ text ∈ texts, Enclosed .outside text := by
  induction items with
  | nil => exact ⟨[], rfl, fun text ht => absurd ht List.not_mem_nil⟩
  | cons v vs ih =>
      obtain ⟨text, hv, htext⟩ := exists_literal (h v (List.mem_cons_self ..))
      obtain ⟨texts, hvs, htexts⟩ := ih fun w hw => h w (List.mem_cons_of_mem _ hw)
      refine ⟨text :: texts, ?_, List.forall_mem_cons.mpr ⟨htext, htexts⟩⟩
      rw [literals, hv, hvs]
      rfl

end Value

namespace TypedValue

/-- A typed value has a literal, and the literal is enclosed. -/
theorem exists_enclosed_literal (v : TypedValue) :
    ∃ text, v.literal = .ok text ∧ Enclosed .outside text := by
  obtain ⟨type, value, hfits⟩ := v
  have h : Value.FitsColumn type value := TypedValue.fitsColumn ⟨type, value, hfits⟩
  rw [TypedValue.literal]
  cases h with
  | scalar h => exact Value.exists_literal h
  | null => exact Value.exists_literal (.null .bool)
  | @array t items h =>
      obtain ⟨texts, hitems, htexts⟩ := Value.exists_literals fun v hv => (h v hv).2
      refine ⟨'[' :: Text.join [',', ' '] texts ++ [']'], ?_, ?_⟩
      · rw [Value.literal, hitems]
        rfl
      · have hjoin : Enclosed .outside (Text.join [',', ' '] texts) :=
          .join (enclosed_unmarked (by decide)) htexts
        exact ((enclosed_outside (c := '[') rfl).append hjoin).append (enclosed_outside rfl)

/-- A typed value has a literal, and the literal is neutral outside quotes. -/
theorem exists_literal (v : TypedValue) :
    ∃ text, v.literal = .ok text ∧ Neutral .outside text := by
  obtain ⟨text, htext, henclosed⟩ := v.exists_enclosed_literal
  exact ⟨text, htext, henclosed.neutral⟩

end TypedValue

/-- **Literals are closed.**  Every typed value has a literal, without
    placeholders and with all of its quotes closed, and the literal of a text is
    told apart from whatever follows it, in either form. -/
theorem TypedValue.literal_closed :
    (∀ v : TypedValue, ∃ text, v.literal = .ok text ∧ placeholders text = 0 ∧
        scan .outside text = .outside) ∧
      ∀ t u rest rest' : List Char,
        quoteText t ++ rest = quoteText u ++ rest' ↔ t = u ∧ rest = rest' := by
  constructor
  · intro v
    obtain ⟨text, htext, hscan, hplaceholders⟩ := v.exists_literal
    exact ⟨text, htext, hplaceholders, hscan⟩
  · intro t u rest rest'
    exact quoteText_append_inj

end SpannerDialect
