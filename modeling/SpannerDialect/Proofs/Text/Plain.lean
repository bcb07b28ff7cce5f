import SpannerDialect.Binary64.Text
import SpannerDialect.Calendar.Printer
import SpannerDialect.Numeric
import SpannerDialect.Proofs.Text.Digits
import SpannerDialect.Proofs.Text.Enclosed
import SpannerDialect.Text.Base64

/-! # Plain text

    Plain characters mean nothing to the scanner, outside of quotes and
    between double quotes alike.  Numbers, dates, times and base64 are
    written with plain characters alone, and numbers without brackets too. -/

namespace SpannerDialect

namespace Text

/-- A character that is no quote, no placeholder and no backslash. -/
def isPlain (c : Char) : Bool :=
  !isQuote c && c != '?' && c != '\\'

/-- Text of plain characters. -/
def Plain (t : List Char) : Prop :=
  ∀ c ∈ t, isPlain c = true

instance (t : List Char) : Decidable (Plain t) :=
  List.decidableBAll _ t

theorem plain_append {a b : List Char} : Plain (a ++ b) ↔ Plain a ∧ Plain b :=
  List.forall_mem_append

theorem plain_cons {c : Char} {t : List Char} : Plain (c :: t) ↔ isPlain c = true ∧ Plain t :=
  List.forall_mem_cons

/-- Plain text is neutral outside quotes. -/
theorem Plain.neutral_outside {t : List Char} (h : Plain t) : Neutral .outside t := by
  refine Neutral.of_chars fun c hc => ?_
  have hplain := h c hc
  simp [isPlain] at hplain
  obtain ⟨⟨hq, hp⟩, -⟩ := hplain
  exact Text.neutral_outside hq hp

/-- Plain text between double quotes is enclosed. -/
theorem Plain.enclosed_region {t : List Char} (h : Plain t) :
    Enclosed .outside ('"' :: t ++ ['"']) := by
  refine Enclosed.region (.of_chars fun c hc => ?_) rfl
  have hplain := h c hc
  simp [isPlain, isQuote] at hplain
  obtain ⟨⟨⟨⟨hq, -⟩, -⟩, -⟩, hb⟩ := hplain
  exact enclosed_quoted hq hb

/-! ## Plain text behind another text -/

/-- The character that the scanner waits for, between quotes. -/
def ScanState.closing? : ScanState → Option Char
  | .outside => none
  | .quoted q | .escaped q => some q

theorem ScanState.closing?_eq_none {s : ScanState} : s.closing? = none ↔ s = .outside := by
  cases s <;> simp [closing?]

/-- The scanner never waits for anything but a quote. -/
theorem isQuote_of_closing?_scan {s : ScanState} (h : ∀ q ∈ s.closing?, isQuote q = true)
    (t : List Char) : ∀ q ∈ (scan s t).closing?, isQuote q = true := by
  have hnone : ∀ q ∈ ScanState.outside.closing?, isQuote q = true := by
    intro q hq
    cases hq
  induction t generalizing s with
  | nil => exact h
  | cons c t ih =>
      refine ih ?_
      cases s with
      | outside =>
          rw [ScanState.step]
          split
          · intro q hq
            obtain rfl := Option.some.inj hq
            assumption
          · exact hnone
      | quoted p =>
          rw [ScanState.step]
          split
          · exact h
          · split
            · exact hnone
            · exact h
      | escaped p => exact h

/-- Plain text neither opens a quoted region nor closes one. -/
theorem Plain.closing?_scan {t : List Char} (ht : Plain t) {s : ScanState}
    (h : ∀ q ∈ s.closing?, isQuote q = true) : (scan s t).closing? = s.closing? := by
  induction t generalizing s with
  | nil => rfl
  | cons c t ih =>
      obtain ⟨hc, ht⟩ := plain_cons.mp ht
      simp only [isPlain, Bool.and_eq_true, Bool.not_eq_true', bne_iff_ne] at hc
      obtain ⟨⟨hquote, -⟩, hbackslash⟩ := hc
      have hstep : (s.step c).closing? = s.closing? := by
        cases s with
        | outside => simp [ScanState.step, hquote]
        | quoted q =>
            have hne : c ≠ q := by
              rintro rfl
              exact Bool.noConfusion (hquote.symm.trans (h c rfl))
            rw [ScanState.step, if_neg hbackslash, if_neg hne]
        | escaped q => rfl
      rw [scan_cons, ih ht (hstep.symm ▸ h), hstep]

theorem Plain.placeholdersFrom_eq {t : List Char} (ht : Plain t) (s : ScanState) :
    placeholdersFrom s t = 0 := by
  induction t generalizing s with
  | nil => rfl
  | cons c t ih =>
      obtain ⟨hc, ht⟩ := plain_cons.mp ht
      have hne : c ≠ '?' := by
        rintro rfl
        exact absurd hc (by decide)
      rw [placeholdersFrom, ih ht]
      simp [isPlaceholder, hne]

/-- Plain text mends nothing: what stands before it is neutral by itself, or the whole
    is not. -/
theorem Plain.neutral_append_iff {a b : List Char} (hb : Plain b) :
    Neutral .outside (a ++ b) ↔ Neutral .outside a := by
  have hquote := isQuote_of_closing?_scan (s := .outside) (fun _ hq => by cases hq) a
  have hscan : scan (scan .outside a) b = .outside ↔ scan .outside a = .outside := by
    rw [← ScanState.closing?_eq_none, hb.closing?_scan hquote, ScanState.closing?_eq_none]
  rw [Neutral, Neutral, scan_append, placeholdersFrom_append, hb.placeholdersFrom_eq, Nat.add_zero,
    hscan]

/-! ## Numerals -/

/-- The characters of numbers. -/
def isNumeral (c : Char) : Bool :=
  c.isDigit || c == '.' || c == '-' || c == '+' || c == 'e'

/-- Text of such characters. -/
def Numeral (t : List Char) : Prop :=
  ∀ c ∈ t, isNumeral c = true

instance (t : List Char) : Decidable (Numeral t) :=
  List.decidableBAll _ t

theorem numeral_append {a b : List Char} : Numeral (a ++ b) ↔ Numeral a ∧ Numeral b :=
  List.forall_mem_append

theorem numeral_cons {c : Char} {t : List Char} :
    Numeral (c :: t) ↔ isNumeral c = true ∧ Numeral t :=
  List.forall_mem_cons

theorem Numeral.sublist {a b : List Char} (h : Numeral b) (hs : a.Sublist b) : Numeral a :=
  fun c hc => h c (hs.subset hc)

/-- A character of numbers is none that is no such character. -/
theorem ne_of_isNumeral {c d : Char} (hc : isNumeral c = true) (hd : isNumeral d = false) :
    c ≠ d := by
  rintro rfl
  exact Bool.noConfusion (hc.symm.trans hd)

theorem Numeral.plain {t : List Char} (h : Numeral t) : Plain t := by
  intro c hc
  have hne : ∀ d, isNumeral d = false → c ≠ d := fun _ => ne_of_isNumeral (h c hc)
  simp [isPlain, isQuote, hne '"' rfl, hne '\'' rfl, hne '\x60' rfl, hne '?' rfl, hne '\\' rfl]

/-- A number is enclosed wherever it stands outside quotes. -/
theorem Numeral.enclosed {t : List Char} (h : Numeral t) : Enclosed .outside t := by
  refine .of_chars fun c hc => enclosed_outside ?_
  have hne : ∀ d, isNumeral d = false → c ≠ d := fun _ => ne_of_isNumeral (h c hc)
  simp [isMark, isQuote, hne '"' rfl, hne '\'' rfl, hne '\x60' rfl, hne '?' rfl, hne '(' rfl,
    hne ')' rfl]

theorem isNumeral_of_isDigit {c : Char} (h : c.isDigit = true) : isNumeral c = true := by
  simp [isNumeral, h]

theorem numeral_zeros (n : Nat) : Numeral (List.replicate n '0') := by
  intro c hc
  rw [List.eq_of_mem_replicate hc]
  rfl

theorem numeral_digits (n : Nat) : Numeral (digits n) :=
  fun _ hc => isNumeral_of_isDigit (isDigit_of_mem_digits hc)

theorem numeral_padded (width n : Nat) : Numeral (padded width n) :=
  numeral_append.mpr ⟨numeral_zeros _, numeral_digits n⟩

theorem numeral_signed (i : Int) : Numeral (signed i) := by
  cases i with
  | ofNat n => exact numeral_digits n
  | negSucc n => exact numeral_cons.mpr ⟨rfl, numeral_digits (n + 1)⟩

theorem plain_digits (n : Nat) : Plain (digits n) :=
  (numeral_digits n).plain

theorem plain_padded (width n : Nat) : Plain (padded width n) :=
  (numeral_padded width n).plain

theorem trimZerosRight_sublist (ds : List Char) : (trimZerosRight ds).Sublist ds := by
  have h : (ds.reverse.dropWhile (· == '0')).Sublist ds.reverse := List.dropWhile_sublist _
  have hr := h.reverse
  rwa [List.reverse_reverse] at hr

/-! ## Base64 -/

theorem isPlain_symbol {n : Nat} (h : n < 64) : isPlain (Base64.symbol n) = true := by
  revert n
  decide

theorem plain_encode (bs : List UInt8) : Plain (Base64.encode bs) := by
  fun_induction Base64.encode bs with
  | case1 => exact fun c hc => absurd hc List.not_mem_nil
  | case2 a n =>
      have ha := a.toNat_lt
      have hn : n / 64 < 64 := by omega
      simp only [plain_cons, isPlain_symbol hn, isPlain_symbol (Nat.mod_lt n (by decide))]
      decide
  | case3 a b n =>
      have ha := a.toNat_lt
      have hb := b.toNat_lt
      have hn : n / 4096 < 64 := by omega
      simp only [plain_cons, isPlain_symbol hn, isPlain_symbol (Nat.mod_lt _ (by decide : 0 < 64))]
      decide
  | case4 a b c rest n ih =>
      have ha := a.toNat_lt
      have hb := b.toNat_lt
      have hc := c.toNat_lt
      have hn : n / 262144 < 64 := by omega
      simp only [plain_cons, isPlain_symbol hn, isPlain_symbol (Nat.mod_lt _ (by decide : 0 < 64))]
      exact ⟨trivial, trivial, trivial, trivial, ih⟩

end Text

open Text

/-! ## Exact decimals and floating point numbers -/

theorem Numeric.numeral_text (n : Numeric) : Numeral n.text := by
  have hfraction : Numeral n.fractionDigits :=
    (numeral_padded 9 _).sublist (trimZerosRight_sublist _)
  rw [Numeric.text, numeral_append, numeral_append]
  refine ⟨⟨?_, numeral_digits _⟩, ?_⟩
  · split <;> decide
  · split
    · decide
    · exact numeral_cons.mpr ⟨rfl, hfraction⟩

namespace Binary64.Layout

theorem numeral_placePoint {ds : List Char} (h : Numeral ds) (whole : Int) :
    Numeral (placePoint ds whole) := by
  rw [placePoint]
  split
  · exact numeral_append.mpr ⟨numeral_append.mpr ⟨by decide, numeral_zeros _⟩, h⟩
  · split
    · exact numeral_append.mpr ⟨numeral_append.mpr ⟨h, numeral_zeros _⟩, by decide⟩
    · exact numeral_append.mpr ⟨h.sublist (List.take_sublist _ _),
        numeral_cons.mpr ⟨rfl, h.sublist (List.drop_sublist _ _)⟩⟩

theorem numeral_scientific (layout : Layout) {ds : List Char} (h : Numeral ds) (exponent : Int) :
    Numeral (layout.scientific ds exponent) := by
  rw [scientific]
  rw [numeral_append, numeral_append, numeral_append, numeral_cons]
  refine ⟨⟨⟨h.sublist (List.take_sublist _ _), ?_⟩, rfl, ?_⟩, numeral_signed _⟩
  · split
    · decide
    · exact numeral_cons.mpr ⟨rfl, h.sublist (List.drop_sublist _ _)⟩
  · split <;> decide

/-- A finite number in either layout. -/
theorem numeral_finite (layout : Layout) (x : Finite) : Numeral (layout.finite x) := by
  rw [finite]
  refine numeral_append.mpr ⟨?_, ?_⟩
  · split <;> decide
  · split
    · decide
    · rw [decimal]
      split
      · exact numeral_placePoint (numeral_digits _) _
      · exact numeral_scientific layout (numeral_digits _) _

end Binary64.Layout

/-! ## Dates and times -/

namespace Calendar

theorem plain_yearText (year : Int) : Plain (yearText year) := by
  rw [yearText]
  split
  · exact plain_padded 4 _
  · refine plain_cons.mpr ⟨?_, plain_padded 4 _⟩
    split <;> decide

theorem Date.plain_text (d : Date) : Plain d.text :=
  plain_append.mpr ⟨plain_append.mpr ⟨plain_yearText _,
    plain_cons.mpr ⟨by decide, plain_padded 2 _⟩⟩, plain_cons.mpr ⟨by decide, plain_padded 2 _⟩⟩

theorem LocalTime.plain_clockText (t : LocalTime) : Plain t.clockText :=
  plain_append.mpr ⟨plain_append.mpr ⟨plain_padded 2 _,
    plain_cons.mpr ⟨by decide, plain_padded 2 _⟩⟩, plain_cons.mpr ⟨by decide, plain_padded 2 _⟩⟩

theorem Timestamp.plain_literalText (ts : Timestamp) : Plain ts.literalText := by
  have hmicros : Plain ts.utc.microsText := plain_cons.mpr ⟨by decide, plain_padded 6 _⟩
  rw [literalText]
  exact plain_append.mpr ⟨plain_append.mpr ⟨plain_append.mpr ⟨ts.utc.date.plain_text,
    plain_cons.mpr ⟨by decide, ts.utc.plain_clockText⟩⟩, hmicros⟩, by decide⟩

end Calendar

end SpannerDialect
