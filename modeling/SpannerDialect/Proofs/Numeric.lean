import SpannerDialect.Numeric
import SpannerDialect.Proofs.Text.Digits

/-! # Exact decimals read back

    The text of a decimal falls into sign, digits before the point and
    digits after it, and each part is read as what it was written for
    (`Numeric.parse_text`). -/

namespace SpannerDialect.Numeric

open Text

/-- A point with digits behind it, or neither. -/
inductive IsPoint : List Char → List Char → Prop
  | none : IsPoint [] []
  | point (fraction : List Char) : IsPoint ('.' :: fraction) fraction

/-- The first point of a text stands behind the digits in front. -/
theorem splitPoint_digits {whole point fraction : List Char}
    (hwhole : whole.all Char.isDigit = true) (hpoint : IsPoint point fraction) :
    splitPoint (whole ++ point) = (whole, fraction) := by
  have hne : ∀ c ∈ whole, (c != '.') = true := by
    intro c hc
    exact bne_iff_ne.mpr (ne_of_isDigit (List.all_eq_true.mp hwhole c hc) rfl)
  rw [splitPoint, List.takeWhile_append_of_pos hne, List.dropWhile_append_of_pos hne]
  cases hpoint with
  | none =>
      show (whole ++ [], []) = _
      rw [List.append_nil]
  | point fraction =>
      show (whole ++ [], fraction) = _
      rw [List.append_nil]

/-- The digits after the point, with the point if there are any. -/
def pointText (n : Numeric) : List Char :=
  if n.fractionDigits = [] then [] else '.' :: n.fractionDigits

theorem isPoint_pointText (n : Numeric) : IsPoint n.pointText n.fractionDigits := by
  by_cases hnil : n.fractionDigits = []
  · rw [pointText, if_pos hnil, hnil]
    exact .none
  · rw [pointText, if_neg hnil]
    exact .point n.fractionDigits

theorem all_fractionDigits (n : Numeric) : n.fractionDigits.all Char.isDigit = true :=
  all_trimZerosRight (all_padded 9 _)

/-- The sign comes off a decimal. -/
theorem splitSign_text (n : Numeric) :
    splitSign n.text = (n.isNegative, n.wholeDigits ++ n.pointText) := by
  show splitSign ((if n.isNegative then ['-'] else []) ++ n.wholeDigits ++ n.pointText) = _
  cases n.isNegative with
  | false => exact splitSign_digits (all_digits _) (digits_ne_nil _) n.pointText
  | true => rfl

/-- The first point of a decimal stands between its digits. -/
theorem splitPoint_text (n : Numeric) :
    splitPoint (n.wholeDigits ++ n.pointText) = (n.wholeDigits, n.fractionDigits) :=
  splitPoint_digits (all_digits _) n.isPoint_pointText

/-- Zeros that are missing at the end of the fraction count as such. -/
theorem number_fractionDigits (n : Numeric) :
    n.fractionDigits.length ≤ 9 ∧
      number n.fractionDigits * placeValue (9 - n.fractionDigits.length)
        = n.billionths.natAbs % unit := by
  have hlen : (padded 9 (n.billionths.natAbs % unit)).length = 9 :=
    length_padded (by decide) (Nat.mod_lt _ (by decide))
  have hnumber := number_trimZerosRight (padded 9 (n.billionths.natAbs % unit))
  have hle := length_trimZerosRight_le (padded 9 (n.billionths.natAbs % unit))
  rw [number_padded, hlen] at hnumber
  rw [hlen] at hle
  exact ⟨hle, hnumber⟩

/-- The digits on both sides of the point make up the size of the value. -/
theorem size_eq (n : Numeric) :
    number n.wholeDigits * unit
      + number n.fractionDigits * placeValue (9 - n.fractionDigits.length)
      = n.billionths.natAbs := by
  rw [(number_fractionDigits n).2, wholeDigits, number_digits]
  exact Nat.div_add_mod' _ unit

theorem signed_size (n : Numeric) :
    (if n.isNegative then -(n.billionths.natAbs : Int) else n.billionths.natAbs)
      = n.billionths := by
  rw [isNegative]
  split
  · rename_i hneg
    have hlt := of_decide_eq_true hneg
    omega
  · rename_i hneg
    have hlt := of_decide_eq_false (Bool.eq_false_iff.mpr hneg)
    omega

/-- **A decimal is read back from its text.** -/
theorem parse_text (n : Numeric) : parse n.text = .ok n := by
  have htrim : trimZerosRight n.fractionDigits = n.fractionDigits :=
    trimZerosRight_trimZerosRight _
  rw [parse]
  rw [splitSign_text]
  dsimp only
  rw [splitPoint_text]
  dsimp only
  rw [if_neg]
  · simp only [htrim, size_eq, signed_size]
    exact dif_pos ⟨(number_fractionDigits n).1, n.bounded⟩
  · rintro (⟨hnil, -⟩ | hall)
    · exact digits_ne_nil _ hnil
    · exact hall ⟨all_digits _, all_fractionDigits n⟩

end SpannerDialect.Numeric
