import Mathlib.Algebra.Order.Field.Rat
import Mathlib.Tactic.FieldSimp
import Mathlib.Tactic.Ring
import SpannerDialect.Proofs.Except
import SpannerDialect.Proofs.Numeric

/-! # Decimal texts and their numbers

    A decimal text is a sign, digits, and maybe a point with digits behind it
    (`Spelling.Spells`), and it stands for a rational number (`Denotes`).  The reader
    finds the parts of such a text again (`parse_of_spells`), and finds none in any
    other (`exists_spells_of_parse`).  What it reads are the billionths of the
    number (`Spelling.value_eq`), so nothing is lost, and one number has one text
    (`parse_canonical`). -/

namespace SpannerDialect.Numeric

open Text

/-! ## Spellings -/

/-- The parts of a decimal text. -/
structure Spelling where
  negative : Bool
  whole : List Char
  fraction : List Char
  whole_digits : whole.all Char.isDigit = true
  fraction_digits : fraction.all Char.isDigit = true
  some_digit : whole ≠ [] ∨ fraction ≠ []

/-- A sign, or none; it is negative or not. -/
inductive IsSign : List Char → Bool → Prop
  | none : IsSign [] false
  | plus : IsSign ['+'] false
  | minus : IsSign ['-'] true

/-- The number that digits behind the point stand for. -/
def fractionValue : List Char → ℚ
  | [] => 0
  | c :: cs => ((c.toNat - '0'.toNat : Nat) + fractionValue cs) / 10

namespace Spelling

/-- A text is made of these parts. -/
def Spells (d : Spelling) (text : List Char) : Prop :=
  ∃ sign point, IsSign sign d.negative ∧ IsPoint point d.fraction ∧ text = sign ++ (d.whole ++ point)

/-- The number that these parts stand for. -/
def value (d : Spelling) : ℚ :=
  (if d.negative then -1 else 1) * (number d.whole + fractionValue d.fraction)

/-- The billionths of the number, where the fraction has no more than nine digits
    but for zeros at its end. -/
def billionths (d : Spelling) : Int :=
  let fraction := trimZerosRight d.fraction
  let size : Nat := number d.whole * unit + number fraction * placeValue (9 - fraction.length)
  if d.negative then -(size : Int) else size

end Spelling

/-- A text stands for a number. -/
def Denotes (text : List Char) (q : ℚ) : Prop :=
  ∃ d : Spelling, d.Spells text ∧ d.value = q

/-! ## The parts of a text -/

theorem splitSign_sign {sign rest : List Char} {negative : Bool} (hsign : IsSign sign negative)
    (hrest : splitSign rest = (false, rest)) : splitSign (sign ++ rest) = (negative, rest) := by
  cases hsign with
  | none => exact hrest
  | plus => rfl
  | minus => rfl

/-- A text is a sign and what is left behind it. -/
theorem exists_isSign (text : List Char) :
    ∃ sign, IsSign sign (splitSign text).1 ∧ text = sign ++ (splitSign text).2 := by
  rw [splitSign.eq_def]
  split
  · exact ⟨['-'], .minus, rfl⟩
  · exact ⟨['+'], .plus, rfl⟩
  · exact ⟨[], .none, rfl⟩

/-- A text is what stands before the first point, and the point with what stands
    behind it. -/
theorem exists_isPoint (cs : List Char) :
    ∃ point, IsPoint point (splitPoint cs).2 ∧ cs = (splitPoint cs).1 ++ point := by
  refine ⟨cs.dropWhile (· != '.'), ?_, List.takeWhile_append_dropWhile.symm⟩
  have hhead := List.head?_dropWhile_not (· != '.') cs
  show IsPoint _ ((cs.dropWhile (· != '.')).drop 1)
  generalize cs.dropWhile (· != '.') = point at hhead ⊢
  cases point with
  | nil => exact .none
  | cons c fraction =>
      obtain rfl : c = '.' := bne_eq_false_iff_eq.mp hhead
      exact .point fraction

/-- Digits, or a point in their place, do not start with a sign. -/
theorem splitSign_unsigned {whole point fraction : List Char}
    (hwhole : whole.all Char.isDigit = true) (hpoint : IsPoint point fraction) :
    splitSign (whole ++ point) = (false, whole ++ point) := by
  by_cases hnil : whole = []
  · subst hnil
    cases hpoint with
    | none => rfl
    | point fraction => rfl
  · exact splitSign_digits hwhole hnil point

namespace Spelling

variable {d : Spelling} {text : List Char}

/-- A spelling is read from its text. -/
theorem parse_of_spells (h : d.Spells text) :
    parse text =
      if h : (trimZerosRight d.fraction).length ≤ 9 ∧ d.billionths.natAbs < placeValue 38 then
        .ok ⟨d.billionths, h.2⟩
      else .error .tooWide := by
  obtain ⟨sign, point, hsign, hpoint, rfl⟩ := h
  rw [parse, splitSign_sign hsign (splitSign_unsigned d.whole_digits hpoint)]
  dsimp only
  rw [splitPoint_digits d.whole_digits hpoint]
  dsimp only
  rw [if_neg]
  · rfl
  · rintro (⟨hwhole, hfraction⟩ | hall)
    · rcases d.some_digit with h | h
      · exact h hwhole
      · exact h hfraction
    · exact hall ⟨d.whole_digits, d.fraction_digits⟩

end Spelling

/-- What is read has a spelling. -/
theorem exists_spells_of_parse {text : List Char} {n : Numeric} (h : parse text = .ok n) :
    ∃ d : Spelling, d.Spells text := by
  obtain ⟨sign, hsign, htext⟩ := exists_isSign text
  obtain ⟨point, hpoint, hrest⟩ := exists_isPoint (splitSign text).2
  rw [parse] at h
  generalize splitSign text = signed at h hsign htext hpoint hrest
  obtain ⟨negative, unsigned⟩ := signed
  generalize hsplit : splitPoint unsigned = split at hpoint hrest
  obtain ⟨whole, fraction⟩ := split
  dsimp only at h
  rw [hsplit] at h
  obtain ⟨hdigits, -⟩ := guard_eq_ok.mp h
  rw [not_or, not_and_or, not_not] at hdigits
  obtain ⟨hsome, hwhole, hfraction⟩ := hdigits
  refine ⟨⟨negative, whole, fraction, hwhole, hfraction, hsome⟩, sign, point, hsign, hpoint, ?_⟩
  rw [htext, hrest]

/-! ## The number -/

theorem placeValue_eq (places : Nat) : placeValue places = 10 ^ places :=
  rfl

theorem fractionValue_append (as bs : List Char) :
    fractionValue (as ++ bs) = fractionValue as + fractionValue bs / 10 ^ as.length := by
  induction as with
  | nil =>
      show fractionValue bs = 0 + fractionValue bs / 10 ^ 0
      ring
  | cons a as ih =>
      rw [List.cons_append, fractionValue, ih, fractionValue, List.length_cons, pow_succ]
      ring

theorem fractionValue_zeros (k : Nat) : fractionValue (List.replicate k '0') = 0 := by
  induction k with
  | zero => rfl
  | succ k ih =>
      rw [List.replicate_succ, fractionValue, ih, Nat.sub_self]
      norm_num

/-- Digits behind the point are so many of the last place. -/
theorem fractionValue_eq (ds : List Char) : fractionValue ds = number ds / 10 ^ ds.length := by
  induction ds with
  | nil => simp [fractionValue, number, Nat.ofDigitChars]
  | cons c ds ih =>
      rw [fractionValue, ih, number_cons, List.length_cons, pow_succ]
      push_cast
      field_simp

/-- Zeros at the end of a fraction count for nothing. -/
theorem fractionValue_trimZerosRight (ds : List Char) :
    fractionValue (trimZerosRight ds) = fractionValue ds := by
  obtain ⟨k, hk⟩ := exists_trimZerosRight_append ds
  conv => rhs; rw [hk]
  rw [fractionValue_append, fractionValue_zeros, zero_div, add_zero]

namespace Spelling

variable {d : Spelling} {text : List Char}

/-- What is read of the fraction are its billionths. -/
theorem fraction_billionths (h : (trimZerosRight d.fraction).length ≤ 9) :
    ((number (trimZerosRight d.fraction) * placeValue (9 - (trimZerosRight d.fraction).length) : Nat)
      : ℚ) = fractionValue d.fraction * unit := by
  rw [← fractionValue_trimZerosRight, fractionValue_eq]
  generalize trimZerosRight d.fraction = ds at h ⊢
  have hunit : (unit : ℚ) = 10 ^ ds.length * 10 ^ (9 - ds.length) := by
    rw [← pow_add, Nat.add_sub_cancel' h]
    norm_num [unit]
  rw [hunit, placeValue_eq]
  push_cast
  field_simp

/-- The number of a spelling, if its billionths are whole. -/
theorem value_eq (h : (trimZerosRight d.fraction).length ≤ 9) :
    d.value = d.billionths / unit := by
  have hunit : (unit : ℚ) ≠ 0 := by norm_num [unit]
  have hsize := fraction_billionths h
  rw [eq_div_iff hunit, value, billionths]
  push_cast at hsize
  cases d.negative with
  | false =>
      simp only [Bool.false_eq_true, if_false]
      push_cast
      rw [hsize]
      ring
  | true =>
      simp only [if_true]
      push_cast
      rw [hsize]
      ring

/-! ## The width -/

theorem natAbs_billionths (d : Spelling) :
    d.billionths.natAbs = number d.whole * unit +
      number (trimZerosRight d.fraction) * placeValue (9 - (trimZerosRight d.fraction).length) := by
  cases hsign : d.negative with
  | false => simp only [billionths, hsign, Bool.false_eq_true, if_false, Int.natAbs_natCast]
  | true => simp only [billionths, hsign, if_true, Int.natAbs_neg, Int.natAbs_natCast]

/-- What is read of the fraction is less than a whole one. -/
theorem fraction_lt_unit (h : (trimZerosRight d.fraction).length ≤ 9) :
    number (trimZerosRight d.fraction) * placeValue (9 - (trimZerosRight d.fraction).length)
      < unit :=
  number_mul_placeValue_lt (all_trimZerosRight d.fraction_digits) h

/-- The billionths are bounded when not too many digits stand before the point, but
    for zeros in front. -/
theorem natAbs_billionths_lt (h : (trimZerosRight d.fraction).length ≤ 9) :
    d.billionths.natAbs < placeValue 38 ↔ (d.whole.dropWhile (· == '0')).length ≤ 29 := by
  have hfraction := fraction_lt_unit h
  have hunit : unit = 1000000000 := rfl
  have hlimit : placeValue 38 = 10 ^ 29 * 1000000000 := by norm_num [placeValue_eq]
  rw [← number_lt_iff d.whole_digits, natAbs_billionths, hlimit, hunit]
  rw [hunit] at hfraction
  omega

/-- The billionths of what is read are those of any spelling of the text. -/
theorem billionths_of_parse {n : Numeric} (hspells : d.Spells text) (h : parse text = .ok n) :
    (trimZerosRight d.fraction).length ≤ 9 ∧ d.billionths = n.billionths := by
  rw [parse_of_spells hspells] at h
  split at h
  · rename_i hsize
    cases h
    exact ⟨hsize.1, rfl⟩
  · cases h

/-- A text is accepted when its digits are not too many, but for zeros at both
    ends. -/
theorem exists_parse_iff (hspells : d.Spells text) :
    (∃ n, parse text = .ok n) ↔
      (d.whole.dropWhile (· == '0')).length ≤ 29 ∧ (d.fraction.rdropWhile (· == '0')).length ≤ 9 := by
  constructor
  · rintro ⟨n, h⟩
    obtain ⟨hfraction, heq⟩ := billionths_of_parse hspells h
    refine ⟨(natAbs_billionths_lt hfraction).mp ?_, hfraction⟩
    rw [heq]
    exact n.bounded
  · rintro ⟨hwhole, hfraction⟩
    refine ⟨⟨d.billionths, (natAbs_billionths_lt hfraction).mpr hwhole⟩, ?_⟩
    rw [parse_of_spells hspells]
    exact dif_pos ⟨hfraction, (natAbs_billionths_lt hfraction).mpr hwhole⟩

end Spelling

/-! ## One text for each number -/

/-- The number of a decimal. -/
def toRat (n : Numeric) : ℚ :=
  n.billionths / unit

theorem toRat_inj {a b : Numeric} : a.toRat = b.toRat ↔ a = b := by
  have hunit : (unit : ℚ) ≠ 0 := by norm_num [unit]
  constructor
  · intro h
    have hbillionths : a.billionths = b.billionths := by
      exact_mod_cast (div_left_inj' hunit).mp h
    cases a
    cases b
    cases hbillionths
    rfl
  · rintro rfl
    rfl

theorem text_inj {a b : Numeric} : a.text = b.text ↔ a = b := by
  constructor
  · intro h
    have hparse := parse_text a
    rw [h, parse_text b] at hparse
    exact (Except.ok.inj hparse).symm
  · rintro rfl
    rfl

/-- A text that is read stands for the number that is read, and for no other. -/
theorem denotes_iff {text : List Char} {n : Numeric} (h : parse text = .ok n) (q : ℚ) :
    Denotes text q ↔ q = n.toRat := by
  have hvalue : ∀ d : Spelling, d.Spells text → d.value = n.toRat := by
    intro d hspells
    obtain ⟨hfraction, heq⟩ := Spelling.billionths_of_parse hspells h
    rw [Spelling.value_eq hfraction, heq, toRat]
  constructor
  · rintro ⟨d, hspells, rfl⟩
    exact hvalue d hspells
  · rintro rfl
    obtain ⟨d, hspells⟩ := exists_spells_of_parse h
    exact ⟨d, hspells, hvalue d hspells⟩

/-! ## Whole numbers -/

/-- A whole number is written as its digits. -/
theorem text_ofInt64 (i : Int64) : (ofInt64 i).text = signed i.toInt := by
  have hunit : (unit : Int) = 1000000000 := rfl
  have hsize : (i.toInt * unit).natAbs = i.toInt.natAbs * unit := Int.natAbs_mul ..
  have hwhole : (ofInt64 i).wholeDigits = digits i.toInt.natAbs := by
    show digits ((i.toInt * unit).natAbs / unit) = _
    rw [hsize, Nat.mul_div_cancel _ (by decide)]
  have hfraction : (ofInt64 i).fractionDigits = [] := by
    show trimZerosRight (padded 9 ((i.toInt * unit).natAbs % unit)) = []
    rw [hsize, Nat.mul_mod_left]
    rfl
  have hnegative : (ofInt64 i).isNegative = decide (i.toInt < 0) := by
    show decide (i.toInt * unit < 0) = _
    rw [decide_eq_decide, hunit]
    omega
  rw [text, hwhole, hfraction, hnegative, if_pos rfl, List.append_nil]
  cases i.toInt with
  | ofNat m => rfl
  | negSucc m =>
      rw [decide_eq_true (Int.negSucc_lt_zero m)]
      rfl

/-- **Decimal texts are read exactly and written in one way.**  The texts that are
    read are just those of a sign, digits and maybe a point with digits, which are
    not too many but for zeros at both ends.  A text and its normalized form stand
    for one and the same number; two texts for one number have the same normalized
    form, so zero has no sign; and a normalized text is its own.  A whole number is
    what is read from its digits. -/
theorem parse_canonical :
    (∀ text, (∃ n, parse text = .ok n) ↔
      ∃ d : Spelling, d.Spells text ∧ (d.whole.dropWhile (· == '0')).length ≤ 29 ∧
        (d.fraction.rdropWhile (· == '0')).length ≤ 9) ∧
    (∀ text n, parse text = .ok n →
      ∃ q, ∀ r, (Denotes text r ↔ r = q) ∧ (Denotes n.text r ↔ r = q)) ∧
    (∀ s t m n, parse s = .ok m → parse t = .ok n →
      ((∃ q, Denotes s q ∧ Denotes t q) ↔ m.text = n.text)) ∧
    (∀ text n, parse text = .ok n → Denotes text 0 → n.text = ['0']) ∧
    (∀ text n, parse text = .ok n → parse n.text = .ok n) ∧
    ∀ i : Int64, parse (signed i.toInt) = .ok (ofInt64 i) ∧ (ofInt64 i).text = signed i.toInt := by
  refine ⟨fun text => ?_, fun text n h => ?_, fun s t m n hs ht => ?_, fun text n h hzero => ?_,
    fun text n _ => parse_text n, fun i => ?_⟩
  · constructor
    · rintro ⟨n, h⟩
      obtain ⟨d, hspells⟩ := exists_spells_of_parse h
      exact ⟨d, hspells, (Spelling.exists_parse_iff hspells).mp ⟨n, h⟩⟩
    · rintro ⟨d, hspells, hwidth⟩
      exact (Spelling.exists_parse_iff hspells).mpr hwidth
  · exact ⟨n.toRat, fun r => ⟨denotes_iff h r, denotes_iff (parse_text n) r⟩⟩
  · rw [text_inj, ← toRat_inj]
    constructor
    · rintro ⟨q, hq, hq'⟩
      rw [← (denotes_iff hs q).mp hq, (denotes_iff ht q).mp hq']
    · intro heq
      exact ⟨m.toRat, (denotes_iff hs _).mpr rfl, (denotes_iff ht _).mpr heq⟩
  · have hnull : (0 : ℚ) = (ofInt64 0).toRat := by
      simp [toRat, ofInt64]
    rw [denotes_iff h, hnull, toRat_inj] at hzero
    rw [← hzero, text_ofInt64]
    rfl
  · rw [← text_ofInt64]
    exact ⟨parse_text _, rfl⟩

/-- Zeros at both ends and a sign too many make no other number, and zero loses its
    sign. -/
theorem parse_canonical_zerosAround :
    ∃ m n zero : Numeric, parse "+00123.4500".toList = .ok m ∧ parse "123.45".toList = .ok n ∧
      parse "-.00".toList = .ok zero ∧
      (∃ q, Denotes "+00123.4500".toList q ∧ Denotes "123.45".toList q) ∧
      m.text = "123.45".toList ∧ parse m.text = .ok m ∧
      Denotes "-.00".toList 0 ∧ zero.text = ['0'] := by
  obtain ⟨-, hexact, hsame, hzero, htext, -⟩ := parse_canonical
  have hm : ∃ m, parse "+00123.4500".toList = .ok m ∧ m.text = "123.45".toList := ⟨_, rfl, rfl⟩
  have hn : ∃ n, parse "123.45".toList = .ok n ∧ n.text = "123.45".toList := ⟨_, rfl, rfl⟩
  have hz : ∃ z, parse "-.00".toList = .ok z := ⟨_, rfl⟩
  obtain ⟨m, hm, hmtext⟩ := hm
  obtain ⟨n, hn, hntext⟩ := hn
  obtain ⟨z, hz⟩ := hz
  have hnull : Denotes "-.00".toList 0 := by
    refine ⟨⟨true, [], ['0', '0'], rfl, rfl, Or.inr (List.cons_ne_nil _ _)⟩, ?_, ?_⟩
    · exact ⟨['-'], ['.', '0', '0'], .minus, .point _, rfl⟩
    · show (-1 : ℚ) * ((0 : Nat) + (0 + (0 + 0) / 10) / 10) = 0
      norm_num
  exact ⟨m, n, z, hm, hn, hz, (hsame _ _ m n hm hn).mpr (hmtext.trans hntext.symm), hmtext,
    htext _ m hm, hnull, hzero _ z hz hnull⟩

end SpannerDialect.Numeric
