import Mathlib.Algebra.Order.Field.Basic
import Mathlib.Order.Compare
import Mathlib.Tactic.Linarith
import SpannerDialect.Proofs.Decimal

/-! # The order of decimals

    Decimals are put into order by their digits.  Runs of digits in the same places
    are in the order of what they stand for, and so are fractions of different
    lengths when neither ends in a zero (`compares_lexical`).  Before the point
    there are no zeros in front, so the longer run is the larger number
    (`compares_digits`).  Together, and the other way round below zero, this
    is the order of the numbers (`compare_numbers`). -/

namespace SpannerDialect.Numeric

open Text

/-! ## One order behind another -/

/-- Whole parts decide, and fractions where these are the same. -/
theorem compares_then {o p : Ordering} {m n : Nat} {x y : ℚ} (ho : o.Compares m n)
    (hp : p.Compares x y) (hx : 0 ≤ x ∧ x < 1) (hy : 0 ≤ y ∧ y < 1) :
    (o.then p).Compares (m + x) (n + y) := by
  cases o with
  | lt =>
      have hle : (m : ℚ) + 1 ≤ n := by exact_mod_cast ho
      show (m : ℚ) + x < n + y
      linarith
  | eq =>
      obtain rfl : m = n := ho
      exact (strictMono_id.const_add (m : ℚ)).compares.mpr hp
  | gt =>
      have hle : (n : ℚ) + 1 ≤ m := by exact_mod_cast ho
      show (n : ℚ) + y < m + x
      linarith

/-! ## Fractions -/

theorem fractionValue_bounds {ds : List Char} (hds : ds.all Char.isDigit = true) :
    0 ≤ fractionValue ds ∧ fractionValue ds < 1 := by
  have hpos : (0 : ℚ) < 10 ^ ds.length := by positivity
  have hlt : (number ds : ℚ) < 10 ^ ds.length := by exact_mod_cast number_lt hds
  rw [fractionValue_eq]
  exact ⟨by positivity, (div_lt_one hpos).mpr hlt⟩

/-- A fraction that does not end in a zero is more than nothing. -/
theorem fractionValue_pos {ds : List Char} (hds : ds.all Char.isDigit = true) (hne : ds ≠ [])
    (hlast : ds.getLast? ≠ some '0') : 0 < fractionValue ds := by
  induction ds with
  | nil => exact absurd rfl hne
  | cons c ds ih =>
      obtain ⟨hc, hrest⟩ := Bool.and_eq_true_iff.mp hds
      rw [fractionValue]
      refine div_pos ?_ (by norm_num)
      by_cases hnil : ds = []
      · subst hnil
        have hdigit : 0 < c.toNat - '0'.toNat := by
          have hle := (toNat_of_isDigit hc).1
          have hzero : c.toNat ≠ '0'.toNat := fun h => hlast (congrArg some (Char.toNat_inj.mp h))
          omega
        exact add_pos_of_pos_of_nonneg (by exact_mod_cast hdigit) le_rfl
      · rw [List.getLast?_cons_of_ne_nil hnil] at hlast
        exact add_pos_of_nonneg_of_pos (Nat.cast_nonneg _) (ih hrest hnil hlast)

theorem getLast?_ne_of_cons {c z : Char} {cs : List Char} (h : (c :: cs).getLast? ≠ some z) :
    cs.getLast? ≠ some z := by
  intro hlast
  rw [List.getLast?_cons, hlast] at h
  exact h rfl

/-- Digits are in the order of what they count from zero on. -/
theorem compares_digit {m n base : Nat} (hm : base ≤ m) (hn : base ≤ n) :
    (Ord.compare m n).Compares (m - base) (n - base) := by
  have h : (Ord.compare m n).Compares m n := (compare_iff m n).mp rfl
  generalize Ord.compare m n = o at h ⊢
  cases o with
  | lt => exact Nat.sub_lt_sub_right hm h
  | eq => exact congrArg (· - base) h
  | gt => exact Nat.sub_lt_sub_right hn h

/-- **Digits compare as what they stand for.**  The runs fill the same places, or
    neither of them ends in a zero. -/
theorem compares_lexical {as bs : List Char} (has : as.all Char.isDigit = true)
    (hbs : bs.all Char.isDigit = true)
    (hends : as.length = bs.length ∨ as.getLast? ≠ some '0' ∧ bs.getLast? ≠ some '0') :
    (lexical as bs).Compares (fractionValue as) (fractionValue bs) := by
  induction as generalizing bs with
  | nil =>
      cases bs with
      | nil => exact rfl
      | cons d bs =>
          rcases hends with hlen | ⟨-, hlast⟩
          · cases hlen
          · exact fractionValue_pos hbs (List.cons_ne_nil d bs) hlast
  | cons c as ih =>
      cases bs with
      | nil =>
          rcases hends with hlen | ⟨hlast, -⟩
          · cases hlen
          · exact fractionValue_pos has (List.cons_ne_nil c as) hlast
      | cons d bs =>
          obtain ⟨hc, has⟩ := Bool.and_eq_true_iff.mp has
          obtain ⟨hd, hbs⟩ := Bool.and_eq_true_iff.mp hbs
          have hrest : as.length = bs.length ∨
              as.getLast? ≠ some '0' ∧ bs.getLast? ≠ some '0' := by
            rcases hends with hlen | ⟨hleft, hright⟩
            · exact Or.inl (Nat.succ.inj hlen)
            · exact Or.inr ⟨getLast?_ne_of_cons hleft, getLast?_ne_of_cons hright⟩
          have hfirst := compares_digit (toNat_of_isDigit hc).1 (toNat_of_isDigit hd).1
          have hdigits := compares_then hfirst (ih has hbs hrest) (fractionValue_bounds has)
            (fractionValue_bounds hbs)
          rw [lexical, List.compareLex_cons_cons]
          exact (strictMono_div_right_of_pos (by norm_num : (0 : ℚ) < 10)).compares.mpr hdigits

/-- Digits that fill the same places are in the order of their numbers. -/
theorem compares_lexical_number {as bs : List Char} (has : as.all Char.isDigit = true)
    (hbs : bs.all Char.isDigit = true) (hlen : as.length = bs.length) :
    (lexical as bs).Compares (number as) (number bs) := by
  have hpos : (0 : ℚ) < 10 ^ bs.length := by positivity
  have h := compares_lexical has hbs (Or.inl hlen)
  rw [fractionValue_eq, fractionValue_eq, hlen, (strictMono_div_right_of_pos hpos).compares] at h
  exact Nat.strictMono_cast.compares.mp h

/-- **Numbers are in the order of their digits**: first by how many there are. -/
theorem compares_digits (m n : Nat) :
    ((Ord.compare (digits m).length (digits n).length).then
      (lexical (digits m) (digits n))).Compares m n := by
  -- the shorter of two runs leaves a place empty that the other one fills
  have hshorter : ∀ {i j : Nat}, (digits i).length < (digits j).length → i < j := by
    intro i j hlt
    have hpos : 0 < (digits i).length := List.length_pos_of_ne_nil (digits_ne_nil i)
    have hi : number (digits i) < 10 ^ (digits i).length := number_lt (all_digits i)
    have hj : ¬ j < 10 ^ (digits i).length := fun h =>
      hlt.not_ge ((Nat.length_toDigits_le_iff (by decide) hpos).mpr h)
    rw [number_digits] at hi
    omega
  have hlength : (Ord.compare (digits m).length (digits n).length).Compares (digits m).length
      (digits n).length := (compare_iff _ _).mp rfl
  generalize Ord.compare (digits m).length (digits n).length = o at hlength ⊢
  cases o with
  | lt => exact hshorter hlength
  | eq =>
      have h := compares_lexical_number (all_digits m) (all_digits n) hlength
      rw [number_digits, number_digits] at h
      exact h
  | gt => exact hshorter hlength

/-! ## Values -/

/-- The parts of the text of a value. -/
def spelling (n : Numeric) : Spelling where
  negative := n.isNegative
  whole := n.wholeDigits
  fraction := n.fractionDigits
  whole_digits := all_digits _
  fraction_digits := n.all_fractionDigits
  some_digit := Or.inl (digits_ne_nil _)

theorem spelling_spells (n : Numeric) : n.spelling.Spells n.text := by
  refine ⟨if n.isNegative then ['-'] else [], n.pointText, ?_, n.isPoint_pointText, ?_⟩
  · show IsSign _ n.isNegative
    cases n.isNegative with
    | false => exact .none
    | true => exact .minus
  · exact List.append_assoc ..

/-- The number of a value without its sign. -/
def size (n : Numeric) : ℚ :=
  number n.wholeDigits + fractionValue n.fractionDigits

theorem toRat_eq (n : Numeric) : n.toRat = if n.isNegative then -n.size else n.size := by
  have hvalue : n.spelling.value = n.toRat :=
    (denotes_iff (parse_text n) _).mp ⟨n.spelling, n.spelling_spells, rfl⟩
  rw [← hvalue]
  show (if n.isNegative then -1 else 1) * n.size = _
  cases n.isNegative with
  | false => exact one_mul _
  | true => exact neg_one_mul _

/-- A fraction is written without zeros at its end. -/
theorem getLast?_fractionDigits (n : Numeric) : n.fractionDigits.getLast? ≠ some '0' :=
  getLast?_trimZerosRight _

theorem compares_size (a b : Numeric) : (a.compareDigits b).Compares a.size b.size := by
  have hwhole := compares_digits (a.billionths.natAbs / unit) (b.billionths.natAbs / unit)
  have hfraction := compares_lexical a.all_fractionDigits b.all_fractionDigits
    (Or.inr ⟨a.getLast?_fractionDigits, b.getLast?_fractionDigits⟩)
  have h := compares_then hwhole hfraction (fractionValue_bounds a.all_fractionDigits)
    (fractionValue_bounds b.all_fractionDigits)
  rw [size, size, wholeDigits, wholeDigits, number_digits, number_digits]
  exact h

theorem toRat_neg_iff (n : Numeric) : n.toRat < 0 ↔ n.isNegative = true := by
  have hunit : (0 : ℚ) < unit := by norm_num [unit]
  rw [toRat, div_lt_iff₀ hunit, zero_mul, Int.cast_lt_zero, isNegative, decide_eq_true_iff]

/-- **Values are in the order of their numbers.** -/
theorem compares_toRat (a b : Numeric) : (a.compare b).Compares a.toRat b.toRat := by
  have ha := a.toRat_neg_iff
  have hb := b.toRat_neg_iff
  have hsize := compares_size a b
  rw [compare]
  cases hna : a.isNegative with
  | false =>
      rw [hna] at ha
      have hpos : 0 ≤ a.toRat := not_lt.mp fun h => Bool.noConfusion (ha.mp h)
      cases hnb : b.isNegative with
      | false =>
          rw [toRat_eq, toRat_eq, hna, hnb]
          exact hsize
      | true => exact (hb.mpr hnb).trans_le hpos
  | true =>
      cases hnb : b.isNegative with
      | false =>
          rw [hnb] at hb
          have hpos : 0 ≤ b.toRat := not_lt.mp fun h => Bool.noConfusion (hb.mp h)
          exact (ha.mpr hna).trans_le hpos
      | true =>
          -- below zero the larger size makes the smaller number
          have hneg : StrictAnti (Neg.neg : ℚ → ℚ) := fun _ _ => neg_lt_neg
          rw [toRat_eq, toRat_eq, hna, hnb]
          exact hneg.compares.mpr hsize.swap

/-! ## The order -/

/-- A value that is made for a number: read from a text of it, or from a whole
    number. -/
inductive MadeFor : Numeric → ℚ → Prop
  | text {text : List Char} {n : Numeric} {q : ℚ} (hread : parse text = .ok n)
      (hnumber : Denotes text q) : MadeFor n q
  | whole (i : Int64) : MadeFor (ofInt64 i) i.toInt

/-- Every value is made for its own number alone. -/
theorem madeFor_iff {n : Numeric} {q : ℚ} : MadeFor n q ↔ q = n.toRat := by
  constructor
  · intro h
    cases h with
    | text hread hnumber => exact (denotes_iff hread q).mp hnumber
    | whole i =>
        have hunit : (unit : ℚ) ≠ 0 := by norm_num [unit]
        rw [toRat, eq_div_iff hunit]
        exact_mod_cast rfl
  · rintro rfl
    exact .text (parse_text n) ((denotes_iff (parse_text n) _).mpr rfl)

theorem compare_swap (a b : Numeric) : a.compare b = (b.compare a).swap :=
  (compares_toRat a b).inj (compares_toRat b a).swap

theorem isLE_compare_iff (a b : Numeric) : (a.compare b).isLE = true ↔ a.toRat ≤ b.toRat := by
  rw [Ordering.isLE_iff_ne_gt]
  exact (compares_toRat a b).ne_gt

instance : Std.TransCmp compare where
  eq_swap := compare_swap _ _
  isLE_trans hab hbc := by
    rw [isLE_compare_iff] at hab hbc ⊢
    exact hab.trans hbc

instance : Std.LawfulEqCmp compare where
  compare_self := (compares_toRat _ _).eq_eq.mpr rfl
  eq_of_compare h := toRat_inj.mp ((compares_toRat _ _).eq_eq.mp h)

/-- **Decimals are in the order of the numbers.**  Values are read from texts or made
    from whole numbers, each for one number.  Two of them compare as their numbers
    do, and are equal just when their texts are; so this is a total order.  Sorting
    puts the values of a list into ascending order and loses none. -/
theorem compare_numbers :
    (∀ n, ∃! q, MadeFor n q) ∧
    (∀ a b q r, MadeFor a q → MadeFor b r →
      (a.compare b = .lt ↔ q < r) ∧ (a.compare b = .eq ↔ q = r) ∧ (a.compare b = .gt ↔ r < q)) ∧
    (∀ a b : Numeric, a.compare b = .eq ↔ a.text = b.text) ∧
    Std.TransCmp compare ∧ Std.LawfulEqCmp compare ∧
    ∀ ns, (sorted ns).Perm ns ∧
      (sorted ns).Pairwise fun a b => ∀ q r, MadeFor a q → MadeFor b r → q ≤ r := by
  refine ⟨fun n => ⟨n.toRat, madeFor_iff.mpr rfl, fun q => madeFor_iff.mp⟩, ?_, fun a b => ?_,
    inferInstance, inferInstance, fun ns => ⟨List.mergeSort_perm .., ?_⟩⟩
  · intro a b q r ha hb
    rw [madeFor_iff.mp ha, madeFor_iff.mp hb]
    have h := compares_toRat a b
    exact ⟨h.eq_lt, h.eq_eq, h.eq_gt⟩
  · rw [(compares_toRat a b).eq_eq, toRat_inj, text_inj]
  · have hsorted : (sorted ns).Pairwise fun a b => (a.compare b).isLE = true :=
      List.pairwise_mergeSort (fun _ _ _ => Std.TransCmp.isLE_trans)
        (fun a b => by
          simp only [Bool.or_eq_true, isLE_compare_iff]
          exact le_total _ _) ns
    refine hsorted.imp fun {a b} hab q r ha hb => ?_
    rw [madeFor_iff.mp ha, madeFor_iff.mp hb]
    exact (isLE_compare_iff a b).mp hab

/-- Below zero more places make the smaller number, also beside a whole number. -/
theorem compare_numbers_belowZero :
    ∃ a : Numeric, parse "-01.550".toList = .ok a ∧ MadeFor a (-31 / 20) ∧
      MadeFor (ofInt64 (-1)) (-1) ∧ a.compare (ofInt64 (-1)) = .lt ∧
      (sorted [ofInt64 (-1), a]).Pairwise fun a b => ∀ q r, MadeFor a q → MadeFor b r → q ≤ r := by
  obtain ⟨-, hcompare, -, -, -, hsorted⟩ := compare_numbers
  have hread : ∃ a, parse "-01.550".toList = .ok a := ⟨_, rfl⟩
  obtain ⟨a, hread⟩ := hread
  have hnumber : Denotes "-01.550".toList (-31 / 20) := by
    refine ⟨⟨true, ['0', '1'], ['5', '5', '0'], rfl, rfl, Or.inl (List.cons_ne_nil _ _)⟩, ?_, ?_⟩
    · exact ⟨['-'], ['.', '5', '5', '0'], .minus, .point _, rfl⟩
    · show (-1 : ℚ) * ((1 : Nat) + ((5 : Nat) + ((5 : Nat) + ((0 : Nat) + 0) / 10) / 10) / 10) = _
      norm_num
  have ha : MadeFor a (-31 / 20) := .text hread hnumber
  have hb : MadeFor (ofInt64 (-1)) (-1) := by
    have hwhole : ((-1 : Int64).toInt : ℚ) = -1 := by
      exact_mod_cast (by decide : (-1 : Int64).toInt = -1)
    rw [← hwhole]
    exact .whole (-1)
  exact ⟨a, hread, ha, hb, (hcompare _ _ _ _ ha hb).1.mpr (by norm_num), (hsorted _).2⟩

end SpannerDialect.Numeric
