import Mathlib.Data.List.DropRight
import Mathlib.Tactic.IntervalCases
import SpannerDialect.Text.Digits

/-! # Digits read back

    A number is read back from its digits, whether zeros stand in front of
    them or not, and the digits behind such zeros tell its size.  Digits in
    front of a text are told apart from what follows.  Zeros at the end of a
    fraction can go without loss, and digits without such zeros are found
    again from the number that they stand for. -/

namespace SpannerDialect.Text

/-! ## Runs of digits -/

theorem all_digits (n : Nat) : (digits n).all Char.isDigit = true :=
  List.all_eq_true.mpr fun _ hc => isDigit_of_mem_digits hc

/-- A digit is told apart from what is no digit. -/
theorem ne_of_isDigit {c d : Char} (hc : c.isDigit = true) (hd : d.isDigit = false) : c ≠ d := by
  rintro rfl
  exact Bool.noConfusion (hc.symm.trans hd)

theorem digits_ne_nil (n : Nat) : digits n ≠ [] :=
  Nat.toDigits_ne_nil

theorem number_append (as bs : List Char) :
    number (as ++ bs) = number as * 10 ^ bs.length + number bs := by
  rw [number, Nat.ofDigitChars_append, Nat.ofDigitChars_eq_ofDigitChars_zero, Nat.mul_comm]
  rfl

theorem number_replicate_zero (k : Nat) : number (List.replicate k '0') = 0 := by
  rw [number, Nat.ofDigitChars_replicate_zero, Nat.mul_zero]

/-- Only zero is written with a zero in front. -/
theorem eq_zero_of_head?_digits {n : Nat} (h : (digits n).head? = some '0') : n = 0 := by
  induction n using Nat.strongRecOn with
  | ind n ih =>
      rw [digits, Nat.toDigits_eq_if (by decide)] at h
      split at h
      · rename_i hlt
        revert h
        interval_cases n <;> decide
      · rename_i hge
        have hshort : (digits (n / 10)).head? = some '0' := by
          rw [← h]
          exact (List.head?_append_of_ne_nil _ (digits_ne_nil _)).symm
        have hzero := ih (n / 10) (by omega) hshort
        omega

/-! ## Zeros in front -/

theorem number_cons (c : Char) (ds : List Char) :
    number (c :: ds) = (c.toNat - '0'.toNat) * 10 ^ ds.length + number ds := by
  have hfirst : number [c] = c.toNat - '0'.toNat := by
    rw [number, Nat.ofDigitChars_cons, Nat.mul_zero, Nat.zero_add]
    rfl
  rw [← hfirst]
  exact number_append [c] ds

theorem toNat_of_isDigit {c : Char} (h : c.isDigit = true) :
    '0'.toNat ≤ c.toNat ∧ c.toNat ≤ '9'.toNat := by
  obtain ⟨hle, hge⟩ := Bool.and_eq_true_iff.mp h
  exact ⟨UInt32.le_iff_toNat_le.mp (of_decide_eq_true hle),
    UInt32.le_iff_toNat_le.mp (of_decide_eq_true hge)⟩

/-- A run of digits stands for less than the next place. -/
theorem number_lt {ds : List Char} (hds : ds.all Char.isDigit = true) :
    number ds < 10 ^ ds.length := by
  induction ds with
  | nil => exact Nat.one_pos
  | cons c ds ih =>
      obtain ⟨hc, hrest⟩ := Bool.and_eq_true_iff.mp hds
      have hdigit : c.toNat - '0'.toNat ≤ 9 := by
        have hbounds := toNat_of_isDigit hc
        have hzero : '0'.toNat = 48 := rfl
        have hnine : '9'.toNat = 57 := rfl
        omega
      have hfirst := Nat.mul_le_mul_right (10 ^ ds.length) hdigit
      have hlater := ih hrest
      rw [number_cons, List.length_cons, Nat.pow_succ]
      omega

/-- Zeros in front count for nothing. -/
theorem number_dropWhile_zeros (ds : List Char) :
    number (ds.dropWhile (· == '0')) = number ds := by
  induction ds with
  | nil => rfl
  | cons c ds ih =>
      by_cases hc : c = '0'
      · subst hc
        rw [List.dropWhile_cons_of_pos rfl, ih, number_cons, Nat.sub_self, Nat.zero_mul,
          Nat.zero_add]
      · rw [List.dropWhile_cons_of_neg]
        intro h
        exact hc (eq_of_beq h)

/-- A digit in front that is no zero fills its place. -/
theorem le_number_cons {c : Char} {ds : List Char} (hc : c.isDigit = true) (hne : c ≠ '0') :
    10 ^ ds.length ≤ number (c :: ds) := by
  have hpos : 1 ≤ c.toNat - '0'.toNat := by
    have hle := (toNat_of_isDigit hc).1
    have hneq : c.toNat ≠ '0'.toNat := fun h => hne (Char.toNat_inj.mp h)
    omega
  have hfirst := Nat.mul_le_mul_right (10 ^ ds.length) hpos
  rw [number_cons]
  omega

/-- How many digits a number takes is seen once the zeros in front are dropped. -/
theorem number_lt_iff {ds : List Char} (hds : ds.all Char.isDigit = true) (width : Nat) :
    number ds < 10 ^ width ↔ (ds.dropWhile (· == '0')).length ≤ width := by
  have hall : (ds.dropWhile (· == '0')).all Char.isDigit = true := by
    rw [List.all_eq_true] at hds ⊢
    intro c hc
    exact hds c ((List.dropWhile_suffix _).subset hc)
  have hhead := List.head?_dropWhile_not (· == '0') ds
  rw [← number_dropWhile_zeros ds]
  generalize ds.dropWhile (· == '0') = rest at hall hhead ⊢
  constructor
  · intro hlt
    cases rest with
    | nil => exact Nat.zero_le width
    | cons c rest =>
        have hc := (Bool.and_eq_true_iff.mp hall).1
        have hne : c ≠ '0' := ne_of_beq_false hhead
        have hpow := Nat.lt_of_le_of_lt (le_number_cons hc hne) hlt
        exact (Nat.pow_lt_pow_iff_right (by decide)).mp hpow
  · intro hle
    exact Nat.lt_of_lt_of_le (number_lt hall) (Nat.pow_le_pow_right (by decide) hle)

/-- Runs of as many digits that stand for one number are the same. -/
theorem number_inj {as bs : List Char} (has : as.all Char.isDigit = true)
    (hbs : bs.all Char.isDigit = true) (hlen : as.length = bs.length)
    (h : number as = number bs) : as = bs := by
  induction as generalizing bs with
  | nil => exact (List.eq_nil_of_length_eq_zero hlen.symm).symm
  | cons a as ih =>
      cases bs with
      | nil => cases hlen
      | cons b bs =>
          obtain ⟨ha, harest⟩ := Bool.and_eq_true_iff.mp has
          obtain ⟨hb, hbrest⟩ := Bool.and_eq_true_iff.mp hbs
          have hrest : as.length = bs.length := Nat.succ.inj hlen
          have hasize := number_lt harest
          have hbsize := number_lt hbrest
          rw [number_cons, number_cons, hrest] at h
          rw [hrest] at hasize
          -- the first digit is the quotient by its place, the others are the remainder
          have hquotient := congrArg (· / 10 ^ bs.length) h
          have hremainder := congrArg (· % 10 ^ bs.length) h
          have hplace : 0 < 10 ^ bs.length := Nat.pow_pos (by decide)
          simp only [Nat.add_comm _ (number _), Nat.add_mul_div_right _ _ hplace,
            Nat.add_mul_mod_self_right, Nat.mod_eq_of_lt hasize, Nat.mod_eq_of_lt hbsize,
            Nat.div_eq_of_lt hasize, Nat.div_eq_of_lt hbsize, Nat.zero_add]
            at hquotient hremainder
          have hale := (toNat_of_isDigit ha).1
          have hble := (toNat_of_isDigit hb).1
          obtain rfl : a = b := Char.toNat_inj.mp (by omega)
          rw [ih harest hbrest hrest hremainder]

/-! ## Padding -/

theorem all_zeros (k : Nat) : (List.replicate k '0').all Char.isDigit = true := by
  rw [List.all_eq_true]
  intro c hc
  rw [List.eq_of_mem_replicate hc]
  rfl

theorem all_padded (width n : Nat) : (padded width n).all Char.isDigit = true := by
  rw [padded, List.all_append, all_digits, Bool.and_true, all_zeros]

theorem number_padded (width n : Nat) : number (padded width n) = n := by
  rw [padded, number_append, number_replicate_zero, Nat.zero_mul, Nat.zero_add, number_digits]

theorem padded_ne_nil (width n : Nat) : padded width n ≠ [] := by
  intro h
  exact digits_ne_nil n (List.append_eq_nil_iff.mp h).2

theorem length_padded {width n : Nat} (hw : 0 < width) (h : n < 10 ^ width) :
    (padded width n).length = width := by
  have hlen : (digits n).length ≤ width := (Nat.length_toDigits_le_iff (by decide) hw).mpr h
  rw [padded, List.length_append, List.length_replicate]
  omega

/-- A run of digits is its number, padded to its length. -/
theorem padded_number {ds : List Char} (hds : ds.all Char.isDigit = true) (hne : ds ≠ []) :
    padded ds.length (number ds) = ds :=
  number_inj (all_padded _ _) hds (length_padded (List.length_pos_of_ne_nil hne) (number_lt hds))
    (number_padded _ _)

/-- Digits with no zero in front, but for zero itself, are how their number is written. -/
theorem digits_number {ds : List Char} (hds : ds.all Char.isDigit = true) (hne : ds ≠ [])
    (hhead : ds.head? = some '0' → ds = ['0']) : digits (number ds) = ds := by
  have hpadded := padded_number hds hne
  rw [padded] at hpadded
  cases hzeros : ds.length - (digits (number ds)).length with
  | zero =>
      rw [hzeros] at hpadded
      exact hpadded
  | succ k =>
      -- a zero in front would have to be all there is
      have hzero : ds.head? = some '0' := by
        rw [hzeros] at hpadded
        rw [← hpadded]
        rfl
      rw [hhead hzero]
      rfl

/-! ## Digits in front -/

/-- A text that does not go on with a digit. -/
def StopsDigits (rest : List Char) : Prop :=
  ∀ c ∈ rest.head?, c.isDigit = false

theorem stopsDigits_nil : StopsDigits [] := by
  intro c hc
  cases hc

theorem stopsDigits_cons {c : Char} (h : c.isDigit = false) (rest : List Char) :
    StopsDigits (c :: rest) := by
  intro d hd
  obtain rfl := Option.some.inj hd
  exact h

theorem leadingDigits_append {ds : List Char} (hds : ds.all Char.isDigit = true)
    {rest : List Char} (hrest : StopsDigits rest) : leadingDigits (ds ++ rest) = ds := by
  have hnone : rest.takeWhile Char.isDigit = [] := by
    cases rest with
    | nil => rfl
    | cons c cs => rw [List.takeWhile_cons, hrest c rfl, if_neg Bool.false_ne_true]
  rw [leadingDigits, List.takeWhile_append_of_pos (List.all_eq_true.mp hds), hnone,
    List.append_nil]

theorem afterDigits_append {ds : List Char} (hds : ds.all Char.isDigit = true)
    {rest : List Char} (hrest : StopsDigits rest) : afterDigits (ds ++ rest) = rest := by
  have hall : rest.dropWhile Char.isDigit = rest := by
    cases rest with
    | nil => rfl
    | cons c cs => rw [List.dropWhile_cons, hrest c rfl, if_neg Bool.false_ne_true]
  rw [afterDigits, List.dropWhile_append_of_pos (List.all_eq_true.mp hds), hall]

/-! ## Signs -/

/-- A digit in front is no sign. -/
theorem splitSign_digits {ds : List Char} (hds : ds.all Char.isDigit = true) (hne : ds ≠ [])
    (rest : List Char) : splitSign (ds ++ rest) = (false, ds ++ rest) := by
  cases ds with
  | nil => exact absurd rfl hne
  | cons c cs =>
      have hc : c.isDigit = true := (Bool.and_eq_true_iff.mp hds).1
      rw [List.cons_append]
      unfold splitSign
      split
      · rename_i heq
        exact absurd (List.cons.inj heq).1 (ne_of_isDigit hc rfl)
      · rename_i heq
        exact absurd (List.cons.inj heq).1 (ne_of_isDigit hc rfl)
      · rfl

/-- An integer is read back from its text. -/
theorem readInteger?_signed (i : Int) : readInteger? (signed i) = some i := by
  cases i with
  | ofNat n =>
      have hsign := splitSign_digits (all_digits n) (digits_ne_nil n) []
      rw [List.append_nil] at hsign
      rw [signed, readInteger?, hsign]
      show (if digits n ≠ [] ∧ (digits n).all Char.isDigit = true then _ else _) = _
      rw [if_pos ⟨digits_ne_nil n, all_digits n⟩, number_digits]
      rfl
  | negSucc n =>
      have hsign : splitSign (signed (.negSucc n)) = (true, digits (n + 1)) := rfl
      rw [readInteger?, hsign]
      show (if digits (n + 1) ≠ [] ∧ (digits (n + 1)).all Char.isDigit = true then _ else _) = _
      rw [if_pos ⟨digits_ne_nil (n + 1), all_digits (n + 1)⟩, number_digits]
      rfl

/-! ## Zeros at the end -/

/-- What is dropped at the end are zeros. -/
theorem exists_trimZerosRight_append (ds : List Char) :
    ∃ k, ds = trimZerosRight ds ++ List.replicate k '0' := by
  have hzeros : ∀ c ∈ ds.reverse.takeWhile (· == '0'), c = '0' := by
    intro c hc
    exact eq_of_beq (List.all_eq_true.mp List.all_takeWhile c hc)
  -- read backwards, the zeros come first
  refine ⟨(ds.reverse.takeWhile (· == '0')).length, ?_⟩
  conv => lhs; rw [← List.reverse_reverse ds,
    ← List.takeWhile_append_dropWhile (p := (· == '0')) (l := ds.reverse), List.reverse_append,
    List.eq_replicate_of_mem hzeros, List.reverse_replicate]
  rfl

/-- Without the zeros at its end a run of digits stands for the same number
    of smaller units. -/
theorem number_trimZerosRight (ds : List Char) :
    number (trimZerosRight ds) * 10 ^ (ds.length - (trimZerosRight ds).length) = number ds := by
  obtain ⟨k, hk⟩ := exists_trimZerosRight_append ds
  have hlen : ds.length - (trimZerosRight ds).length = k := by
    have h := congrArg List.length hk
    rw [List.length_append, List.length_replicate] at h
    omega
  have hnumber := congrArg number hk
  rw [number_append, number_replicate_zero, List.length_replicate, Nat.add_zero] at hnumber
  rw [hlen, hnumber]

theorem length_trimZerosRight_le (ds : List Char) : (trimZerosRight ds).length ≤ ds.length := by
  obtain ⟨k, hk⟩ := exists_trimZerosRight_append ds
  have hlen := congrArg List.length hk
  rw [List.length_append] at hlen
  omega

theorem all_trimZerosRight {ds : List Char} (hds : ds.all Char.isDigit = true) :
    (trimZerosRight ds).all Char.isDigit = true := by
  obtain ⟨k, hk⟩ := exists_trimZerosRight_append ds
  rw [hk, List.all_append] at hds
  exact (Bool.and_eq_true_iff.mp hds).1

/-- No zero is left at the end. -/
theorem getLast?_trimZerosRight (ds : List Char) : (trimZerosRight ds).getLast? ≠ some '0' := by
  have hhead := List.head?_dropWhile_not (· == '0') ds.reverse
  rw [trimZerosRight, List.getLast?_reverse]
  intro hlast
  rw [hlast] at hhead
  exact Bool.noConfusion hhead

/-- Zeros behind another end are what is dropped. -/
theorem trimZerosRight_append_zeros {ds : List Char} (hlast : ds.getLast? ≠ some '0') (k : Nat) :
    trimZerosRight (ds ++ List.replicate k '0') = ds := by
  have hzeros : ∀ c ∈ List.replicate k '0', (c == '0') = true := by
    intro c hc
    rw [List.eq_of_mem_replicate hc]
    rfl
  have hkept : ds.reverse.dropWhile (· == '0') = ds.reverse := by
    cases hrev : ds.reverse with
    | nil => rfl
    | cons c cs =>
        have hc : c ≠ '0' := by
          rintro rfl
          rw [← List.head?_reverse, hrev] at hlast
          exact hlast rfl
        exact List.dropWhile_cons_of_neg fun h => hc (eq_of_beq h)
  rw [trimZerosRight, List.reverse_append, List.reverse_replicate,
    List.dropWhile_append_of_pos hzeros, hkept, List.reverse_reverse]

/-- A run of digits fills no more than its places, however small their unit. -/
theorem number_mul_placeValue_lt {ds : List Char} (hds : ds.all Char.isDigit = true) {places : Nat}
    (hlen : ds.length ≤ places) :
    number ds * placeValue (places - ds.length) < placeValue places := by
  have hpos : 0 < placeValue (places - ds.length) := Nat.pow_pos (by decide)
  calc number ds * placeValue (places - ds.length)
      < 10 ^ ds.length * placeValue (places - ds.length) :=
        Nat.mul_lt_mul_of_pos_right (number_lt hds) hpos
    _ = 10 ^ (ds.length + (places - ds.length)) := (Nat.pow_add ..).symm
    _ = placeValue places := by
        rw [Nat.add_sub_cancel' hlen]
        rfl

/-- Behind the point, digits are found again by their number in units of the last place,
    if they do not end in a zero. -/
theorem trimZerosRight_padded_number {ds : List Char} (hds : ds.all Char.isDigit = true)
    {places : Nat} (hpos : 0 < places) (hlen : ds.length ≤ places)
    (hlast : ds.getLast? ≠ some '0') :
    trimZerosRight (padded places (number ds * placeValue (places - ds.length))) = ds := by
  have hzeros : (ds ++ List.replicate (places - ds.length) '0').all Char.isDigit = true := by
    rw [List.all_append, hds, Bool.true_and, all_zeros]
  have hfilled : padded places (number ds * placeValue (places - ds.length)) =
      ds ++ List.replicate (places - ds.length) '0' := by
    refine number_inj (all_padded _ _) hzeros ?_ ?_
    · rw [length_padded hpos (number_mul_placeValue_lt hds hlen), List.length_append,
        List.length_replicate]
      omega
    · rw [number_padded, number_append, number_replicate_zero, List.length_replicate]
      rfl
  rw [hfilled, trimZerosRight_append_zeros hlast]

/-- Once trimmed, there is nothing more to trim. -/
theorem trimZerosRight_trimZerosRight (ds : List Char) :
    trimZerosRight (trimZerosRight ds) = trimZerosRight ds := by
  show (ds.rdropWhile (· == '0')).rdropWhile (· == '0') = ds.rdropWhile (· == '0')
  exact List.rdropWhile_idempotent _ _

end SpannerDialect.Text
