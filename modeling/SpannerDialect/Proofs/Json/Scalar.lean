import Mathlib.Tactic.SplitIfs
import SpannerDialect.Json.Printer
import SpannerDialect.Json.Reader
import SpannerDialect.Proofs.Text.Digits

/-! # Strings and whole numbers read back

    Every character of a string is read back from its escape, so a string
    ends at the quote that was written to end it.  A whole number that
    fits a word is read back where no further part of a number follows. -/

namespace SpannerDialect.Json

open Text

/-! ## Strings -/

theorem escapeChar_ne_nil (c : Char) : escapeChar c ≠ [] := by
  rw [escapeChar]
  split_ifs <;> exact List.cons_ne_nil _ _

theorem length_le_length_escape (cs : List Char) :
    cs.length ≤ (cs.flatMap escapeChar).length := by
  induction cs with
  | nil => exact Nat.le_refl 0
  | cons c cs ih =>
      have hpos := List.length_pos_iff.mpr (escapeChar_ne_nil c)
      rw [List.flatMap_cons, List.length_append, List.length_cons]
      omega

theorem length_utf8EncodeChar_pos (c : Char) : 0 < (String.utf8EncodeChar c).length := by
  rw [String.length_utf8EncodeChar]
  exact Char.utf8Size_pos c

/-- A text has no fewer bytes than characters. -/
theorem length_le_length_bytes (cs : List Char) : cs.length ≤ (bytes cs).length := by
  induction cs with
  | nil => exact Nat.le_refl 0
  | cons c cs ih =>
      have hpos := length_utf8EncodeChar_pos c
      rw [bytes_cons, List.length_append, List.length_cons]
      omega

theorem hexNumber?_control {n : Nat} (h : n < 0x20) :
    hexNumber? 0 ['0', '0', hexDigit (n / 16), hexDigit n] = some n := by
  revert n
  decide

/-- A control is read back from its hexadecimal digits. -/
theorem readUnit_control {c : Char} (h : c.toNat < 0x20) (cs : List Char) :
    readUnit ('0' :: '0' :: hexDigit (c.toNat / 16) :: hexDigit c.toNat :: cs) = .ok (c, cs) := by
  have hbytes := length_le_length_bytes
    ('0' :: '0' :: hexDigit (c.toNat / 16) :: hexDigit c.toNat :: cs)
  simp only [List.length_cons] at hbytes
  have hhex : readHex ('0' :: '0' :: hexDigit (c.toNat / 16) :: hexDigit c.toNat :: cs)
      = .ok (c.toNat, cs) := by
    have hdigits := hexNumber?_control h
    simp [readHex, hdigits, Nat.not_lt.mpr (Nat.le_trans (Nat.le_add_left 4 cs.length) hbytes)]
  rw [readUnit, hhex]
  show (if 0xDC00 ≤ c.toNat ∧ c.toNat ≤ 0xDFFF then _ else
    if c.toNat < 0xD800 ∨ 0xDBFF < c.toNat then _ else _) = _
  rw [if_neg (by omega), if_pos (by omega), Char.ofNat_toNat]

/-- One character of a string is read back from its escape. -/
theorem readChars_escapeChar (fuel : Nat) (c : Char) {cs ds rest : List Char}
    (h : readChars fuel cs = .ok (ds, rest)) :
    readChars (fuel + 1) (escapeChar c ++ cs) = .ok (c :: ds, rest) := by
  -- what follows a backslash is the letter of an escape
  have hletter : ∀ {tail : List Char}, readEscape tail = .ok (c, cs) →
      readChars (fuel + 1) ('\\' :: tail) = .ok (c :: ds, rest) := by
    intro tail htail
    rw [readChars, if_neg (by decide), if_neg (by decide), if_pos rfl, htail]
    show (readChars fuel cs).bind _ = _
    rw [h]
    rfl
  rw [escapeChar]
  split_ifs with h1 h2 h3 h4 h5 h6 h7 h8
  · subst h1
    exact hletter rfl
  · subst h2
    exact hletter rfl
  · subst h3
    exact hletter rfl
  · subst h4
    exact hletter rfl
  · subst h5
    exact hletter rfl
  · subst h6
    exact hletter rfl
  · subst h7
    exact hletter rfl
  · exact hletter (readUnit_control h8 cs)
  · rw [List.singleton_append, readChars, if_neg h1, if_neg h8, if_neg h2]
    show (readChars fuel cs).bind _ = _
    rw [h]
    rfl

theorem readChars_escape (cs rest : List Char) (fuel : Nat) (h : cs.length < fuel) :
    readChars fuel (cs.flatMap escapeChar ++ '"' :: rest) = .ok (cs, rest) := by
  induction cs generalizing fuel with
  | nil =>
      obtain ⟨n, rfl⟩ := Nat.exists_eq_add_of_lt h
      rfl
  | cons c cs ih =>
      obtain ⟨n, rfl⟩ : ∃ n, fuel = n + 1 := Nat.exists_eq_succ_of_ne_zero (Nat.ne_zero_of_lt h)
      rw [List.flatMap_cons, List.append_assoc]
      exact readChars_escapeChar n c (ih n (Nat.lt_of_succ_lt_succ h))

/-- A string is read back from its text after the opening quote. -/
theorem readString_print (s : String) (rest : List Char) :
    readString (s.toList.flatMap escapeChar ++ '"' :: rest) = .ok (s, rest) := by
  have hlen := length_le_length_escape s.toList
  have hfuel : s.toList.length < (s.toList.flatMap escapeChar ++ '"' :: rest).length + 1 := by
    rw [List.length_append]
    omega
  rw [readString, readChars_escape s.toList rest _ hfuel]
  show Except.ok (String.ofList s.toList, rest) = _
  rw [String.ofList_toList]

/-! ## Whole numbers -/

/-- A text in which no number goes on. -/
def StopsNumber (rest : List Char) : Prop :=
  ∀ c ∈ rest.head?, c.isDigit = false ∧ c ≠ '.' ∧ c ≠ 'e' ∧ c ≠ 'E'

theorem stopsNumber_nil : StopsNumber [] := by
  intro c hc
  cases hc

theorem StopsNumber.stopsDigits {rest : List Char} (h : StopsNumber rest) : StopsDigits rest :=
  fun c hc => (h c hc).1

theorem startsWithDigit_of_stops {rest : List Char} (h : StopsDigits rest) :
    startsWithDigit rest = false := by
  cases rest with
  | nil => rfl
  | cons c cs => exact h c rfl

theorem takeDigits_stops {rest : List Char} (h : StopsDigits rest) (limit n : Nat) :
    takeDigits limit n rest = (n, rest) := by
  cases rest with
  | nil => rfl
  | cons c cs =>
      rw [takeDigits, if_neg]
      rintro ⟨hdigit, -⟩
      rw [h c rfl] at hdigit
      cases hdigit

/-- Digits are taken as long as their number is within the limit. -/
theorem takeDigits_append {limit : Nat} {ds : List Char} (hds : ds.all Char.isDigit = true)
    (n : Nat) (hlimit : n * 10 ^ ds.length + Text.number ds ≤ limit) {rest : List Char}
    (hrest : StopsDigits rest) :
    takeDigits limit n (ds ++ rest) = (n * 10 ^ ds.length + Text.number ds, rest) := by
  induction ds generalizing n with
  | nil =>
      rw [List.nil_append, takeDigits_stops hrest]
      show (n, rest) = (n * 1 + 0, rest)
      rw [Nat.mul_one, Nat.add_zero]
  | cons d ds ih =>
      obtain ⟨hd, hds⟩ := Bool.and_eq_true_iff.mp hds
      have hstep : (n * 10 + Text.number [d]) * 10 ^ ds.length + Text.number ds
          = n * 10 ^ (d :: ds).length + Text.number (d :: ds) := by
        rw [← List.singleton_append (l := ds), number_append, List.length_append,
          List.length_singleton, Nat.pow_add, Nat.add_mul, Nat.mul_assoc, Nat.pow_one]
        omega
      have hfit : n * 10 + Text.number [d] ≤ limit := by
        have hone : 1 ≤ 10 ^ ds.length := Nat.one_le_pow _ _ (by decide)
        have hmul := Nat.mul_le_mul_left (n * 10 + Text.number [d]) hone
        omega
      rw [List.cons_append, takeDigits, if_pos ⟨hd, hfit⟩, ih hds _ (by omega), hstep]

/-- A magnitude that fits a word, with its sign before it. -/
theorem readNumber_digits (negative : Bool) (n : Nat) {i : Int}
    (hi : (if negative then -(n : Int) else n) = i) (hfits : FitsWord i)
    (hsign : negative = true → n ≠ 0) {rest : List Char} (hrest : StopsNumber rest) :
    readNumber negative (digits n ++ rest) = .ok (.integer i hfits, rest) := by
  have hword : n ≤ wordLimit := by
    rw [FitsWord] at hfits
    rw [wordLimit]
    split at hi <;> omega
  have hne : digits n ++ rest ≠ [] := fun h => digits_ne_nil n (List.append_eq_nil_iff.mp h).1
  have hstart : startsWithDigit (digits n ++ rest) = true := by
    obtain ⟨d, ds, hcons⟩ := List.exists_cons_of_ne_nil (digits_ne_nil n)
    rw [hcons]
    exact isDigit_of_mem_digits (hcons ▸ List.mem_cons_self)
  have hzero : ¬ ((digits n ++ rest).head? = some '0'
      ∧ startsWithDigit (digits n ++ rest).tail = true) := by
    rintro ⟨hhead, htail⟩
    rw [List.head?_append_of_ne_nil _ (digits_ne_nil n)] at hhead
    obtain rfl := eq_zero_of_head?_digits hhead
    rw [show (digits 0 ++ rest).tail = rest from rfl,
      startsWithDigit_of_stops hrest.stopsDigits] at htail
    cases htail
  have htake : takeDigits wordLimit 0 (digits n ++ rest) = (n, rest) := by
    rw [takeDigits_append (all_digits n) 0 (by rw [number_digits]; omega) hrest.stopsDigits,
      number_digits, Nat.zero_mul, Nat.zero_add]
  -- all digits fit the word, so none is left over to count as a power
  have hnil : ([] : List Char).all Char.isDigit = true := rfl
  have hnone : leadingDigits rest = [] := leadingDigits_append hnil hrest.stopsDigits
  have hafter : afterDigits rest = rest := afterDigits_append hnil hrest.stopsDigits
  have hwhole : wholeNumber negative n rest = .ok (.integer i hfits, rest) := by
    subst hi
    exact dif_pos ⟨hfits, hsign⟩
  rw [readNumber]
  rw [if_neg hne, if_neg (by rw [hstart]; decide), if_neg hzero, htake]
  dsimp only
  rw [hnone, hafter]
  split
  · exact absurd rfl (hrest '.' rfl).2.1
  · rw [if_pos, hwhole]
    exact ⟨rfl, fun h => (hrest 'e' h).2.2.1 rfl, fun h => (hrest 'E' h).2.2.2 rfl⟩

end SpannerDialect.Json
