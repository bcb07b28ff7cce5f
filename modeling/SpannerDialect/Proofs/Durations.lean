import Mathlib.Tactic.Linarith
import SpannerDialect.Proofs.Decimal
import SpannerDialect.Staleness

/-! # Lengths of time as texts

    A length of time is written in seconds: digits, maybe a point with more digits, and
    the unit (`Duration.Spelling`).  A reader of such texts finds the parts again
    (`Spelling.read?_eq_some_iff`), and of all spellings of a length of time the one
    that is written is the one without digits that count for nothing
    (`Duration.text_exact`).  Nothing is rounded, so the text tells the length of time. -/

namespace SpannerDialect.Duration

open Text
open Numeric (fractionValue fractionValue_eq placeValue_eq)

/-- The seconds of a length of time, whole ones and the billionths behind them. -/
def value (d : Duration) : ℚ :=
  d.seconds + d.nanos / 10 ^ 9

theorem eq_of_parts {d e : Duration} (hseconds : d.seconds = e.seconds)
    (hnanos : d.nanos = e.nanos) : d = e := by
  cases d
  cases e
  cases hseconds
  cases hnanos
  rfl

/-- Billionths of less than a second are told apart from whole seconds. -/
theorem value_inj {d e : Duration} : d.value = e.value ↔ d = e := by
  constructor
  · intro h
    have hunits : (d.seconds * 10 ^ 9 + d.nanos : ℚ) = e.seconds * 10 ^ 9 + e.nanos := by
      rw [value, value] at h
      linarith
    have hsame : d.seconds * 10 ^ 9 + d.nanos = e.seconds * 10 ^ 9 + e.nanos := by
      exact_mod_cast hunits
    have hd := d.nanos_lt
    have he := e.nanos_lt
    exact eq_of_parts (by omega) (by omega)
  · rintro rfl
    rfl

/-! ## Spellings -/

/-- The digits of seconds: some before the point, and at most nine behind it. -/
structure Spelling where
  whole : List Char
  fraction : List Char
  whole_digits : whole.all Char.isDigit = true
  whole_ne : whole ≠ []
  fraction_digits : fraction.all Char.isDigit = true
  fraction_le : fraction.length ≤ 9

namespace Spelling

/-- The digits as a text of seconds.  The point stands only before a fraction. -/
def text (s : Spelling) : List Char :=
  s.whole ++ (if s.fraction = [] then [] else '.' :: s.fraction) ++ ['s']

/-- The number that is spelled. -/
def value (s : Spelling) : ℚ :=
  number s.whole + fractionValue s.fraction

/-- No digit counts for nothing: there are no zeros in front, but for a lone one, and
    none at the end. -/
structure Shortest (s : Spelling) : Prop where
  whole : s.whole.head? = some '0' → s.whole = ['0']
  fraction : s.fraction.getLast? ≠ some '0'

/-- The length of time that is spelled. -/
def duration (s : Spelling) : Duration where
  seconds := number s.whole
  nanos := number s.fraction * placeValue (9 - s.fraction.length)
  nanos_lt := number_mul_placeValue_lt s.fraction_digits s.fraction_le

/-- Digits as a spelling, if they are some and not too many. -/
def of? (whole fraction : List Char) : Option Spelling :=
  if h : whole.all Char.isDigit = true ∧ whole ≠ [] ∧ fraction.all Char.isDigit = true ∧
      fraction.length ≤ 9 then
    some ⟨whole, fraction, h.1, h.2.1, h.2.2.1, h.2.2.2⟩
  else none

/-- Reads digits, maybe a point with more of them, and the unit, up to the end. -/
def read? (text : List Char) : Option Spelling :=
  match afterDigits text with
  | ['s'] => of? (leadingDigits text) []
  | '.' :: rest =>
    if leadingDigits rest ≠ [] ∧ afterDigits rest = ['s'] then
      of? (leadingDigits text) (leadingDigits rest)
    else none
  | _ => none

theorem of?_eq_some_iff {whole fraction : List Char} {s : Spelling} :
    of? whole fraction = some s ↔ s.whole = whole ∧ s.fraction = fraction := by
  obtain ⟨w, f, hw, hne, hf, hle⟩ := s
  rw [of?]
  constructor
  · intro h
    split at h
    · cases h
      exact ⟨rfl, rfl⟩
    · cases h
  · rintro ⟨rfl, rfl⟩
    exact dif_pos ⟨hw, hne, hf, hle⟩

theorem leadingDigits_append_afterDigits (cs : List Char) :
    leadingDigits cs ++ afterDigits cs = cs :=
  List.takeWhile_append_dropWhile

theorem stopsDigits_unit : StopsDigits ['s'] :=
  stopsDigits_cons rfl []

/-- **Just the spellings are read**, each from its text. -/
theorem read?_eq_some_iff {text : List Char} {s : Spelling} :
    read? text = some s ↔ s.text = text := by
  constructor
  · intro h
    rw [read?] at h
    split at h
    · rename_i hafter
      obtain ⟨hwhole, hfraction⟩ := of?_eq_some_iff.mp h
      rw [Spelling.text, hwhole, hfraction, if_pos rfl, List.append_nil, ← hafter,
        leadingDigits_append_afterDigits]
    · rename_i rest hafter
      split at h
      · rename_i hrest
        obtain ⟨hsome, hend⟩ := hrest
        obtain ⟨hwhole, hfraction⟩ := of?_eq_some_iff.mp h
        rw [Spelling.text, hwhole, hfraction, if_neg hsome, List.append_assoc, List.cons_append,
          ← hend, leadingDigits_append_afterDigits, ← hafter, leadingDigits_append_afterDigits]
      · cases h
    · cases h
  · rintro rfl
    by_cases hnil : s.fraction = []
    · have htext : s.text = s.whole ++ ['s'] := by
        rw [Spelling.text, if_pos hnil, List.append_nil]
      rw [htext, read?, leadingDigits_append s.whole_digits stopsDigits_unit,
        afterDigits_append s.whole_digits stopsDigits_unit]
      exact of?_eq_some_iff.mpr ⟨rfl, hnil⟩
    · have htext : s.text = s.whole ++ '.' :: (s.fraction ++ ['s']) := by
        rw [Spelling.text, if_neg hnil, List.append_assoc, List.cons_append]
      have hpoint : StopsDigits ('.' :: (s.fraction ++ ['s'])) := stopsDigits_cons rfl _
      rw [htext, read?, leadingDigits_append s.whole_digits hpoint,
        afterDigits_append s.whole_digits hpoint]
      show (if leadingDigits (s.fraction ++ ['s']) ≠ [] ∧
        afterDigits (s.fraction ++ ['s']) = ['s'] then _ else _) = _
      rw [leadingDigits_append s.fraction_digits stopsDigits_unit,
        afterDigits_append s.fraction_digits stopsDigits_unit, if_pos ⟨hnil, rfl⟩]
      exact of?_eq_some_iff.mpr ⟨rfl, rfl⟩

theorem text_inj {s t : Spelling} : s.text = t.text ↔ s = t := by
  constructor
  · intro h
    have hread := read?_eq_some_iff.mpr h
    rw [read?_eq_some_iff.mpr rfl] at hread
    exact (Option.some.inj hread).symm
  · rintro rfl
    rfl

/-- The length of time is what the number says. -/
theorem value_duration (s : Spelling) : s.duration.value = s.value := by
  have hplaces : (10 : ℚ) ^ 9 = 10 ^ s.fraction.length * 10 ^ (9 - s.fraction.length) := by
    rw [← pow_add, Nat.add_sub_cancel' s.fraction_le]
  show ((number s.whole : Nat) : ℚ) +
    ((number s.fraction * placeValue (9 - s.fraction.length) : Nat) : ℚ) / 10 ^ 9 = s.value
  rw [value, fractionValue_eq, hplaces, placeValue_eq]
  push_cast
  field_simp

/-- The shortest spelling is told by its length of time. -/
theorem Shortest.eq_of_duration {s t : Spelling} (hs : s.Shortest) (ht : t.Shortest)
    (h : s.duration = t.duration) : s = t := by
  have hseconds : number s.whole = number t.whole := congrArg Duration.seconds h
  have hnanos : number s.fraction * placeValue (9 - s.fraction.length) =
      number t.fraction * placeValue (9 - t.fraction.length) := congrArg Duration.nanos h
  have hwhole : s.whole = t.whole := by
    rw [← digits_number s.whole_digits s.whole_ne hs.whole,
      ← digits_number t.whole_digits t.whole_ne ht.whole, hseconds]
  have hfraction : s.fraction = t.fraction := by
    rw [← trimZerosRight_padded_number s.fraction_digits (by decide) s.fraction_le hs.fraction,
      ← trimZerosRight_padded_number t.fraction_digits (by decide) t.fraction_le ht.fraction,
      hnanos]
  cases s
  cases t
  cases hwhole
  cases hfraction
  rfl

end Spelling

/-! ## Lengths of time -/

/-- A length of time from its text. -/
def read? (text : List Char) : Option Duration :=
  (Spelling.read? text).map Spelling.duration

/-- How a length of time is spelled. -/
def spelling (d : Duration) : Spelling where
  whole := digits d.seconds
  fraction := trimZerosRight (padded 9 d.nanos)
  whole_digits := all_digits _
  whole_ne := digits_ne_nil _
  fraction_digits := all_trimZerosRight (all_padded 9 _)
  fraction_le := (length_trimZerosRight_le _).trans_eq (length_padded (by decide) d.nanos_lt)

theorem fraction_spelling_eq_nil (d : Duration) : d.spelling.fraction = [] ↔ d.nanos = 0 := by
  have hnumber := number_trimZerosRight (padded 9 d.nanos)
  rw [number_padded] at hnumber
  constructor
  · intro h
    have hnil : trimZerosRight (padded 9 d.nanos) = [] := h
    rw [← hnumber, hnil]
    exact Nat.zero_mul _
  · intro h
    show trimZerosRight (padded 9 d.nanos) = []
    rw [h]
    rfl

theorem text_spelling (d : Duration) : d.spelling.text = d.text := by
  rw [Spelling.text, text]
  by_cases h : d.nanos = 0
  · rw [if_pos (d.fraction_spelling_eq_nil.mpr h), if_pos h, List.append_nil]
    rfl
  · rw [if_neg (mt d.fraction_spelling_eq_nil.mp h), if_neg h]
    rfl

theorem shortest_spelling (d : Duration) : d.spelling.Shortest where
  whole := by
    intro h
    have hzero : d.seconds = 0 := eq_zero_of_head?_digits h
    show digits d.seconds = ['0']
    rw [hzero]
    rfl
  fraction := getLast?_trimZerosRight _

/-- **No part of a length of time is lost in its spelling.** -/
theorem duration_spelling (d : Duration) : d.spelling.duration = d := by
  have hnanos := number_trimZerosRight (padded 9 d.nanos)
  rw [number_padded, length_padded (by decide) d.nanos_lt] at hnanos
  exact eq_of_parts (number_digits d.seconds) hnanos

/-- **What is written is exact and as short as can be.**  The text of a length of time
    spells its number of seconds, with a fraction only where nanoseconds are left, and
    of all spellings of that number it is the one without digits that count for nothing.
    So it is read back, and lengths of time with the same text are the same. -/
theorem text_exact (d : Duration) :
    (∃ s : Spelling, s.text = d.text ∧ s.value = d.value ∧ s.Shortest ∧
      (s.fraction = [] ↔ d.nanos = 0)) ∧
    (∀ s : Spelling, s.text = d.text ↔ s.value = d.value ∧ s.Shortest) ∧
    read? d.text = some d ∧ ∀ e : Duration, e.text = d.text ↔ e = d := by
  have hvalue : d.spelling.value = d.value := by
    rw [← Spelling.value_duration, duration_spelling]
  have hread : ∀ e : Duration, read? e.text = some e := by
    intro e
    rw [read?, Spelling.read?_eq_some_iff.mpr e.text_spelling, Option.map_some, duration_spelling]
  refine ⟨⟨d.spelling, d.text_spelling, hvalue, d.shortest_spelling,
    d.fraction_spelling_eq_nil⟩, fun s => ?_, hread d, fun e => ?_⟩
  · rw [← text_spelling, Spelling.text_inj]
    constructor
    · rintro rfl
      exact ⟨hvalue, d.shortest_spelling⟩
    · rintro ⟨hsame, hshort⟩
      refine hshort.eq_of_duration d.shortest_spelling (value_inj.mp ?_)
      rw [Spelling.value_duration, hsame, duration_spelling]
  · constructor
    · intro h
      have hsame := hread e
      rw [h, hread d] at hsame
      exact (Option.some.inj hsame).symm
    · rintro rfl
      rfl

example : text ⟨0, 1000000, by decide⟩ = "0.001s".toList := by decide

end SpannerDialect.Duration
