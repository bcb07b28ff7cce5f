import Mathlib.Data.List.Basic
import SpannerDialect.Text.Quoted

/-! # String literals read back

    The backend reads a string literal in one of two forms.  Between double
    quotes a backslash escapes the character behind it.  In the raw form, between
    triple quotes, every character stands for itself, a backslash too; a quote
    behind one merely does not close the literal.  A literal is told apart from
    whatever follows it (`quoteText_append_inj`), and it means the text that has
    been quoted unless it is raw and the text holds a double quote, which comes
    back with a backslash before it (`readLiteral?_quoteText_iff`). -/

namespace SpannerDialect.Text

/-! ## Reading -/

/-- The character that an escape stands for. -/
def escaped? (c : Char) : Option Char :=
  if c = '\\' ∨ c = '"' then some c
  else if c = 'n' then some '\n'
  else if c = 'r' then some '\r'
  else none

/-- Reads the escaped form behind its opening quote: what it means, and what
    follows the literal.  A line does not end between the quotes. -/
def readEscaped? : List Char → Option (List Char × List Char)
  | [] => none
  | '"' :: rest => some ([], rest)
  | ['\\'] => none
  | '\\' :: c :: rest => do
    let c ← escaped? c
    let (text, rest) ← readEscaped? rest
    return (c :: text, rest)
  | c :: rest =>
    if c = '\n' ∨ c = '\r' then none
    else do
      let (text, rest) ← readEscaped? rest
      return (c :: text, rest)

/-- Reads the raw form behind its opening quotes. -/
def readRaw? : List Char → Option (List Char × List Char)
  | [] => none
  | '"' :: '"' :: '"' :: rest => some ([], rest)
  | '\\' :: c :: rest => do
    let (text, rest) ← readRaw? rest
    return ('\\' :: c :: text, rest)
  | c :: rest => do
    let (text, rest) ← readRaw? rest
    return (c :: text, rest)

/-- Reads a string literal: what it means, and what follows it. -/
def readLiteral? : List Char → Option (List Char × List Char)
  | 'r' :: '"' :: '"' :: '"' :: rest => readRaw? rest
  | '"' :: rest => readEscaped? rest
  | _ => none

/-! ## The escaped form -/

/-- One escaped character means the character. -/
theorem readEscaped?_escapeChar (c : Char) {t text rest : List Char}
    (h : readEscaped? t = some (text, rest)) :
    readEscaped? (escapeChar c ++ t) = some (c :: text, rest) := by
  rw [escapeChar]
  split
  · rename_i hc
    show (do
      let d ← escaped? c
      let (text, rest) ← readEscaped? t
      return (d :: text, rest)) = _
    rw [escaped?, if_pos hc, h]
    rfl
  · rename_i hc
    obtain ⟨hb, hq⟩ := not_or.mp hc
    split
    · rename_i hn
      subst hn
      simp [readEscaped?, escaped?, h]
    · rename_i hn
      split
      · rename_i hr
        subst hr
        simp [readEscaped?, escaped?, h]
      · rename_i hr
        simp [readEscaped?, hb, hn, hr, h]

theorem readEscaped?_flatMap (t rest : List Char) :
    readEscaped? (t.flatMap escapeChar ++ '"' :: rest) = some (t, rest) := by
  induction t with
  | nil => rfl
  | cons c t ih =>
      rw [List.flatMap_cons, List.append_assoc]
      exact readEscaped?_escapeChar c ih

/-! ## The raw form -/

/-- One character of the raw form means what is written, with the backslash
    before a quote. -/
theorem readRaw?_escapeRawChar {c : Char} (hc : c ≠ '\\') {t text rest : List Char}
    (h : readRaw? t = some (text, rest)) :
    readRaw? (escapeRawChar c ++ t) = some (escapeRawChar c ++ text, rest) := by
  rw [escapeRawChar]
  split
  · simp [readRaw?, h]
  · rename_i hq
    simp [readRaw?, hc, hq, h]

theorem readRaw?_flatMap {t : List Char} (ht : '\\' ∉ t) (rest : List Char) :
    readRaw? (t.flatMap escapeRawChar ++ (tripleQuote ++ rest))
      = some (t.flatMap escapeRawChar, rest) := by
  induction t with
  | nil => rfl
  | cons c t ih =>
      obtain ⟨hc, ht⟩ := List.ne_and_not_mem_of_not_mem_cons ht
      rw [List.flatMap_cons, List.append_assoc]
      exact readRaw?_escapeRawChar hc.symm (ih ht)

/-- Without its backslashes, the inside of a raw literal is the text again. -/
theorem filter_flatMap_escapeRawChar {t : List Char} (ht : '\\' ∉ t) :
    (t.flatMap escapeRawChar).filter (· ≠ '\\') = t := by
  have hchar : ∀ c ∈ t, (escapeRawChar c).filter (· ≠ '\\') = [c] := by
    intro c hc
    have hb : c ≠ '\\' := fun h => ht (h ▸ hc)
    rw [escapeRawChar]
    split
    · simp [hb]
    · simp [hb]
  rw [List.filter_flatMap, List.flatMap_congr hchar, List.flatMap_singleton']

/-- The raw form writes one backslash for each double quote. -/
theorem length_flatMap_escapeRawChar (t : List Char) :
    (t.flatMap escapeRawChar).length = t.length + t.count '"' := by
  induction t with
  | nil => rfl
  | cons c t ih =>
      rw [List.flatMap_cons, List.length_append, ih, List.length_cons, List.count_cons,
        escapeRawChar]
      by_cases hq : c = '"'
      · simp [hq]
        omega
      · simp [hq]
        omega

theorem flatMap_escapeRawChar_eq_self_iff {t : List Char} :
    t.flatMap escapeRawChar = t ↔ '"' ∉ t := by
  constructor
  · intro h
    have hlength := length_flatMap_escapeRawChar t
    rw [h] at hlength
    exact List.count_eq_zero.mp (by omega)
  · intro h
    have hchar : ∀ c ∈ t, escapeRawChar c = [c] := by
      intro c hc
      have hq : c ≠ '"' := fun hq => h (hq ▸ hc)
      exact if_neg hq
    rw [List.flatMap_congr hchar, List.flatMap_singleton']

/-! ## Both forms -/

theorem takesRawForm_eq_true {t : List Char} :
    takesRawForm t = true ↔ '\n' ∈ t ∧ '\\' ∉ t := by
  simp [takesRawForm]

/-- What the literal of a text means. -/
def literalMeaning (t : List Char) : List Char :=
  if takesRawForm t then t.flatMap escapeRawChar else t

/-- A literal is read to its end, whatever follows it. -/
theorem readLiteral?_quoteText_append (t rest : List Char) :
    readLiteral? (quoteText t ++ rest) = some (literalMeaning t, rest) := by
  rw [quoteText, literalMeaning]
  split
  · rename_i h
    rw [List.append_assoc, List.append_assoc]
    exact readRaw?_flatMap (takesRawForm_eq_true.mp h).2 rest
  · rw [List.append_assoc]
    exact readEscaped?_flatMap t rest

/-- In one form, different texts have different meanings. -/
theorem eq_of_literalMeaning_eq {t u : List Char} (hform : takesRawForm t = takesRawForm u)
    (h : literalMeaning t = literalMeaning u) : t = u := by
  rw [literalMeaning, literalMeaning, hform] at h
  split at h
  · rename_i hraw
    have ht := takesRawForm_eq_true.mp (hform.trans hraw)
    have hu := takesRawForm_eq_true.mp hraw
    rw [← filter_flatMap_escapeRawChar ht.2, h, filter_flatMap_escapeRawChar hu.2]
  · exact h

/-- The first character of a literal tells its form. -/
theorem head?_quoteText_append (t rest : List Char) :
    (quoteText t ++ rest).head? = some (if takesRawForm t then 'r' else '"') := by
  rw [quoteText]
  split
  · rfl
  · rfl

/-- Literals are told apart from what follows them. -/
theorem quoteText_append_inj {t u rest rest' : List Char} :
    quoteText t ++ rest = quoteText u ++ rest' ↔ t = u ∧ rest = rest' := by
  constructor
  · intro h
    have hhead := congrArg List.head? h
    rw [head?_quoteText_append, head?_quoteText_append] at hhead
    have hforms : ∀ a b : Bool,
        some (if a then 'r' else '"') = some (if b then 'r' else '"') → a = b := by decide
    have hform : takesRawForm t = takesRawForm u := hforms _ _ hhead
    have hread := congrArg readLiteral? h
    rw [readLiteral?_quoteText_append, readLiteral?_quoteText_append] at hread
    obtain ⟨hmeaning, hrest⟩ := Prod.mk.inj (Option.some.inj hread)
    exact ⟨eq_of_literalMeaning_eq hform hmeaning, hrest⟩
  · rintro ⟨rfl, rfl⟩
    rfl

/-- **What a literal means.**  The literal of a text is read as a whole, and as
    the text itself unless the text has several lines, no backslash and a double
    quote.  Then it is raw, and a backslash comes back before each quote. -/
theorem readLiteral?_quoteText_iff (t : List Char) :
    readLiteral? (quoteText t)
        = some (if '\n' ∈ t ∧ '\\' ∉ t then t.flatMap escapeRawChar else t, []) ∧
      (readLiteral? (quoteText t) = some (t, []) ↔ ¬ ('\n' ∈ t ∧ '\\' ∉ t ∧ '"' ∈ t)) := by
  have hread := readLiteral?_quoteText_append t []
  rw [List.append_nil, literalMeaning] at hread
  simp only [takesRawForm_eq_true] at hread
  refine ⟨hread, ?_⟩
  rw [hread, ← and_assoc, not_and, Option.some.injEq, Prod.mk.injEq, and_iff_left rfl]
  split
  · rename_i hraw
    rw [flatMap_escapeRawChar_eq_self_iff]
    exact ⟨fun h _ => h, fun h => h hraw⟩
  · rename_i hraw
    exact ⟨fun _ h => absurd h hraw, fun _ => rfl⟩

/-- A quote and a line feed: the literal means a text with a backslash. -/
theorem quotedLine_altered :
    quoteText ['"', '\n'] = "r\"\"\"\\\"\n\"\"\"".toList ∧
      readLiteral? (quoteText ['"', '\n']) = some (['\\', '"', '\n'], []) ∧
      ¬ ∀ t, readLiteral? (quoteText t) = some (t, []) := by
  have hread : readLiteral? (quoteText ['"', '\n']) = some (['\\', '"', '\n'], []) := by decide
  refine ⟨by decide, hread, ?_⟩
  intro h
  exact absurd (hread.symm.trans (h _)) (by decide)

end SpannerDialect.Text
