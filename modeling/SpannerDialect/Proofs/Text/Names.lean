import Mathlib.Algebra.Group.Nat.Even
import Mathlib.Data.List.Induction
import SpannerDialect.Proofs.Text.Neutral

/-! # Quoted names

    A name is quoted by putting a backslash before each of its back-quotes; its
    own backslashes stay as they are.  The scanner takes those for escapes too,
    so a name is one quoted region just when its backslashes pair off wherever
    they run up to a back-quote or to the end.  Two quoted names are told apart
    from what follows them, unless one ends with a backslash where the other
    goes on with a back-quote (`quoteName_region`), and always where they hold no
    backslash (`quoteName_append_inj`). -/

namespace SpannerDialect.Text

/-! ## One quoted region -/

/-- A text without placeholders whose quotes close at the last character, and
    nowhere before it. -/
structure IsRegion (t : List Char) : Prop where
  placeholders_eq : placeholders t = 0
  scan_eq : scan .outside t = .outside
  scan_ne : ∀ a b, t = a ++ b → a ≠ [] → b ≠ [] → scan .outside a ≠ .outside

/-- The scanner stays between quotes all along a text. -/
def StaysQuoted (s : ScanState) (t : List Char) : Prop :=
  ∀ a b, t = a ++ b → scan s a ≠ .outside

theorem staysQuoted_nil {s : ScanState} : StaysQuoted s [] ↔ s ≠ .outside := by
  constructor
  · intro h
    exact h [] [] rfl
  · intro h a b hab
    obtain ⟨rfl, rfl⟩ := List.append_eq_nil_iff.mp hab.symm
    exact h

theorem staysQuoted_cons {s : ScanState} {c : Char} {t : List Char} :
    StaysQuoted s (c :: t) ↔ s ≠ .outside ∧ StaysQuoted (s.step c) t := by
  constructor
  · intro h
    refine ⟨h [] (c :: t) rfl, ?_⟩
    intro a b hab
    exact h (c :: a) b (congrArg (c :: ·) hab)
  · rintro ⟨hs, ht⟩ a b hab
    cases a with
    | nil => exact hs
    | cons d a =>
        obtain ⟨rfl, htail⟩ := List.cons.inj hab
        exact ht a b htail

/-- Between quotes there are no placeholders. -/
theorem StaysQuoted.placeholdersFrom_eq {s : ScanState} {t : List Char} (h : StaysQuoted s t) :
    placeholdersFrom s t = 0 := by
  induction t generalizing s with
  | nil => rfl
  | cons c t ih =>
      obtain ⟨hs, ht⟩ := staysQuoted_cons.mp h
      rw [placeholdersFrom, ih ht]
      simp [isPlaceholder, hs]

/-- Only a quote of the kind that has opened a region closes it. -/
theorem step_eq_outside {s : ScanState} {q : Char} (hq : isQuote q = true) (hb : q ≠ '\\') :
    s.step q = .outside ↔ s = .quoted q := by
  cases s with
  | outside => simp [ScanState.step, hq]
  | escaped p => simp [ScanState.step]
  | quoted p => simp [ScanState.step, hb, eq_comm]

/-- A text between two quotes is one region just when the scanner stays between
    them, and no backslash escapes the second. -/
theorem isRegion_iff {q : Char} {t : List Char} (hq : isQuote q = true) (hb : q ≠ '\\') :
    IsRegion (q :: t ++ [q]) ↔ StaysQuoted (.quoted q) t ∧ scan (.quoted q) t = .quoted q := by
  have hopen : ScanState.step .outside q = .quoted q := if_pos hq
  have hscan : scan .outside (q :: t ++ [q]) = (scan (.quoted q) t).step q := by
    rw [List.cons_append, scan_cons, hopen, scan_append]
    rfl
  constructor
  · intro h
    refine ⟨?_, (step_eq_outside hq hb).mp (hscan ▸ h.scan_eq)⟩
    rintro a b rfl
    have hne := h.scan_ne (q :: a) (b ++ [q]) (by simp) (List.cons_ne_nil q a) (by simp)
    rwa [scan_cons, hopen] at hne
  · rintro ⟨hstays, hend⟩
    have hp : q ≠ '?' := by
      rintro rfl
      exact absurd hq (by decide)
    refine ⟨?_, ?_, ?_⟩
    · rw [placeholders, List.cons_append, placeholdersFrom, hopen, placeholdersFrom_append,
        hstays.placeholdersFrom_eq]
      simp [placeholdersFrom, isPlaceholder, hp]
    · rw [hscan, hend, (step_eq_outside hq hb).mpr rfl]
    · intro a b hab ha hb'
      obtain ⟨c, a, rfl⟩ := List.exists_cons_of_ne_nil ha
      obtain ⟨rfl, hab⟩ := List.cons.inj hab
      -- the part behind ends with the closing quote, so the part before is in the text
      rw [← List.dropLast_concat_getLast hb', ← List.append_assoc] at hab
      have htext := (List.append_inj' hab rfl).1
      rw [List.cons_append, List.cons.injEq] at htext
      rw [scan_cons, hopen]
      exact hstays a _ htext.2

/-! ## Backslashes of a name -/

/-- Wherever the backslashes of a text run up to a back-quote or to the end,
    their number is even. -/
def PairedBackslashes (t : List Char) : Prop :=
  ∀ before n after, t = before ++ (List.replicate n '\\' ++ after) → before.getLast? ≠ some '\\' →
    (∀ c ∈ after.head?, c = '\x60') → Even n

/-- The same of a text that may stand behind one more backslash. -/
def PairedFrom (behind : Bool) (t : List Char) : Prop :=
  ∀ before n after, t = before ++ (List.replicate n '\\' ++ after) → before.getLast? ≠ some '\\' →
    (∀ c ∈ after.head?, c = '\x60') → Even (if before = [] then n + behind.toNat else n)

theorem pairedFrom_false {t : List Char} : PairedFrom false t ↔ PairedBackslashes t := by
  simp [PairedFrom, PairedBackslashes]

theorem pairedFrom_nil {behind : Bool} : PairedFrom behind [] ↔ behind = false := by
  constructor
  · intro h
    have heven : Even (0 + behind.toNat) := h [] 0 [] rfl nofun nofun
    cases behind with
    | false => rfl
    | true => exact absurd heven (by decide)
  · rintro rfl before n after ht - -
    obtain ⟨rfl, hrest⟩ := List.append_eq_nil_iff.mp ht.symm
    obtain ⟨hn, -⟩ := List.append_eq_nil_iff.mp hrest
    obtain rfl : n = 0 := by simpa using hn
    simp

/-- One more backslash counts on; a back-quote must not stand behind an odd
    number of them, and whatever else comes ends the count. -/
theorem pairedFrom_cons {behind : Bool} {c : Char} {cs : List Char} :
    PairedFrom behind (c :: cs) ↔
      (behind = true → c ≠ '\x60') ∧ PairedFrom (!behind && c == '\\') cs := by
  constructor
  · intro h
    refine ⟨?_, ?_⟩
    · rintro rfl rfl
      have heven : Even (0 + 1) := h [] 0 _ rfl nofun (by simp)
      exact absurd heven (by decide)
    · rintro before n after rfl hlast hafter
      cases before with
      | nil =>
          by_cases hc : c = '\\'
          · subst hc
            have heven := h [] (n + 1) after rfl nofun hafter
            cases behind <;> simp_all [Nat.even_add_one]
          · have hb : (c == '\\') = false := beq_eq_false_iff_ne.mpr hc
            have heven := h [c] n after rfl (by simpa using hc) hafter
            simpa [hb] using heven
      | cons d before =>
          have heven := h (c :: d :: before) n after rfl (by simpa using hlast) hafter
          simpa using heven
  · rintro ⟨hc, hcs⟩ before n after ht hlast hafter
    cases before with
    | nil =>
        cases n with
        | zero =>
            obtain rfl : c :: cs = after := ht
            have hq : c = '\x60' := hafter c rfl
            cases behind with
            | false => simp
            | true => exact absurd hq (hc rfl)
        | succ n =>
            obtain ⟨rfl, rfl⟩ := List.cons.inj ht
            have heven := hcs [] n after rfl nofun hafter
            cases behind <;> simp_all [Nat.even_add_one]
    | cons d before =>
        obtain ⟨rfl, rfl⟩ := List.cons.inj ht
        cases before with
        | nil =>
            have hb : (c == '\\') = false := by simpa using hlast
            have heven := hcs [] n after rfl nofun hafter
            simpa [hb] using heven
        | cons e before =>
            have heven := hcs (e :: before) n after rfl (by simpa using hlast) hafter
            simpa using heven

/-- The state between back-quotes, perhaps behind a backslash that escapes. -/
def nameState (behind : Bool) : ScanState :=
  if behind then .escaped '\x60' else .quoted '\x60'

/-- The scanner stays between the quotes of a name, and no backslash is left
    over at its end, just when the backslashes pair off. -/
theorem staysQuoted_escapeName (behind : Bool) (cs : List Char) :
    StaysQuoted (nameState behind) (escapeName cs) ∧
        scan (nameState behind) (escapeName cs) = .quoted '\x60' ↔
      PairedFrom behind cs := by
  induction cs generalizing behind with
  | nil => cases behind <;> simp [escapeName, staysQuoted_nil, pairedFrom_nil, nameState]
  | cons c cs ih =>
      rw [escapeName, pairedFrom_cons]
      by_cases hc : c = '\x60'
      · subst hc
        rw [if_pos rfl, staysQuoted_cons, staysQuoted_cons, scan_cons, scan_cons]
        cases behind with
        | false =>
            have hih := ih false
            simp_all [nameState, ScanState.step]
        | true =>
            -- the backslash of the name takes the one that is put before the back-quote
            have hleft : ¬ StaysQuoted .outside (escapeName cs) := fun h => h [] _ rfl rfl
            simp [nameState, ScanState.step, hleft]
      · have hstep : (nameState behind).step c = nameState (!behind && c == '\\') := by
          cases behind with
          | true => simp [nameState, ScanState.step]
          | false =>
              by_cases hb : c = '\\'
              · simp [nameState, ScanState.step, hb]
              · simp [nameState, ScanState.step, hb, hc]
        have hquoted : nameState behind ≠ .outside := by
          cases behind <;> simp [nameState]
        rw [if_neg hc, staysQuoted_cons, scan_cons, hstep, and_assoc, ih]
        simp [hquoted, hc]

/-! ## Names and what follows them -/

theorem escapeName_append (a b : List Char) :
    escapeName (a ++ b) = escapeName a ++ escapeName b := by
  induction a with
  | nil => rfl
  | cons c a ih =>
      rw [List.cons_append, escapeName, escapeName, ih]
      by_cases hc : c = '\x60'
      · simp [hc]
      · simp [hc]

/-- An escaped name ends as the name itself does. -/
theorem getLast?_escapeName_concat (a : List Char) (c : Char) :
    (escapeName (a ++ [c])).getLast? = some c := by
  rw [escapeName_append, escapeName]
  by_cases hc : c = '\x60'
  · simp [hc, escapeName]
  · simp [hc, escapeName]

/-- Names are escaped apart: from the end, each character tells how it has been
    written. -/
theorem escapeName_inj {a b : List Char} (h : escapeName a = escapeName b) : a = b := by
  induction a using List.reverseRecOn generalizing b with
  | nil =>
      cases b with
      | nil => rfl
      | cons c b =>
          rw [escapeName, escapeName] at h
          split at h <;> cases h
  | append_singleton a c ih =>
      rcases List.eq_nil_or_concat b with rfl | ⟨b, d, rfl⟩
      · have hlast := getLast?_escapeName_concat a c
        rw [h] at hlast
        cases hlast
      · rw [List.concat_eq_append] at h ⊢
        have hlast := getLast?_escapeName_concat a c
        rw [h, getLast?_escapeName_concat] at hlast
        obtain rfl := Option.some.inj hlast
        rw [escapeName_append, escapeName_append] at h
        rw [ih (List.append_cancel_right h)]

/-- A back-quote in an escaped name is one of the name, and stands behind the
    backslash that has been put there. -/
theorem exists_of_escapeName_eq {name before after : List Char}
    (h : escapeName name = before ++ '\x60' :: after) :
    ∃ m k, name = m ++ '\x60' :: k ∧ before = escapeName m ++ ['\\'] ∧ after = escapeName k := by
  induction name generalizing before with
  | nil => simp [escapeName] at h
  | cons c name ih =>
      rw [escapeName] at h
      by_cases hc : c = '\x60'
      · rw [if_pos hc] at h
        subst hc
        rcases before with _ | ⟨d, _ | ⟨e, before⟩⟩
        · simp at h
        · obtain ⟨rfl, rfl⟩ : '\\' = d ∧ escapeName name = after := by simpa using h
          exact ⟨[], name, rfl, rfl, rfl⟩
        · obtain ⟨rfl, rfl, hname⟩ :
              '\\' = d ∧ '\x60' = e ∧ escapeName name = before ++ '\x60' :: after := by
            simpa using h
          obtain ⟨m, k, rfl, rfl, rfl⟩ := ih hname
          exact ⟨'\x60' :: m, k, rfl, by simp [escapeName], rfl⟩
      · rw [if_neg hc] at h
        cases before with
        | nil => exact absurd (List.cons.inj h).1 hc
        | cons d before =>
            obtain ⟨rfl, hname⟩ : c = d ∧ escapeName name = before ++ '\x60' :: after := by
              simpa using h
            obtain ⟨m, k, rfl, rfl, rfl⟩ := ih hname
            exact ⟨c :: m, k, rfl, by simp [escapeName, hc], rfl⟩

/-- A name runs on into another one: it ends with a backslash where the other
    has a back-quote, and what follows it begins with the rest of the other. -/
def RunsOn (name other : String) (rest rest' : List Char) : Prop :=
  ∃ m k, name.toList = m ++ ['\\'] ∧ other.toList = m ++ '\x60' :: k ∧
    rest = escapeName k ++ '\x60' :: rest'

/-- An escaped name that starts another one, up to the quote behind it. -/
theorem escapeName_starts_iff {name other : String} {rest rest' : List Char} :
    (∃ u, escapeName other.toList = escapeName name.toList ++ u ∧
        '\x60' :: rest = u ++ '\x60' :: rest') ↔
      (name = other ∧ rest = rest') ∨ RunsOn name other rest rest' := by
  constructor
  · rintro ⟨u, hother, hrest⟩
    cases u with
    | nil =>
        rw [List.append_nil] at hother
        exact Or.inl ⟨String.toList_inj.mp (escapeName_inj hother.symm), (List.cons.inj hrest).2⟩
    | cons c u =>
        obtain ⟨rfl, rfl⟩ := List.cons.inj hrest
        obtain ⟨m, k, hk, hname, rfl⟩ := exists_of_escapeName_eq hother
        refine Or.inr ⟨m, k, escapeName_inj ?_, hk, rfl⟩
        rw [hname, escapeName_append]
        rfl
  · rintro (⟨rfl, rfl⟩ | ⟨m, k, hname, hother, rfl⟩)
    · exact ⟨[], by simp, rfl⟩
    · refine ⟨'\x60' :: escapeName k, ?_, rfl⟩
      rw [hname, hother, escapeName_append, escapeName_append]
      simp [escapeName]

/-- A name without backslashes runs on into no other. -/
theorem not_runsOn {name other : String} {rest rest' : List Char} (h : '\\' ∉ name.toList) :
    ¬ RunsOn name other rest rest' := by
  rintro ⟨m, k, hname, -, -⟩
  rw [hname] at h
  exact h (List.mem_append_right m (List.mem_singleton_self _))

/-- Names without backslashes are told apart from what follows them. -/
theorem quoteName_append_inj {name other : String} {rest rest' : List Char}
    (hname : '\\' ∉ name.toList) (hother : '\\' ∉ other.toList)
    (h : quoteName name ++ rest = quoteName other ++ rest') : name = other ∧ rest = rest' := by
  simp only [quoteName, List.append_assoc, List.cons_append, List.cons.injEq, true_and] at h
  rcases List.append_eq_append_iff.mp h with hstarts | hstarts
  · exact (escapeName_starts_iff.mp hstarts).resolve_right (not_runsOn hname)
  · obtain ⟨rfl, rfl⟩ := (escapeName_starts_iff.mp hstarts).resolve_right (not_runsOn hother)
    exact ⟨rfl, rfl⟩

/-- **Which names are quoted safely.**  A quoted name is one quoted region,
    without placeholders and closed at its last character, just when its
    backslashes pair off.  Two quoted names with what follows them are the same
    text just when both are the same, or when one of the names runs on into the
    other. -/
theorem quoteName_region (name : String) :
    (IsRegion (quoteName name) ↔ PairedBackslashes name.toList) ∧
      ∀ (other : String) (rest rest' : List Char),
        quoteName name ++ rest = quoteName other ++ rest' ↔
          (name = other ∧ rest = rest') ∨ RunsOn name other rest rest' ∨
            RunsOn other name rest' rest := by
  refine ⟨?_, ?_⟩
  · rw [quoteName, isRegion_iff (by decide) (by decide), ← pairedFrom_false]
    exact staysQuoted_escapeName false name.toList
  · intro other rest rest'
    have hquote : ∀ (n : String) (r : List Char),
        quoteName n ++ r = '\x60' :: (escapeName n.toList ++ '\x60' :: r) := by
      intro n r
      simp [quoteName]
    -- one of the escaped names starts the other
    rw [hquote, hquote, List.cons.injEq, List.append_eq_append_iff, escapeName_starts_iff,
      escapeName_starts_iff]
    constructor
    · rintro ⟨-, (h | h) | ⟨rfl, rfl⟩ | h⟩
      · exact Or.inl h
      · exact Or.inr (Or.inl h)
      · exact Or.inl ⟨rfl, rfl⟩
      · exact Or.inr (Or.inr h)
    · rintro (h | h | h)
      · exact ⟨rfl, Or.inl (Or.inl h)⟩
      · exact ⟨rfl, Or.inl (Or.inr h)⟩
      · exact ⟨rfl, Or.inr (Or.inr h)⟩

/-- A name that ends with a backslash does not close its quotes, and cannot be
    told from another one; behind a backslash, a back-quote of the name closes
    them, and shows a placeholder. -/
theorem backslashedNames_open :
    scan .outside (quoteName "a\\") ≠ .outside ∧
      "a\\" ≠ "a\x60b" ∧ quoteName "a\\" ++ ['b', '\x60'] = quoteName "a\x60b" ++ [] ∧
      placeholders (quoteName "a\\\x60?") = 1 := by
  decide

end SpannerDialect.Text
