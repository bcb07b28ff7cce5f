import SpannerDialect.Proofs.Text.Neutral

/-! # Filling placeholders

    Filling a text puts one replacement into the place of each placeholder
    and keeps all else.  It goes along with appending (`fillFrom_append`),
    and it can be said without the scanner: the text falls into pieces with
    one placeholder between neighbours, and the filled text has the same
    pieces with the replacements between them (`exists_pieces`). -/

namespace SpannerDialect.Text

/-! ## One character -/

theorem placeholdersFrom_put {s : ScanState} {c : Char} (hp : isPlaceholder s c = true)
    (cs : List Char) : placeholdersFrom s (c :: cs) = placeholdersFrom (s.step c) cs + 1 := by
  rw [placeholdersFrom, if_pos hp, Nat.add_comm]

theorem placeholdersFrom_keep {s : ScanState} {c : Char} (hp : ¬ isPlaceholder s c = true)
    (cs : List Char) : placeholdersFrom s (c :: cs) = placeholdersFrom (s.step c) cs := by
  rw [placeholdersFrom, if_neg hp, Nat.zero_add]

theorem fillFrom_put {s : ScanState} {c : Char} (hp : isPlaceholder s c = true)
    (cs r : List Char) (rs : List (List Char)) :
    fillFrom s (c :: cs) (r :: rs) = r ++ fillFrom (s.step c) cs rs := by
  simp only [fillFrom, if_pos hp]

theorem fillFrom_keep {s : ScanState} {c : Char} (hp : ¬ isPlaceholder s c = true)
    (cs : List Char) (rs : List (List Char)) :
    fillFrom s (c :: cs) rs = c :: fillFrom (s.step c) cs rs := by
  simp only [fillFrom, if_neg hp]

/-! ## Texts in a row -/

/-- The replacements of two texts in a row are those of the first and, from
    where the scanner stopped, those of the second. -/
theorem fillFrom_append (s : ScanState) (a b : List Char) (as bs : List (List Char))
    (h : placeholdersFrom s a = as.length) :
    fillFrom s (a ++ b) (as ++ bs) = fillFrom s a as ++ fillFrom (scan s a) b bs := by
  induction a generalizing s as with
  | nil =>
      have has : as = [] := List.eq_nil_of_length_eq_zero h.symm
      subst has
      rfl
  | cons c cs ih =>
      rw [List.cons_append, scan_cons]
      by_cases hp : isPlaceholder s c = true
      · rw [placeholdersFrom_put hp] at h
        cases as with
        | nil => cases h
        | cons r rs =>
            have hrs : placeholdersFrom (s.step c) cs = rs.length := Nat.succ.inj h
            rw [List.cons_append, fillFrom_put hp, fillFrom_put hp, ih _ _ hrs,
              List.append_assoc]
      · rw [placeholdersFrom_keep hp] at h
        rw [fillFrom_keep hp, fillFrom_keep hp, ih _ _ h, List.cons_append]

/-- A text without placeholders stays as it is. -/
theorem fillFrom_of_no_placeholders {s : ScanState} {t : List Char}
    (h : placeholdersFrom s t = 0) (rs : List (List Char)) : fillFrom s t rs = t := by
  induction t generalizing s with
  | nil => rfl
  | cons c cs ih =>
      by_cases hp : isPlaceholder s c = true
      · rw [placeholdersFrom_put hp] at h
        cases h
      · rw [placeholdersFrom_keep hp] at h
        rw [fillFrom_keep hp, ih h]

/-! ## Pieces -/

/-- Pieces of text with one replacement between neighbours. -/
def weave (first : List Char) : List (List Char) → List (List Char) → List Char
  | p :: ps, r :: rs => first ++ r ++ weave p ps rs
  | _, _ => first

theorem weave_cons (c : Char) (first : List Char) (ps rs : List (List Char)) :
    weave (c :: first) ps rs = c :: weave first ps rs := by
  cases ps with
  | nil => rfl
  | cons p ps =>
      cases rs with
      | nil => rfl
      | cons r rs => rfl

/-- A text that ends outside quotes falls into pieces at its placeholders.
    The first piece leads out of the quotes that the scan starts in, and the
    others are neutral. -/
theorem exists_piecesFrom (s : ScanState) (t : List Char) (h : scan s t = .outside) :
    ∃ first pieces,
      pieces.length = placeholdersFrom s t ∧
      (scan s first = .outside ∧ placeholdersFrom s first = 0) ∧
      (∀ p ∈ pieces, Neutral .outside p) ∧
      t = weave first pieces (List.replicate pieces.length ['?']) ∧
      ∀ rs : List (List Char), rs.length = pieces.length →
        fillFrom s t rs = weave first pieces rs := by
  induction t generalizing s with
  | nil =>
      refine ⟨[], [], rfl, ⟨h, rfl⟩, ?_, rfl, ?_⟩
      · intro p hp
        cases hp
      · intro rs _
        rfl
  | cons c cs ih =>
      rw [scan_cons] at h
      obtain ⟨first, pieces, hlen, ⟨hscan, hnone⟩, hneutral, hmarks, hfill⟩ := ih (s.step c) h
      by_cases hp : isPlaceholder s c = true
      · -- the character is a placeholder, so a piece ends before it
        obtain ⟨rfl, rfl⟩ : s = .outside ∧ c = '?' := by
          simpa [isPlaceholder] using hp
        refine ⟨[], first :: pieces, ?_, ⟨rfl, rfl⟩, ?_, ?_, ?_⟩
        · rw [placeholdersFrom_put hp, List.length_cons, hlen]
        · intro p hmem
          rcases List.mem_cons.mp hmem with heq | htail
          · subst heq
            exact ⟨hscan, hnone⟩
          · exact hneutral p htail
        · exact congrArg ('?' :: ·) hmarks
        · intro rs hrs
          cases rs with
          | nil => cases hrs
          | cons r rs =>
              rw [fillFrom_put hp]
              exact congrArg (r ++ ·) (hfill rs (Nat.succ.inj hrs))
      · refine ⟨c :: first, pieces, ?_, ⟨?_, ?_⟩, hneutral, ?_, ?_⟩
        · rw [placeholdersFrom_keep hp, hlen]
        · exact hscan
        · rw [placeholdersFrom_keep hp, hnone]
        · rw [weave_cons, ← hmarks]
        · intro rs hrs
          rw [fillFrom_keep hp, hfill rs hrs, weave_cons]

/-- A text that ends outside quotes is a row of neutral pieces with a
    placeholder between neighbours; filling it puts the replacements there. -/
theorem exists_pieces {t : List Char} (h : scan .outside t = .outside) :
    ∃ first pieces,
      pieces.length = placeholders t ∧
      (∀ p ∈ first :: pieces, Neutral .outside p) ∧
      t = weave first pieces (List.replicate pieces.length ['?']) ∧
      ∀ rs : List (List Char), rs.length = pieces.length →
        fill t rs = weave first pieces rs := by
  obtain ⟨first, pieces, hlen, hfirst, hneutral, hmarks, hfill⟩ := exists_piecesFrom .outside t h
  refine ⟨first, pieces, hlen, ?_, hmarks, hfill⟩
  intro p hp
  rcases List.mem_cons.mp hp with heq | htail
  · subst heq
    exact hfirst
  · exact hneutral p htail

end SpannerDialect.Text
