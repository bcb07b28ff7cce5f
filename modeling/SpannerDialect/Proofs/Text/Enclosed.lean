import SpannerDialect.Proofs.Text.Neutral

/-! # Enclosed text

    SQL between round brackets is told apart from the bracket behind it when its own
    brackets pair off.  Such a text is enclosed: read by a scanner that counts the open
    brackets outside of quotes, it closes none that it has not opened, leaves none open,
    and holds no placeholder.  Enclosed texts compose, quoted names and string literals are
    enclosed whatever they hold, and the closing bracket is found again behind every
    enclosed text (`Enclosed.append_inj`). -/

namespace SpannerDialect.Text

/-- How many round brackets are open behind a character, from how many there are before
    it.  There is no going on at a placeholder, nor at a bracket that closes more than has
    been opened. -/
def ScanState.depth? (s : ScanState) (depth : Nat) (c : Char) : Option Nat :=
  if s ≠ .outside then some depth
  else if c = '?' then none
  else if c = '(' then some (depth + 1)
  else if c = ')' then if depth = 0 then none else some (depth - 1)
  else some depth

/-- Reads one character, with so many round brackets open. -/
def ScanState.nest (p : ScanState × Nat) (c : Char) : Option (ScanState × Nat) :=
  (p.1.depth? p.2 c).map fun depth => (p.1.step c, depth)

/-- A text that leaves the scanner where it stands, with as many brackets open as before
    it, and that holds no placeholder. -/
def Enclosed (s : ScanState) (t : List Char) : Prop :=
  ∀ depth, t.foldlM ScanState.nest (s, depth) = some (s, depth)

namespace Enclosed

variable {s : ScanState} {a b : List Char}

theorem nil : Enclosed s [] :=
  fun _ => rfl

theorem append (ha : Enclosed s a) (hb : Enclosed s b) : Enclosed s (a ++ b) := by
  intro depth
  rw [List.foldlM_append, ha depth]
  exact hb depth

theorem flatMap {α : Type} {g : α → List Char} {xs : List α}
    (h : ∀ x ∈ xs, Enclosed s (g x)) : Enclosed s (xs.flatMap g) := by
  induction xs with
  | nil => exact nil
  | cons x xs ih =>
      obtain ⟨hfirst, hrest⟩ := List.forall_mem_cons.mp h
      rw [List.flatMap_cons]
      exact append hfirst (ih hrest)

/-- A text is enclosed when each of its characters is. -/
theorem of_chars {t : List Char} (h : ∀ c ∈ t, Enclosed s [c]) : Enclosed s t := by
  have hf : Enclosed s (t.flatMap fun c => [c]) := flatMap h
  rwa [List.flatMap_singleton'] at hf

theorem join {separator : List Char} {ts : List (List Char)} (hs : Enclosed s separator)
    (h : ∀ t ∈ ts, Enclosed s t) : Enclosed s (join separator ts) := by
  induction ts with
  | nil => exact nil
  | cons t ts ih =>
      obtain ⟨hfirst, hrest⟩ := List.forall_mem_cons.mp h
      cases ts with
      | nil => exact hfirst
      | cons u ts => exact append (append hfirst hs) (ih hrest)

end Enclosed

/-! ## Characters -/

/-- The characters that mean something outside quotes: quotes, placeholders and round
    brackets. -/
def isMark (c : Char) : Bool :=
  isQuote c || c == '?' || c == '(' || c == ')'

theorem enclosed_outside {c : Char} (h : isMark c = false) : Enclosed .outside [c] := by
  simp only [isMark, Bool.or_eq_false_iff, beq_eq_false_iff_ne] at h
  obtain ⟨⟨⟨hquote, hplaceholder⟩, hopen⟩, hclose⟩ := h
  intro depth
  simp [ScanState.nest, ScanState.depth?, ScanState.step, hquote, hplaceholder, hopen, hclose]

/-- Text without marks is enclosed wherever it stands outside quotes. -/
theorem enclosed_unmarked {t : List Char} (h : t.any isMark = false) : Enclosed .outside t :=
  .of_chars fun c hc => enclosed_outside (Bool.eq_false_iff.mpr (List.any_eq_false.mp h c hc))

/-- Between quotes a character means nothing unless it closes the region or is a
    backslash. -/
theorem enclosed_quoted {q c : Char} (hq : c ≠ q) (hb : c ≠ '\\') : Enclosed (.quoted q) [c] := by
  intro depth
  simp [ScanState.nest, ScanState.depth?, ScanState.step, hq, hb]

theorem enclosed_escaped (q c : Char) : Enclosed (.quoted q) ['\\', c] := by
  intro depth
  simp [ScanState.nest, ScanState.depth?, ScanState.step]

/-- A quoted region is enclosed when its inside is. -/
theorem Enclosed.region {q : Char} {t : List Char} (h : Enclosed (.quoted q) t)
    (hq : isQuote q = true) : Enclosed .outside (q :: t ++ [q]) := by
  have hne : ∀ c, isQuote c = false → q ≠ c := by
    rintro c hc rfl
    exact Bool.noConfusion (hq.symm.trans hc)
  have hopen : ∀ depth, ScanState.nest (.outside, depth) q = some (.quoted q, depth) := by
    intro depth
    simp [ScanState.nest, ScanState.depth?, ScanState.step, hq, hne '?' rfl, hne '(' rfl,
      hne ')' rfl]
  have hclose : ∀ depth, ScanState.nest (.quoted q, depth) q = some (.outside, depth) := by
    intro depth
    simp [ScanState.nest, ScanState.depth?, ScanState.step, hne '\\' rfl]
  intro depth
  rw [List.cons_append, List.foldlM_cons, hopen]
  show (t ++ [q]).foldlM ScanState.nest (.quoted q, depth) = _
  rw [List.foldlM_append, h depth]
  show List.foldlM ScanState.nest (.quoted q, depth) [q] = _
  rw [List.foldlM_cons, hclose]
  rfl

/-- Enclosed text between round brackets is enclosed. -/
theorem Enclosed.group {t : List Char} (h : Enclosed .outside t) :
    Enclosed .outside ('(' :: t ++ [')']) := by
  intro depth
  rw [List.cons_append, List.foldlM_cons]
  show (t ++ [')']).foldlM ScanState.nest (.outside, depth + 1) = _
  rw [List.foldlM_append, h (depth + 1)]
  rfl

/-! ## Names and string literals -/

/-- The inside of a quoted name. -/
theorem enclosed_escapeName {cs : List Char} (h : '\\' ∉ cs) :
    Enclosed (.quoted '\x60') (escapeName cs) := by
  induction cs with
  | nil => exact .nil
  | cons c cs ih =>
      obtain ⟨hb, hcs⟩ := List.ne_and_not_mem_of_not_mem_cons h
      rw [escapeName]
      split
      · exact (enclosed_escaped _ c).append (ih hcs)
      · rename_i hq
        exact (enclosed_quoted hq hb.symm).append (ih hcs)

/-- A quoted name without a backslash can neither open nor hide anything. -/
theorem enclosed_quoteName {name : String} (h : '\\' ∉ name.toList) :
    Enclosed .outside (quoteName name) :=
  (enclosed_escapeName h).region rfl

/-- One character of the escaped form. -/
theorem enclosed_escapeChar (c : Char) : Enclosed (.quoted '"') (escapeChar c) := by
  rw [escapeChar]
  split
  · exact enclosed_escaped _ c
  · rename_i h
    obtain ⟨hb, hq⟩ := not_or.mp h
    split
    · exact enclosed_escaped _ _
    · split
      · exact enclosed_escaped _ _
      · exact enclosed_quoted hq hb

/-- One character of the raw form, where a backslash has no place. -/
theorem enclosed_escapeRawChar {c : Char} (hb : c ≠ '\\') :
    Enclosed (.quoted '"') (escapeRawChar c) := by
  rw [escapeRawChar]
  split
  · exact enclosed_escaped _ c
  · rename_i hq
    exact enclosed_quoted hq hb

/-- A string literal can neither open nor hide anything.  The scanner sees the delimiters
    of the raw form as an empty region, the region of the text, and another empty one. -/
theorem enclosed_quoteText (t : List Char) : Enclosed .outside (quoteText t) := by
  have hempty : Enclosed .outside ['"', '"'] := Enclosed.region .nil rfl
  rw [quoteText]
  split
  · rename_i h
    have hb : '\\' ∉ t := by
      simp [takesRawForm] at h
      exact h.2
    have hinside : Enclosed (.quoted '"') (t.flatMap escapeRawChar) :=
      .flatMap fun c hc => enclosed_escapeRawChar fun hcb => hb (hcb ▸ hc)
    have hall : Enclosed .outside (['r'] ++ ['"', '"'] ++
        ('"' :: t.flatMap escapeRawChar ++ ['"']) ++ ['"', '"']) :=
      (((enclosed_outside rfl).append hempty).append (hinside.region rfl)).append hempty
    simpa [tripleQuote] using hall
  · exact Enclosed.region (.flatMap fun c _ => enclosed_escapeChar c) rfl

/-! ## Enclosed text is neutral -/

/-- The scanner of brackets finds the quotes that the other one finds. -/
theorem scan_of_nest {t : List Char} {s s' : ScanState} {depth depth' : Nat}
    (h : t.foldlM ScanState.nest (s, depth) = some (s', depth')) :
    scan s t = s' ∧ placeholdersFrom s t = 0 := by
  induction t generalizing s depth with
  | nil =>
      obtain ⟨rfl, -⟩ := Prod.mk.inj (Option.some.inj h)
      exact ⟨rfl, rfl⟩
  | cons c t ih =>
      rw [List.foldlM_cons] at h
      obtain ⟨⟨r, n⟩, hstep, hrest⟩ := Option.bind_eq_some_iff.mp h
      obtain ⟨d, hdepth, hnext⟩ := Option.map_eq_some_iff.mp hstep
      obtain ⟨rfl, rfl⟩ := Prod.mk.inj hnext
      have hplaceholder : isPlaceholder s c = false := by
        rw [Bool.eq_false_iff]
        intro hplaceholder
        simp only [isPlaceholder, Bool.and_eq_true, beq_iff_eq] at hplaceholder
        simp [ScanState.depth?, hplaceholder] at hdepth
      obtain ⟨hscan, hplaceholders⟩ := ih hrest
      rw [scan_cons, placeholdersFrom, hplaceholder, hplaceholders]
      exact ⟨hscan, rfl⟩

theorem Enclosed.neutral {s : ScanState} {t : List Char} (h : Enclosed s t) : Neutral s t :=
  scan_of_nest (h 0)

theorem neutral_quoteName {name : String} (h : '\\' ∉ name.toList) :
    Neutral .outside (quoteName name) :=
  (enclosed_quoteName h).neutral

theorem neutral_quoteNames {names : List String} (h : ∀ name ∈ names, '\\' ∉ name.toList) :
    Neutral .outside (quoteNames names) := by
  refine Neutral.join (by decide) fun t ht => ?_
  obtain ⟨name, hname, rfl⟩ := List.mem_map.mp ht
  exact neutral_quoteName (h name hname)

/-! ## The closing bracket -/

/-- Behind an enclosed text no more brackets are open than before it, so the next one
    that closes cannot be part of an enclosed text. -/
theorem Enclosed.append_ne {a b rest : List Char} (ha : Enclosed .outside a)
    (hb : Enclosed .outside b) : b ≠ a ++ ')' :: rest := by
  rintro rfl
  have hstuck := hb 0
  rw [List.foldlM_append, ha 0] at hstuck
  cases hstuck

/-- Between round brackets, an enclosed text ends where its closing bracket stands. -/
theorem Enclosed.append_inj {a b rest rest' : List Char} (ha : Enclosed .outside a)
    (hb : Enclosed .outside b) (h : a ++ ')' :: rest = b ++ ')' :: rest') :
    a = b ∧ rest = rest' := by
  rcases List.append_eq_append_iff.mp h with ⟨u, hu, hrest⟩ | ⟨u, hu, hrest⟩
  · cases u with
    | nil => exact ⟨by rw [hu, List.append_nil], (List.cons.inj hrest).2⟩
    | cons c u =>
        obtain ⟨rfl, -⟩ := List.cons.inj hrest
        exact absurd hu (ha.append_ne hb)
  · cases u with
    | nil => exact ⟨by rw [hu, List.append_nil], (List.cons.inj hrest).2.symm⟩
    | cons c u =>
        obtain ⟨rfl, -⟩ := List.cons.inj hrest
        exact absurd hu (hb.append_ne ha)

end SpannerDialect.Text
