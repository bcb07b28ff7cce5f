import SpannerDialect.Proofs.Sql.Grammar

/-! # One way to read

    The grammar is unambiguous (`Derives.unique`).  A reader goes through
    the symbols from left to right and never has a choice: it reads an
    operand, and as long as the next symbol can go on with what has been
    read, it does.  So the reader ends in one way at most
    (`Reads.deterministic`), and it follows every derivation
    (`Derives.reads`). -/

namespace SpannerDialect.Sql

/-! ## What may follow -/

/-- The level that a symbol asks of what stands to its left. -/
def Symbol.asks : Symbol → Option Nat
  | operator op => some op.level
  | compare _ | isNull _ | inList _ | inUnnest _ | between _ => some 5
  | _ => none

/-- The level of what a symbol makes of its operands. -/
def Symbol.makes : Symbol → Nat
  | operator op => op.level
  | _ => 4

/-- Whether a reader at level `m` goes on with the next symbol after it has
    read something of level `k`. -/
def GoesOn (m k : Nat) (rest : List Symbol) : Prop :=
  ∃ s ∈ rest.head?, ∃ n, s.asks = some n ∧ n ≤ k ∧ m ≤ s.makes

/-- What follows asks for no more than level `k`. -/
def Follows (k : Nat) (rest : List Symbol) : Prop :=
  ∀ s ∈ rest.head?, ∀ n, s.asks = some n → n ≤ k

theorem Follows.mono {j k : Nat} {rest : List Symbol} (h : Follows j rest) (hjk : j ≤ k) :
    Follows k rest :=
  fun s hs n hn => Nat.le_trans (h s hs n hn) hjk

theorem follows_nil (k : Nat) : Follows k [] := by
  intro s hs
  cases hs

theorem follows_cons {s : Symbol} {k : Nat} (h : ∀ n, s.asks = some n → n ≤ k)
    (rest : List Symbol) : Follows k (s :: rest) := by
  intro s' hs
  obtain rfl := Option.some.inj hs
  exact h

theorem follows_asks {s : Symbol} {n : Nat} (h : s.asks = some n) (rest : List Symbol) :
    Follows n (s :: rest) :=
  follows_cons (fun _ hn => Nat.le_of_eq (Option.some.inj (hn.symm.trans h))) rest

theorem Symbol.makes_le {s : Symbol} {n : Nat} (h : s.asks = some n) : s.makes ≤ n := by
  cases s with
  | operator op => exact Nat.le_of_eq (Option.some.inj h)
  | compare op | isNull b | inList b | inUnnest b | between b =>
      obtain rfl := Option.some.inj h
      exact Nat.le_succ 4
  | _ => cases h

/-- A negation is not made of what stands to its left. -/
theorem Symbol.makes_ne_three (s : Symbol) : s.makes ≠ 3 := by
  cases s with
  | operator op => rcases op with _ | _ | _ | _ | _ | _ <;> decide
  | _ => exact (by decide : 4 ≠ 3)

/-- A reader stops where what follows asks for a lower level than its own. -/
theorem Follows.not_goesOn {k l m : Nat} {rest : List Symbol} (h : Follows k rest)
    (hm : k < m ∨ k ≤ m ∧ m = 3) : ¬ GoesOn m l rest := by
  rintro ⟨s, hs, n, hn, -, hmakes⟩
  have hask := h s hs n hn
  have hle := Symbol.makes_le hn
  have hne := s.makes_ne_three
  omega

/-! ## The reader -/

/-- What a reader is about to do: to read an operand, to go on after
    something of a level, or to read the next item of a list. -/
inductive Mode
  | operand
  | after (level : Nat) (t : Expression)
  | items (t : Expression) (negated : Bool) (before : List Expression)

/-- What a reader at a level reads from a row of symbols, and what it
    leaves. -/
inductive Reads : Nat → Mode → List Symbol → Expression → List Symbol → Prop
  | atom {m : Nat} {e u : Expression} {ts rest : List Symbol} (he : e.isAtom = true)
      (h : Reads m (.after 7 e) ts u rest) : Reads m .operand (.atom e :: ts) u rest
  | group {m : Nat} {t u : Expression} {ts us rest : List Symbol}
      (ht : Reads 1 .operand ts t (.rightParen :: us))
      (h : Reads m (.after 7 (.nested t)) us u rest) :
      Reads m .operand (.leftParen :: ts) u rest
  | not {m : Nat} {t u : Expression} {ts us rest : List Symbol} (hm : m ≤ 3)
      (ht : Reads 3 .operand ts t us) (h : Reads m (.after 3 (.not t)) us u rest) :
      Reads m .operand (.not :: ts) u rest
  | done {m k : Nat} {t : Expression} {rest : List Symbol} (hstop : ¬ GoesOn m k rest) :
      Reads m (.after k t) rest t rest
  | operator {m k : Nat} {op : Operator} {t r u : Expression} {ts us rest : List Symbol}
      (hk : op.level ≤ k) (hm : m ≤ op.level) (hr : Reads (op.level + 1) .operand ts r us)
      (h : Reads m (.after op.level (op.apply t r)) us u rest) :
      Reads m (.after k t) (.operator op :: ts) u rest
  | compare {m k : Nat} {op : Comparison} {t r u : Expression} {ts us rest : List Symbol}
      (hk : 5 ≤ k) (hm : m ≤ 4) (hr : Reads 5 .operand ts r us)
      (h : Reads m (.after 4 (.compare op t r)) us u rest) :
      Reads m (.after k t) (.compare op :: ts) u rest
  | isNull {m k : Nat} {negated : Bool} {t u : Expression} {ts rest : List Symbol}
      (hk : 5 ≤ k) (hm : m ≤ 4) (h : Reads m (.after 4 (.isNull t negated)) ts u rest) :
      Reads m (.after k t) (.isNull negated :: ts) u rest
  | inList {m k : Nat} {negated : Bool} {t u : Expression} {ts rest : List Symbol}
      (hk : 5 ≤ k) (hm : m ≤ 4) (h : Reads m (.items t negated []) ts u rest) :
      Reads m (.after k t) (.inList negated :: .leftParen :: ts) u rest
  | item {m : Nat} {negated : Bool} {t a u : Expression} {before : List Expression}
      {ts us rest : List Symbol} (ha : Reads 1 .operand ts a (.comma :: us))
      (h : Reads m (.items t negated (before ++ [a])) us u rest) :
      Reads m (.items t negated before) ts u rest
  | lastItem {m : Nat} {negated : Bool} {t a u : Expression} {before : List Expression}
      {ts us rest : List Symbol} (ha : Reads 1 .operand ts a (.rightParen :: us))
      (h : Reads m (.after 4 (.inList t (before ++ [a]) negated)) us u rest) :
      Reads m (.items t negated before) ts u rest
  | inUnnest {m k : Nat} {negated : Bool} {t a u : Expression} {ts us rest : List Symbol}
      (hk : 5 ≤ k) (hm : m ≤ 4) (ha : Reads 1 .operand ts a (.rightParen :: us))
      (h : Reads m (.after 4 (.inUnnest t a negated)) us u rest) :
      Reads m (.after k t) (.inUnnest negated :: .leftParen :: ts) u rest
  | between {m k : Nat} {negated : Bool} {t low high u : Expression}
      {ts us vs rest : List Symbol} (hk : 5 ≤ k) (hm : m ≤ 4)
      (hlow : Reads 5 .operand ts low (.operator .and :: us))
      (hhigh : Reads 5 .operand us high vs)
      (h : Reads m (.after 4 (.between t low high negated)) vs u rest) :
      Reads m (.after k t) (.between negated :: ts) u rest

/-- Where the next symbol can go on, the reader does not stop. -/
theorem goesOn_of_asks {m k n : Nat} {s : Symbol} (hs : s.asks = some n) (hk : n ≤ k)
    (hm : m ≤ s.makes) (rest : List Symbol) : GoesOn m k (s :: rest) :=
  ⟨s, rfl, n, hs, hk, hm⟩

/-- The reader has no choice. -/
theorem Reads.deterministic {m : Nat} {mode : Mode} {ts rest rest' : List Symbol}
    {u u' : Expression} (h : Reads m mode ts u rest) (h' : Reads m mode ts u' rest') :
    u = u' ∧ rest = rest' := by
  -- an operand is told by its first symbol, and going on excludes stopping
  induction h generalizing u' rest' with
  | atom _ _ ih =>
      cases h' with
      | atom _ h => exact ih h
  | group _ _ iht ih =>
      cases h' with
      | group ht h =>
          obtain ⟨rfl, heq⟩ := iht ht
          obtain ⟨-, rfl⟩ := List.cons.inj heq
          exact ih h
  | not _ _ _ iht ih =>
      cases h' with
      | not _ ht h =>
          obtain ⟨rfl, rfl⟩ := iht ht
          exact ih h
  | done hstop =>
      cases h' with
      | done => exact ⟨rfl, rfl⟩
      | operator hk hm => exact absurd (goesOn_of_asks rfl hk hm _) hstop
      | compare hk hm => exact absurd (goesOn_of_asks rfl hk hm _) hstop
      | isNull hk hm => exact absurd (goesOn_of_asks rfl hk hm _) hstop
      | inList hk hm => exact absurd (goesOn_of_asks rfl hk hm _) hstop
      | inUnnest hk hm => exact absurd (goesOn_of_asks rfl hk hm _) hstop
      | between hk hm => exact absurd (goesOn_of_asks rfl hk hm _) hstop
  | operator hk hm _ _ ihr ih =>
      cases h' with
      | done hstop => exact absurd (goesOn_of_asks rfl hk hm _) hstop
      | operator _ _ hr h =>
          obtain ⟨rfl, rfl⟩ := ihr hr
          exact ih h
  | compare hk hm _ _ ihr ih =>
      cases h' with
      | done hstop => exact absurd (goesOn_of_asks rfl hk hm _) hstop
      | compare _ _ hr h =>
          obtain ⟨rfl, rfl⟩ := ihr hr
          exact ih h
  | isNull hk hm _ ih =>
      cases h' with
      | done hstop => exact absurd (goesOn_of_asks rfl hk hm _) hstop
      | isNull _ _ h => exact ih h
  | inList hk hm _ ih =>
      cases h' with
      | done hstop => exact absurd (goesOn_of_asks rfl hk hm _) hstop
      | inList _ _ h => exact ih h
  -- what follows an item tells whether it is the last one
  | item _ _ iha ih =>
      cases h' with
      | item ha h =>
          obtain ⟨rfl, heq⟩ := iha ha
          obtain ⟨-, rfl⟩ := List.cons.inj heq
          exact ih h
      | lastItem ha h =>
          obtain ⟨-, heq⟩ := iha ha
          cases heq
  | lastItem _ _ iha ih =>
      cases h' with
      | item ha h =>
          obtain ⟨-, heq⟩ := iha ha
          cases heq
      | lastItem ha h =>
          obtain ⟨rfl, heq⟩ := iha ha
          obtain ⟨-, rfl⟩ := List.cons.inj heq
          exact ih h
  | inUnnest hk hm _ _ iha ih =>
      cases h' with
      | done hstop => exact absurd (goesOn_of_asks rfl hk hm _) hstop
      | inUnnest _ _ ha h =>
          obtain ⟨rfl, heq⟩ := iha ha
          obtain ⟨-, rfl⟩ := List.cons.inj heq
          exact ih h
  | between hk hm _ _ _ ihlow ihhigh ih =>
      cases h' with
      | done hstop => exact absurd (goesOn_of_asks rfl hk hm _) hstop
      | between _ _ hlow hhigh h =>
          obtain ⟨rfl, heq⟩ := ihlow hlow
          obtain ⟨-, rfl⟩ := List.cons.inj heq
          obtain ⟨rfl, rfl⟩ := ihhigh hhigh
          exact ih h

/-! ## Derivations are read -/

/-- Where nothing that follows asks for more, it does not matter how much
    higher the level of what has been read is. -/
theorem Reads.raise {m k : Nat} {t u : Expression} {ts rest : List Symbol}
    (h : Reads m (.after k t) ts u rest) (hfollows : Follows k ts) :
    Reads m (.after (k + 1) t) ts u rest := by
  cases h with
  | done hstop =>
      refine .done ?_
      rintro ⟨s, hs, n, hn, -, hm⟩
      exact hstop ⟨s, hs, n, hn, hfollows s hs n hn, hm⟩
  | operator hk hm hr h => exact .operator (Nat.le_succ_of_le hk) hm hr h
  | compare hk hm hr h => exact .compare (Nat.le_succ_of_le hk) hm hr h
  | isNull hk hm h => exact .isNull (Nat.le_succ_of_le hk) hm h
  | inList hk hm h => exact .inList (Nat.le_succ_of_le hk) hm h
  | inUnnest hk hm ha h => exact .inUnnest (Nat.le_succ_of_le hk) hm ha h
  | between hk hm hlow hhigh h => exact .between (Nat.le_succ_of_le hk) hm hlow hhigh h

/-- What a reader reads of a row of symbols whatever comes next. -/
def ReadsAt (k : Nat) (ts : List Symbol) (t : Expression) : Prop :=
  ∀ ⦃m : Nat⦄ ⦃rest r : List Symbol⦄ ⦃u : Expression⦄, m ≤ k → Follows k rest →
    Reads m (.after k t) rest u r → Reads m .operand (ts ++ rest) u r

/-- A reader at the level of what it reads stops behind it. -/
theorem ReadsAt.stops {k m : Nat} {ts rest : List Symbol} {t : Expression} (h : ReadsAt k ts t)
    (hm : m ≤ k) (hfollows : Follows k rest) (hstop : ¬ GoesOn m k rest) :
    Reads m .operand (ts ++ rest) t rest :=
  h hm hfollows (.done hstop)

/-- A sum that ends a predicate is read up to its end. -/
theorem ReadsAt.sum {ts rest : List Symbol} {t : Expression} (h : ReadsAt 5 ts t)
    (hfollows : Follows 4 rest) : Reads 5 .operand (ts ++ rest) t rest :=
  h.stops (Nat.le_refl 5) (hfollows.mono (by decide)) (hfollows.not_goesOn (Or.inl (by decide)))

/-- A reader stops before a closing parenthesis and before a comma. -/
theorem ReadsAt.closes {ts : List Symbol} {t : Expression} (h : ReadsAt 1 ts t) {s : Symbol}
    (hs : s.asks = none) (rest : List Symbol) :
    Reads 1 .operand (ts ++ s :: rest) t (s :: rest) := by
  refine h.stops (Nat.le_refl 1) (follows_cons ?_ rest) ?_
  · intro n hn
    rw [hs] at hn
    cases hn
  · rintro ⟨s', hs', n, hn, -⟩
    obtain rfl := Option.some.inj hs'
    rw [hs] at hn
    cases hn

/-- The items of a list are read one after the other. -/
theorem reads_items {items : List (List Symbol × Expression)} (hne : items ≠ [])
    (hitems : ∀ p ∈ items, ReadsAt 1 p.1 p.2) {m : Nat} {negated : Bool} {t u : Expression}
    {before : List Expression} {ts rest : List Symbol}
    (h : Reads m (.after 4 (.inList t (before ++ items.map Prod.snd) negated)) ts u rest) :
    Reads m (.items t negated before) (separated (items.map Prod.fst) ++ .rightParen :: ts) u
      rest := by
  induction items generalizing before with
  | nil => exact absurd rfl hne
  | cons p ps ih =>
      obtain ⟨hp, hps⟩ := List.forall_mem_cons.mp hitems
      cases ps with
      | nil => exact .lastItem (hp.closes rfl ts) h
      | cons q qs =>
          have hnext : Reads m (.after 4 (.inList t
              ((before ++ [p.2]) ++ (q :: qs).map Prod.snd) negated)) ts u rest := by
            rw [List.append_assoc]
            exact h
          rw [List.map_cons, List.map_cons, separated, List.append_assoc]
          exact .item (hp.closes rfl _) (ih (List.cons_ne_nil q qs) hps hnext)

/-- A reader follows every derivation. -/
theorem Derives.reads {k : Nat} {ts : List Symbol} {t : Expression} (h : Derives k ts t) :
    ReadsAt k ts t := by
  induction h with
  | atom he =>
      intro m rest r u hm hf h
      exact .atom he h
  | group _ ih =>
      intro m rest r u hm hf h
      rw [List.cons_append, List.append_assoc]
      exact .group (ih.closes rfl rest) h
  | tighter hk _ ih =>
      intro m rest r u hm hf h
      exact ih (Nat.le_succ_of_le hm) (hf.mono (Nat.le_succ _)) (h.raise hf)
  | @operator op k ls rs l r hop _ _ ihl ihr =>
      subst hop
      intro m rest v u hm hf h
      have hleft : Follows op.level (.operator op :: (rs ++ rest)) := follows_asks rfl _
      have hright : Reads (op.level + 1) .operand (rs ++ rest) r rest :=
        ihr.stops (Nat.le_refl _) (hf.mono (Nat.le_succ _))
          (hf.not_goesOn (Or.inl (Nat.lt_succ_self _)))
      rw [List.append_assoc]
      exact ihl hm hleft (.operator (Nat.le_refl _) hm hright h)
  | @not ts t _ ih =>
      intro m rest v u hm hf h
      have hinner : Reads 3 .operand (ts ++ rest) t rest :=
        ih.stops (Nat.le_refl 3) hf (hf.not_goesOn (Or.inr ⟨Nat.le_refl 3, rfl⟩))
      exact .not hm hinner h
  | @compare op ls rs l r _ _ ihl ihr =>
      intro m rest v u hm hf h
      have hleft : Follows 5 (.compare op :: (rs ++ rest)) := follows_asks rfl _
      rw [List.append_assoc]
      exact ihl (Nat.le_succ_of_le hm) hleft (.compare (Nat.le_refl 5) hm (ihr.sum hf) h)
  | @isNull negated ts t _ ih =>
      intro m rest v u hm hf h
      have hleft : Follows 5 (.isNull negated :: rest) := follows_asks rfl _
      rw [List.append_assoc]
      exact ih (Nat.le_succ_of_le hm) hleft (.isNull (Nat.le_refl 5) hm h)
  | @inList negated ts t items _ hne _ ih ihitems =>
      intro m rest v u hm hf h
      have hleft : ∀ tail, Follows 5 (.inList negated :: tail) := follows_asks rfl
      rw [List.append_assoc, List.cons_append, List.cons_append, List.append_assoc]
      exact ih (Nat.le_succ_of_le hm) (hleft _)
        (.inList (Nat.le_refl 5) hm (reads_items hne ihitems h))
  | @inUnnest negated ts us t u _ _ ih ihu =>
      intro m rest v w hm hf h
      have hleft : ∀ tail, Follows 5 (.inUnnest negated :: tail) := follows_asks rfl
      rw [List.append_assoc, List.cons_append, List.cons_append, List.append_assoc]
      exact ih (Nat.le_succ_of_le hm) (hleft _)
        (.inUnnest (Nat.le_refl 5) hm (ihu.closes rfl rest) h)
  | @between negated ts ls hs t low high _ _ _ ih ihlow ihhigh =>
      intro m rest v u hm hf h
      have hleft : ∀ tail, Follows 5 (.between negated :: tail) := follows_asks rfl
      -- the `and` of the test asks for less than the lower end is read at
      have hand : Follows 2 (.operator .and :: (hs ++ rest)) := follows_asks rfl _
      have hlow : Reads 5 .operand (ls ++ .operator .and :: (hs ++ rest)) low
          (.operator .and :: (hs ++ rest)) :=
        ihlow.stops (Nat.le_refl 5) (hand.mono (by decide)) (hand.not_goesOn (Or.inl (by decide)))
      rw [List.append_assoc, List.cons_append, List.append_assoc, List.cons_append]
      exact ih (Nat.le_succ_of_le hm) (hleft _)
        (.between (Nat.le_refl 5) hm hlow (ihhigh.sum hf) h)

/-- **The grammar is unambiguous.**  Symbols are read in one way at most. -/
theorem Derives.unique {ts : List Symbol} {t u : Expression} (ht : Derives 1 ts t)
    (hu : Derives 1 ts u) : t = u := by
  have hnone : ∀ {m k}, ¬ GoesOn m k [] := by
    rintro m k ⟨s, hs, -⟩
    cases hs
  have hread := ht.reads.stops (Nat.le_refl 1) (follows_nil 1) hnone
  have hread' := hu.reads.stops (Nat.le_refl 1) (follows_nil 1) hnone
  exact (hread.deterministic hread').1

end SpannerDialect.Sql
