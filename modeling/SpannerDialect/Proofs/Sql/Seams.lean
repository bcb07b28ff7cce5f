import SpannerDialect.Proofs.Sql.Symbols

/-! # Where a negation can stand

    Between two symbols it is known, from what stands to the left, whether a
    negation can come next (`Seam`).  It can at the start and behind a
    parenthesis, a comma, a `not`, an `or` and an `and`, but not behind the
    `and` of a test between two ends, nor behind any other sign.  Whatever is
    read passes this test (`Derives.passes`). -/

namespace SpannerDialect.Sql

/-! ## Seams -/

/-- What is known between two symbols. -/
structure Seam where
  /-- Whether what comes next has to bind tighter than a predicate. -/
  tight : Bool
  /-- Whether a test between two ends waits for its `and`. -/
  waiting : Bool
  /-- The same for the parentheses around, from the inside. -/
  around : List Bool

namespace Seam

/-- Before the first symbol. -/
def start : Seam :=
  ⟨false, false, []⟩

/-- A seam behind one more symbol, unless this is a negation out of place. -/
def pass (s : Seam) : Symbol → Option Seam
  | .not => if s.tight then none else some s
  | .operator .or => some { s with tight := false }
  | .operator .and => some { s with tight := s.waiting, waiting := false }
  | .between _ => some { s with tight := true, waiting := true }
  | .comma => some { s with tight := false }
  | .leftParen => some ⟨false, false, s.waiting :: s.around⟩
  | .rightParen =>
    match s.around with
    | [] => none
    | waiting :: around => some ⟨true, waiting, around⟩
  | _ => some { s with tight := true }

/-- A seam behind some more symbols. -/
def passes (s : Seam) : List Symbol → Option Seam
  | [] => some s
  | t :: ts => (s.pass t).bind fun s => s.passes ts

variable {s s' s₁ : Seam} {x : Symbol} {ts us : List Symbol}

theorem passes_append (s : Seam) (ts us : List Symbol) :
    s.passes (ts ++ us) = (s.passes ts).bind fun s => s.passes us := by
  induction ts generalizing s with
  | nil => rfl
  | cons t ts ih =>
      rw [List.cons_append, passes, passes, Option.bind_assoc]
      congr 1
      funext s'
      exact ih s'

theorem passes_cons (h : s.pass x = some s₁) : s.passes (x :: ts) = s₁.passes ts := by
  rw [passes, h]
  rfl

theorem passes_of_append (h : s.passes ts = some s₁) :
    s.passes (ts ++ us) = s₁.passes us := by
  rw [passes_append, h]
  rfl

end Seam

/-! ## Whatever is read passes -/

/-- Symbols pass where something of a level is due, and an operand stands
    before what follows. -/
def PassesAt (k : Nat) (ts : List Symbol) : Prop :=
  ∀ s : Seam, (k ≤ 4 → s.waiting = false) → (k ≤ 3 → s.tight = false) →
    s.passes ts = some { s with tight := true }

/-- What stands in parentheses passes anywhere. -/
theorem PassesAt.group {ts : List Symbol} (h : PassesAt 1 ts) (s : Seam) (us : List Symbol) :
    s.passes (.leftParen :: (ts ++ .rightParen :: us)) = { s with tight := true }.passes us := by
  have hinner := h ⟨false, false, s.waiting :: s.around⟩ (fun _ => rfl) fun _ => rfl
  rw [Seam.passes_cons rfl, Seam.passes_of_append hinner]
  rfl

theorem PassesAt.separated {items : List (List Symbol × Expression)} (hne : items ≠ [])
    (hitems : ∀ p ∈ items, PassesAt 1 p.1) : PassesAt 1 (separated (items.map Prod.fst)) := by
  induction items with
  | nil => exact absurd rfl hne
  | cons p ps ih =>
      obtain ⟨hp, hps⟩ := List.forall_mem_cons.mp hitems
      cases ps with
      | nil => exact hp
      | cons q qs =>
          intro s hwaiting htight
          have hrest := ih (List.cons_ne_nil q qs) hps { s with tight := false } hwaiting
            fun _ => rfl
          rw [List.map_cons, List.map_cons, Sql.separated,
            Seam.passes_of_append (hp s hwaiting htight)]
          exact hrest

/-- **Whatever is read passes.** -/
theorem Derives.passes {k : Nat} {ts : List Symbol} {t : Expression} (h : Derives k ts t) :
    PassesAt k ts := by
  induction h with
  | atom _ => exact fun s _ _ => rfl
  | group _ ih =>
      intro s _ _
      exact ih.group s []
  | tighter _ _ ih =>
      intro s hwaiting htight
      exact ih s (fun h => hwaiting (by omega)) fun h => htight (by omega)
  | @operator op k ls rs l r hop _ _ ihl ihr =>
      subst hop
      intro s hwaiting htight
      rw [Seam.passes_of_append (ihl s hwaiting htight)]
      cases op with
      | or => exact ihr { s with tight := false } (fun _ => hwaiting (by decide)) fun _ => rfl
      | and =>
          -- no test between two ends is open, so this `and` is a conjunction
          have hnone : s.waiting = false := hwaiting (by decide)
          rw [Seam.passes_cons rfl, ihr _ (fun _ => rfl) fun _ => hnone, hnone]
      | arithmetic op =>
          have hlevel : 5 ≤ (Operator.arithmetic op).level := by
            cases op <;> decide
          exact ihr { s with tight := true } (fun h => by omega) fun h => by omega
  | not _ ih =>
      intro s hwaiting htight
      have hopen : s.pass .not = some s := by
        rw [Seam.pass, htight (by decide)]
        rfl
      rw [Seam.passes_cons hopen]
      exact ih s hwaiting htight
  | compare _ _ ihl ihr =>
      intro s hwaiting _
      rw [Seam.passes_of_append (ihl s nofun nofun)]
      exact ihr { s with tight := true } nofun nofun
  | isNull _ ih =>
      intro s _ _
      rw [Seam.passes_of_append (ih s nofun nofun)]
      rfl
  | inList _ hne _ ih ihitems =>
      intro s _ _
      rw [Seam.passes_of_append (ih s nofun nofun), Seam.passes_cons rfl]
      exact (PassesAt.separated hne ihitems).group { s with tight := true } []
  | inUnnest _ _ ih ihu =>
      intro s _ _
      rw [Seam.passes_of_append (ih s nofun nofun), Seam.passes_cons rfl]
      exact ihu.group { s with tight := true } []
  | between _ _ _ ih ihlow ihhigh =>
      intro s hwaiting _
      rw [Seam.passes_of_append (ih s nofun nofun), Seam.passes_cons rfl,
        Seam.passes_of_append (ihlow _ nofun nofun), Seam.passes_cons rfl,
        ihhigh _ nofun nofun, hwaiting (by decide)]

/-! ## What an expression leaves behind -/

/-- Something of a seam is the same behind some symbols as before them. -/
def Keeps {β : Type} (f : Seam → β) (ts : List Symbol) : Prop :=
  ∀ ⦃s s' : Seam⦄, s.passes ts = some s' → f s' = f s

/-- What is known of the tests that are open. -/
def Seam.outside (s : Seam) : Bool × List Bool :=
  (s.waiting, s.around)

namespace Keeps

variable {β : Type} {f : Seam → β} {x : Symbol} {ts us : List Symbol}

theorem nil : Keeps f [] := by
  intro s s' h
  rw [Option.some.inj h]

theorem append (hts : Keeps f ts) (hus : Keeps f us) : Keeps f (ts ++ us) := by
  intro s s' h
  rw [Seam.passes_append, Option.bind_eq_some_iff] at h
  obtain ⟨s₁, h₁, h⟩ := h
  exact (hus h).trans (hts h₁)

theorem cons (hx : ∀ ⦃s s' : Seam⦄, s.pass x = some s' → f s' = f s) (hts : Keeps f ts) :
    Keeps f (x :: ts) := by
  intro s s' h
  rw [Seam.passes, Option.bind_eq_some_iff] at h
  obtain ⟨s₁, h₁, h⟩ := h
  exact (hts h).trans (hx h₁)

theorem around (h : Keeps Seam.outside ts) : Keeps Seam.around ts :=
  fun _ _ hs => congrArg Prod.snd (h hs)

/-- A test that is open outside of parentheses stays open. -/
theorem group (h : Keeps Seam.around ts) :
    Keeps Seam.outside (.leftParen :: (ts ++ [.rightParen])) := by
  intro s s' hs
  rw [Seam.passes_cons rfl, Seam.passes_append, Option.bind_eq_some_iff] at hs
  obtain ⟨⟨tight, waiting, inside⟩, h₁, hs⟩ := hs
  obtain rfl : inside = s.waiting :: s.around := h h₁
  obtain rfl := Option.some.inj hs
  rfl

end Keeps

/-- Of single symbols, only parentheses change what is around. -/
theorem Seam.around_of_pass {s s' : Seam} {x : Symbol} (hleft : x ≠ .leftParen)
    (hright : x ≠ .rightParen) (h : s.pass x = some s') : s'.around = s.around := by
  cases x with
  | leftParen => exact absurd rfl hleft
  | rightParen => exact absurd rfl hright
  | not =>
      rw [pass] at h
      split at h
      · cases h
      · rw [Option.some.inj h]
  | operator op => cases op <;> cases h <;> rfl
  | _ =>
      cases h
      rfl

theorem Keeps.sign {x : Symbol} {ts : List Symbol} (hleft : x ≠ .leftParen)
    (hright : x ≠ .rightParen) (h : Keeps Seam.around ts) : Keeps Seam.around (x :: ts) :=
  h.cons fun _ _ => Seam.around_of_pass hleft hright

theorem Keeps.separated {tss : List (List Symbol)} (h : ∀ ts ∈ tss, Keeps Seam.around ts) :
    Keeps Seam.around (separated tss) := by
  induction tss with
  | nil => exact .nil
  | cons ts tss ih =>
      obtain ⟨hts, htss⟩ := List.forall_mem_cons.mp h
      cases tss with
      | nil => exact hts
      | cons us rest => exact hts.append ((ih htss).sign nofun nofun)

theorem Keeps.atom (e : Expression) : Keeps Seam.outside [.atom e] :=
  .cons (fun _ _ h => by cases h; rfl) .nil

theorem Keeps.not {ts : List Symbol} (h : Keeps Seam.outside ts) :
    Keeps Seam.outside (.not :: ts) := by
  refine .cons (fun s s' hs => ?_) h
  rw [Seam.pass] at hs
  split at hs
  · cases hs
  · rw [Option.some.inj hs]

theorem Keeps.arithmetic (op : Arithmetic) {ts : List Symbol} (h : Keeps Seam.outside ts) :
    Keeps Seam.outside (.operator (.arithmetic op) :: ts) :=
  .cons (fun _ _ hs => by cases hs; rfl) h

/-- An expression closes what it opens.  One that binds tighter than a
    predicate leaves a test between two ends as it is. -/
structure Closes (e : Expression) : Prop where
  around : Keeps Seam.around e.symbols
  outside : 5 ≤ e.strength → Keeps Seam.outside e.symbols

namespace Closes

variable {e l r : Expression}

theorem of_outside (h : Keeps Seam.outside e.symbols) : Closes e :=
  ⟨h.around, fun _ => h⟩

/-- A predicate, a conjunction or a disjunction. -/
theorem of_around (h : Keeps Seam.around e.symbols) (hloose : e.strength ≤ 4) : Closes e :=
  ⟨h, fun htight => by omega⟩

theorem operand_around (h : Closes e) (asked : Nat) :
    Keeps Seam.around (operandSymbols asked e e.symbols) := by
  rw [operandSymbols]
  split
  · exact h.around.group.around
  · exact h.around

theorem operand_outside (h : Closes e) {asked : Nat} (hasked : 5 ≤ asked) :
    Keeps Seam.outside (operandSymbols asked e e.symbols) := by
  rw [operandSymbols]
  split
  · exact h.around.group
  · rename_i hnot
    exact h.outside (Nat.le_trans hasked (Nat.le_of_not_lt hnot))

/-- Two operands with a sign between them. -/
theorem operands (hl : Closes l) (hr : Closes r) (x : Symbol) (hleft : x ≠ .leftParen)
    (hright : x ≠ .rightParen) (a b : Nat) : Keeps Seam.around
      (operandSymbols a l l.symbols ++ x :: operandSymbols b r r.symbols) :=
  (hl.operand_around a).append ((hr.operand_around b).sign hleft hright)

end Closes

theorem Arithmetic.strengths_ge (op : Arithmetic) : 5 ≤ op.strength ∧ 5 ≤ op.rightStrength := by
  cases op <;> decide

mutual

theorem Expression.closes : ∀ e : Expression, Closes e
  | .all => .of_outside (.atom _)
  | .column _ => .of_outside (.atom _)
  | .bind _ => .of_outside (.atom _)
  | .literal _ => .of_outside (.atom _)
  | .raw _ _ => .of_outside (.atom _)
  | .call _ _ => .of_outside (.atom _)
  | .subquery _ => .of_outside (.atom _)
  | .existsIn _ false => .of_outside (.atom _)
  | .existsIn _ true => .of_outside (Keeps.atom _).not
  | .nested e => .of_outside e.closes.around.group
  | .not e => .of_outside e.closes.around.group.not
  | .and l r =>
    .of_around (l.closes.operands r.closes (.operator .and) nofun nofun _ _) (by decide : 2 ≤ 4)
  | .or l r =>
    .of_around (l.closes.operands r.closes (.operator .or) nofun nofun _ _) (by decide : 1 ≤ 4)
  | .compare op l r =>
    .of_around (l.closes.operands r.closes (.compare op) nofun nofun _ _) (Nat.le_refl 4)
  | .isNull e negated =>
    .of_around ((e.closes.operand_around _).append (Keeps.nil.sign nofun nofun)) (Nat.le_refl 4)
  | .inList _ [] _ => .of_outside (.atom _)
  | .inList e (item :: items) negated => by
      have hitems : ∀ ts ∈ item.symbols :: Expression.symbolsAll items, Keeps Seam.around ts :=
        List.forall_mem_cons.mpr ⟨item.closes.around, Expression.allClose items⟩
      have hlist := (Keeps.separated hitems).group.around
      exact .of_around ((e.closes.operand_around _).append (hlist.sign nofun nofun))
        (Nat.le_refl 4)
  | .inUnnest e array negated => by
      have harray := array.closes.around.group.around
      exact .of_around ((e.closes.operand_around _).append (harray.sign nofun nofun))
        (Nat.le_refl 4)
  | .between e low high negated => by
      have hends : Keeps Seam.around (operandSymbols Strength.additive low low.symbols ++
          .operator .and :: operandSymbols Strength.additive high high.symbols) :=
        low.closes.operands high.closes (.operator .and) nofun nofun _ _
      exact .of_around ((e.closes.operand_around _).append (hends.sign nofun nofun))
        (Nat.le_refl 4)
  | .arithmetic op l r => by
      obtain ⟨hleft, hright⟩ := op.strengths_ge
      exact .of_outside ((l.closes.operand_outside hleft).append
        ((r.closes.operand_outside hright).arithmetic op))

theorem Expression.allClose : ∀ es : List Expression,
    ∀ ts ∈ Expression.symbolsAll es, Keeps Seam.around ts
  | [], _, h => nomatch h
  | e :: es, ts, h => by
      rcases List.mem_cons.mp h with rfl | h
      · exact e.closes.around
      · exact Expression.allClose es ts h

end

/-! ## Negations out of place -/

/-- A negation stands behind no sign of a predicate, nor behind one of an
    operation on numbers. -/
theorem not_passes_of_sign {x : Symbol} (hx : ∀ s s' : Seam, s.pass x = some s' → s'.tight = true)
    (ts us : List Symbol) (s : Seam) : s.passes (ts ++ x :: .not :: us) = none := by
  rw [Seam.passes_append, Option.bind_eq_none_iff]
  intro s₁ _
  rw [Seam.passes, Option.bind_eq_none_iff]
  intro s₂ h₂
  rw [Seam.passes, Seam.pass, hx s₁ s₂ h₂]
  rfl

/-- A negation is no upper end of a test between two ends. -/
theorem not_passes_of_and {low : List Symbol} (hlow : Keeps Seam.outside low) (negated : Bool)
    (ts us : List Symbol) (s : Seam) :
    s.passes (ts ++ .between negated :: (low ++ .operator .and :: .not :: us)) = none := by
  rw [Seam.passes_append, Option.bind_eq_none_iff]
  intro s₁ _
  rw [Seam.passes_cons rfl, Seam.passes_append, Option.bind_eq_none_iff]
  intro s₂ h₂
  have hwaiting : s₂.waiting = true := congrArg Prod.fst (hlow h₂)
  rw [Seam.passes_cons rfl, Seam.passes, Seam.pass, hwaiting]
  rfl

end SpannerDialect.Sql
