import SpannerDialect.Proofs.Sql.Grouping
import SpannerDialect.Proofs.Sql.Seams

/-! # Negations as operands

    A negation is written as if it bound like an atom, since what it negates
    stands in parentheses.  The grammar has it bind looser than a predicate all
    the same.  So a negation that is an operand of a predicate or of an
    operation on numbers is never read as that operand
    (`Expression.negated_operand`): as the first one it takes the whole
    expression, and as a later one it cannot be read at all. -/

namespace SpannerDialect.Sql

/-! ## Operands -/

namespace Expression

/-- The operands that have to bind tighter than a predicate.  Membership in a
    list without items is written as a truth value and has none. -/
def tightOperands : Expression → List Expression
  | compare _ l r => [l, r]
  | isNull e _ => [e]
  | inList e (_ :: _) _ => [e]
  | inUnnest e _ _ => [e]
  | between e low high _ => [e, low, high]
  | arithmetic _ l r => [l, r]
  | _ => []

/-- What a negation negates, in its parentheses. -/
def affirmed : Expression → Expression
  | not e => nested e
  | existsIn query true => existsIn query false
  | e => e

/-- The same with the first operand affirmed. -/
def affirmFirst : Expression → Expression
  | compare op l r => compare op l.affirmed r
  | isNull e negated => isNull e.affirmed negated
  | inList e items negated => inList e.affirmed items negated
  | inUnnest e array negated => inUnnest e.affirmed array negated
  | between e low high negated => between e.affirmed low high negated
  | arithmetic op l r => arithmetic op l.affirmed r
  | e => e

variable {e o : Expression}

/-- A negation is written with its sign in front, whatever is asked of it. -/
theorem operandSymbols_negation (h : o.isNegation = true) {asked : Nat} (hasked : asked ≤ 7) :
    operandSymbols asked o o.symbols
      = .not :: operandSymbols asked o.affirmed o.affirmed.symbols := by
  have hnot : ¬ 7 < asked := Nat.not_lt.mpr hasked
  cases o with
  | not e => exact (if_neg hnot).trans (congrArg (Symbol.not :: ·) (if_neg hnot).symm)
  | existsIn query negated =>
      cases negated with
      | true => exact (if_neg hnot).trans (congrArg (Symbol.not :: ·) (if_neg hnot).symm)
      | false => cases h
  | _ => cases h

/-- Where the first operand is a negation, its sign comes before all else. -/
theorem symbols_affirmFirst (ho : e.tightOperands.head? = some o) (hneg : o.isNegation = true) :
    e.symbols = .not :: e.affirmFirst.symbols := by
  cases e with
  | compare op l r =>
      obtain rfl := Option.some.inj ho
      rw [symbols, operandSymbols_negation hneg (by decide)]
      rfl
  | isNull e negated =>
      obtain rfl := Option.some.inj ho
      rw [symbols, operandSymbols_negation hneg (by decide)]
      rfl
  | inList e items negated =>
      cases items with
      | nil => cases ho
      | cons item items =>
          obtain rfl := Option.some.inj ho
          rw [symbols, operandSymbols_negation hneg (by decide)]
          rfl
  | inUnnest e array negated =>
      obtain rfl := Option.some.inj ho
      rw [symbols, operandSymbols_negation hneg (by decide)]
      rfl
  | between e low high negated =>
      obtain rfl := Option.some.inj ho
      rw [symbols, operandSymbols_negation hneg (by decide)]
      rfl
  | arithmetic op l r =>
      obtain rfl := Option.some.inj ho
      rw [symbols, operandSymbols_negation hneg op.strength_bounds.1.2]
      rfl
  | _ => cases ho

/-- Where a later operand is a negation, no row of symbols is read. -/
theorem passes_of_later (ho : o ∈ e.tightOperands.tail) (hneg : o.isNegation = true) (s : Seam) :
    s.passes e.symbols = none := by
  cases e with
  | compare op l r =>
      obtain rfl := List.mem_singleton.mp ho
      rw [symbols, operandSymbols_negation hneg (by decide)]
      exact not_passes_of_sign (fun _ _ h => by cases h; rfl) _ _ s
  | arithmetic op l r =>
      obtain rfl := List.mem_singleton.mp ho
      rw [symbols, operandSymbols_negation hneg op.strength_bounds.2.2]
      exact not_passes_of_sign (fun _ _ h => by cases h; rfl) _ _ s
  | between e low high negated =>
      rw [symbols]
      rcases List.mem_cons.mp ho with rfl | ho
      · rw [operandSymbols_negation hneg (by decide)]
        exact not_passes_of_sign (fun _ _ h => by cases h; rfl) _ _ s
      · obtain rfl := List.mem_singleton.mp ho
        rw [operandSymbols_negation (o := o) hneg (by decide)]
        exact not_passes_of_and (low.closes.operand_outside (Nat.le_refl 5)) negated _ _ s
  | inList e items negated => cases items <;> cases ho
  | _ => cases ho

end Expression

/-! ## Grades -/

/-- The level at which an expression is read, its parentheses apart. -/
def Expression.grade : Expression → Nat
  | .nested e => e.grade
  | .inList _ [] _ => 7
  | e => e.level

theorem Operator.grade_apply (op : Operator) (l r : Expression) :
    (op.apply l r).grade = op.level := by
  rcases op with _ | _ | _ | _ | _ | _ <;> rfl

theorem Regrouped.grade_eq {e t : Expression} (h : Regrouped e t) : e.grade = t.grade := by
  induction h with
  | trans _ _ ih ih' => exact ih.trans ih'
  | assoc hop hlevel a b c => rw [Operator.grade_apply, Operator.grade_apply, hlevel]
  | operator_c op _ _ _ _ => rw [Operator.grade_apply, Operator.grade_apply]
  | nested_c _ ih => exact ih
  | inList_c items _ _ _ => cases items <;> rfl
  | item_c e before after _ _ _ => cases before <;> rfl
  | _ => rfl

theorem Expression.grade_of_tightOperands {e o : Expression} (ho : o ∈ e.tightOperands) :
    4 ≤ e.grade := by
  cases e with
  | compare _ _ _ | isNull _ _ | inUnnest _ _ _ | between _ _ _ _ => exact Nat.le_refl 4
  | inList _ items _ =>
      cases items with
      | nil => cases ho
      | cons _ _ => exact Nat.le_refl 4
  | arithmetic op _ _ => exact Nat.le_of_succ_le op.strengths_ge.1
  | _ => cases ho

namespace Derives

variable {k : Nat} {ts us : List Symbol} {t : Expression}

/-- What starts with a negation is not read at a tighter level. -/
theorem le_three_of_not (h : Derives k (.not :: ts) t) : k ≤ 3 := by
  by_contra hk
  have hpass : Seam.passes ⟨true, false, []⟩ (.not :: ts) = some ⟨true, false, []⟩ :=
    h.passes _ (fun _ => rfl) fun h => absurd h hk
  cases hpass

/-- What starts with a negation is read as one, or as a conjunction or a
    disjunction of one and more. -/
theorem grade_of_not (h : Derives k us t) (hus : us = .not :: ts) : t.grade ≤ 3 := by
  have habove : ∀ {u}, ¬ Derives 4 us u := by
    intro u hu
    rw [hus] at hu
    exact absurd hu.le_three_of_not (by decide)
  induction h with
  | atom _ => cases hus
  | group _ _ => cases hus
  | tighter _ _ ih => exact ih hus habove
  | operator hop hl hr _ _ =>
      have hall := Derives.operator hop hl hr
      rw [hus] at hall
      rw [Operator.grade_apply, hop]
      exact hall.le_three_of_not
  | not _ _ => exact Nat.le_refl 3
  | compare hl hr _ _ => exact absurd (.compare hl hr) habove
  | isNull h _ => exact absurd (.isNull h) habove
  | inList h hne hitems _ _ => exact absurd (.inList h hne hitems) habove
  | inUnnest h hu _ _ => exact absurd (.inUnnest h hu) habove
  | between h hlow hhigh _ _ _ => exact absurd (.between h hlow hhigh) habove

end Derives

/-! ## What is read instead -/

namespace Expression

variable {e o : Expression}

theorem level_affirmFirst (ho : o ∈ e.tightOperands) : 3 ≤ e.affirmFirst.level := by
  cases e with
  | compare _ _ _ | isNull _ _ | inUnnest _ _ _ | between _ _ _ _ => exact Nat.le_succ 3
  | inList _ _ _ => exact Nat.le_succ 3
  | arithmetic op _ _ => exact Nat.le_trans (by decide) op.strengths_ge.1
  | _ => cases ho

/-- A negation that is a later operand cannot be read. -/
theorem not_derives_of_later (ho : o ∈ e.tightOperands.tail) (hneg : o.isNegation = true)
    {t : Expression} : ¬ Derives 1 e.symbols t := by
  intro ht
  have hpass := ht.passes .start (fun _ => rfl) fun _ => rfl
  rw [passes_of_later ho hneg] at hpass
  cases hpass

/-- Whatever is read binds looser than the operator. -/
theorem grade_lt_of_negation (ho : o ∈ e.tightOperands) (hneg : o.isNegation = true)
    {t : Expression} (ht : Derives 1 e.symbols t) : t.grade < e.grade := by
  refine Nat.lt_of_lt_of_le (Nat.lt_succ_of_le ?_) (grade_of_tightOperands ho)
  cases hops : e.tightOperands with
  | nil =>
      rw [hops] at ho
      cases ho
  | cons first later =>
      rw [hops] at ho
      rcases List.mem_cons.mp ho with rfl | hlater
      · exact ht.grade_of_not (symbols_affirmFirst (by rw [hops]; rfl) hneg)
      · exact absurd ht (not_derives_of_later (by rw [hops]; exact hlater) hneg)

/-- A negation that is the first operand is read as one of the operator. -/
theorem derives_of_first (ho : e.tightOperands.head? = some o) (hneg : o.isNegation = true)
    (hgroupable : e.affirmFirst.Groupable) :
    ∃ t, Derives 1 e.symbols (.not t) ∧ Regrouped e.affirmFirst t := by
  obtain ⟨t, ht, hsame⟩ := e.affirmFirst.readBack hgroupable
  refine ⟨t, ?_, hsame⟩
  have hpredicate := ht.loosen (by decide) (level_affirmFirst (List.mem_of_mem_head? ho))
  rw [symbols_affirmFirst ho hneg]
  exact (Derives.not hpredicate).loosen (by decide) (by decide)

/-- **A negation is not read as an operand** of a predicate or of an operation
    on numbers: what is read is neither, so it is not the expression up to
    grouping.  A negation that is the first operand is read as one of the whole
    expression; with one that is a later operand, nothing can be read. -/
theorem negated_operand {f : Fragment} (hf : e.render = .ok f) (ho : o ∈ e.tightOperands)
    (hneg : o.isNegation = true) :
    spell e.symbols = .ok f.text ∧
      (∀ t, Derives 1 e.symbols t → t.grade < e.grade ∧ ¬ Regrouped e t) ∧
      (e.tightOperands.head? = some o → e.affirmFirst.Groupable →
        ∃ t, Derives 1 e.symbols (.not t) ∧ (∀ u, Derives 1 e.symbols u → u = .not t) ∧
          Regrouped e.affirmFirst t) ∧
      (o ∈ e.tightOperands.tail → ∀ t, ¬ Derives 1 e.symbols t) := by
  refine ⟨e.spell_symbols hf, ?_, ?_, fun hlater _ => not_derives_of_later hlater hneg⟩
  · intro t ht
    have hlower := grade_lt_of_negation ho hneg ht
    exact ⟨hlower, fun hsame => absurd hsame.grade_eq.symm (Nat.ne_of_lt hlower)⟩
  · intro hfirst hgroupable
    obtain ⟨t, ht, hsame⟩ := derives_of_first hfirst hneg hgroupable
    exact ⟨t, ht, fun u hu => hu.unique ht, hsame⟩

end Expression

/-- A negation compared with a column. -/
def comparedNegation : Expression :=
  .compare .equal (.not (.columnNamed "a")) (.columnNamed "b")

/-- It is read as a negated comparison. -/
theorem comparedNegation_read :
    ∃ f, comparedNegation.render = .ok f ∧ f.text = "not (`a`) = `b`".toList ∧
      spell comparedNegation.symbols = .ok f.text ∧
      ∀ t, Derives 1 comparedNegation.symbols t ↔
        t = .not (.compare .equal (.nested (.columnNamed "a")) (.columnNamed "b")) := by
  have hcolumn : ∀ k name, 0 < k → k ≤ 7 →
      Derives k [.atom (.columnNamed name)] (.columnNamed name) :=
    fun k name hpos hle => (Derives.atom rfl).loosen hpos hle
  have hgroup : Derives 5 [.leftParen, .atom (.columnNamed "a"), .rightParen]
      (.nested (.columnNamed "a")) :=
    (Derives.group (hcolumn 1 "a" (by decide) (by decide))).loosen (by decide) (by decide)
  have hcompare : Derives 4 ([.leftParen, .atom (.columnNamed "a"), .rightParen] ++
      .compare .equal :: [.atom (.columnNamed "b")])
      (.compare .equal (.nested (.columnNamed "a")) (.columnNamed "b")) :=
    .compare hgroup (hcolumn 5 "b" (by decide) (by decide))
  have hall : Derives 1 comparedNegation.symbols
      (.not (.compare .equal (.nested (.columnNamed "a")) (.columnNamed "b"))) :=
    (Derives.not (hcompare.loosen (by decide) (by decide))).loosen (by decide) (by decide)
  refine ⟨_, rfl, rfl, comparedNegation.spell_symbols rfl, fun t => ⟨fun ht => ht.unique hall, ?_⟩⟩
  rintro rfl
  exact hall

theorem negated_operand_betweenEnds :
    ∃ f, Expression.render (.between (.columnNamed "a") (.columnNamed "low")
          (.not (.columnNamed "b")) false) = .ok f ∧
      f.text = "`a` between `low` and not (`b`)".toList ∧
      ∀ t, ¬ Derives 1 (Expression.between (.columnNamed "a") (.columnNamed "low")
        (.not (.columnNamed "b")) false).symbols t := by
  have hlater : Expression.not (.columnNamed "b") ∈ (Expression.between (.columnNamed "a")
      (.columnNamed "low") (.not (.columnNamed "b")) false).tightOperands.tail :=
    .tail _ (.head _)
  exact ⟨_, rfl, rfl, (Expression.negated_operand rfl (.tail _ hlater) rfl).2.2.2 hlater⟩

end SpannerDialect.Sql
