import SpannerDialect.Proofs.Sql.Reading
import SpannerDialect.Proofs.Sql.Symbols

/-! # Operators keep their operands

    Reading the text of an expression gives the expression back, but for
    parentheses, for the grouping of chains, and for two expressions that
    are written as others (`Expression.grouping`).  Parentheses stand where
    an operand binds looser than its place asks.  Where a chain is written
    without them, the grammar groups it to the left, and that changes
    nothing for operators that associate (`Derives.chain`). -/

namespace SpannerDialect.Sql

/-! ## What can be grouped -/

/-- Whether an expression is a negation, which binds looser than a
    predicate. -/
def Expression.isNegation : Expression → Bool
  | .not _ => true
  | .existsIn _ true => true
  | _ => false

mutual

/-- An expression that has no raw SQL among its parts and no negation as an
    operand of a predicate or of an operation on numbers.  Arguments and
    queries are no parts here. -/
def Expression.Groupable : Expression → Prop
  | .raw _ _ => False
  | .nested e => e.Groupable
  | .and l r => l.Groupable ∧ r.Groupable
  | .or l r => l.Groupable ∧ r.Groupable
  | .not e => e.Groupable
  | .compare _ l r =>
    (l.isNegation = false ∧ l.Groupable) ∧ r.isNegation = false ∧ r.Groupable
  | .isNull e _ => e.isNegation = false ∧ e.Groupable
  | .inList e items _ =>
    (e.isNegation = false ∧ e.Groupable) ∧ Expression.AllGroupable items
  | .inUnnest e array _ =>
    (e.isNegation = false ∧ e.Groupable) ∧ array.Groupable
  | .between e low high _ =>
    (e.isNegation = false ∧ e.Groupable) ∧ (low.isNegation = false ∧ low.Groupable) ∧
      high.isNegation = false ∧ high.Groupable
  | .arithmetic _ l r =>
    (l.isNegation = false ∧ l.Groupable) ∧ r.isNegation = false ∧ r.Groupable
  | _ => True

/-- Expressions that are groupable. -/
def Expression.AllGroupable : List Expression → Prop
  | [] => True
  | e :: es => e.Groupable ∧ Expression.AllGroupable es

end

/-! ## The same up to grouping -/

/-- The second expression is the first, with parentheses added, with chains
    grouped to the left, with a truth value for membership in an empty list,
    and with a negation for a test that there are no rows. -/
inductive Regrouped : Expression → Expression → Prop
  | refl (e) : Regrouped e e
  | trans {e f g} : Regrouped e f → Regrouped f g → Regrouped e g
  | nested (e) : Regrouped e (.nested e)
  | assoc {op op' : Operator} (hop : op.associates = true) (hlevel : op'.level = op.level)
      (a b c) : Regrouped (op.apply a (op'.apply b c)) (op'.apply (op.apply a b) c)
  | emptyList (e negated) : Regrouped (.inList e [] negated) (truthLiteral negated)
  | notExists (query) : Regrouped (.existsIn query true) (.not (.existsIn query false))
  | nested_c {e e'} : Regrouped e e' → Regrouped (.nested e) (.nested e')
  | not_c {e e'} : Regrouped e e' → Regrouped (.not e) (.not e')
  | operator_c (op : Operator) {l l' r r'} : Regrouped l l' → Regrouped r r' →
      Regrouped (op.apply l r) (op.apply l' r')
  | compare_c (op) {l l' r r'} : Regrouped l l' → Regrouped r r' →
      Regrouped (.compare op l r) (.compare op l' r')
  | isNull_c (negated) {e e'} : Regrouped e e' → Regrouped (.isNull e negated) (.isNull e' negated)
  | inList_c (items negated) {e e'} : Regrouped e e' →
      Regrouped (.inList e items negated) (.inList e' items negated)
  | item_c (e before after negated) {a a'} : Regrouped a a' →
      Regrouped (.inList e (before ++ a :: after) negated)
        (.inList e (before ++ a' :: after) negated)
  | inUnnest_c (negated) {e e' a a'} : Regrouped e e' → Regrouped a a' →
      Regrouped (.inUnnest e a negated) (.inUnnest e' a' negated)
  | between_c (negated) {e e' low low' high high'} : Regrouped e e' → Regrouped low low' →
      Regrouped high high' →
      Regrouped (.between e low high negated) (.between e' low' high' negated)

/-- Items are regrouped one by one. -/
theorem Regrouped.items {as bs : List Expression} (h : List.Forall₂ Regrouped as bs)
    (e : Expression) (before : List Expression) (negated : Bool) :
    Regrouped (.inList e (before ++ as) negated) (.inList e (before ++ bs) negated) := by
  induction h generalizing before with
  | nil => exact .refl _
  | @cons a b as bs hab _ ih =>
      have hrest := ih (before ++ [b])
      rw [List.append_assoc, List.append_assoc] at hrest
      exact .trans (.item_c e before as negated hab) hrest

/-! ## Chains -/

theorem Operator.level_ne (op : Operator) : op.level ≠ 3 ∧ op.level ≠ 4 ∧ op.level ≠ 7 := by
  rcases op with _ | _ | _ | _ | _ | _ <;> decide

/-- A chain to the right of an operator that associates is read as one to the
    left. -/
theorem Derives.chain {op : Operator} (hop : op.associates = true) {k : Nat}
    (hk : op.level = k) {ls rs : List Symbol} {l r : Expression} (hl : Derives k ls l)
    (hr : Derives k rs r) :
    ∃ t, Derives k (ls ++ .operator op :: rs) t ∧ Regrouped (op.apply l r) t := by
  obtain ⟨h3, h4, h7⟩ := op.level_ne
  -- no operator has the level of a negation, a predicate or an atom
  induction hr with
  | tighter _ hr => exact ⟨_, .operator hk hl hr, .refl _⟩
  | @operator op' k rs us r u hop' hr hu ihr _ =>
      -- the last operand of the chain stays, and what is before it is shorter
      obtain ⟨t, ht, hsame⟩ := ihr hk hl
      refine ⟨op'.apply t u, ?_, ?_⟩
      · have hall := Derives.operator hop' ht hu
        rwa [List.append_assoc, List.cons_append] at hall
      · exact .trans (.assoc hop (hop'.trans hk.symm) l r u) (.operator_c op' hsame (.refl u))
  | not => exact absurd hk h3
  | atom => exact absurd hk h7
  | group => exact absurd hk h7
  | _ => exact absurd hk h4

/-! ## Expressions are read as they are -/

/-- The level at which an expression is written. -/
def Expression.level (e : Expression) : Nat :=
  if e.isNegation then 3 else e.strength

/-- Symbols are read back at a level as an expression, up to grouping. -/
def ReadBack (k : Nat) (ts : List Symbol) (e : Expression) : Prop :=
  ∃ t, Derives k ts t ∧ Regrouped e t

theorem Expression.strength_pos (e : Expression) : 0 < e.strength := by
  unfold Expression.strength
  split
  case h_8 op _ _ => cases op <;> decide
  all_goals decide

theorem Expression.level_pos (e : Expression) : 0 < e.level := by
  rw [Expression.level]
  split
  · decide
  · exact e.strength_pos

/-- An atom is read as itself. -/
theorem readBack_atom {e : Expression} (he : e.isAtom = true) : ReadBack 7 [.atom e] e :=
  ⟨e, .atom he, .refl e⟩

/-- What is in parentheses is read as if it were not. -/
theorem ReadBack.group {k : Nat} {ts : List Symbol} {e : Expression} (h : ReadBack k ts e)
    (hk : 0 < k) : ReadBack 7 (.leftParen :: (ts ++ [.rightParen])) e := by
  obtain ⟨t, ht, hsame⟩ := h
  exact ⟨.nested t, .group (ht.loosen Nat.one_pos hk), hsame.trans (.nested t)⟩

theorem ReadBack.loosen {j k : Nat} {ts : List Symbol} {e : Expression} (h : ReadBack k ts e)
    (hj : 0 < j) (hjk : j ≤ k) : ReadBack j ts e := by
  obtain ⟨t, ht, hsame⟩ := h
  exact ⟨t, ht.loosen hj hjk, hsame⟩

/-- An operand is read at the level that its place asks for. -/
theorem ReadBack.operand {e : Expression} (h : ReadBack e.level e.symbols e) (asked : Nat)
    (hpos : 0 < asked) (hle : asked ≤ 7) (hneg : asked ≤ 3 ∨ e.isNegation = false) :
    ReadBack asked (operandSymbols asked e e.symbols) e := by
  rw [operandSymbols]
  by_cases hlt : e.strength < asked
  · rw [if_pos hlt]
    exact (h.group e.level_pos).loosen hpos hle
  · rw [if_neg hlt]
    refine h.loosen hpos ?_
    rw [Expression.level]
    split
    · rename_i hnegation
      rcases hneg with hasked | hnot
      · exact hasked
      · exact absurd (hnegation.symm.trans hnot) Bool.true_eq_false.mp
    · exact Nat.le_of_not_lt hlt

/-- An operand of a predicate is read as a sum. -/
theorem ReadBack.sum {e : Expression} (h : ReadBack e.level e.symbols e)
    (hneg : e.isNegation = false) :
    ReadBack 5 (operandSymbols Strength.additive e e.symbols) e :=
  h.operand Strength.additive (by decide) (by decide) (Or.inr hneg)

/-- An operator between its operands.  What does not associate asks for a
    right operand that binds tighter. -/
theorem ReadBack.operator (op : Operator) {ls rs : List Symbol} {l r : Expression}
    (hl : ReadBack op.level ls l)
    (hr : ReadBack (if op.associates then op.level else op.level + 1) rs r) :
    ReadBack op.level (ls ++ .operator op :: rs) (op.apply l r) := by
  obtain ⟨t, ht, hl⟩ := hl
  obtain ⟨u, hu, hr⟩ := hr
  split at hu
  · rename_i hop
    obtain ⟨v, hv, hsame⟩ := Derives.chain hop rfl ht hu
    exact ⟨v, hv, .trans (.operator_c op hl hr) hsame⟩
  · exact ⟨op.apply t u, .operator rfl ht hu, .operator_c op hl hr⟩

theorem Arithmetic.strength_bounds (op : Arithmetic) :
    (0 < op.strength ∧ op.strength ≤ 7) ∧ 0 < op.rightStrength ∧ op.rightStrength ≤ 7 := by
  cases op <;> decide

/-- Items that are read as some expressions. -/
def ItemsReadBack (es : List Expression) : Prop :=
  ∃ items : List (List Symbol × Expression), items.map Prod.fst = Expression.symbolsAll es ∧
    (∀ p ∈ items, Derives 1 p.1 p.2) ∧ List.Forall₂ Regrouped es (items.map Prod.snd)

/-- Membership in a list of items. -/
theorem ReadBack.inList {ts : List Symbol} {e : Expression} {es : List Expression}
    (he : ReadBack 5 ts e) (hne : es ≠ []) (hes : ItemsReadBack es) (negated : Bool) :
    ReadBack 4 (ts ++ .inList negated :: .leftParen ::
      (separated (Expression.symbolsAll es) ++ [.rightParen])) (.inList e es negated) := by
  obtain ⟨t, ht, hsame⟩ := he
  obtain ⟨items, hsymbols, hitems, hall⟩ := hes
  have hnonempty : items ≠ [] := by
    rintro rfl
    exact hne (List.forall₂_nil_right_iff.mp hall)
  rw [← hsymbols]
  exact ⟨_, .inList ht hnonempty hitems,
    .trans (.inList_c es negated hsame) (Regrouped.items hall t [] negated)⟩

mutual

/-- What an expression is written as is read as the expression. -/
theorem Expression.readBack : ∀ e : Expression, e.Groupable → ReadBack e.level e.symbols e
  | .all, _ => readBack_atom rfl
  | .column _, _ => readBack_atom rfl
  | .bind _, _ => readBack_atom rfl
  | .literal _, _ => readBack_atom rfl
  | .raw _ _, h => False.elim h
  | .call _ _, _ => readBack_atom rfl
  | .subquery _, _ => readBack_atom rfl
  | .existsIn query false, _ => readBack_atom rfl
  | .existsIn query true, _ =>
    ⟨_, .not ((Derives.atom rfl).loosen (by decide) (by decide)), .notExists query⟩
  | .nested e, h => by
      obtain ⟨t, ht, hsame⟩ := e.readBack h
      exact ⟨.nested t, .group (ht.loosen Nat.one_pos e.level_pos), .nested_c hsame⟩
  | .and l r, h => by
      have hl := (l.readBack h.1).operand Strength.conjunction (by decide) (by decide)
        (Or.inl (by decide))
      have hr := (r.readBack h.2).operand Strength.conjunction (by decide) (by decide)
        (Or.inl (by decide))
      exact ReadBack.operator .and hl hr
  | .or l r, h => by
      have hl := (l.readBack h.1).operand Strength.disjunction (by decide) (by decide)
        (Or.inl (by decide))
      have hr := (r.readBack h.2).operand Strength.disjunction (by decide) (by decide)
        (Or.inl (by decide))
      exact ReadBack.operator .or hl hr
  | .not e, h => by
      have hgroup : ReadBack 3 (.leftParen :: (e.symbols ++ [.rightParen])) e :=
        ((e.readBack h).group e.level_pos).loosen (by decide) (by decide)
      obtain ⟨t, ht, hsame⟩ := hgroup
      exact ⟨.not t, .not ht, .not_c hsame⟩
  | .compare op l r, h => by
      obtain ⟨t, ht, hl⟩ := (l.readBack h.1.2).sum h.1.1
      obtain ⟨u, hu, hr⟩ := (r.readBack h.2.2).sum h.2.1
      exact ⟨.compare op t u, .compare ht hu, .compare_c op hl hr⟩
  | .isNull e negated, h => by
      obtain ⟨t, ht, he⟩ := (e.readBack h.2).sum h.1
      exact ⟨.isNull t negated, .isNull ht, .isNull_c negated he⟩
  | .inList e [] negated, h => by
      have hatom : Derives 4 [.atom (truthLiteral negated)] (truthLiteral negated) :=
        (Derives.atom rfl).loosen (by decide) (by decide)
      exact ⟨_, hatom, .emptyList e negated⟩
  | .inList e (item :: items) negated, h => by
      exact ((e.readBack h.1.2).sum h.1.1).inList (List.cons_ne_nil item items)
        (Expression.itemsReadBack (item :: items) h.2) negated
  | .inUnnest e array negated, h => by
      obtain ⟨t, ht, he⟩ := (e.readBack h.1.2).sum h.1.1
      obtain ⟨u, hu, ha⟩ := (array.readBack h.2).loosen Nat.one_pos array.level_pos
      exact ⟨.inUnnest t u negated, .inUnnest ht hu, .inUnnest_c negated he ha⟩
  | .between e low high negated, h => by
      obtain ⟨t, ht, he⟩ := (e.readBack h.1.2).sum h.1.1
      obtain ⟨u, hu, hlow⟩ := (low.readBack h.2.1.2).sum h.2.1.1
      obtain ⟨v, hv, hhigh⟩ := (high.readBack h.2.2.2).sum h.2.2.1
      exact ⟨.between t u v negated, .between ht hu hv, .between_c negated he hlow hhigh⟩
  | .arithmetic op l r, h => by
      obtain ⟨⟨hpos, hle⟩, hpos', hle'⟩ := op.strength_bounds
      have hl := (l.readBack h.1.2).operand op.strength hpos hle (Or.inr h.1.1)
      have hr := (r.readBack h.2.2).operand op.rightStrength hpos' hle' (Or.inr h.2.1)
      cases op with
      | add => exact ReadBack.operator (.arithmetic .add) hl hr
      | subtract => exact ReadBack.operator (.arithmetic .subtract) hl hr
      | multiply => exact ReadBack.operator (.arithmetic .multiply) hl hr
      | divide => exact ReadBack.operator (.arithmetic .divide) hl hr

theorem Expression.itemsReadBack : ∀ es : List Expression, Expression.AllGroupable es →
    ItemsReadBack es
  | [], _ => by
      refine ⟨[], rfl, ?_, .nil⟩
      intro p hp
      cases hp
  | e :: es, h => by
      obtain ⟨t, ht, hsame⟩ := (e.readBack h.1).loosen Nat.one_pos e.level_pos
      obtain ⟨items, hsymbols, hitems, hall⟩ := Expression.itemsReadBack es h.2
      refine ⟨(e.symbols, t) :: items, congrArg (e.symbols :: ·) hsymbols, ?_, .cons hsame hall⟩
      exact List.forall_mem_cons.mpr ⟨ht, hitems⟩

end

/-- **Operators keep their operands.**  The text of an expression is that of
    its symbols, these are read in one way, and what is read is the
    expression, up to grouping. -/
theorem Expression.grouping (e : Expression) (he : e.Groupable) (f : Fragment)
    (hf : e.render = .ok f) :
    spell e.symbols = .ok f.text ∧
      ∃ t, Derives 1 e.symbols t ∧ (∀ u, Derives 1 e.symbols u → u = t) ∧ Regrouped e t := by
  obtain ⟨t, ht, hsame⟩ := (e.readBack he).loosen Nat.one_pos e.level_pos
  exact ⟨e.spell_symbols hf, t, ht, fun u hu => hu.unique ht, hsame⟩

/-- A test between two ends beside a disjunction that needs its parentheses,
    with a sum to the right of a sum and a list without items. -/
def groupedCondition : Expression :=
  .and
    (.between
      (.arithmetic .add (.columnNamed "a")
        (.arithmetic .subtract (.columnNamed "b") (.columnNamed "c")))
      (.columnNamed "low") (.columnNamed "high") true)
    (.or (.not (.compare .like (.columnNamed "a") (.columnNamed "b")))
      (.inList (.columnNamed "c") [] false))

theorem grouping_groupedCondition :
    groupedCondition.Groupable ∧ ∃ f, groupedCondition.render = .ok f ∧
      f.text = ("`a` + `b` - `c` not between `low` and `high` and " ++
        "(not (`a` like `b`) or false)").toList ∧
      ∃ t, Derives 1 groupedCondition.symbols t ∧ Regrouped groupedCondition t := by
  have hgroupable : groupedCondition.Groupable :=
    ⟨⟨⟨rfl, ⟨rfl, trivial⟩, rfl, ⟨rfl, trivial⟩, rfl, trivial⟩, ⟨rfl, trivial⟩, rfl, trivial⟩,
      ⟨⟨rfl, trivial⟩, rfl, trivial⟩, ⟨rfl, trivial⟩, trivial⟩
  obtain ⟨-, t, ht, -, hsame⟩ := groupedCondition.grouping hgroupable _ rfl
  exact ⟨hgroupable, _, rfl, rfl, t, ht, hsame⟩

end SpannerDialect.Sql
