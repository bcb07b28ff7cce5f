import SpannerDialect.Sql.Render.Query

/-! # The grammar of expressions

    How SQL is read: as a row of symbols, with parts of an expression that
    have no operators in the open as symbols of their own.  The levels of
    the grammar are disjunctions (1), conjunctions (2), negations (3),
    predicates (4), sums (5), products (6), and what stands by itself or in
    parentheses (7).  Operators associate to the left; predicates do not
    chain, and their operands are sums. -/

namespace SpannerDialect.Sql

/-! ## Symbols -/

/-- An operator that stands between its operands and can be chained. -/
inductive Operator
  | or
  | and
  | arithmetic (op : Arithmetic)
deriving DecidableEq

namespace Operator

/-- The level of an operator. -/
def level : Operator → Nat
  | or => 1
  | and => 2
  | arithmetic .add => 5
  | arithmetic .subtract => 5
  | arithmetic .multiply => 6
  | arithmetic .divide => 6

/-- An operator on its operands. -/
def apply : Operator → Expression → Expression → Expression
  | or => .or
  | and => .and
  | arithmetic op => .arithmetic op

/-- The sign of an operator. -/
def sign : Operator → String
  | or => "or"
  | and => "and"
  | arithmetic op => op.sign

/-- Whether a chain to the right of the operator is one to the left: true of
    conjunction, disjunction, sums and products, but not of what is taken
    away or divided by. -/
def associates : Operator → Bool
  | or => true
  | and => true
  | arithmetic .add => true
  | arithmetic .multiply => true
  | arithmetic .subtract => false
  | arithmetic .divide => false

end Operator

/-- Whether an expression is read as one symbol. -/
def Expression.isAtom : Expression → Bool
  | all | column _ | bind _ | literal _ | call _ _ | subquery _ | existsIn _ false => true
  | _ => false

/-- A symbol of an expression. -/
inductive Symbol
  | atom (e : Expression)
  | leftParen
  | rightParen
  | comma
  | not
  | operator (op : Operator)
  | compare (op : Comparison)
  | isNull (negated : Bool)
  | inList (negated : Bool)
  | inUnnest (negated : Bool)
  | between (negated : Bool)

/-- The text of a symbol, with the blanks around it. -/
def Symbol.text : Symbol → Except Error (List Char)
  | atom e => e.render.map Fragment.text
  | leftParen => .ok "(".toList
  | rightParen => .ok ")".toList
  | comma => .ok ", ".toList
  | not => .ok "not ".toList
  | operator op => .ok (" ".toList ++ op.sign.toList ++ " ".toList)
  | compare op => .ok (" ".toList ++ op.sign.toList ++ " ".toList)
  | isNull negated => .ok (if negated then " is not null" else " is null").toList
  | inList negated => .ok (if negated then " not in " else " in ").toList
  | inUnnest negated => .ok (if negated then " not in unnest" else " in unnest").toList
  | between negated => .ok (if negated then " not between " else " between ").toList

/-- The text of some symbols. -/
def spell : List Symbol → Except Error (List Char)
  | [] => .ok []
  | s :: ss => do
    let text ← s.text
    let texts ← spell ss
    return text ++ texts

/-- Rows of symbols with a comma between neighbours. -/
def separated : List (List Symbol) → List Symbol
  | [] => []
  | [ts] => ts
  | ts :: us :: rest => ts ++ .comma :: separated (us :: rest)

/-! ## Derivations -/

/-- What a row of symbols is read as at a level. -/
inductive Derives : Nat → List Symbol → Expression → Prop
  | atom {e : Expression} (he : e.isAtom = true) : Derives 7 [.atom e] e
  | group {ts : List Symbol} {t : Expression} (h : Derives 1 ts t) :
      Derives 7 (.leftParen :: (ts ++ [.rightParen])) (.nested t)
  | tighter {k : Nat} {ts : List Symbol} {t : Expression} (hk : 0 < k)
      (h : Derives (k + 1) ts t) : Derives k ts t
  | operator {op : Operator} {k : Nat} {ls rs : List Symbol} {l r : Expression}
      (hop : op.level = k) (hl : Derives k ls l) (hr : Derives (k + 1) rs r) :
      Derives k (ls ++ .operator op :: rs) (op.apply l r)
  | not {ts : List Symbol} {t : Expression} (h : Derives 3 ts t) :
      Derives 3 (.not :: ts) (.not t)
  | compare {op : Comparison} {ls rs : List Symbol} {l r : Expression}
      (hl : Derives 5 ls l) (hr : Derives 5 rs r) :
      Derives 4 (ls ++ .compare op :: rs) (.compare op l r)
  | isNull {negated : Bool} {ts : List Symbol} {t : Expression} (h : Derives 5 ts t) :
      Derives 4 (ts ++ [.isNull negated]) (.isNull t negated)
  | inList {negated : Bool} {ts : List Symbol} {t : Expression}
      {items : List (List Symbol × Expression)} (h : Derives 5 ts t) (hne : items ≠ [])
      (hitems : ∀ p ∈ items, Derives 1 p.1 p.2) :
      Derives 4 (ts ++ .inList negated :: .leftParen ::
        (separated (items.map Prod.fst) ++ [.rightParen])) (.inList t (items.map Prod.snd) negated)
  | inUnnest {negated : Bool} {ts us : List Symbol} {t u : Expression} (h : Derives 5 ts t)
      (hu : Derives 1 us u) :
      Derives 4 (ts ++ .inUnnest negated :: .leftParen :: (us ++ [.rightParen]))
        (.inUnnest t u negated)
  | between {negated : Bool} {ts ls hs : List Symbol} {t low high : Expression}
      (h : Derives 5 ts t) (hlow : Derives 5 ls low) (hhigh : Derives 5 hs high) :
      Derives 4 (ts ++ .between negated :: (ls ++ .operator .and :: hs))
        (.between t low high negated)

/-- What is read at a level is read at every lower one. -/
theorem Derives.loosen {j k : Nat} {ts : List Symbol} {t : Expression} (h : Derives k ts t)
    (hj : 0 < j) (hjk : j ≤ k) : Derives j ts t := by
  obtain ⟨d, rfl⟩ := Nat.exists_eq_add_of_le hjk
  clear hjk
  induction d with
  | zero => exact h
  | succ d ih => exact ih (.tighter (by omega) h)

end SpannerDialect.Sql
