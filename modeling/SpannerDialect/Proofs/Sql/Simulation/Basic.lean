import Mathlib.Data.List.Forall2
import SpannerDialect.Proofs.Sql.Admissible
import SpannerDialect.Proofs.Sql.Inlined
import SpannerDialect.Proofs.Value.Literal
import SpannerDialect.Sql.Render.Query

/-! # Rendering with and without parameters

    A statement and the same statement with literals for its parameters are
    rendered side by side.  They fail alike (`Both`), and a relation between
    fragments that holds of the smallest pieces and of pieces in a row
    (`Simulation`) holds of whatever is put together from them.  Here are
    the parts of a statement that hold no expression of their own. -/

namespace SpannerDialect.Sql

open Fragment Text

/-! ## Two outcomes side by side -/

/-- Both outcomes are results in the relation, or the same error. -/
inductive Both {ε α β : Type} (R : α → β → Prop) : Except ε α → Except ε β → Prop
  | ok {a : α} {b : β} (h : R a b) : Both R (.ok a) (.ok b)
  | error (e : ε) : Both R (.error e) (.error e)

namespace Both

variable {ε α β γ δ : Type} {R : α → β → Prop} {S : γ → δ → Prop}

theorem of_ok {x : Except ε α} {y : Except ε β} (h : Both R x y) {a : α} (hx : x = .ok a) :
    ∃ b, y = .ok b ∧ R a b := by
  cases h with
  | ok hab =>
      obtain rfl := Except.ok.inj hx
      exact ⟨_, rfl, hab⟩
  | error e => cases hx

theorem of_error {x : Except ε α} {y : Except ε β} (h : Both R x y) {e : ε}
    (hx : x = .error e) : y = .error e := by
  cases h with
  | ok hab => cases hx
  | error e' =>
      obtain rfl := Except.error.inj hx
      rfl

theorem bind {x : Except ε α} {y : Except ε β} {f : α → Except ε γ} {g : β → Except ε δ}
    (h : Both R x y) (hfg : ∀ a b, R a b → Both S (f a) (g b)) :
    Both S (x >>= f) (y >>= g) := by
  cases h with
  | ok hab => exact hfg _ _ hab
  | error e => exact .error e

/-- A step that neither outcome depends on. -/
theorem bind_same (x : Except ε α) {f : α → Except ε γ} {g : α → Except ε δ}
    (hfg : ∀ a, Both S (f a) (g a)) : Both S (x >>= f) (x >>= g) := by
  cases x with
  | ok a => exact hfg a
  | error e => exact .error e

theorem mapM {ι : Type} {xs : List ι} {f : ι → Except ε α} {g : ι → Except ε β}
    (h : ∀ x ∈ xs, Both R (f x) (g x)) :
    Both (List.Forall₂ R) (xs.mapM f) (xs.mapM g) := by
  induction xs with
  | nil => exact .ok .nil
  | cons x xs ih =>
      rw [List.mapM_cons, List.mapM_cons]
      refine bind (h x (List.mem_cons_self ..)) fun a b hab => ?_
      refine bind (ih fun y hy => h y (List.mem_cons_of_mem _ hy)) fun as bs has => ?_
      exact .ok (.cons hab has)

end Both

/-! ## Relations that rendering keeps -/

/-- A relation between the fragments of a statement and of the same statement
    with literals for its parameters, given by its smallest pieces. -/
structure Simulation (raw : String → List TypedValue → Prop)
    (R : Fragment → Fragment → Prop) : Prop where
  /-- The same text on both sides. -/
  neutral : ∀ {t : List Char}, Neutral .outside t → R (plain t) (plain t)
  append : ∀ {a a' b b' : Fragment}, R a a' → R b b' → R (a ++ b) (a' ++ b')
  /-- A placeholder on one side and a literal on the other. -/
  parameter : ∀ {v : TypedValue} {t : List Char},
    v.literal = .ok t → R (placeholder v) (plain t)
  raw : ∀ {sql : String} {bindings : List TypedValue},
    raw sql bindings → R ⟨sql.toList, bindings⟩ ⟨sql.toList, bindings⟩

namespace Simulation

variable {raw : String → List TypedValue → Prop} {R : Fragment → Fragment → Prop}

theorem empty (h : Simulation raw R) : R (plain []) (plain []) :=
  h.neutral Neutral.nil

theorem words (h : Simulation raw R) (s : String) (hs : Neutral .outside s.toList) :
    R (words s) (words s) :=
  h.neutral hs

theorem parenthesized (h : Simulation raw R) {f f' : Fragment} (hf : R f f') :
    R (parenthesized f) (parenthesized f') :=
  h.append (h.append (h.neutral (by decide)) hf) (h.neutral (by decide))

theorem commaSeparated (h : Simulation raw R) {fs fs' : List Fragment}
    (hfs : List.Forall₂ R fs fs') : R (commaSeparated fs) (commaSeparated fs') := by
  induction hfs with
  | nil => exact h.empty
  | @cons f f' fs fs' hf hfs ih =>
      cases hfs with
      | nil => exact hf
      | cons hg hgs => exact h.append (h.append hf (h.neutral (by decide))) ih

theorem listClause (h : Simulation raw R) (start : String)
    (hs : Neutral .outside start.toList) {fs fs' : List Fragment}
    (hfs : List.Forall₂ R fs fs') : R (listClause start fs) (listClause start fs') := by
  cases hfs with
  | nil => exact h.empty
  | cons hf hfs => exact h.append (h.neutral hs) (h.commaSeparated (.cons hf hfs))

theorem operand (h : Simulation raw R) (asked : Nat) (e : Expression) {f f' : Fragment}
    (hf : R f f') : R (operand asked e f) (operand asked e.inlined f') := by
  unfold Sql.operand
  rw [Expression.strength_inlined]
  split
  · exact h.parenthesized hf
  · exact hf

theorem binary (h : Simulation raw R) {sign : String} (hs : Neutral .outside sign.toList)
    {l l' r r' : Fragment} (hl : R l l') (hr : R r r') :
    R (binary l sign r) (binary l' sign r') := by
  have hblank := h.words " " (by decide)
  exact h.append (h.append (h.append (h.append hl hblank) (h.neutral hs)) hblank) hr

/-- Two operands with a sign between them, as they are rendered. -/
theorem operands (h : Simulation raw R) {sign : String} (hs : Neutral .outside sign.toList)
    (a b : Nat) {l r : Expression} (hl : Both R l.render l.inlined.render)
    (hr : Both R r.render r.inlined.render) :
    Both R
      (do
        let lf ← l.render
        let rf ← r.render
        return Sql.binary (Sql.operand a l lf) sign (Sql.operand b r rf))
      (do
        let lf ← l.inlined.render
        let rf ← r.inlined.render
        return Sql.binary (Sql.operand a l.inlined lf) sign (Sql.operand b r.inlined rf)) := by
  refine Both.bind hl fun lf lf' hlf => ?_
  refine Both.bind hr fun rf rf' hrf => ?_
  exact .ok (h.binary hs (h.operand a l hlf) (h.operand b r hrf))

theorem worded (h : Simulation raw R) (negated : Bool) {negative positive : String}
    (hn : Neutral .outside negative.toList) (hp : Neutral .outside positive.toList) :
    R (worded negated negative positive) (worded negated negative positive) := by
  cases negated with
  | true => exact h.neutral hn
  | false => exact h.neutral hp

/-! ### Names and fixed clauses -/

theorem name (h : Simulation raw R) {name : String} (hn : PlainName name) :
    R (nameFragment name) (nameFragment name) :=
  h.neutral (neutral_quoteName hn)

theorem label (h : Simulation raw R) {label : Option String} (hl : PlainLabel label) :
    R (labelFragment label) (labelFragment label) := by
  cases label with
  | none => exact h.empty
  | some name => exact h.append (h.neutral (by decide)) (h.name (hl name rfl))

theorem column (h : Simulation raw R) {c : ColumnRef} (hc : c.Admissible) :
    R c.fragment c.fragment := by
  obtain ⟨htable, hname⟩ := hc
  have hlast : R (if c.name = "*" then Fragment.words "*" else nameFragment c.name)
      (if c.name = "*" then Fragment.words "*" else nameFragment c.name) := by
    split
    · exact h.neutral (by decide)
    · exact h.name hname
  rw [ColumnRef.fragment]
  cases ht : c.table with
  | none => exact hlast
  | some table =>
      exact h.append (h.append (h.name (htable table ht)) (h.neutral (by decide))) hlast

/-- A name in a hint is letters, digits and underscores. -/
theorem neutral_hintName {index : String} (hi : isHintName index = true) :
    Neutral .outside index.toList := by
  refine Neutral.of_chars fun c hc => ?_
  -- the first character may be no digit, but it is of the same kind
  have hletter : (c.isAlphanum || c == '_') = true := by
    rw [isHintName] at hi
    split at hi
    · cases hi
    · rename_i d ds heq
      rw [Bool.and_eq_true, List.all_eq_true] at hi
      rw [heq] at hc
      rcases List.mem_cons.mp hc with hd | htail
      · subst hd
        rw [Char.isAlphanum]
        cases hα : c.isAlpha with
        | true => rfl
        | false =>
            rw [hα, Bool.false_or] at hi
            rw [hi.1, Bool.or_true]
      · exact hi.2 c htail
  have hne : ∀ d : Char, (d.isAlphanum || d == '_') = false → c ≠ d := by
    rintro d hd rfl
    exact Bool.noConfusion (hletter.symm.trans hd)
  refine neutral_outside ?_ (hne '?' (by decide))
  simp [isQuote, hne '"' (by decide), hne '\'' (by decide), hne '\x60' (by decide)]

theorem hint (h : Simulation raw R) (hint : Option IndexHint) :
    Both R (hintFragment hint) (hintFragment hint) := by
  rcases hint with _ | ⟨kind, index⟩
  · exact .ok h.empty
  · cases kind with
    | force =>
        by_cases hi : isHintName index = true
        · rw [hintFragment, if_pos hi]
          exact .ok (h.append (h.append (h.neutral (by decide))
            (h.neutral (neutral_hintName hi))) (h.neutral (by decide)))
        · rw [hintFragment, if_neg hi]
          exact .error _
    | use => exact .error _
    | ignore => exact .error _

theorem limit (h : Simulation raw R) (limit offset : Option Nat) :
    R (limitFragment limit offset) (limitFragment limit offset) := by
  have hdigits : ∀ n, R (plain (digits n)) (plain (digits n)) := fun n =>
    h.neutral (plain_digits n).neutral_outside
  have hlimit := h.words " limit " (by decide)
  have hoffset := h.words " offset " (by decide)
  cases limit with
  | none =>
      cases offset with
      | none => exact h.empty
      | some n => exact h.append (h.append (h.append hlimit (hdigits _)) hoffset) (hdigits n)
  | some m =>
      cases offset with
      | none => exact h.append hlimit (hdigits m)
      | some n => exact h.append (h.append (h.append hlimit (hdigits m)) hoffset) (hdigits n)

end Simulation

end SpannerDialect.Sql
