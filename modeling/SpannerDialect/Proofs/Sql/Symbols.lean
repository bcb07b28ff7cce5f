import Mathlib.Data.List.Forall2
import SpannerDialect.Proofs.Except
import SpannerDialect.Proofs.Sql.Grammar

/-! # Expressions as symbols

    Rendering writes an expression symbol by symbol: the text of an
    expression is the text of its symbols (`Expression.spell_symbols`). -/

namespace SpannerDialect.Sql

open Fragment

/-! ## Symbols of an expression -/

/-- An operand, in parentheses where it binds looser than asked. -/
def operandSymbols (asked : Nat) (e : Expression) (ts : List Symbol) : List Symbol :=
  if e.strength < asked then .leftParen :: (ts ++ [.rightParen]) else ts

/-- A truth value as a literal. -/
def truthLiteral (b : Bool) : Expression :=
  .literal ⟨.scalar .bool, .bool b, rfl⟩

mutual

/-- The symbols of the text of an expression. -/
def Expression.symbols : Expression → List Symbol
  | .nested e => .leftParen :: (e.symbols ++ [.rightParen])
  | .existsIn query true => [.not, .atom (.existsIn query false)]
  | .and l r =>
    operandSymbols Strength.conjunction l l.symbols ++
      .operator .and :: operandSymbols Strength.conjunction r r.symbols
  | .or l r =>
    operandSymbols Strength.disjunction l l.symbols ++
      .operator .or :: operandSymbols Strength.disjunction r r.symbols
  | .not e => .not :: .leftParen :: (e.symbols ++ [.rightParen])
  | .compare op l r =>
    operandSymbols Strength.additive l l.symbols ++
      .compare op :: operandSymbols Strength.additive r r.symbols
  | .isNull e negated => operandSymbols Strength.additive e e.symbols ++ [.isNull negated]
  | .inList _ [] negated => [.atom (truthLiteral negated)]
  | .inList e (item :: items) negated =>
    operandSymbols Strength.additive e e.symbols ++ .inList negated :: .leftParen ::
      (separated (item.symbols :: Expression.symbolsAll items) ++ [.rightParen])
  | .inUnnest e array negated =>
    operandSymbols Strength.additive e e.symbols ++ .inUnnest negated :: .leftParen ::
      (array.symbols ++ [.rightParen])
  | .between e low high negated =>
    operandSymbols Strength.additive e e.symbols ++ .between negated ::
      (operandSymbols Strength.additive low low.symbols ++ .operator .and ::
        operandSymbols Strength.additive high high.symbols)
  | .arithmetic op l r =>
    operandSymbols op.strength l l.symbols ++
      .operator (.arithmetic op) :: operandSymbols op.rightStrength r r.symbols
  | e => [.atom e]

/-- The symbols of some expressions. -/
def Expression.symbolsAll : List Expression → List (List Symbol)
  | [] => []
  | e :: es => e.symbols :: Expression.symbolsAll es

end

/-! ## Their text -/

theorem spell_cons {s : Symbol} {ts : List Symbol} {a b : List Char} (hs : s.text = .ok a)
    (hts : spell ts = .ok b) : spell (s :: ts) = .ok (a ++ b) := by
  rw [spell, hs, hts]
  rfl

theorem spell_append {ts us : List Symbol} {a b : List Char} (hts : spell ts = .ok a)
    (hus : spell us = .ok b) : spell (ts ++ us) = .ok (a ++ b) := by
  induction ts generalizing a with
  | nil =>
      obtain rfl := Except.ok.inj hts
      exact hus
  | cons s ss ih =>
      obtain ⟨x, hx, hts⟩ := exists_of_bind_eq_ok hts
      obtain ⟨y, hy, hts⟩ := exists_of_bind_eq_ok hts
      obtain rfl := Except.ok.inj hts
      rw [List.append_assoc]
      exact spell_cons hx (ih hy)

theorem spell_parenthesized {ts : List Symbol} {f : Fragment} (h : spell ts = .ok f.text) :
    spell (.leftParen :: (ts ++ [.rightParen])) = .ok (parenthesized f).text := by
  have hclose : spell [.rightParen] = .ok ")".toList := rfl
  exact (spell_cons rfl (spell_append h hclose)).trans (by simp [parenthesized, words])

theorem spell_operandSymbols (asked : Nat) (e : Expression) {ts : List Symbol} {f : Fragment}
    (h : spell ts = .ok f.text) :
    spell (operandSymbols asked e ts) = .ok (operand asked e f).text := by
  rw [operandSymbols, operand]
  by_cases hlt : e.strength < asked
  · rw [if_pos hlt, if_pos hlt]
    exact spell_parenthesized h
  · rw [if_neg hlt, if_neg hlt]
    exact h

/-- Two operands with a symbol between them that is a sign between blanks. -/
theorem spell_binary {s : Symbol} {sign : String} {ls rs : List Symbol} {l r : Fragment}
    (hs : s.text = .ok (" ".toList ++ sign.toList ++ " ".toList)) (hl : spell ls = .ok l.text)
    (hr : spell rs = .ok r.text) : spell (ls ++ s :: rs) = .ok (binary l sign r).text := by
  refine (spell_append hl (spell_cons hs hr)).trans ?_
  simp [binary, words]

/-- Two operands with a symbol between them, as they are rendered. -/
theorem spell_operands {s : Symbol} {sign : String} {a b : Nat} {l r : Expression} {f : Fragment}
    (hs : s.text = .ok (" ".toList ++ sign.toList ++ " ".toList))
    (ihl : ∀ {g : Fragment}, l.render = .ok g → spell l.symbols = .ok g.text)
    (ihr : ∀ {g : Fragment}, r.render = .ok g → spell r.symbols = .ok g.text)
    (h : (do
      let lf ← l.render
      let rf ← r.render
      return binary (operand a l lf) sign (operand b r rf)) = .ok f) :
    spell (operandSymbols a l l.symbols ++ s :: operandSymbols b r r.symbols) = .ok f.text := by
  obtain ⟨lf, hl, h⟩ := exists_of_bind_eq_ok h
  obtain ⟨rf, hr, h⟩ := exists_of_bind_eq_ok h
  obtain rfl := Except.ok.inj h
  exact spell_binary hs (spell_operandSymbols a l (ihl hl)) (spell_operandSymbols b r (ihr hr))

/-- Rows of symbols beside the fragments that they spell. -/
theorem spell_separated {tss : List (List Symbol)} {fs : List Fragment}
    (h : List.Forall₂ (fun ts f => spell ts = .ok f.text) tss fs) :
    spell (separated tss) = .ok (commaSeparated fs).text := by
  induction h with
  | nil => rfl
  | cons hts hrest ih =>
      cases hrest with
      | nil => exact hts
      | cons hus hrest =>
          refine (spell_append hts (spell_cons rfl ih)).trans ?_
          simp [commaSeparated, words]

/-- An atom is spelled by rendering it. -/
theorem spell_atom {e : Expression} {f : Fragment} (h : e.render = .ok f) :
    spell [.atom e] = .ok f.text := by
  have htext : (Symbol.atom e).text = .ok f.text := by
    rw [Symbol.text, h]
    rfl
  exact (spell_cons htext rfl).trans (by rw [List.append_nil])

/-- A truth value is written as a list without items is. -/
theorem render_truthLiteral (b : Bool) :
    (truthLiteral b).render = .ok (worded b "true" "false") := by
  cases b <;> rfl

mutual

/-- **The text of an expression is that of its symbols.** -/
theorem Expression.spell_symbols : ∀ (e : Expression) {f : Fragment}, e.render = .ok f →
    spell e.symbols = .ok f.text
  | .all, _, h => spell_atom h
  | .column _, _, h => spell_atom h
  | .bind _, _, h => spell_atom h
  | .literal _, _, h => spell_atom h
  | .raw _ _, _, h => spell_atom h
  | .call _ _, _, h => spell_atom h
  | .subquery _, _, h => spell_atom h
  | .existsIn _ false, _, h => spell_atom h
  | .existsIn query true, f, h => by
      -- the `not` in front is a symbol of its own
      obtain ⟨qf, hq, h⟩ := exists_of_bind_eq_ok h
      obtain rfl := Except.ok.inj h
      have hatom : (Expression.existsIn query false).render
          = .ok (worded false "not " "" ++ words "exists " ++ parenthesized qf) := by
        rw [Expression.render, hq]
        rfl
      have hall : spell [.not, .atom (.existsIn query false)] = .ok ("not ".toList ++
          (worded false "not " "" ++ words "exists " ++ parenthesized qf).text) :=
        spell_cons rfl (spell_atom hatom)
      exact hall
  | .nested e, f, h => by
      obtain ⟨ef, he, h⟩ := exists_of_bind_eq_ok h
      obtain rfl := Except.ok.inj h
      exact spell_parenthesized (e.spell_symbols he)
  | .and l r, _, h => spell_operands rfl l.spell_symbols r.spell_symbols h
  | .or l r, _, h => spell_operands rfl l.spell_symbols r.spell_symbols h
  | .not e, f, h => by
      obtain ⟨ef, he, h⟩ := exists_of_bind_eq_ok h
      obtain rfl := Except.ok.inj h
      exact spell_cons rfl (spell_parenthesized (e.spell_symbols he))
  | .compare op l r, _, h => spell_operands rfl l.spell_symbols r.spell_symbols h
  | .isNull e negated, f, h => by
      obtain ⟨ef, he, h⟩ := exists_of_bind_eq_ok h
      obtain rfl := Except.ok.inj h
      have hsign : spell [.isNull negated] = .ok (worded negated " is not null" " is null").text :=
        (spell_cons rfl rfl).trans (by rw [List.append_nil]; rfl)
      exact spell_append (spell_operandSymbols _ e (e.spell_symbols he)) hsign
  | .inList _ [] negated, f, h => by
      obtain rfl := Except.ok.inj h
      exact spell_atom (render_truthLiteral negated)
  | .inList e (item :: items) negated, f, h => by
      obtain ⟨ef, he, h⟩ := exists_of_bind_eq_ok h
      obtain ⟨first, hfirst, h⟩ := exists_of_bind_eq_ok h
      obtain ⟨rest, hrest, h⟩ := exists_of_bind_eq_ok h
      obtain rfl := Except.ok.inj h
      have hitems := spell_separated (.cons (item.spell_symbols hfirst)
        (Expression.spell_symbolsAll items hrest))
      refine (spell_append (spell_operandSymbols _ e (e.spell_symbols he))
        (spell_cons rfl (spell_parenthesized hitems))).trans ?_
      exact congrArg Except.ok (List.append_assoc _ _ _).symm
  | .inUnnest e array negated, f, h => by
      obtain ⟨ef, he, h⟩ := exists_of_bind_eq_ok h
      obtain ⟨af, ha, h⟩ := exists_of_bind_eq_ok h
      obtain rfl := Except.ok.inj h
      refine (spell_append (spell_operandSymbols _ e (e.spell_symbols he))
        (spell_cons rfl (spell_parenthesized (array.spell_symbols ha)))).trans ?_
      exact congrArg Except.ok (List.append_assoc _ _ _).symm
  | .between e low high negated, f, h => by
      obtain ⟨ef, he, h⟩ := exists_of_bind_eq_ok h
      obtain ⟨lf, hl, h⟩ := exists_of_bind_eq_ok h
      obtain ⟨hf, hh, h⟩ := exists_of_bind_eq_ok h
      obtain rfl := Except.ok.inj h
      have hends := spell_append (spell_operandSymbols Strength.additive low (low.spell_symbols hl))
        (spell_cons (s := .operator .and) rfl
          (spell_operandSymbols Strength.additive high (high.spell_symbols hh)))
      refine (spell_append (spell_operandSymbols _ e (e.spell_symbols he))
        (spell_cons rfl hends)).trans ?_
      refine congrArg Except.ok ?_
      rw [← List.append_assoc, ← List.append_assoc, ← List.append_assoc]
      rfl
  | .arithmetic op l r, _, h => spell_operands rfl l.spell_symbols r.spell_symbols h

theorem Expression.spell_symbolsAll : ∀ (es : List Expression) {fs : List Fragment},
    Expression.renderAll es = .ok fs →
      List.Forall₂ (fun ts f => spell ts = .ok f.text) (Expression.symbolsAll es) fs
  | [], fs, h => by
      obtain rfl := Except.ok.inj h
      exact .nil
  | e :: es, fs, h => by
      obtain ⟨f, he, h⟩ := exists_of_bind_eq_ok h
      obtain ⟨rest, hes, h⟩ := exists_of_bind_eq_ok h
      obtain rfl := Except.ok.inj h
      exact .cons (e.spell_symbols he) (Expression.spell_symbolsAll es hes)

end

end SpannerDialect.Sql
