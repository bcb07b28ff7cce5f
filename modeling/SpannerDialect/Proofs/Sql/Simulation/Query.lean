import SpannerDialect.Proofs.Sql.Simulation.Basic

/-! # Queries with and without parameters

    One induction over expressions and queries: whatever relation between
    fragments is a simulation holds between a query and the same query with
    literals for its parameters. -/

namespace SpannerDialect.Sql

open Fragment Text

variable {raw : String → List TypedValue → Prop} {R : Fragment → Fragment → Prop}

mutual

/-- An expression and the same expression with literals are rendered alike. -/
theorem Expression.render_both (h : Simulation raw R) :
    ∀ e : Expression, e.Admissible raw → Both R e.render e.inlined.render
  | .all, _ => .ok (h.neutral (by decide))
  | .column _, he => .ok (h.column he)
  | .bind v, _ => by
      obtain ⟨t, hv, -⟩ := v.exists_literal
      rw [Expression.inlined, Expression.render, Expression.render, hv]
      exact .ok (h.parameter hv)
  | .literal v, _ => by
      obtain ⟨t, hv, ht⟩ := v.exists_literal
      rw [Expression.inlined, Expression.render, hv]
      exact .ok (h.neutral ht)
  | .raw _ _, he => .ok (h.raw he)
  | .call function args, he => by
      obtain ⟨hf, hargs⟩ := he
      have hname : Neutral .outside function.toList :=
        Neutral.of_chars fun c hc => neutral_outside (hf c hc).1 (hf c hc).2
      rw [Expression.inlined, Expression.render, Expression.render]
      refine Both.bind (Expression.renderAll_both h args hargs) fun fs fs' hfs => ?_
      exact .ok (h.append (h.neutral hname) (h.parenthesized (h.commaSeparated hfs)))
  | .nested e, he => by
      rw [Expression.inlined, Expression.render, Expression.render]
      refine Both.bind (Expression.render_both h e he) fun f f' hf => ?_
      exact .ok (h.parenthesized hf)
  | .existsIn query negated, he => by
      rw [Expression.inlined, Expression.render, Expression.render]
      refine Both.bind (Select.render_both h query he) fun f f' hf => ?_
      exact .ok (h.append (h.append (h.worded negated (by decide) (by decide))
        (h.neutral (by decide))) (h.parenthesized hf))
  | .subquery query, he => by
      rw [Expression.inlined, Expression.render, Expression.render]
      refine Both.bind (Select.render_both h query he) fun f f' hf => ?_
      exact .ok (h.parenthesized hf)
  | .and l r, he => by
      rw [Expression.inlined, Expression.render, Expression.render]
      exact h.operands (by decide) _ _ (Expression.render_both h l he.1)
        (Expression.render_both h r he.2)
  | .or l r, he => by
      rw [Expression.inlined, Expression.render, Expression.render]
      exact h.operands (by decide) _ _ (Expression.render_both h l he.1)
        (Expression.render_both h r he.2)
  | .not e, he => by
      rw [Expression.inlined, Expression.render, Expression.render]
      refine Both.bind (Expression.render_both h e he) fun f f' hf => ?_
      exact .ok (h.append (h.neutral (by decide)) (h.parenthesized hf))
  | .compare op l r, he => by
      have hsign : Neutral .outside op.sign.toList := by cases op <;> decide
      rw [Expression.inlined, Expression.render, Expression.render]
      exact h.operands hsign _ _ (Expression.render_both h l he.1) (Expression.render_both h r he.2)
  | .isNull e negated, he => by
      rw [Expression.inlined, Expression.render, Expression.render]
      refine Both.bind (Expression.render_both h e he) fun f f' hf => ?_
      exact .ok (h.append (h.operand _ e hf) (h.worded negated (by decide) (by decide)))
  -- what is looked for in an empty list is rendered on neither side
  | .inList _ [] negated, _ => .ok (h.worded negated (by decide) (by decide))
  | .inList e (item :: items) negated, he => by
      obtain ⟨hexpr, hitem, hitems⟩ := he
      rw [Expression.inlined, Expression.inlinedAll, Expression.render, Expression.render]
      refine Both.bind (Expression.render_both h e hexpr) fun f f' hf => ?_
      refine Both.bind (Expression.render_both h item hitem) fun g g' hg => ?_
      refine Both.bind (Expression.renderAll_both h items hitems) fun gs gs' hgs => ?_
      exact .ok (h.append (h.append (h.operand _ e hf) (h.worded negated (by decide) (by decide)))
        (h.parenthesized (h.commaSeparated (.cons hg hgs))))
  | .inUnnest e array negated, he => by
      rw [Expression.inlined, Expression.render, Expression.render]
      refine Both.bind (Expression.render_both h e he.1) fun f f' hf => ?_
      refine Both.bind (Expression.render_both h array he.2) fun g g' hg => ?_
      exact .ok (h.append (h.append (h.operand _ e hf) (h.worded negated (by decide) (by decide)))
        (h.parenthesized hg))
  | .between e low high negated, he => by
      obtain ⟨hexpr, hlow, hhigh⟩ := he
      rw [Expression.inlined, Expression.render, Expression.render]
      refine Both.bind (Expression.render_both h e hexpr) fun f f' hf => ?_
      refine Both.bind (Expression.render_both h low hlow) fun g g' hg => ?_
      refine Both.bind (Expression.render_both h high hhigh) fun k k' hk => ?_
      exact .ok (h.append (h.append (h.append (h.append (h.operand _ e hf)
        (h.worded negated (by decide) (by decide))) (h.operand _ low hg))
        (h.neutral (by decide))) (h.operand _ high hk))
  | .arithmetic op l r, he => by
      have hsign : Neutral .outside op.sign.toList := by cases op <;> decide
      rw [Expression.inlined, Expression.render, Expression.render]
      exact h.operands hsign _ _ (Expression.render_both h l he.1) (Expression.render_both h r he.2)

theorem Expression.renderAll_both (h : Simulation raw R) :
    ∀ es : List Expression, Expression.AllAdmissible raw es →
      Both (List.Forall₂ R) (Expression.renderAll es)
        (Expression.renderAll (Expression.inlinedAll es))
  | [], _ => .ok .nil
  | e :: es, he => by
      rw [Expression.inlinedAll, Expression.renderAll, Expression.renderAll]
      refine Both.bind (Expression.render_both h e he.1) fun f f' hf => ?_
      refine Both.bind (Expression.renderAll_both h es he.2) fun fs fs' hfs => ?_
      exact .ok (.cons hf hfs)

theorem Expression.renderClause_both (h : Simulation raw R) {start : String}
    (hs : Neutral .outside start.toList) :
    ∀ e : Option Expression, Expression.OptionAdmissible raw e →
      Both R (Expression.renderClause start e)
        (Expression.renderClause start (Expression.inlinedOption e))
  | none, _ => .ok h.empty
  | some e, he => by
      rw [Expression.inlinedOption, Expression.renderClause, Expression.renderClause]
      refine Both.bind (Expression.render_both h e he) fun f f' hf => ?_
      exact .ok (h.append (h.neutral hs) hf)

theorem SelectItem.render_both (h : Simulation raw R) :
    ∀ item : SelectItem, item.Admissible raw → Both R item.render item.inlined.render
  | ⟨e, label⟩, he => by
      rw [SelectItem.inlined, SelectItem.render, SelectItem.render]
      refine Both.bind (Expression.render_both h e he.1) fun f f' hf => ?_
      exact .ok (h.append hf (h.label he.2))

theorem SelectItem.renderAll_both (h : Simulation raw R) :
    ∀ items : List SelectItem, SelectItem.AllAdmissible raw items →
      Both (List.Forall₂ R) (SelectItem.renderAll items)
        (SelectItem.renderAll (SelectItem.inlinedAll items))
  | [], _ => .ok .nil
  | item :: items, hi => by
      rw [SelectItem.inlinedAll, SelectItem.renderAll, SelectItem.renderAll]
      refine Both.bind (SelectItem.render_both h item hi.1) fun f f' hf => ?_
      refine Both.bind (SelectItem.renderAll_both h items hi.2) fun fs fs' hfs => ?_
      exact .ok (.cons hf hfs)

theorem Join.render_both (h : Simulation raw R) :
    ∀ join : Join, join.Admissible raw → Both R join.render join.inlined.render
  | ⟨kind, table, condition⟩, hj => by
      obtain ⟨⟨hname, hlabel⟩, hcondition⟩ := hj
      have hwords : Neutral .outside kind.words.toList := by cases kind <;> decide
      have hstart := h.append (h.append (h.neutral hwords) (h.name hname)) (h.label hlabel)
      rw [Join.inlined, Join.render, Join.render, Expression.isNone_inlinedOption]
      -- neither rendering looks at the condition of a cross join
      by_cases hcross : kind = .cross
      · rw [if_pos hcross, if_pos hcross]
        exact .ok hstart
      · rw [if_neg hcross, if_neg hcross]
        cases hnone : condition.isNone with
        | true => exact .error _
        | false =>
            refine Both.bind (Expression.renderClause_both h (by decide) condition hcondition)
              fun f f' hf => ?_
            exact .ok (h.append hstart hf)

theorem Join.renderAll_both (h : Simulation raw R) :
    ∀ joins : List Join, Join.AllAdmissible raw joins →
      Both R (Join.renderAll joins) (Join.renderAll (Join.inlinedAll joins))
  | [], _ => .ok h.empty
  | join :: joins, hj => by
      rw [Join.inlinedAll, Join.renderAll, Join.renderAll]
      refine Both.bind (Join.render_both h join hj.1) fun f f' hf => ?_
      refine Both.bind (Join.renderAll_both h joins hj.2) fun fs fs' hfs => ?_
      exact .ok (h.append hf hfs)

theorem SortKey.render_both (h : Simulation raw R) :
    ∀ key : SortKey, key.Admissible raw → Both R key.render key.inlined.render
  | ⟨e, direction⟩, he => by
      have hwords : Neutral .outside direction.words.toList := by cases direction <;> decide
      rw [SortKey.inlined, SortKey.render, SortKey.render]
      refine Both.bind (Expression.render_both h e he) fun f f' hf => ?_
      exact .ok (h.append hf (h.neutral hwords))

theorem SortKey.renderAll_both (h : Simulation raw R) :
    ∀ keys : List SortKey, SortKey.AllAdmissible raw keys →
      Both (List.Forall₂ R) (SortKey.renderAll keys)
        (SortKey.renderAll (SortKey.inlinedAll keys))
  | [], _ => .ok .nil
  | key :: keys, hk => by
      rw [SortKey.inlinedAll, SortKey.renderAll, SortKey.renderAll]
      refine Both.bind (SortKey.render_both h key hk.1) fun f f' hf => ?_
      refine Both.bind (SortKey.renderAll_both h keys hk.2) fun fs fs' hfs => ?_
      exact .ok (.cons hf hfs)

/-- A query and the same query with literals are rendered alike. -/
theorem Select.render_both (h : Simulation raw R) :
    ∀ s : Select, s.Admissible raw → Both R s.render s.inlined.render
  | ⟨distinct, columns, table, hint, joins, filter, groupBy, having, orderBy, limit, offset,
      _, _, _⟩, hs => by
      obtain ⟨hcolumns, ⟨hname, hlabel⟩, hjoins, hfilter, hgroupBy, hhaving, horderBy⟩ := hs
      rw [Select.inlined, Select.render, Select.render]
      refine Both.bind (SelectItem.renderAll_both h columns hcolumns) fun cs cs' hcs => ?_
      refine Both.bind (h.hint hint) fun i i' hi => ?_
      refine Both.bind (Join.renderAll_both h joins hjoins) fun js js' hjs => ?_
      refine Both.bind (Expression.renderClause_both h (by decide) filter hfilter)
        fun w w' hw => ?_
      refine Both.bind (Expression.renderAll_both h groupBy hgroupBy) fun gs gs' hgs => ?_
      refine Both.bind (Expression.renderClause_both h (by decide) having hhaving)
        fun v v' hv => ?_
      refine Both.bind (SortKey.renderAll_both h orderBy horderBy) fun os os' hos => ?_
      have hdistinct : R (if distinct then words "distinct " else plain [])
          (if distinct then words "distinct " else plain []) := by
        split
        · exact h.neutral (by decide)
        · exact h.empty
      -- there are as many columns on either side, so both are given or neither is
      have hlist : R (if cs.isEmpty then words "*" else Fragment.commaSeparated cs)
          (if cs'.isEmpty then words "*" else Fragment.commaSeparated cs') := by
        cases hcs with
        | nil => exact h.neutral (by decide)
        | cons hf hfs => exact h.commaSeparated (.cons hf hfs)
      have hselect := h.append (h.append (h.words "select " (by decide)) hdistinct)
        hlist
      have hfrom := h.append (h.append (h.append (h.append hselect
        (h.words " from " (by decide))) (h.name hname)) hi) (h.label hlabel)
      have hgroup := h.append (h.append (h.append hfrom hjs) hw)
        (h.listClause " group by " (by decide) hgs)
      exact .ok (h.append (h.append (h.append hgroup hv)
        (h.listClause " order by " (by decide) hos)) (h.limit limit offset))

end

end SpannerDialect.Sql
