import SpannerDialect.Proofs.Sql.Inserts
import SpannerDialect.Proofs.Sql.Placeholders

/-! # Statements that have SQL

    What makes rendering fail is the shape of a statement, never a value.  Of its
    queries only those count that stand where something is rendered
    (`Statement.queries`): the condition of a cross join and what is looked for in
    an empty list are passed over with all that they hold.  One induction over
    expressions and queries shows that a query is rendered just when it and all
    queries inside have their shape (`Select.exists_render_iff`); the writes add
    the shapes of their own (`Statement.rendered_iff_shaped`). -/

namespace SpannerDialect.Sql

open Fragment

/-! ## Queries that are rendered -/

mutual

/-- The queries that are rendered with an expression. -/
def Expression.queries : Expression → List Select
  | .all => []
  | .column _ => []
  | .bind _ => []
  | .literal _ => []
  | .raw _ _ => []
  | .call _ args => Expression.queriesAll args
  | .nested e => e.queries
  | .existsIn query _ => query.queries
  | .subquery query => query.queries
  | .and l r => l.queries ++ r.queries
  | .or l r => l.queries ++ r.queries
  | .not e => e.queries
  | .compare _ l r => l.queries ++ r.queries
  | .isNull e _ => e.queries
  | .inList _ [] _ => []
  | .inList e (item :: items) _ => e.queries ++ (item.queries ++ Expression.queriesAll items)
  | .inUnnest e array _ => e.queries ++ array.queries
  | .between e low high _ => e.queries ++ (low.queries ++ high.queries)
  | .arithmetic _ l r => l.queries ++ r.queries

/-- The queries that are rendered with some expressions. -/
def Expression.queriesAll : List Expression → List Select
  | [] => []
  | e :: es => e.queries ++ Expression.queriesAll es

/-- The queries that are rendered with an expression, if there is one. -/
def Expression.queriesOption : Option Expression → List Select
  | none => []
  | some e => e.queries

/-- The queries that are rendered with a column of a result. -/
def SelectItem.queries : SelectItem → List Select
  | ⟨e, _⟩ => e.queries

/-- The queries that are rendered with columns of a result. -/
def SelectItem.queriesAll : List SelectItem → List Select
  | [] => []
  | item :: items => item.queries ++ SelectItem.queriesAll items

/-- The queries that are rendered with a join. -/
def Join.queries : Join → List Select
  | ⟨kind, _, condition⟩ => if kind = .cross then [] else Expression.queriesOption condition

/-- The queries that are rendered with some joins. -/
def Join.queriesAll : List Join → List Select
  | [] => []
  | join :: joins => join.queries ++ Join.queriesAll joins

/-- The queries that are rendered with a sort key. -/
def SortKey.queries : SortKey → List Select
  | ⟨e, _⟩ => e.queries

/-- The queries that are rendered with some sort keys. -/
def SortKey.queriesAll : List SortKey → List Select
  | [] => []
  | key :: keys => key.queries ++ SortKey.queriesAll keys

/-- A query and the queries that are rendered with it. -/
def Select.queries : Select → List Select
  | ⟨distinct, columns, table, hint, joins, filter, groupBy, having, orderBy, limit, offset,
      lock, staleness, dataBoost⟩ =>
    ⟨distinct, columns, table, hint, joins, filter, groupBy, having, orderBy, limit, offset,
      lock, staleness, dataBoost⟩ ::
    (SelectItem.queriesAll columns ++ (Join.queriesAll joins ++
      (Expression.queriesOption filter ++ (Expression.queriesAll groupBy ++
        (Expression.queriesOption having ++ SortKey.queriesAll orderBy)))))

end

/-- The queries that are rendered with a statement. -/
def Statement.queries : Statement → List Select
  | .select s => s.queries
  | .insert i => i.rows.flatten.flatMap fun a => a.2.queries
  | .update u => u.assignments.flatMap (fun a => a.2.queries) ++ Expression.queriesOption u.filter
  | .delete d => Expression.queriesOption d.filter
  | .ddl _ => []

/-! ## Shapes -/

/-- A letter or an underscore. -/
def StartsName (c : Char) : Prop :=
  ('A' ≤ c ∧ c ≤ 'Z') ∨ ('a' ≤ c ∧ c ≤ 'z') ∨ c = '_'

/-- A name of letters, digits and underscores that does not start with a digit. -/
def IsIndexName (name : String) : Prop :=
  ∃ c cs, name.toList = c :: cs ∧ StartsName c ∧ ∀ d ∈ cs, StartsName d ∨ ('0' ≤ d ∧ d ≤ '9')

/-- A query with a hint that the backend knows, if any, and with a condition on each
    join that is no cross join. -/
structure Select.Shaped (s : Select) : Prop where
  hint : ∀ hint ∈ s.hint, hint.kind = .force ∧ IsIndexName hint.index
  joins : ∀ join ∈ s.joins, join.kind ≠ .cross → join.condition ≠ none

/-- An insert of rows that give values to the same columns, each row one to each of
    them. -/
structure Insert.Shaped (i : Insert) : Prop where
  returningId : i.returningId = false
  rows_ne : i.rows ≠ []
  first_ne : ∀ row ∈ i.rows.head?, row ≠ []
  nodup : ∀ row ∈ i.rows, (columnNames row).Nodup
  same : ∀ row ∈ i.rows, ∀ row' ∈ i.rows, ∀ c, c ∈ columnNames row ↔ c ∈ columnNames row'

/-- An update of some columns, each of them once. -/
structure Update.Shaped (u : Update) : Prop where
  assignments_ne : u.assignments ≠ []
  nodup : (columnNames u.assignments).Nodup

/-- A statement whose own shape is in order; queries are looked at apart. -/
def Statement.Shaped : Statement → Prop
  | .insert i => i.Shaped
  | .update u => u.Shaped
  | .select _ | .delete _ | .ddl _ => True

theorem isAlpha_or_iff {c : Char} : (c.isAlpha || c == '_') = true ↔ StartsName c := by
  have hupper : c.isUpper = true ↔ 'A' ≤ c ∧ c ≤ 'Z' := decide_eq_true_iff
  have hlower : c.isLower = true ↔ 'a' ≤ c ∧ c ≤ 'z' :=
    Bool.and_eq_true_iff.trans (and_congr decide_eq_true_iff decide_eq_true_iff)
  show (c.isUpper || c.isLower || c == '_') = true ↔ _
  rw [Bool.or_eq_true, Bool.or_eq_true, hupper, hlower, beq_iff_eq, or_assoc, StartsName]

theorem isAlphanum_or_iff {c : Char} :
    (c.isAlphanum || c == '_') = true ↔ StartsName c ∨ ('0' ≤ c ∧ c ≤ '9') := by
  have hdigit : c.isDigit = true ↔ '0' ≤ c ∧ c ≤ '9' :=
    Bool.and_eq_true_iff.trans (and_congr decide_eq_true_iff decide_eq_true_iff)
  show (c.isAlpha || c.isDigit || c == '_') = true ↔ _
  rw [Bool.or_right_comm, Bool.or_eq_true, isAlpha_or_iff, hdigit]

theorem isHintName_iff {name : String} : isHintName name = true ↔ IsIndexName name := by
  rw [isHintName, IsIndexName]
  cases name.toList with
  | nil => simp
  | cons c cs =>
      simp only [Bool.and_eq_true, List.all_eq_true, isAlpha_or_iff, isAlphanum_or_iff]
      constructor
      · rintro ⟨hc, hcs⟩
        exact ⟨c, cs, rfl, hc, hcs⟩
      · rintro ⟨_, _, heq, hc, hcs⟩
        cases heq
        exact ⟨hc, hcs⟩

theorem exists_hintFragment_iff {hint : Option IndexHint} :
    (∃ f, hintFragment hint = .ok f) ↔
      ∀ h ∈ hint, h.kind = .force ∧ IsIndexName h.index := by
  rcases hint with _ | ⟨kind, index⟩
  · simp [hintFragment]
  · cases kind with
    | force =>
        rw [hintFragment]
        by_cases hindex : isHintName index = true
        · simp [hindex, ← isHintName_iff]
        · simp [hindex, ← isHintName_iff]
    | use => simp [hintFragment]
    | ignore => simp [hintFragment]

/-! ## Expressions and queries -/

/-- All of some queries have their shape. -/
def AllShaped (queries : List Select) : Prop :=
  ∀ s ∈ queries, s.Shaped

theorem allShaped_nil : AllShaped [] :=
  List.forall_mem_nil _

theorem allShaped_cons {s : Select} {ss : List Select} :
    AllShaped (s :: ss) ↔ s.Shaped ∧ AllShaped ss :=
  List.forall_mem_cons

theorem allShaped_append {as bs : List Select} :
    AllShaped (as ++ bs) ↔ AllShaped as ∧ AllShaped bs :=
  List.forall_mem_append

/-- What is always rendered asks nothing of any query. -/
theorem exists_ok_iff {f : Fragment} :
    (∃ g, (.ok f : Except Error Fragment) = .ok g) ↔ AllShaped [] :=
  iff_of_true ⟨f, rfl⟩ allShaped_nil

/-- Two parts side by side are rendered when both are. -/
theorem exists_both_iff {α β γ : Type} {x : Except Error α} {y : Except Error β} {g : α → β → γ}
    {as bs : List Select} (hx : (∃ a, x = .ok a) ↔ AllShaped as)
    (hy : (∃ b, y = .ok b) ↔ AllShaped bs) :
    (∃ c, (x >>= fun a => y >>= fun b => pure (g a b)) = .ok c) ↔ AllShaped (as ++ bs) := by
  rw [allShaped_append]
  exact exists_bind_iff hx fun _ => exists_bind_pure_eq_ok.trans hy

/-- A literal of a value can always be written. -/
theorem exists_render_literal (v : TypedValue) : ∃ f, (Expression.literal v).render = .ok f := by
  obtain ⟨text, htext, -⟩ := v.exists_literal
  rw [Expression.render, htext]
  exact ⟨_, rfl⟩

mutual

/-- **An expression is rendered just when the queries inside have their shape.** -/
theorem Expression.exists_render_iff :
    ∀ e : Expression, (∃ f, e.render = .ok f) ↔ AllShaped e.queries
  | .all => exists_ok_iff
  | .column _ => exists_ok_iff
  | .bind _ => exists_ok_iff
  | .literal v => iff_of_true (exists_render_literal v) allShaped_nil
  | .raw _ _ => exists_ok_iff
  | .call _ args => by
      rw [Expression.render, Expression.queries, exists_bind_pure_eq_ok]
      exact Expression.exists_renderAll_iff args
  | .nested e => by
      rw [Expression.render, Expression.queries, exists_bind_pure_eq_ok]
      exact Expression.exists_render_iff e
  | .existsIn query _ => by
      rw [Expression.render, Expression.queries, exists_bind_pure_eq_ok]
      exact Select.exists_render_iff query
  | .subquery query => by
      rw [Expression.render, Expression.queries, exists_bind_pure_eq_ok]
      exact Select.exists_render_iff query
  | .and l r => by
      rw [Expression.render, Expression.queries]
      exact exists_both_iff (Expression.exists_render_iff l) (Expression.exists_render_iff r)
  | .or l r => by
      rw [Expression.render, Expression.queries]
      exact exists_both_iff (Expression.exists_render_iff l) (Expression.exists_render_iff r)
  | .not e => by
      rw [Expression.render, Expression.queries, exists_bind_pure_eq_ok]
      exact Expression.exists_render_iff e
  | .compare _ l r => by
      rw [Expression.render, Expression.queries]
      exact exists_both_iff (Expression.exists_render_iff l) (Expression.exists_render_iff r)
  | .isNull e _ => by
      rw [Expression.render, Expression.queries, exists_bind_pure_eq_ok]
      exact Expression.exists_render_iff e
  -- what is looked for in an empty list is not rendered
  | .inList _ [] _ => exists_ok_iff
  | .inList e (item :: items) _ => by
      rw [Expression.render, Expression.queries, allShaped_append]
      refine exists_bind_iff (Expression.exists_render_iff e) fun _ => ?_
      exact exists_both_iff (Expression.exists_render_iff item)
        (Expression.exists_renderAll_iff items)
  | .inUnnest e array _ => by
      rw [Expression.render, Expression.queries]
      exact exists_both_iff (Expression.exists_render_iff e) (Expression.exists_render_iff array)
  | .between e low high _ => by
      rw [Expression.render, Expression.queries, allShaped_append]
      refine exists_bind_iff (Expression.exists_render_iff e) fun _ => ?_
      exact exists_both_iff (Expression.exists_render_iff low) (Expression.exists_render_iff high)
  | .arithmetic _ l r => by
      rw [Expression.render, Expression.queries]
      exact exists_both_iff (Expression.exists_render_iff l) (Expression.exists_render_iff r)

theorem Expression.exists_renderAll_iff :
    ∀ es : List Expression,
      (∃ fs, Expression.renderAll es = .ok fs) ↔ AllShaped (Expression.queriesAll es)
  | [] => iff_of_true ⟨_, rfl⟩ allShaped_nil
  | e :: es => by
      rw [Expression.renderAll, Expression.queriesAll]
      exact exists_both_iff (Expression.exists_render_iff e) (Expression.exists_renderAll_iff es)

theorem Expression.exists_renderClause_iff (start : String) :
    ∀ e : Option Expression,
      (∃ f, Expression.renderClause start e = .ok f) ↔ AllShaped (Expression.queriesOption e)
  | none => exists_ok_iff
  | some e => by
      rw [Expression.renderClause, Expression.queriesOption, exists_bind_pure_eq_ok]
      exact Expression.exists_render_iff e

theorem SelectItem.exists_render_iff :
    ∀ item : SelectItem, (∃ f, item.render = .ok f) ↔ AllShaped item.queries
  | ⟨e, _⟩ => by
      rw [SelectItem.render, SelectItem.queries, exists_bind_pure_eq_ok]
      exact Expression.exists_render_iff e

theorem SelectItem.exists_renderAll_iff :
    ∀ items : List SelectItem,
      (∃ fs, SelectItem.renderAll items = .ok fs) ↔ AllShaped (SelectItem.queriesAll items)
  | [] => iff_of_true ⟨_, rfl⟩ allShaped_nil
  | item :: items => by
      rw [SelectItem.renderAll, SelectItem.queriesAll]
      exact exists_both_iff (SelectItem.exists_render_iff item)
        (SelectItem.exists_renderAll_iff items)

theorem Join.exists_render_iff :
    ∀ join : Join, (∃ f, join.render = .ok f) ↔
      (join.kind ≠ .cross → join.condition ≠ none) ∧ AllShaped join.queries
  | ⟨kind, table, condition⟩ => by
      rw [Join.render, Join.queries]
      by_cases hcross : kind = .cross
      · rw [if_pos hcross, if_pos hcross]
        exact iff_of_true ⟨_, rfl⟩ ⟨fun h => absurd hcross h, allShaped_nil⟩
      · rw [if_neg hcross, if_neg hcross]
        cases hnone : condition.isNone with
        | true =>
            refine iff_of_false ?_ fun h => h.1 hcross (Option.isNone_iff_eq_none.mp hnone)
            rintro ⟨f, hf⟩
            cases hf
        | false =>
            have hsome : condition ≠ none := by
              rintro rfl
              cases hnone
            rw [if_neg Bool.false_ne_true, exists_bind_pure_eq_ok]
            exact (Expression.exists_renderClause_iff " on " condition).trans
              (and_iff_right fun _ => hsome).symm

theorem Join.exists_renderAll_iff :
    ∀ joins : List Join, (∃ f, Join.renderAll joins = .ok f) ↔
      (∀ join ∈ joins, join.kind ≠ .cross → join.condition ≠ none) ∧
        AllShaped (Join.queriesAll joins)
  | [] => by simp [Join.renderAll, Join.queriesAll, allShaped_nil]
  | join :: joins => by
      rw [Join.renderAll, Join.queriesAll, allShaped_append, List.forall_mem_cons, and_and_and_comm]
      exact exists_bind_iff (Join.exists_render_iff join) fun _ =>
        exists_bind_pure_eq_ok.trans (Join.exists_renderAll_iff joins)

theorem SortKey.exists_render_iff :
    ∀ key : SortKey, (∃ f, key.render = .ok f) ↔ AllShaped key.queries
  | ⟨e, _⟩ => by
      rw [SortKey.render, SortKey.queries, exists_bind_pure_eq_ok]
      exact Expression.exists_render_iff e

theorem SortKey.exists_renderAll_iff :
    ∀ keys : List SortKey,
      (∃ fs, SortKey.renderAll keys = .ok fs) ↔ AllShaped (SortKey.queriesAll keys)
  | [] => iff_of_true ⟨_, rfl⟩ allShaped_nil
  | key :: keys => by
      rw [SortKey.renderAll, SortKey.queriesAll]
      exact exists_both_iff (SortKey.exists_render_iff key) (SortKey.exists_renderAll_iff keys)

/-- **A query is rendered just when it and the queries inside have their shape.** -/
theorem Select.exists_render_iff :
    ∀ s : Select, (∃ f, s.render = .ok f) ↔ AllShaped s.queries
  | ⟨distinct, columns, table, hint, joins, filter, groupBy, having, orderBy, limit, offset,
      lock, staleness, dataBoost⟩ => by
      rw [Select.render, Select.queries]
      refine (exists_bind_iff (SelectItem.exists_renderAll_iff columns) fun _ =>
        exists_bind_iff exists_hintFragment_iff fun _ =>
        exists_bind_iff (Join.exists_renderAll_iff joins) fun _ =>
        exists_bind_iff (Expression.exists_renderClause_iff " where " filter) fun _ =>
        exists_bind_iff (Expression.exists_renderAll_iff groupBy) fun _ =>
        exists_both_iff (Expression.exists_renderClause_iff " having " having)
          (SortKey.exists_renderAll_iff orderBy)).trans ?_
      simp only [allShaped_cons, allShaped_append]
      constructor
      · rintro ⟨hcolumns, hhint, ⟨hconditions, hjoins⟩, hfilter, hgroupBy, hrest⟩
        exact ⟨⟨hhint, hconditions⟩, hcolumns, hjoins, hfilter, hgroupBy, hrest⟩
      · rintro ⟨⟨hhint, hconditions⟩, hcolumns, hjoins, hfilter, hgroupBy, hrest⟩
        exact ⟨hcolumns, hhint, ⟨hconditions, hjoins⟩, hfilter, hgroupBy, hrest⟩

end

/-! ## Statements -/

theorem allShaped_flatMap {α : Type} {xs : List α} {f : α → List Select} :
    AllShaped (xs.flatMap f) ↔ ∀ x ∈ xs, AllShaped (f x) := by
  simp only [AllShaped, List.mem_flatMap]
  constructor
  · intro h x hx s hs
    exact h s ⟨x, hx, hs⟩
  · rintro h s ⟨x, hx, hs⟩
    exact h x hx s hs

/-- Assignments are rendered when their expressions are. -/
theorem exists_assigned_iff {row : List Assignment} :
    (∀ a ∈ row, ∃ f, a.2.render = .ok f) ↔ AllShaped (row.flatMap fun a => a.2.queries) := by
  rw [allShaped_flatMap]
  exact forall₂_congr fun a _ => Expression.exists_render_iff a.2

/-- Rows fill the same columns just when they give values to the same ones, each row
    one to each. -/
theorem Insert.exists_wellShaped_iff {i : Insert} :
    (∃ columns, i.WellShaped columns) ↔
      i.Shaped ∧ ∀ row ∈ i.rows, ∀ a ∈ row, ∃ f, a.2.render = .ok f := by
  constructor
  · rintro ⟨columns, hshape⟩
    refine ⟨⟨hshape.returningId, hshape.rows_ne, ?_, ?_, ?_⟩, fun row hrow =>
      (hshape.fills row hrow).renders⟩
    · rintro row hrow rfl
      have hlength := (hshape.fills [] (List.mem_of_mem_head? hrow)).length_eq
      exact hshape.columns_ne (List.length_eq_zero_iff.mp hlength.symm)
    · intro row hrow
      exact (hshape.fills row hrow).perm.nodup_iff.mpr hshape.columns_nodup
    · intro row hrow row' hrow' c
      rw [(hshape.fills row hrow).perm.mem_iff, (hshape.fills row' hrow').perm.mem_iff]
  · rintro ⟨hshape, hrenders⟩
    cases hrows : i.rows with
    | nil => exact absurd hrows hshape.rows_ne
    | cons first rows =>
        have hfirst : first ∈ i.rows := hrows ▸ List.mem_cons_self ..
        have hne : first ≠ [] := hshape.first_ne first (hrows ▸ rfl)
        refine ⟨columnNames first, hshape.returningId, hshape.rows_ne,
          fun h => hne (List.map_eq_nil_iff.mp h), hshape.nodup first hfirst, fun row hrow => ?_⟩
        refine ⟨?_, hrenders row hrow⟩
        exact (List.perm_ext_iff_of_nodup (hshape.nodup row hrow) (hshape.nodup first hfirst)).mpr
          (hshape.same row hrow first hfirst)

theorem exists_checkDistinct_iff {table : String} {columns : List String} :
    (∃ u, checkDistinct table columns = .ok u) ↔ columns.Nodup := by
  simp only [checkDistinct_eq_ok, exists_const]

theorem exists_requiredFilter_iff :
    ∀ e : Option Expression,
      (∃ f, requiredFilter e = .ok f) ↔ AllShaped (Expression.queriesOption e)
  | none => exists_ok_iff
  | some e => by
      rw [requiredFilter, Expression.queriesOption, exists_bind_pure_eq_ok]
      exact Expression.exists_render_iff e

theorem Update.exists_render_iff {u : Update} :
    (∃ f, u.render = .ok f) ↔ u.Shaped ∧
      AllShaped (u.assignments.flatMap (fun a => a.2.queries) ++
        Expression.queriesOption u.filter) := by
  obtain ⟨table, assignments, filter⟩ := u
  cases assignments with
  | nil =>
      refine iff_of_false ?_ fun h => h.1.assignments_ne rfl
      rintro ⟨f, hf⟩
      cases hf
  | cons a as =>
      have hassigned : (∃ fs, (a :: as).mapM renderAssignment = .ok fs) ↔
          AllShaped ((a :: as).flatMap fun a => a.2.queries) := by
        rw [exists_mapM_eq_ok, ← exists_assigned_iff]
        exact forall₂_congr fun a _ => exists_bind_pure_eq_ok
      have hrender : (Update.mk table (a :: as) filter).render = (do
          checkDistinct table (columnNames (a :: as))
          let fs ← (a :: as).mapM renderAssignment
          let f ← requiredFilter filter
          return words "update " ++ nameFragment table ++ words " set " ++
            commaSeparated fs ++ f) := rfl
      rw [hrender]
      refine (exists_bind_iff exists_checkDistinct_iff fun _ =>
        exists_both_iff hassigned (exists_requiredFilter_iff filter)).trans ?_
      exact and_congr_left fun _ => ⟨fun h => ⟨List.cons_ne_nil a as, h⟩, fun h => h.nodup⟩

/-- **Rendering fails on the shape of a statement and on nothing else.**  A statement
    has SQL just when its own shape and that of each query in a rendered place are in
    order.  No value makes it fail, neither as a literal nor as a parameter. -/
theorem Statement.rendered_iff_shaped (config : Config) :
    (∀ s : Statement, (∃ r, s.render config = .ok r) ↔
      s.Shaped ∧ ∀ query ∈ s.queries, query.Shaped) ∧
    ∀ v : TypedValue, (∃ f, (Expression.literal v).render = .ok f) ∧
      ∃ f, (Expression.bind v).render = .ok f := by
  refine ⟨fun s => ?_, fun v => ⟨exists_render_literal v, _, rfl⟩⟩
  have hfragment : (∃ r, s.render config = .ok r) ↔ ∃ f, s.fragment = .ok f :=
    exists_bind_pure_eq_ok
  rw [hfragment]
  cases s with
  | select s => exact (Select.exists_render_iff s).trans (and_iff_right trivial).symm
  | insert i =>
      have hrows : (∀ row ∈ i.rows, ∀ a ∈ row, ∃ f, a.2.render = .ok f) ↔
          AllShaped (i.rows.flatten.flatMap fun a => a.2.queries) := by
        rw [← exists_assigned_iff]
        constructor
        · intro h a ha
          obtain ⟨row, hrow, ha⟩ := List.mem_flatten.mp ha
          exact h row hrow a ha
        · intro h row hrow a ha
          exact h a (List.mem_flatten_of_mem hrow ha)
      rw [Statement.fragment, Insert.exists_render_iff, Insert.exists_wellShaped_iff, hrows]
      exact Iff.rfl
  | update u => exact Update.exists_render_iff
  | delete d =>
      rw [Statement.fragment, Delete.render, exists_bind_pure_eq_ok, exists_requiredFilter_iff]
      exact (and_iff_right trivial).symm
  | ddl sql => exact iff_of_true ⟨_, rfl⟩ ⟨trivial, allShaped_nil⟩

end SpannerDialect.Sql
