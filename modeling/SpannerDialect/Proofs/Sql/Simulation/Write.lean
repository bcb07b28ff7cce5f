import SpannerDialect.Proofs.Lookup
import SpannerDialect.Proofs.Sql.Simulation.Query
import SpannerDialect.Sql.Rendered

/-! # Statements with and without parameters

    The rows of an insert are put into the order of its first row alike with
    and without parameters, since no column name changes.  So every
    statement is rendered like the same statement with literals for its
    parameters (`Statement.fragment_both`). -/

namespace SpannerDialect.Sql

open Fragment Text

variable {raw : String → List TypedValue → Prop} {R : Fragment → Fragment → Prop}

/-! ## Rows -/

theorem columnNames_inlined (row : List Assignment) :
    columnNames (row.map inlinedAssignment) = columnNames row :=
  map_fst_map_snd Expression.inlined

theorem renderCell_both (h : Simulation raw R) {row : List Assignment}
    (hrow : AssignmentsAdmissible raw row) (column : String) :
    Both R (renderCell row column) (renderCell (row.map inlinedAssignment) column) := by
  rw [renderCell, renderCell, lookup_inlined]
  cases hl : row.lookup column with
  | none => exact .ok h.empty
  | some e => exact Expression.render_both h e (hrow _ (mem_of_lookup hl)).2

theorem renderRow_both (h : Simulation raw R) (table : String) (columns : List String)
    (index : Nat) {row : List Assignment} (hrow : AssignmentsAdmissible raw row) :
    Both R (renderRow table columns index row)
      (renderRow table columns index (row.map inlinedAssignment)) := by
  rw [renderRow, renderRow, columnNames_inlined]
  refine Both.bind_same _ fun _ => ?_
  split
  · refine Both.bind (Both.mapM fun column _ => renderCell_both h hrow column) fun cs cs' hcs => ?_
    exact .ok (h.parenthesized (h.commaSeparated hcs))
  · exact .error _

theorem renderRows_both (h : Simulation raw R) (table : String) (columns : List String)
    (index : Nat) {rows : List (List Assignment)}
    (hrows : ∀ row ∈ rows, AssignmentsAdmissible raw row) :
    Both (List.Forall₂ R) (renderRows table columns index rows)
      (renderRows table columns index (rows.map fun row => row.map inlinedAssignment)) := by
  induction rows generalizing index with
  | nil => exact .ok .nil
  | cons row rows ih =>
      rw [List.map_cons, renderRows, renderRows]
      refine Both.bind (renderRow_both h table columns index (hrows row (List.mem_cons_self ..)))
        fun f f' hf => ?_
      refine Both.bind (ih (index + 1) fun r hr => hrows r (List.mem_cons_of_mem _ hr))
        fun fs fs' hfs => ?_
      exact .ok (.cons hf hfs)

/-! ## Writes -/

/-- An insert and the same insert with literals are rendered alike. -/
theorem Insert.render_both (h : Simulation raw R) (i : Insert) (hi : i.Admissible raw) :
    Both R i.render i.inlined.render := by
  obtain ⟨table, mode, rows, returningId⟩ := i
  obtain ⟨htable, hrows⟩ := hi
  have hmode : Neutral .outside mode.words.toList := by cases mode <;> decide
  cases returningId with
  | true => exact .error _
  | false =>
      cases rows with
      | nil => exact .error _
      | cons first rows =>
          cases first with
          | nil => exact .error _
          | cons a row =>
              have hnames : Neutral .outside (quoteNames (columnNames (a :: row))) := by
                refine neutral_quoteNames fun name hn => ?_
                obtain ⟨b, hb, rfl⟩ := List.mem_map.mp hn
                exact (hrows _ (List.mem_cons_self ..) b hb).1
              -- literals for parameters change no column name
              have hsame := columnNames_inlined (a :: row)
              have hall := renderRows_both h table (columnNames (a :: row)) 0 hrows
              unfold Insert.render Insert.inlined
              simp only [List.map_cons] at hsame hall ⊢
              simp only [hsame]
              refine Both.bind_same _ fun _ => ?_
              refine Both.bind hall fun fs fs' hfs => ?_
              have hhead := h.append (h.append (h.append (h.append (h.append (h.neutral hmode)
                (h.name htable)) (h.words " " (by decide)))
                (h.parenthesized (h.neutral hnames)))
                (h.words " values " (by decide))) (h.commaSeparated hfs)
              exact .ok hhead

theorem renderAssignment_both (h : Simulation raw R) {a : Assignment}
    (ha : PlainName a.1 ∧ a.2.Admissible raw) :
    Both R (renderAssignment a) (renderAssignment (inlinedAssignment a)) := by
  refine Both.bind (Expression.render_both h a.2 ha.2) fun f f' hf => ?_
  exact .ok (h.append (h.append (h.name ha.1) (h.neutral (by decide))) hf)

theorem requiredFilter_both (h : Simulation raw R) {e : Option Expression}
    (he : Expression.OptionAdmissible raw e) :
    Both R (requiredFilter e) (requiredFilter (Expression.inlinedOption e)) := by
  cases e with
  | none => exact .ok (h.neutral (by decide))
  | some e =>
      refine Both.bind (Expression.render_both h e he) fun f f' hf => ?_
      exact .ok (h.append (h.neutral (by decide)) hf)

/-- An update and the same update with literals are rendered alike. -/
theorem Update.render_both (h : Simulation raw R) (u : Update) (hu : u.Admissible raw) :
    Both R u.render u.inlined.render := by
  obtain ⟨table, assignments, filter⟩ := u
  obtain ⟨htable, hassignments, hfilter⟩ := hu
  cases assignments with
  | nil => exact .error _
  | cons a as =>
      have hsame := columnNames_inlined (a :: as)
      have hall : Both (List.Forall₂ R) ((a :: as).mapM renderAssignment)
          (((a :: as).map inlinedAssignment).mapM renderAssignment) := by
        rw [List.mapM_map]
        exact Both.mapM fun b hb => renderAssignment_both h (hassignments b hb)
      unfold Update.render Update.inlined
      simp only [List.map_cons] at hsame hall ⊢
      simp only [hsame]
      refine Both.bind_same _ fun _ => ?_
      refine Both.bind hall fun fs fs' hfs => ?_
      refine Both.bind (requiredFilter_both h hfilter) fun w w' hw => ?_
      exact .ok (h.append (h.append (h.append (h.append (h.neutral (by decide)) (h.name htable))
        (h.neutral (by decide))) (h.commaSeparated hfs)) hw)

/-- A delete and the same delete with literals are rendered alike. -/
theorem Delete.render_both (h : Simulation raw R) (d : Delete) (hd : d.Admissible raw) :
    Both R d.render d.inlined.render := by
  obtain ⟨htable, hfilter⟩ := hd
  refine Both.bind (requiredFilter_both h hfilter) fun w w' hw => ?_
  exact .ok (h.append (h.append (h.neutral (by decide)) (h.name htable)) hw)

/-! ## Statements -/

/-- Every simulation holds between a statement other than DDL and the same
    statement with literals for its parameters. -/
theorem Statement.fragment_both (h : Simulation raw R) {s : Statement} (hk : s.kind ≠ .ddl)
    (hs : s.Admissible raw) : Both R s.fragment s.inlined.fragment := by
  cases s with
  | select s => exact Select.render_both h s hs
  | insert i => exact Insert.render_both h i hs
  | update u => exact Update.render_both h u hs
  | delete d => exact Delete.render_both h d hs
  | ddl sql => exact absurd rfl hk

end SpannerDialect.Sql
