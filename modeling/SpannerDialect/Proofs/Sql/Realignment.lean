import SpannerDialect.Proofs.Sql.Inserts
import SpannerDialect.Proofs.Sql.Placeholders

/-! # Rows in the order of the first one

    The rows of an insert may name its columns in any order.  What is written of a
    row are the expressions that it gives to the columns of the first row, in the
    order of these (`Realigned`).  This says all that a row adds to the SQL
    (`renderRow_eq_ok`), and does not depend on the order within the row
    (`Realigned.of_perm`).  So an insert is one list of columns and one tuple for
    each row, and stays the same when later rows are rearranged
    (`Insert.render_realigned`). -/

namespace SpannerDialect.Sql

open Fragment Text

variable {table : String} {columns : List String} {row row' : List Assignment}

/-! ## Lists of fragments -/

theorem text_commaSeparated (fs : List Fragment) :
    (commaSeparated fs).text = join [',', ' '] (fs.map Fragment.text) := by
  induction fs with
  | nil => rfl
  | cons f fs ih =>
      cases fs with
      | nil => rfl
      | cons g gs =>
          show f.text ++ [',', ' '] ++ (commaSeparated (g :: gs)).text = _
          rw [ih]
          rfl

theorem bindings_commaSeparated (fs : List Fragment) :
    (commaSeparated fs).bindings = fs.flatMap Fragment.bindings := by
  induction fs with
  | nil => rfl
  | cons f fs ih =>
      cases fs with
      | nil => exact (List.append_nil _).symm
      | cons g gs =>
          show f.bindings ++ [] ++ (commaSeparated (g :: gs)).bindings = _
          rw [List.append_nil, ih]
          rfl

/-! ## Rows -/

/-- A row gives one expression to a column, and this is its fragment. -/
def Gives (row : List Assignment) (column : String) (f : Fragment) : Prop :=
  ∃ e, (∀ e', (column, e') ∈ row ↔ e' = e) ∧ e.render = .ok f

/-- A row names each of the columns once, and a tuple holds what it gives to them, in
    the order of the columns. -/
structure Realigned (columns : List String) (row : List Assignment) (tuple : List Fragment) :
    Prop where
  perm : (columnNames row).Perm columns
  gives : List.Forall₂ (Gives row) columns tuple

/-- The order within a row does not matter. -/
theorem Realigned.of_perm {tuple : List Fragment} (h : Realigned columns row tuple)
    (hrow : row.Perm row') : Realigned columns row' tuple where
  perm := (hrow.symm.map Prod.fst).trans h.perm
  gives := by
    refine h.gives.imp fun column f hf => ?_
    obtain ⟨e, he, hrender⟩ := hf
    exact ⟨e, fun e' => hrow.mem_iff.symm.trans (he e'), hrender⟩

theorem Realigned.all_of_perm {rows rows' : List (List Assignment)}
    {tuples : List (List Fragment)} (h : List.Forall₂ (Realigned columns) rows tuples)
    (hrows : List.Forall₂ List.Perm rows rows') :
    List.Forall₂ (Realigned columns) rows' tuples := by
  induction hrows generalizing tuples with
  | nil => exact h
  | cons hrow _ ih =>
      cases h with
      | cons hfirst hlater => exact .cons (hfirst.of_perm hrow) (ih hlater)

/-- What is written for a column is what the row gives to it. -/
theorem renderCell_eq_ok {column : String} {f : Fragment} (hnames : (columnNames row).Nodup)
    (hcolumn : column ∈ columnNames row) :
    renderCell row column = .ok f ↔ Gives row column f := by
  obtain ⟨⟨column, e⟩, ha, rfl⟩ := List.mem_map.mp hcolumn
  have hlookup : ∀ e', (column, e') ∈ row ↔ e' = e := by
    intro e'
    rw [← lookup_eq_some_iff hnames, lookup_of_mem hnames ha, Option.some_inj, eq_comm]
  rw [renderCell, lookup_of_mem hnames ha]
  constructor
  · intro hf
    exact ⟨e, hlookup, hf⟩
  · rintro ⟨e', he', hf⟩
    obtain rfl : e = e' := (he' e).mp ha
    exact hf

theorem cells_eq_ok (hnames : (columnNames row).Nodup)
    (hperm : (columnNames row).Perm columns) {tuple : List Fragment} :
    columns.mapM (renderCell row) = .ok tuple ↔ List.Forall₂ (Gives row) columns tuple := by
  have hnamed : ∀ column ∈ columns, column ∈ columnNames row := fun _ hc => hperm.symm.subset hc
  rw [mapM_eq_ok]
  constructor
  · intro h
    refine ((List.forall₂_and_left _ _).mpr ⟨hnamed, h⟩).imp fun column f hf => ?_
    exact (renderCell_eq_ok hnames hf.1).mp hf.2
  · intro h
    refine ((List.forall₂_and_left _ _).mpr ⟨hnamed, h⟩).imp fun column f hf => ?_
    exact (renderCell_eq_ok hnames hf.1).mpr hf.2

/-- **A row is written as its tuple.** -/
theorem renderRow_eq_ok (hcolumns : columns.Nodup) {index : Nat} {f : Fragment} :
    renderRow table columns index row = .ok f ↔
      ∃ tuple, Realigned columns row tuple ∧ f = parenthesized (commaSeparated tuple) := by
  rw [renderRow_cells_iff hcolumns]
  constructor
  · rintro ⟨hperm, tuple, hcells, rfl⟩
    have hnames : (columnNames row).Nodup := hperm.nodup_iff.mpr hcolumns
    exact ⟨tuple, ⟨hperm, (cells_eq_ok hnames hperm).mp hcells⟩, rfl⟩
  · rintro ⟨tuple, ⟨hperm, hgives⟩, rfl⟩
    have hnames : (columnNames row).Nodup := hperm.nodup_iff.mpr hcolumns
    exact ⟨hperm, tuple, (cells_eq_ok hnames hperm).mpr hgives, rfl⟩

/-- Rows are written as their tuples; their place does not matter. -/
theorem renderRows_eq_ok (hcolumns : columns.Nodup) {index : Nat} {rows : List (List Assignment)}
    {fs : List Fragment} :
    renderRows table columns index rows = .ok fs ↔
      ∃ tuples, List.Forall₂ (Realigned columns) rows tuples ∧
        fs = tuples.map fun tuple => parenthesized (commaSeparated tuple) := by
  induction rows generalizing index fs with
  | nil =>
      rw [renderRows, ok_eq_ok]
      constructor
      · rintro rfl
        exact ⟨[], .nil, rfl⟩
      · rintro ⟨tuples, htuples, rfl⟩
        cases htuples
        rfl
  | cons row rows ih =>
      simp only [renderRows, bind_eq_ok, renderRow_eq_ok hcolumns, ih]
      constructor
      · rintro ⟨f, ⟨tuple, htuple, rfl⟩, gs, ⟨tuples, htuples, rfl⟩, hfs⟩
        exact ⟨tuple :: tuples, .cons htuple htuples, (Except.ok.inj hfs).symm⟩
      · rintro ⟨tuples, htuples, rfl⟩
        cases htuples with
        | cons htuple htuples => exact ⟨_, ⟨_, htuple, rfl⟩, _, ⟨_, htuples, rfl⟩, rfl⟩

/-! ## Inserts -/

/-- The fragment of an insert of some tuples. -/
def insertOf (table : String) (mode : InsertMode) (columns : List String)
    (tuples : List (List Fragment)) : Fragment :=
  words mode.words ++ nameFragment table ++ words " " ++
    parenthesized (plain (quoteNames columns)) ++ words " values " ++
    commaSeparated (tuples.map fun tuple => parenthesized (commaSeparated tuple))

/-- The values of a row in SQL. -/
def tupleText (tuple : List Fragment) : List Char :=
  '(' :: join [',', ' '] (tuple.map Fragment.text) ++ [')']

theorem text_parenthesized (f : Fragment) : (parenthesized f).text = '(' :: f.text ++ [')'] :=
  rfl

theorem bindings_parenthesized (f : Fragment) : (parenthesized f).bindings = f.bindings :=
  List.append_nil _

theorem text_insertOf (mode : InsertMode) (tuples : List (List Fragment)) :
    (insertOf table mode columns tuples).text =
      mode.words.toList ++ quoteName table ++ " (".toList ++ quoteNames columns ++
        ") values ".toList ++ join [',', ' '] (tuples.map tupleText) := by
  have htuple : ∀ tuple : List Fragment,
      (parenthesized (commaSeparated tuple)).text = tupleText tuple := by
    intro tuple
    rw [text_parenthesized, text_commaSeparated, tupleText]
  have hstart : (words mode.words ++ nameFragment table ++ words " " ++
      parenthesized (plain (quoteNames columns)) ++ words " values ").text =
      mode.words.toList ++ quoteName table ++ " (".toList ++ quoteNames columns ++
        ") values ".toList := by
    simp [words, nameFragment, text_parenthesized]
  rw [insertOf, text_append, hstart, text_commaSeparated, List.map_map]
  simp only [Function.comp_def, htuple]

theorem bindings_insertOf (mode : InsertMode) (tuples : List (List Fragment)) :
    (insertOf table mode columns tuples).bindings =
      tuples.flatMap fun tuple => tuple.flatMap Fragment.bindings := by
  have htuple : ∀ tuple : List Fragment,
      (parenthesized (commaSeparated tuple)).bindings = tuple.flatMap Fragment.bindings := by
    intro tuple
    rw [bindings_parenthesized, bindings_commaSeparated]
  have hstart : (words mode.words ++ nameFragment table ++ words " " ++
      parenthesized (plain (quoteNames columns)) ++ words " values ").bindings = [] := rfl
  rw [insertOf, bindings_append, hstart, List.nil_append, bindings_commaSeparated,
    List.flatMap_map]
  simp only [htuple]

namespace Insert

/-- An insert is written as the tuples of its rows. -/
theorem render_cons_eq_ok {mode : InsertMode} {first : List Assignment}
    {rest : List (List Assignment)} {f : Fragment} :
    (Insert.mk table mode (first :: rest) false).render = .ok f ↔
      first ≠ [] ∧ (columnNames first).Nodup ∧
        ∃ tuples, List.Forall₂ (Realigned (columnNames first)) (first :: rest) tuples ∧
          f = insertOf table mode (columnNames first) tuples := by
  rw [render_rows_iff]
  constructor
  · rintro ⟨hne, hnodup, fs, hfs, rfl⟩
    obtain ⟨tuples, htuples, rfl⟩ := (renderRows_eq_ok hnodup).mp hfs
    exact ⟨hne, hnodup, tuples, htuples, rfl⟩
  · rintro ⟨hne, hnodup, tuples, htuples, rfl⟩
    exact ⟨hne, hnodup, _, (renderRows_eq_ok hnodup).mpr ⟨tuples, htuples, rfl⟩, rfl⟩

/-- **The rows of an insert are put into the order of the first one.**  The SQL of an
    insert has one list of columns, that of the first row, and one tuple for each
    row.  A row names just these columns, each once, and its tuple holds the
    expressions that it gives to them, in their order; the bindings are those of
    these expressions, row by row.  So an insert is rendered alike when the later
    rows are rearranged. -/
theorem render_realigned (config : Config) (i : Insert) (r : Rendered)
    (h : (Statement.insert i).render config = .ok r) :
    ∃ first rest tuples, i.rows = first :: rest ∧
      List.Forall₂ (Realigned (columnNames first)) i.rows tuples ∧
      r.sql = i.mode.words.toList ++ quoteName i.table ++ " (".toList ++
        quoteNames (columnNames first) ++ ") values ".toList ++
        join [',', ' '] (tuples.map tupleText) ∧
      r.bindings = (tuples.flatMap fun tuple => tuple.flatMap Fragment.bindings) ∧
      ∀ rest', List.Forall₂ List.Perm rest rest' →
        (Statement.insert { i with rows := first :: rest' }).render config = .ok r := by
  obtain ⟨f, hf, rfl⟩ := Statement.render_eq_ok h
  obtain ⟨columns, hshape⟩ := exists_render_iff.mp ⟨f, hf⟩
  obtain ⟨table, mode, rows, returningId⟩ := i
  obtain rfl : returningId = false := hshape.returningId
  cases rows with
  | nil => exact absurd rfl hshape.rows_ne
  | cons first rest =>
      obtain ⟨hne, hnodup, tuples, htuples, rfl⟩ := render_cons_eq_ok.mp hf
      refine ⟨first, rest, tuples, rfl, htuples, text_insertOf mode tuples,
        bindings_insertOf mode tuples, fun rest' hrest => ?_⟩
      -- the first row stays, and the rearranged ones have the tuples that they had
      cases htuples with
      | @cons _ tuple _ tuples hfirst hlater =>
          have hrender : (Insert.mk table mode (first :: rest') false).render =
              .ok (insertOf table mode (columnNames first) (tuple :: tuples)) :=
            render_cons_eq_ok.mpr
              ⟨hne, hnodup, tuple :: tuples, .cons hfirst (Realigned.all_of_perm hlater hrest), rfl⟩
          rw [Statement.render, Statement.fragment, hrender]
          rfl

/-- Two notes.  The second one names its columns the other way round, and both have
    an expression with several parameters. -/
def jumbledNotes : Insert :=
  { Insert.into "Note" with
    rows :=
      [[("id", .bind (textValue "1")),
          ("body", .raw "concat(?, ?)" [textValue "a", textValue "?"])],
        [("body", .call "concat" [.bind (textValue "b"), .bind (textValue "c")]),
          ("id", .bind (textValue "2"))]] }

theorem render_realigned_jumbledNotes :
    ∃ first second r, jumbledNotes.rows = [first, second] ∧
      (Statement.insert jumbledNotes).render {} = .ok r ∧
      r.bindings = ["1", "a", "?", "2", "b", "c"].map textValue ∧
      (Statement.insert { jumbledNotes with rows := [first, second.reverse] }).render {} =
        .ok r := by
  obtain ⟨first, rest, -, hrows, -, -, -, hsame⟩ :=
    render_realigned {} jumbledNotes _ rfl
  obtain ⟨rfl, rfl⟩ := List.cons.inj hrows
  exact ⟨_, _, _, rfl, rfl, rfl, hsame _ (.cons (List.reverse_perm _).symm .nil)⟩

end Insert

end SpannerDialect.Sql
