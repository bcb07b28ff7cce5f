import Mathlib.Algebra.BigOperators.Group.List.Basic
import Mathlib.Algebra.Group.Action.Defs
import Mathlib.Data.List.Perm.Subperm
import SpannerDialect.Proofs.Except
import SpannerDialect.Proofs.Sql.Simulation.Write

/-! # Inserts that have SQL

    The first row of an insert gives the columns; every other row may name
    them in an order of its own.  So whether an insert has SQL does not depend
    on which row comes first: all rows fill the same columns, whatever their
    order, and each row is checked alone (`Insert.exists_render_iff`).  Any
    part of the rows then makes an insert that has SQL as well
    (`Insert.WellShaped.part`). -/

namespace SpannerDialect.Sql

open Fragment

variable {table : String} {columns : List String} {row : List Assignment}

/-! ## Names given once -/

theorem firstRepeated?_eq_none {seen : List String} :
    firstRepeated? seen columns = none ↔ columns.Nodup ∧ ∀ c ∈ columns, c ∉ seen := by
  induction columns generalizing seen with
  | nil => simp [firstRepeated?]
  | cons c cs ih =>
      rw [firstRepeated?, List.nodup_cons, List.forall_mem_cons]
      by_cases hc : c ∈ seen
      · simp [hc]
      · rw [if_neg hc, ih]
        -- the names that have come before are the older ones and `c`
        simp only [List.mem_cons, not_or]
        constructor
        · rintro ⟨hcs, h⟩
          exact ⟨⟨fun hmem => (h c hmem).1 rfl, hcs⟩, hc, fun d hd => (h d hd).2⟩
        · rintro ⟨⟨hfresh, hcs⟩, -, h⟩
          exact ⟨hcs, fun d hd => ⟨fun hdc => hfresh (hdc ▸ hd), h d hd⟩⟩

theorem checkDistinct_eq_ok {u : Unit} :
    checkDistinct table columns = .ok u ↔ columns.Nodup := by
  have hnone : firstRepeated? [] columns = none ↔ columns.Nodup ∧ ∀ c ∈ columns, c ∉ [] :=
    firstRepeated?_eq_none
  rw [checkDistinct]
  cases hf : firstRepeated? [] columns with
  | none =>
      simp only [hf, true_iff] at hnone
      simp [hnone.1]
  | some c =>
      have hrepeated : ¬ columns.Nodup := by
        intro hnodup
        have := hnone.mpr ⟨hnodup, by simp⟩
        simp [hf] at this
      simp [hrepeated]

/-! ## Rows of one shape -/

/-- A row gives each of the columns one value, and the values have SQL. -/
structure Fills (columns : List String) (row : List Assignment) : Prop where
  perm : (columnNames row).Perm columns
  renders : ∀ a ∈ row, ∃ f, a.2.render = .ok f

theorem Fills.length_eq (h : Fills columns row) : row.length = columns.length := by
  rw [← h.perm.length_eq, columnNames, List.length_map]

/-- Names given once are the columns, in some order, when they are as many and
    all among them. -/
theorem perm_columns_iff {names : List String} (hnames : names.Nodup) :
    names.Perm columns ↔ names.length = columns.length ∧ names.all (· ∈ columns) := by
  simp only [List.all_eq_true, decide_eq_true_eq]
  constructor
  · intro h
    exact ⟨h.length_eq, fun c hc => h.subset hc⟩
  · rintro ⟨hlength, hmem⟩
    exact (List.subperm_of_subset hnames hmem).perm_of_length_le hlength.ge

/-- The cells have SQL when the values of the row have. -/
theorem exists_cells_iff (hnames : (columnNames row).Nodup)
    (hperm : (columnNames row).Perm columns) :
    (∃ fs, columns.mapM (renderCell row) = .ok fs) ↔ ∀ a ∈ row, ∃ f, a.2.render = .ok f := by
  rw [exists_mapM_eq_ok]
  constructor
  · intro h a ha
    have hmem : a.1 ∈ columns := hperm.subset (List.mem_map_of_mem ha)
    simpa [renderCell, lookup_of_mem hnames ha] using h a.1 hmem
  · intro h c hc
    obtain ⟨a, ha, rfl⟩ := List.mem_map.mp (hperm.symm.subset hc)
    simpa [renderCell, lookup_of_mem hnames ha] using h a ha

/-- A row is written as its cells when it names the columns in some order. -/
theorem renderRow_cells_iff (hcolumns : columns.Nodup) {index : Nat} {f : Fragment} :
    renderRow table columns index row = .ok f ↔ (columnNames row).Perm columns ∧
      ∃ cells, columns.mapM (renderCell row) = .ok cells ∧
        f = parenthesized (commaSeparated cells) := by
  simp only [renderRow, bind_eq_ok, checkDistinct_eq_ok]
  constructor
  · rintro ⟨-, hnames, hrow⟩
    by_cases hall : (columnNames row).length = columns.length ∧
        (columnNames row).all (· ∈ columns)
    · rw [if_pos hall, bind_eq_ok] at hrow
      obtain ⟨cells, hcells, hf⟩ := hrow
      exact ⟨(perm_columns_iff hnames).mpr hall, cells, hcells, (Except.ok.inj hf).symm⟩
    · rw [if_neg hall] at hrow
      cases hrow
  · rintro ⟨hperm, cells, hcells, rfl⟩
    have hnames : (columnNames row).Nodup := hperm.nodup_iff.mpr hcolumns
    refine ⟨(), hnames, ?_⟩
    rw [if_pos ((perm_columns_iff hnames).mp hperm), bind_eq_ok]
    exact ⟨cells, hcells, rfl⟩

theorem exists_renderRow_iff (hcolumns : columns.Nodup) (index : Nat) :
    (∃ f, renderRow table columns index row = .ok f) ↔ Fills columns row := by
  simp only [renderRow_cells_iff hcolumns]
  constructor
  · rintro ⟨f, hperm, cells, hcells, -⟩
    exact ⟨hperm, (exists_cells_iff (hperm.nodup_iff.mpr hcolumns) hperm).mp ⟨cells, hcells⟩⟩
  · rintro ⟨hperm, hrenders⟩
    obtain ⟨cells, hcells⟩ :=
      (exists_cells_iff (hperm.nodup_iff.mpr hcolumns) hperm).mpr hrenders
    exact ⟨_, hperm, cells, hcells, rfl⟩

/-- Rows have SQL when each of them has; their place does not matter. -/
theorem exists_renderRows_iff (hcolumns : columns.Nodup) (index : Nat)
    (rows : List (List Assignment)) :
    (∃ fs, renderRows table columns index rows = .ok fs) ↔ ∀ row ∈ rows, Fills columns row := by
  induction rows generalizing index with
  | nil => simp [renderRows]
  | cons row rows ih =>
      rw [renderRows, exists_bind_eq_ok, List.forall_mem_cons, ← ih (index + 1),
        ← exists_renderRow_iff hcolumns index]
      simp only [exists_bind_pure_eq_ok]
      constructor
      · rintro ⟨f, hf, hfs⟩
        exact ⟨⟨f, hf⟩, hfs⟩
      · rintro ⟨⟨f, hf⟩, hfs⟩
        exact ⟨f, hf, hfs⟩

/-! ## Inserts -/

namespace Insert

/-- The rows of an insert all fill the given columns, of which there is one at
    least, and the insert asks for no key. -/
structure WellShaped (i : Insert) (columns : List String) : Prop where
  returningId : i.returningId = false
  rows_ne : i.rows ≠ []
  columns_ne : columns ≠ []
  columns_nodup : columns.Nodup
  fills : ∀ row ∈ i.rows, Fills columns row

variable {i : Insert}

/-- What is checked when there is a first row: it names columns, none of them
    twice, and the rows can be written. -/
theorem render_rows_iff {mode : InsertMode} {first : List Assignment}
    {rows : List (List Assignment)} {f : Fragment} :
    (Insert.mk table mode (first :: rows) false).render = .ok f ↔
      first ≠ [] ∧ (columnNames first).Nodup ∧
        ∃ fs, renderRows table (columnNames first) 0 (first :: rows) = .ok fs ∧
          f = words mode.words ++ nameFragment table ++ words " " ++
            parenthesized (plain (Text.quoteNames (columnNames first))) ++
            words " values " ++ commaSeparated fs := by
  cases first with
  | nil =>
      constructor
      · intro h
        cases h
      · rintro ⟨hne, -⟩
        exact absurd rfl hne
  | cons a as =>
      have hrender : (Insert.mk table mode ((a :: as) :: rows) false).render = (do
          checkDistinct table (columnNames (a :: as))
          let fs ← renderRows table (columnNames (a :: as)) 0 ((a :: as) :: rows)
          return words mode.words ++ nameFragment table ++ words " " ++
            parenthesized (plain (Text.quoteNames (columnNames (a :: as)))) ++
            words " values " ++ commaSeparated fs) := rfl
      simp only [hrender, bind_eq_ok, checkDistinct_eq_ok]
      constructor
      · rintro ⟨-, hnodup, fs, hfs, hf⟩
        exact ⟨List.cons_ne_nil a as, hnodup, fs, hfs, (Except.ok.inj hf).symm⟩
      · rintro ⟨-, hnodup, fs, hfs, rfl⟩
        exact ⟨(), hnodup, fs, hfs, rfl⟩

theorem exists_render_cons_iff {mode : InsertMode} {first : List Assignment}
    {rows : List (List Assignment)} :
    (∃ f, (Insert.mk table mode (first :: rows) false).render = .ok f) ↔
      first ≠ [] ∧ (columnNames first).Nodup ∧
        ∀ row ∈ first :: rows, Fills (columnNames first) row := by
  simp only [render_rows_iff]
  constructor
  · rintro ⟨f, hne, hnodup, fs, hfs, -⟩
    exact ⟨hne, hnodup, (exists_renderRows_iff hnodup 0 _).mp ⟨fs, hfs⟩⟩
  · rintro ⟨hne, hnodup, hfills⟩
    have hrows : ∃ fs, renderRows table (columnNames first) 0 (first :: rows) = .ok fs :=
      (exists_renderRows_iff hnodup 0 _).mpr hfills
    obtain ⟨fs, hfs⟩ := hrows
    exact ⟨_, hne, hnodup, fs, hfs, rfl⟩

/-- **An insert has SQL just when its rows all fill the same columns.** -/
theorem exists_render_iff : (∃ f, i.render = .ok f) ↔ ∃ columns, i.WellShaped columns := by
  obtain ⟨table, mode, rows, returningId⟩ := i
  constructor
  · rintro ⟨f, hf⟩
    cases returningId with
    | true => cases hf
    | false =>
        cases rows with
        | nil => cases hf
        | cons first rows =>
            obtain ⟨hne, hnodup, hfills⟩ := exists_render_cons_iff.mp ⟨f, hf⟩
            exact ⟨columnNames first, rfl, List.cons_ne_nil first rows,
              fun h => hne (List.map_eq_nil_iff.mp h), hnodup, hfills⟩
  · rintro ⟨columns, hkey, hrows, hcolumns, hnodup, hfills⟩
    obtain rfl : returningId = false := hkey
    cases rows with
    | nil => exact absurd rfl hrows
    | cons first rows =>
        -- the first row fills the columns in an order of its own
        have hfirst := (hfills first (List.mem_cons_self ..)).perm
        refine exists_render_cons_iff.mpr ⟨?_, hfirst.nodup_iff.mpr hnodup, ?_⟩
        · rintro rfl
          exact hcolumns hfirst.nil_eq.symm
        · intro row hrow
          obtain ⟨hperm, hrenders⟩ := hfills row hrow
          exact ⟨hperm.trans hfirst.symm, hrenders⟩

namespace WellShaped

/-- **Any of the rows make an insert of the same shape.** -/
theorem part (h : i.WellShaped columns) {rows : List (List Assignment)} (hne : rows ≠ [])
    (hrows : rows ⊆ i.rows) : WellShaped { i with rows } columns where
  returningId := h.returningId
  rows_ne := hne
  columns_ne := h.columns_ne
  columns_nodup := h.columns_nodup
  fills := fun row hrow => h.fills row (hrows hrow)

/-- Every row makes one mutation for each column. -/
theorem mutations_eq (h : i.WellShaped columns) :
    i.mutations = i.rows.length * columns.length := by
  have hwidths : ∀ n ∈ i.rows.map List.length, n = columns.length := by
    intro n hn
    obtain ⟨row, hrow, rfl⟩ := List.mem_map.mp hn
    exact (h.fills row hrow).length_eq
  rw [Insert.mutations, List.length_flatten, List.sum_eq_card_nsmul _ _ hwidths,
    List.length_map, smul_eq_mul]

/-- The width of the first row is that of all. -/
theorem head_length (h : i.WellShaped columns) :
    (i.rows.head?.getD []).length = columns.length := by
  cases hrows : i.rows with
  | nil => exact absurd hrows h.rows_ne
  | cons first rows =>
      have hfirst : first ∈ i.rows := hrows ▸ List.mem_cons_self ..
      exact (h.fills first hfirst).length_eq

end WellShaped

end Insert

end SpannerDialect.Sql
