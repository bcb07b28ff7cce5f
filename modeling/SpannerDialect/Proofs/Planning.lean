import SpannerDialect.Plan
import SpannerDialect.Proofs.Sql.Inserts

/-! # Planned writes

    A write that writes rows and, if it is an insert, keeps to the budget is
    planned by rendering it, and by nothing else (`Plan.ofWrite_of_admitted`).

    An insert that is too large can be cut into inserts that are not.  It is
    cut by the width of its first row, which is the width of all rows when it
    has SQL; then no row is lost, every part is planned, and only the last part
    has room for another row (`Sql.Insert.chunks_splits`). -/

namespace SpannerDialect

open Sql

/-! ## Admitted writes -/

/-- A statement writes rows, within the budget so far as one can tell. -/
def Sql.Statement.Admitted (config : Config) (s : Statement) : Prop :=
  match s.mutations with
  | .known n => n ≤ config.budget
  | .unknown => True
  | .readOnly => False

namespace Plan

variable {config : Config}

theorem ofWrite_of_admitted {s : Statement} (h : s.Admitted config) :
    ofWrite config s = (s.render config).map direct := by
  cases s with
  | select q => exact h.elim
  | ddl sql => exact h.elim
  | update u => exact bind_pure_eq_map _ _
  | delete d => exact bind_pure_eq_map _ _
  | insert i =>
      have hfits : ¬ config.budget < i.mutations := Nat.not_lt.mpr h
      rw [ofWrite]
      simp only [Statement.mutations, if_neg hfits]
      exact bind_pure_eq_map _ _

/-- An insert beyond the budget is refused with its mutations, before it is
    rendered. -/
theorem ofWrite_of_budget_lt {i : Insert} (h : config.budget < i.mutations) :
    ofWrite config (.insert i) = .error (.mutationLimit (some i.mutations) config.budget) := by
  rw [ofWrite]
  simp only [Statement.mutations, if_pos h]
  rfl

theorem ofWrite_of_isWrite_eq_false {s : Statement} (h : s.isWrite = false) :
    ofWrite config s = .error (.unsupported (.notAWrite s.kind)) := by
  cases s with
  | select q => rfl
  | ddl sql => rfl
  | insert i => cases h
  | update u => cases h
  | delete d => cases h

theorem exists_error_of_not_admitted {s : Statement} (h : ¬ s.Admitted config) :
    ∃ e, ofWrite config s = .error e := by
  cases s with
  | select q => exact ⟨_, rfl⟩
  | ddl sql => exact ⟨_, rfl⟩
  | insert i => exact ⟨_, ofWrite_of_budget_lt (Nat.not_le.mp h)⟩
  | update u => exact absurd trivial h
  | delete d => exact absurd trivial h

/-- An update or a delete is planned as partitioned DML by rendering it. -/
theorem ofPartitioned_eq {s : Statement} (h : s.mutations = .unknown) :
    ofPartitioned config s = (s.render config).map partitioned := by
  cases s with
  | update u => exact bind_pure_eq_map _ _
  | delete d => exact bind_pure_eq_map _ _
  | select q => cases h
  | insert i => cases h
  | ddl sql => cases h

end Plan

/-! ## Groups -/

section Groups

variable {α : Type} {size : Nat} (positive : 0 < size)

@[simp] theorem groupsOf_nil : groupsOf size positive ([] : List α) = [] := by
  rw [groupsOf]

theorem groupsOf_of_ne_nil {items : List α} (h : items ≠ []) :
    groupsOf size positive items =
      items.take size :: groupsOf size positive (items.drop size) := by
  cases items with
  | nil => exact absurd rfl h
  | cons a as => rw [groupsOf]

/-- The groups put together are the items. -/
theorem flatten_groupsOf (items : List α) : (groupsOf size positive items).flatten = items := by
  induction items using groupsOf.induct size positive with
  | case1 => simp
  | case2 a as ih =>
      rw [groupsOf, List.flatten_cons, ih, List.take_append_drop]

theorem ne_nil_of_mem_groupsOf {items group : List α}
    (h : group ∈ groupsOf size positive items) : group ≠ [] := by
  induction items using groupsOf.induct size positive with
  | case1 => simp at h
  | case2 a as ih =>
      rw [groupsOf] at h
      rcases List.mem_cons.mp h with rfl | h
      · intro hnil
        rcases List.take_eq_nil_iff.mp hnil with hzero | hnil
        · exact positive.ne' hzero
        · cases hnil
      · exact ih h

theorem length_le_of_mem_groupsOf {items group : List α}
    (h : group ∈ groupsOf size positive items) : group.length ≤ size := by
  induction items using groupsOf.induct size positive with
  | case1 => simp at h
  | case2 a as ih =>
      rw [groupsOf] at h
      rcases List.mem_cons.mp h with rfl | h
      · exact List.length_take_le ..
      · exact ih h

/-- Every group that another one follows is full. -/
theorem length_eq_of_mem_dropLast_groupsOf {items group : List α}
    (h : group ∈ (groupsOf size positive items).dropLast) : group.length = size := by
  induction items using groupsOf.induct size positive with
  | case1 => simp at h
  | case2 a as ih =>
      rw [groupsOf] at h
      cases hrest : groupsOf size positive ((a :: as).drop size) with
      | nil => simp [hrest] at h
      | cons next rest =>
          rw [hrest, List.dropLast_cons_cons] at h
          rcases List.mem_cons.mp h with rfl | h
          · -- something is left after the group, so it is not a short one
            have hlong : ¬ (a :: as).length ≤ size := by
              intro hshort
              rw [List.drop_eq_nil_of_le hshort, groupsOf_nil] at hrest
              cases hrest
            rw [List.length_take]
            omega
          · exact ih (hrest ▸ h)

theorem groupsOf_of_length_le {items : List α} (hne : items ≠ []) (h : items.length ≤ size) :
    groupsOf size positive items = [items] := by
  rw [groupsOf_of_ne_nil positive hne, List.take_of_length_le h, List.drop_eq_nil_of_le h,
    groupsOf_nil]

/-- A cap on the size that no list reaches changes nothing. -/
theorem groupsOf_min {items : List α} {cap : Nat} (h : items.length ≤ cap)
    (hmin : 0 < min size cap) :
    groupsOf (min size cap) hmin items = groupsOf size positive items := by
  rcases Nat.le_total size cap with hle | hle
  · simp only [Nat.min_eq_left hle]
  · cases items with
    | nil => simp
    | cons a as =>
        simp only [Nat.min_eq_right hle]
        rw [groupsOf_of_length_le _ (List.cons_ne_nil a as) h,
          groupsOf_of_length_le positive (List.cons_ne_nil a as) (h.trans hle)]

end Groups

/-! ## Parts of an insert -/

namespace Sql.Insert

/-- Inserts that make up an insert: they have its rows in order and are like it
    in all else, each is planned in one commit, and only the last has room for
    one more row of the width. -/
structure Splits (config : Config) (i : Insert) (width : Nat) (parts : List Insert) : Prop where
  rows_eq : parts.flatMap Insert.rows = i.rows
  rows_ne : ∀ part ∈ parts, part.rows ≠ []
  like : ∀ part ∈ parts, part = { i with rows := part.rows }
  planned : ∀ part ∈ parts, ∃ r, (Statement.insert part).render config = .ok r ∧
    Plan.ofWrite config (.insert part) = .ok (.direct r)
  mutations_le : ∀ part ∈ parts, part.mutations ≤ config.budget
  full : ∀ part ∈ parts.dropLast, config.budget < part.mutations + width

variable {config : Config} {i : Insert} {columns : List String}

theorem exists_render_statement_iff :
    (∃ r, (Statement.insert i).render config = .ok r) ↔ ∃ f, i.render = .ok f :=
  exists_bind_pure_eq_ok

/-- The rows of a part are some of the rows of the insert. -/
theorem subset_of_mem_groupsOf {size : Nat} {positive : 0 < size}
    {rows group : List (List Assignment)} (h : group ∈ groupsOf size positive rows) :
    group ⊆ rows := by
  intro row hrow
  rw [← flatten_groupsOf positive rows]
  exact List.mem_flatten_of_mem h hrow

/-- The inserts of groups of rows make up the insert, when a group of the size
    is the largest that keeps to the budget. -/
theorem WellShaped.splits (h : i.WellShaped columns) {size : Nat} (positive : 0 < size)
    (hsize : size = config.budget / columns.length) :
    Splits config i columns.length
      ((groupsOf size positive i.rows).map fun rows => { i with rows }) := by
  have hwidth : 0 < columns.length := List.length_pos_iff.mpr h.columns_ne
  have hpart : ∀ rows ∈ groupsOf size positive i.rows,
      WellShaped { i with rows } columns := by
    intro rows hrows
    exact h.part (ne_nil_of_mem_groupsOf positive hrows) (subset_of_mem_groupsOf hrows)
  have hmutations : ∀ rows ∈ groupsOf size positive i.rows,
      (Insert.mk i.table i.mode rows i.returningId).mutations ≤ config.budget := by
    intro rows hrows
    rw [(hpart rows hrows).mutations_eq, ← Nat.le_div_iff_mul_le hwidth, ← hsize]
    exact length_le_of_mem_groupsOf positive hrows
  refine ⟨?rows_eq, ?rows_ne, ?like, ?planned, ?mutations_le, ?full⟩
  case rows_eq =>
    rw [List.flatMap_def, List.map_map]
    exact (congrArg List.flatten (List.map_id _)).trans (flatten_groupsOf positive i.rows)
  case rows_ne =>
    intro part hmem
    obtain ⟨rows, hrows, rfl⟩ := List.mem_map.mp hmem
    exact ne_nil_of_mem_groupsOf positive hrows
  case like =>
    intro part hmem
    obtain ⟨rows, -, rfl⟩ := List.mem_map.mp hmem
    rfl
  case planned =>
    intro part hmem
    obtain ⟨rows, hrows, rfl⟩ := List.mem_map.mp hmem
    obtain ⟨r, hr⟩ : ∃ r, (Statement.insert { i with rows }).render config = .ok r :=
      exists_render_statement_iff.mpr (exists_render_iff.mpr ⟨columns, hpart rows hrows⟩)
    have hadmitted : (Statement.insert { i with rows }).Admitted config := hmutations rows hrows
    refine ⟨r, hr, ?_⟩
    rw [Plan.ofWrite_of_admitted hadmitted, hr]
    rfl
  case mutations_le =>
    intro part hmem
    obtain ⟨rows, hrows, rfl⟩ := List.mem_map.mp hmem
    exact hmutations rows hrows
  case full =>
    intro part hmem
    rw [← List.map_dropLast] at hmem
    obtain ⟨rows, hrows, rfl⟩ := List.mem_map.mp hmem
    rw [(hpart rows (List.dropLast_subset _ hrows)).mutations_eq,
      length_eq_of_mem_dropLast_groupsOf positive hrows, hsize]
    -- one more row than the quotient has is more than the budget
    have hlt := Nat.lt_mul_div_succ config.budget hwidth
    rw [Nat.mul_comm, Nat.succ_mul] at hlt
    exact hlt

theorem WellShaped.chunks_eq (h : i.WellShaped columns) {budget : Nat}
    (fits : columns.length ≤ budget) :
    i.chunks budget = .ok ((groupsOf (budget / columns.length)
      (Nat.div_pos fits (List.length_pos_iff.mpr h.columns_ne)) i.rows).map
        fun rows => { i with rows }) := by
  have hwidth : columns.length ≠ 0 := by simpa using h.columns_ne
  simp only [Insert.chunks, h.head_length, dif_neg hwidth, dif_pos fits]

/-- A single row that is too wide cannot be cut. -/
theorem WellShaped.chunks_of_budget_lt (h : i.WellShaped columns) {budget : Nat}
    (hlt : budget < columns.length) :
    i.chunks budget = .error (.mutationLimit (some columns.length) budget) := by
  have hwidth : columns.length ≠ 0 := by simpa using h.columns_ne
  simp only [Insert.chunks, h.head_length, dif_neg hwidth, dif_neg (Nat.not_le.mpr hlt)]

/-- What keeps to the budget is not cut. -/
theorem WellShaped.chunks_of_mutations_le (h : i.WellShaped columns) {budget : Nat}
    (hle : i.mutations ≤ budget) : i.chunks budget = .ok [i] := by
  have hwidth : 0 < columns.length := List.length_pos_iff.mpr h.columns_ne
  have hrows : 0 < i.rows.length := List.length_pos_iff.mpr h.rows_ne
  rw [h.mutations_eq] at hle
  have hone : columns.length ≤ budget := (Nat.le_mul_of_pos_left _ hrows).trans hle
  have hgroup : i.rows.length ≤ budget / columns.length :=
    (Nat.le_div_iff_mul_le hwidth).mpr hle
  rw [h.chunks_eq hone, groupsOf_of_length_le _ h.rows_ne hgroup]
  rfl

/-- **An insert that has SQL is cut without loss, or is too wide for a single
    row.**  A cap on the number of rows of a part that the insert keeps to
    changes nothing, and the number stays positive. -/
theorem chunks_splits {r : Rendered} (h : (Statement.insert i).render config = .ok r) :
    ∃ width, 0 < width ∧ (∀ row ∈ i.rows, row.length = width) ∧
      (∀ e, i.chunks config.budget = .error e ↔
        config.budget < width ∧ e = .mutationLimit (some width) config.budget) ∧
      (width ≤ config.budget → ∃ parts, i.chunks config.budget = .ok parts ∧
        Splits config i width parts ∧
        ∀ cap, i.rows.length ≤ cap → ∃ positive : 0 < min (config.budget / width) cap,
          parts.map Insert.rows = groupsOf (min (config.budget / width) cap) positive i.rows) ∧
      (i.mutations ≤ config.budget → i.chunks config.budget = .ok [i]) := by
  obtain ⟨columns, hshape⟩ := exists_render_iff.mp (exists_render_statement_iff.mp ⟨r, h⟩)
  have hwidth : 0 < columns.length := List.length_pos_iff.mpr hshape.columns_ne
  refine ⟨columns.length, hwidth, fun row hrow => (hshape.fills row hrow).length_eq,
    ?refused, ?cut, hshape.chunks_of_mutations_le⟩
  case refused =>
    intro e
    rcases Nat.lt_or_ge config.budget columns.length with hlt | hle
    · rw [hshape.chunks_of_budget_lt hlt, Except.error.injEq]
      simp [hlt, eq_comm]
    · rw [hshape.chunks_eq hle]
      simp [Nat.not_lt.mpr hle]
  case cut =>
    intro hle
    have hsize : 0 < config.budget / columns.length := Nat.div_pos hle hwidth
    refine ⟨_, hshape.chunks_eq hle, hshape.splits hsize rfl, ?_⟩
    intro cap hcap
    have hrows : 0 < i.rows.length := List.length_pos_iff.mpr hshape.rows_ne
    have hmin : 0 < min (config.budget / columns.length) cap :=
      Nat.lt_min.mpr ⟨hsize, hrows.trans_le hcap⟩
    refine ⟨hmin, ?_⟩
    rw [groupsOf_min hsize hcap hmin, List.map_map]
    exact List.map_id _

/-- A number as a parameter. -/
def numberParameter (n : Int64) : Expression :=
  .bind ⟨.scalar .int64, .int64 n, rfl⟩

/-- Three rows of two columns, the second with its columns the other way. -/
def shuffledPeople : Insert :=
  { table := "Person", mode := .insert, returningId := false
    rows := [
      [("id", numberParameter 1), ("age", numberParameter 30)],
      [("age", numberParameter 31), ("id", numberParameter 2)],
      [("id", numberParameter 3), ("age", numberParameter 32)]] }

theorem chunks_splits_shuffledPeople :
    (∃ r, (Statement.insert shuffledPeople).render { budget := 5 } = .ok r) ∧
      ∃ parts, shuffledPeople.chunks 5 = .ok parts ∧
        Splits { budget := 5 } shuffledPeople 2 parts ∧
        parts.map Insert.rows = [shuffledPeople.rows.take 2, shuffledPeople.rows.drop 2] := by
  have hrender : ∃ r, (Statement.insert shuffledPeople).render { budget := 5 } = .ok r :=
    ⟨_, rfl⟩
  refine ⟨hrender, ?_⟩
  obtain ⟨r, hr⟩ := hrender
  obtain ⟨width, -, hrows, -, hcut, -⟩ := chunks_splits hr
  obtain rfl : 2 = width := hrows _ (List.mem_cons_self ..)
  obtain ⟨parts, hparts, hsplits, hcap⟩ := hcut (by decide)
  refine ⟨parts, hparts, hsplits, ?_⟩
  obtain ⟨positive, hgroups⟩ := hcap 3 (Nat.le_refl 3)
  rw [hgroups]
  simp [groupsOf, shuffledPeople]

end Sql.Insert

end SpannerDialect
