import Mathlib.Tactic.MkIffOfInductiveProp
import SpannerDialect.Proofs.Schema.NameRequests
import SpannerDialect.Proofs.Schema.Runs
import SpannerDialect.Proofs.Sql.Admissible

/-! # Admissible changes

    Names stand in DDL between back-quotes and defaults as literals, or as SQL that is
    taken as it is.  A change is admissible when none of its names holds a backslash and
    none of its defaults is such SQL.  A derived name is made of letters of the names
    that it is derived from, of marks and of digits (`plainName_deriveName`), so what is
    carried out of an admissible change is admissible as well
    (`Change.Admissible.of_moves`). -/

namespace SpannerDialect

/-! ## Lower case -/

namespace Text

theorem ofNat_eq_backslash {n : Nat} (h : Char.ofNat n = '\\') : n = 0x5C := by
  have hcode := congrArg Char.toNat h
  by_cases hvalid : n.isValidChar
  · rw [Char.ofNat, dif_pos hvalid] at hcode
    exact hcode
  · rw [Char.ofNat, dif_neg hvalid] at hcode
    cases hcode

/-- No letter has a backslash as its lower case. -/
theorem lowerChar_eq_backslash {c : Char} (h : lowerChar c = '\\') : c = '\\' := by
  have hascii : ∀ n < 0x80, (Char.ofNat n).toLower = '\\' → Char.ofNat n = '\\' := by
    decide +kernel
  -- every run goes to letters that come behind the backslash
  have hruns : ∀ r ∈ lowerRuns, (0x5C : Int) < r.first + r.shift := by decide +kernel
  rw [lowerChar] at h
  split at h
  · rename_i hlow
    rw [← Char.ofNat_toNat c] at h ⊢
    exact hascii c.toNat hlow h
  · split at h
    · rename_i r hr
      have hbehind := hruns r (List.mem_of_find?_eq_some hr)
      have hholds := List.find?_some hr
      simp only [CaseRun.holds, Bool.and_eq_true, decide_eq_true_eq] at hholds
      have hcode := ofNat_eq_backslash h
      omega
    · exact h

/-- Lower case brings no backslash. -/
theorem notMem_lowercaseAfter {cs : List Char} (h : '\\' ∉ cs) (before : List Char) :
    '\\' ∉ lowercaseAfter before cs := by
  induction cs generalizing before with
  | nil => exact List.not_mem_nil
  | cons c cs ih =>
      obtain ⟨hc, hcs⟩ := List.ne_and_not_mem_of_not_mem_cons h
      have hrest := ih hcs (c :: before)
      rw [lowercaseAfter]
      split
      · refine List.not_mem_cons_of_ne_of_not_mem ?_ hrest
        rw [lowerSigma]
        split <;> decide
      · split
        · exact List.not_mem_cons_of_ne_of_not_mem (by decide)
            (List.not_mem_cons_of_ne_of_not_mem (by decide) hrest)
        · exact List.not_mem_cons_of_ne_of_not_mem
            (fun hlower => hc (lowerChar_eq_backslash hlower.symm).symm) hrest

/-- A character of joined texts is one of the separator or of a text. -/
theorem mem_join {separator : List Char} {ts : List (List Char)} {c : Char}
    (h : c ∈ join separator ts) : c ∈ separator ∨ ∃ t ∈ ts, c ∈ t := by
  induction ts with
  | nil => cases h
  | cons t ts ih =>
      cases ts with
      | nil => exact .inr ⟨t, List.mem_cons_self, h⟩
      | cons u ts =>
          rcases List.mem_append.mp h with h | h
          · rcases List.mem_append.mp h with h | h
            · exact .inr ⟨t, List.mem_cons_self, h⟩
            · exact .inl h
          · rcases ih h with h | ⟨v, hv, hc⟩
            · exact .inl h
            · exact .inr ⟨v, List.mem_cons_of_mem _ hv, hc⟩

end Text

/-- Whether a default is SQL as it stands. -/
def DefaultExpression.isRaw : DefaultExpression → Bool
  | .raw _ => true
  | _ => false

namespace Schema

open Sql (PlainName PlainLabel)

/-! ## Derived names -/

theorem plainName_ofList {cs : List Char} : PlainName (String.ofList cs) ↔ '\\' ∉ cs := by
  rw [PlainName, String.toList_ofList]

theorem plainName_deriveName {table : String} {columns : List String} {ending : String}
    (htable : PlainName table) (hcolumns : ∀ name ∈ columns, PlainName name)
    (hending : PlainName ending) : PlainName (deriveName table columns ending) := by
  have hjoined : '\\' ∉ Text.join ['_'] ((table :: columns ++ [ending]).map String.toList) := by
    intro h
    rcases Text.mem_join h with h | ⟨t, ht, hc⟩
    · exact absurd h (by decide)
    · obtain ⟨name, hname, rfl⟩ := List.mem_map.mp ht
      simp only [List.cons_append, List.mem_cons, List.mem_append, List.not_mem_nil,
        or_false] at hname
      obtain rfl | hname | rfl := hname
      · exact htable hc
      · exact hcolumns name hname hc
      · exact hending hc
  have hlower := Text.notMem_lowercaseAfter hjoined []
  refine plainName_ofList.mpr fun h => ?_
  obtain ⟨c, hc, hmapped⟩ := List.mem_map.mp h
  split at hmapped
  · exact absurd hmapped (by decide)
  · subst hmapped
    exact hlower hc

theorem plainName_numbered {name : String} (h : PlainName name) (n : Nat) :
    PlainName (numbered name n) := by
  refine plainName_ofList.mpr fun hmem => ?_
  rcases List.mem_append.mp hmem with hname | hnumber
  · exact h hname
  · rcases List.mem_cons.mp hnumber with heq | hdigit
    · cases heq
    · exact absurd (Text.isDigit_of_mem_digits hdigit) (by decide)

/-! ## What is admissible -/

/-- A column whose name stays whole, with a default that is no SQL as it stands. -/
@[mk_iff]
structure Column.Admissible (c : Column) : Prop where
  name : PlainName c.name
  default : ∀ d ∈ c.default, d.isRaw = false

instance (c : Column) : Decidable c.Admissible :=
  decidable_of_iff' _ (Column.admissible_iff c)

/-- A table of admissible columns, whose names stay whole. -/
@[mk_iff]
structure Table.Admissible (t : Table) : Prop where
  name : PlainName t.name
  columns : ∀ c ∈ t.columns, c.Admissible
  primaryKey : ∀ name ∈ t.primaryKey, PlainName name
  parent : ∀ i ∈ t.interleave, PlainName i.parent
  policy : ∀ p ∈ t.policy, PlainName p.column

instance (t : Table) : Decidable t.Admissible :=
  decidable_of_iff' _ (Table.admissible_iff t)

/-- An index whose names stay whole. -/
@[mk_iff]
structure Index.Admissible (i : Index) : Prop where
  name : PlainLabel i.name
  table : PlainName i.table
  columns : ∀ name ∈ i.columns, PlainName name
  storing : ∀ name ∈ i.storing, PlainName name
  interleaveIn : PlainLabel i.interleaveIn

instance (i : Index) : Decidable i.Admissible :=
  decidable_of_iff' _ (Index.admissible_iff i)

/-- A constraint whose names stay whole. -/
@[mk_iff]
structure ForeignKey.Admissible (k : ForeignKey) : Prop where
  name : PlainLabel k.name
  columns : ∀ name ∈ k.columns, PlainName name
  references : PlainName k.references
  referencedColumns : ∀ name ∈ k.referencedColumns, PlainName name

instance (k : ForeignKey) : Decidable k.Admissible :=
  decidable_of_iff' _ (ForeignKey.admissible_iff k)

/-- A change whose names stay whole, with defaults that are no SQL as it stands. -/
def Change.Admissible : Change → Prop
  | .createTable t => t.Admissible
  | .addColumn c | .alterColumn c => c.Admissible
  | .dropColumn name | .dropIndex name | .dropForeignKey name => PlainName name
  | .createIndex i => i.Admissible
  | .addForeignKey k => k.Admissible
  | .addPolicy p | .replacePolicy p => PlainName p.column
  | .dropTable _ | .dropPolicy => True

instance : (c : Change) → Decidable c.Admissible
  | .createTable t => inferInstanceAs (Decidable t.Admissible)
  | .addColumn c | .alterColumn c => inferInstanceAs (Decidable c.Admissible)
  | .dropColumn name | .dropIndex name | .dropForeignKey name =>
    inferInstanceAs (Decidable (PlainName name))
  | .createIndex i => inferInstanceAs (Decidable i.Admissible)
  | .addForeignKey k => inferInstanceAs (Decidable k.Admissible)
  | .addPolicy p | .replacePolicy p => inferInstanceAs (Decidable (PlainName p.column))
  | .dropTable _ | .dropPolicy => inferInstanceAs (Decidable True)

/-- A blueprint of admissible changes, for a table whose name stays whole. -/
@[mk_iff]
structure Blueprint.Admissible (b : Blueprint) : Prop where
  table : PlainName b.table
  changes : ∀ c ∈ b.changes, c.Admissible

instance (b : Blueprint) : Decidable b.Admissible :=
  decidable_of_iff' _ (Blueprint.admissible_iff b)

/-! ## What is carried out -/

namespace Index

variable {i : Index}

theorem Admissible.plainName_derived (h : i.Admissible) {columns : List String}
    (hcolumns : ∀ name ∈ columns, PlainName name) :
    PlainName (deriveName i.table columns i.ending) := by
  refine plainName_deriveName h.table hcolumns ?_
  rw [ending]
  split <;> decide

theorem Admissible.defaultName (h : i.Admissible) : PlainName i.defaultName := by
  rw [Index.defaultName]
  cases hname : i.name with
  | none => exact h.plainName_derived h.columns
  | some name => exact h.name name hname

theorem Admissible.storingName (h : i.Admissible) : PlainName i.storingName := by
  refine h.plainName_derived fun name hname => ?_
  rcases List.mem_append.mp hname with hname | hname
  · exact h.columns name hname
  · rcases List.mem_cons.mp hname with rfl | hname
    · decide
    · exact h.storing name hname

/-- Whatever name an admissible index gets stays whole. -/
theorem Admissible.assignName (h : i.Admissible) {taken : List String} {name : String}
    (hname : assignName taken i = .ok name) : PlainName name := by
  have hdue := due_assignName taken i
  rw [hname] at hdue
  cases hdue with
  | own hown _ => exact h.name name hown
  | derived _ _ => exact h.defaultName
  | storing _ _ _ _ => exact h.storingName
  | numbered _ _ _ _ _ _ =>
      refine plainName_numbered ?_ _
      rw [candidateName]
      split
      · exact h.defaultName
      · exact h.storingName

end Index

theorem ForeignKey.Admissible.defaultName {k : ForeignKey} {table : String} (h : k.Admissible)
    (htable : PlainName table) : PlainName (k.defaultName table) := by
  rw [ForeignKey.defaultName]
  cases hname : k.name with
  | none => exact plainName_deriveName htable h.columns (by decide)
  | some name => exact h.name name hname

/-- What is carried out of an admissible change is admissible. -/
theorem Change.Admissible.of_moves {known : List Table} {blueprint : String} {tr tr' : Tracker}
    {c c' : Change} (h : c.Admissible) (hmove : tr.Moves known blueprint c tr' c') :
    c'.Admissible := by
  cases hmove with
  | indexed _ _ _ hname =>
      have hindex : Index.Admissible _ := h
      refine Index.Admissible.mk ?_ hindex.table hindex.columns hindex.storing hindex.interleaveIn
      rintro _ ⟨⟩
      exact hindex.assignName hname
  | _ => exact h

end Schema

end SpannerDialect
