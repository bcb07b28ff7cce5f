import SpannerDialect.Proofs.Except
import SpannerDialect.Schema.Batch

/-! # What one change does

    A change of a known table is allowed or refused by looking at that table
    (`Change.Allowed`), and what it makes of the table does not depend on
    whether it is allowed (`Change.effect`).  All that a tracker can do with
    one change is said once (`Tracker.Moves`), and everything about runs is
    taken from there. -/

namespace SpannerDialect.Schema

/-! ## Effects -/

/-- What the statement of a change makes of the table. -/
def Change.effect : Change → Table → Table
  | .createTable t, _ => t
  | .addColumn c, t => { t with columns := t.columns ++ [c] }
  | .alterColumn c, t => { t with columns := Table.replaceColumn c t.columns }
  | .dropColumn name, t => { t with columns := t.columns.filter fun c => c.name != name }
  | .addPolicy p, t => { t with policy := some p }
  | .replacePolicy p, t => { t with policy := some p }
  | .dropPolicy, t => { t with policy := none }
  | _, t => t

/-- What some changes make of the table, one after the other. -/
def Change.effects (t : Table) (cs : List Change) : Table :=
  cs.foldl (fun t c => c.effect t) t

/-- Whether a change gives the table a policy. -/
def Change.givesPolicy : Change → Bool
  | .createTable t => t.policy.isSome
  | .addPolicy _ => true
  | .replacePolicy _ => true
  | _ => false

/-- Whether a change creates the table. -/
def Change.createsTable : Change → Bool
  | .createTable _ => true
  | _ => false

/-- Whether a change is one of the columns or of the policy of a table. -/
def Change.altersTable : Change → Bool
  | .addColumn _ => true
  | .alterColumn _ => true
  | .dropColumn _ => true
  | .addPolicy _ => true
  | .replacePolicy _ => true
  | .dropPolicy => true
  | _ => false

namespace Table

variable {t : Table} {name : String}

theorem column?_addColumn (c : Column) :
    ((Change.addColumn c).effect t).column? name =
      (t.column? name).or (if c.name = name then some c else none) := by
  simp only [Change.effect, column?, List.find?_append]
  by_cases h : c.name = name
  · simp [h]
  · simp [h]

theorem column?_alterColumn (c : Column) :
    ((Change.alterColumn c).effect t).column? name =
      if c.name = name then (t.column? name).map fun _ => c else t.column? name := by
  obtain ⟨table, columns, key, interleave, policy⟩ := t
  simp only [Change.effect, column?]
  induction columns with
  | nil => simp [replaceColumn]
  | cons d ds ih =>
      rw [replaceColumn]
      split
      · rename_i hd
        by_cases h : c.name = name
        · simp [h, hd]
        · simp [h, hd]
      · rename_i hd
        by_cases h : d.name = name
        · subst h
          simp [Ne.symm hd]
        · simp [h, ih]

theorem column?_dropColumn (dropped : String) :
    ((Change.dropColumn dropped).effect t).column? name =
      if dropped = name then none else t.column? name := by
  simp only [Change.effect, column?, List.find?_filter]
  by_cases h : dropped = name
  · simp [h]
  · rw [if_neg h]
    congr 1
    funext c
    by_cases hc : c.name = name
    · simp [hc, Ne.symm h]
    · simp [hc]

end Table

/-! ## What a table allows -/

/-- A column of the name holds dates or times. -/
def Table.HoldsTimes (t : Table) (name : String) : Prop :=
  ∃ c, t.column? name = some c ∧ c.type.isTemporal = true

/-- What a change of a table asks of the table, and of a batch that may have
    given it a policy already. -/
def Change.Allowed (t : Table) (givesPolicy : Bool) : Change → Prop
  | .addColumn c => t.column? c.name = none
  | .alterColumn c =>
    t.column? c.name ≠ none ∧ (t.drivesPolicy c.name = true → c.type.isTemporal = true)
  | .dropColumn name => name ∉ t.primaryKey ∧ t.drivesPolicy name = false ∧ t.column? name ≠ none
  | .addPolicy p => t.policy = none ∧ t.HoldsTimes p.column
  | .replacePolicy p => t.policy ≠ none ∧ t.HoldsTimes p.column
  | .dropPolicy => givesPolicy = false ∧ t.policy ≠ none
  | _ => False

namespace Table

variable {blueprint name : String} {t t' : Table} {c : Column} {p : DeletionPolicy}

theorem checkPolicy_eq_ok {u : Unit} : t.checkPolicy p = .ok u ↔ t.HoldsTimes p.column := by
  rw [checkPolicy, HoldsTimes]
  cases t.column? p.column with
  | none => simp
  | some c => by_cases hc : c.type.isTemporal = true <;> simp [hc]

theorem addColumn_eq_ok :
    t.addColumn c = .ok t' ↔ t.column? c.name = none ∧ t' = (Change.addColumn c).effect t := by
  rw [addColumn, guard_eq_ok, ok_eq_ok, Option.not_isSome_iff_eq_none]
  rfl

theorem alterColumn_eq_ok :
    t.alterColumn blueprint c = .ok t' ↔
      (t.column? c.name ≠ none ∧ (t.drivesPolicy c.name = true → c.type.isTemporal = true)) ∧
        t' = (Change.alterColumn c).effect t := by
  rw [alterColumn, guard_eq_ok, guard_eq_ok, ok_eq_ok, Option.isNone_iff_eq_none, not_and,
    and_assoc]
  simp only [Bool.not_eq_true', Bool.not_eq_false]
  rfl

theorem dropColumn_eq_ok :
    t.dropColumn blueprint name = .ok t' ↔
      (name ∉ t.primaryKey ∧ t.drivesPolicy name = false ∧ t.column? name ≠ none) ∧
        t' = (Change.dropColumn name).effect t := by
  rw [dropColumn, guard_eq_ok, guard_eq_ok, guard_eq_ok, ok_eq_ok, Option.isNone_iff_eq_none,
    Bool.not_eq_true, and_assoc, and_assoc]
  rfl

/-- Behind the check of a policy, whatever is returned. -/
theorem return_checkPolicy_eq_ok {u : Table} :
    (do
      orInvalid (t.checkPolicy p)
      return u) = .ok t' ↔ t.HoldsTimes p.column ∧ t' = u := by
  rw [bind_eq_ok]
  simp only [orInvalid, mapError_eq_ok, checkPolicy_eq_ok, exists_and_left, exists_const]
  exact and_congr_right fun _ => ok_eq_ok

theorem addPolicy_eq_ok :
    t.addPolicy p = .ok t' ↔
      (t.policy = none ∧ t.HoldsTimes p.column) ∧ t' = (Change.addPolicy p).effect t := by
  rw [addPolicy, guard_eq_ok, Option.not_isSome_iff_eq_none, return_checkPolicy_eq_ok, and_assoc]
  rfl

theorem replacePolicy_eq_ok :
    t.replacePolicy p = .ok t' ↔
      (t.policy ≠ none ∧ t.HoldsTimes p.column) ∧ t' = (Change.replacePolicy p).effect t := by
  rw [replacePolicy, guard_eq_ok, Option.isNone_iff_eq_none, return_checkPolicy_eq_ok, and_assoc]
  rfl

theorem dropPolicy_eq_ok :
    t.dropPolicy = .ok t' ↔ t.policy ≠ none ∧ t' = Change.dropPolicy.effect t := by
  rw [dropPolicy, guard_eq_ok, Option.isNone_iff_eq_none, ok_eq_ok]
  rfl

theorem checkIndexColumns_eq_ok {names : List String} {u : Unit} :
    t.checkIndexColumns names = .ok u ↔ ∀ name ∈ names, t.column? name ≠ none := by
  induction names with
  | nil => simp [checkIndexColumns]
  | cons name names ih =>
      rw [checkIndexColumns, guard_eq_ok, ih, Option.isNone_iff_eq_none, List.forall_mem_cons]

theorem drivesPolicy_eq_true :
    t.drivesPolicy name = true ↔ ∃ p, t.policy = some p ∧ p.column = name := by
  rw [drivesPolicy]
  cases t.policy with
  | none => simp
  | some p => simp

end Table

/-- The column of the policy in force goes on to hold dates or times. -/
theorem Change.Allowed.holdsTimes {t : Table} {gives : Bool} {c : Change} {name : String}
    (hc : c.Allowed t gives) (hdrives : t.drivesPolicy name = true) (h : t.HoldsTimes name) :
    (c.effect t).HoldsTimes name := by
  obtain ⟨d, hd, htimes⟩ := h
  cases c with
  | addColumn c =>
      refine ⟨d, ?_, htimes⟩
      rw [Table.column?_addColumn, hd]
      rfl
  | alterColumn c =>
      rw [Table.HoldsTimes, Table.column?_alterColumn]
      by_cases h : c.name = name
      · subst h
        exact ⟨c, by rw [if_pos rfl, hd, Option.map_some], hc.2 hdrives⟩
      · exact ⟨d, by rw [if_neg h, hd], htimes⟩
  | dropColumn dropped =>
      have hne : dropped ≠ name := by
        rintro rfl
        exact absurd hdrives (ne_true_of_eq_false hc.2.1)
      exact ⟨d, by rw [Table.column?_dropColumn, if_neg hne, hd], htimes⟩
  | addPolicy p => exact ⟨d, hd, htimes⟩
  | replacePolicy p => exact ⟨d, hd, htimes⟩
  | dropPolicy => exact ⟨d, hd, htimes⟩
  | _ => exact False.elim hc

theorem Change.Allowed.createsTable {t : Table} {gives : Bool} {c : Change}
    (h : c.Allowed t gives) : c.createsTable = false := by
  cases c with
  | createTable _ => exact False.elim h
  | _ => rfl

theorem TableState.check_eq_ok {s : TableState} {f : Table → Except Error Unit} :
    s.check f = .ok () ↔ ∀ t, s = .present t → f t = .ok () := by
  cases s with
  | present t =>
      constructor
      · rintro h u ⟨⟩
        exact h
      · intro h
        exact h t rfl
  | _ => exact ⟨fun _ _ => nofun, fun _ => rfl⟩

/-! ## What a tracker does -/

/-- A change beside the table: it drops an index or a constraint, or adds a
    constraint whose columns have partners. -/
inductive Change.Beside (blueprint : String) : Change → Prop
  | dropIndex (name : String) : Beside blueprint (.dropIndex name)
  | dropForeignKey (name : String) : Beside blueprint (.dropForeignKey name)
  | addForeignKey {k : ForeignKey} (h : k.validate blueprint = .ok ()) :
      Beside blueprint (.addForeignKey k)

/-- Everything that a tracker can do with a change, and the change as it is
    carried out. -/
inductive Tracker.Moves (known : List Table) (blueprint : String) :
    Tracker → Change → Tracker → Change → Prop
  /-- A known table allows a change of it. -/
  | allowed {tr : Tracker} {c : Change} {t : Table} (ht : tr.table = .present t)
      (hc : c.Allowed t tr.givesPolicy) :
      Moves known blueprint tr c
        { tr with table := .present (c.effect t), givesPolicy := c.givesPolicy || tr.givesPolicy } c
  /-- Of an unknown table, a policy that the batch gives is still kept. -/
  | unchecked {tr : Tracker} {c : Change} (ht : tr.table = .unknown)
      (hc : c.altersTable = true) (hdrop : c = .dropPolicy → tr.givesPolicy = false) :
      Moves known blueprint tr c { tr with givesPolicy := c.givesPolicy || tr.givesPolicy } c
  | created {tr : Tracker} {t : Table} (ht : tr.table = .unknown)
      (hcheck : checkCreation known blueprint t = .ok ()) :
      Moves known blueprint tr (.createTable t)
        { tr with table := .present t, givesPolicy := tr.givesPolicy || t.policy.isSome }
        (.createTable t)
  | dropped {tr : Tracker} {ifExists : Bool} (ht : tr.table ≠ .dropped) :
      Moves known blueprint tr (.dropTable ifExists) { tr with table := .dropped }
        (.dropTable ifExists)
  | indexed {tr : Tracker} {i : Index} {name : String} (ht : tr.table ≠ .dropped)
      (hcheck : checkIndex known blueprint i = .ok ())
      (hcolumns : ∀ t, tr.table = .present t →
        ∀ column ∈ i.columns ++ i.storing, t.column? column ≠ none)
      (hname : assignName tr.indexNames i = .ok name) :
      Moves known blueprint tr (.createIndex i) { tr with indexNames := name :: tr.indexNames }
        (.createIndex { i with name := some name })
  | beside {tr : Tracker} {c : Change} (ht : tr.table ≠ .dropped) (hc : c.Beside blueprint) :
      Moves known blueprint tr c tr c

namespace Tracker

variable {known : List Table} {blueprint : String} {tr tr' : Tracker} {c c' : Change} {t : Table}

/-- A parent is looked at only where it is known. -/
theorem parent_eq_ok {parent? : Option Table} {f : Table → Except InvalidDefinition Unit} :
    (match parent? with
      | some parent => orInvalid (f parent)
      | none => pure ()) = .ok () ↔ ∀ parent ∈ parent?, f parent = .ok () := by
  cases parent? with
  | none => exact ⟨fun _ => nofun, fun _ => rfl⟩
  | some parent =>
      rw [orInvalid, mapError_eq_ok]
      constructor
      · rintro h _ ⟨⟩
        exact h
      · intro h
        exact h parent rfl

theorem checkCreation_eq_ok {t : Table} :
    checkCreation known blueprint t = .ok () ↔
      t.name = blueprint ∧ t.validate = .ok () ∧
        ∀ parent ∈ t.interleave.bind fun i => findTable? known i.parent,
          t.validateInterleave parent = .ok () := by
  rw [checkCreation]
  constructor
  · intro h
    split at h
    · cases h
    · rename_i hname
      obtain ⟨⟨⟩, hvalid, hparent⟩ := exists_of_bind_eq_ok h
      exact ⟨Classical.not_not.mp hname, mapError_eq_ok.mp hvalid, parent_eq_ok.mp hparent⟩
  · rintro ⟨hname, hvalid, hparent⟩
    rw [if_neg (not_not_intro hname)]
    exact bind_eq_ok.mpr ⟨(), mapError_eq_ok.mpr hvalid, parent_eq_ok.mpr hparent⟩

theorem checkIndex_eq_ok {i : Index} :
    checkIndex known blueprint i = .ok () ↔
      i.table = blueprint ∧ i.validate = .ok () ∧
        ∀ parent ∈ i.interleaveIn.bind (findTable? known), i.validateInterleave parent = .ok () := by
  rw [checkIndex]
  constructor
  · intro h
    split at h
    · cases h
    · rename_i htable
      obtain ⟨⟨⟩, hvalid, hparent⟩ := exists_of_bind_eq_ok h
      exact ⟨Classical.not_not.mp htable, mapError_eq_ok.mp hvalid, parent_eq_ok.mp hparent⟩
  · rintro ⟨htable, hvalid, hparent⟩
    rw [if_neg (not_not_intro htable)]
    exact bind_eq_ok.mpr ⟨(), mapError_eq_ok.mpr hvalid, parent_eq_ok.mpr hparent⟩

/-- A change whose check on a known table is the one that the table makes. -/
theorem moves_of_update {f : Table → Except Error Table}
    (hf : ∀ t t', f t = .ok t' → c.Allowed t tr.givesPolicy ∧ t' = c.effect t)
    (ht : tr.table ≠ .dropped) (hc : c.altersTable = true)
    (hdrop : c = .dropPolicy → tr.givesPolicy = false)
    (h : (do
      let table ← tr.table.update f
      return ({ tr with table, givesPolicy := c.givesPolicy || tr.givesPolicy }, c))
        = .ok (tr', c')) :
    tr.Moves known blueprint c tr' c' := by
  obtain ⟨state, hstate, h⟩ := exists_of_bind_eq_ok h
  obtain ⟨rfl, rfl⟩ := Prod.mk.inj (Except.ok.inj h)
  cases htable : tr.table with
  | dropped => exact absurd htable ht
  | unknown =>
      rw [htable] at hstate
      obtain rfl := Except.ok.inj hstate
      rw [← htable]
      exact .unchecked htable hc hdrop
  | present t =>
      rw [htable] at hstate
      obtain ⟨t', ht', rfl⟩ := map_eq_ok.mp hstate
      obtain ⟨hallowed, rfl⟩ := hf t t' ht'
      exact .allowed htable hallowed

theorem moves_of_creation (h : tr.apply known blueprint (.createTable t) = .ok (tr', c')) :
    tr.Moves known blueprint (.createTable t) tr' c' := by
  obtain ⟨table, names, gives⟩ := tr
  cases table with
  | dropped => cases h
  | present u =>
      obtain ⟨⟨⟩, -, h⟩ := exists_of_bind_eq_ok h
      cases h
  | unknown =>
      obtain ⟨⟨⟩, hcheck, h⟩ := exists_of_bind_eq_ok h
      cases h
      exact .created rfl hcheck

/-- What a tracker does with a change that it takes. -/
theorem moves_of_apply (h : tr.apply known blueprint c = .ok (tr', c')) :
    tr.Moves known blueprint c tr' c' := by
  obtain ⟨table, names, gives⟩ := tr
  cases table with
  | dropped => cases h
  | _ =>
    cases c with
    | createTable t => exact moves_of_creation h
    | dropTable ifExists =>
        cases h
        exact .dropped nofun
    | addColumn c =>
        exact moves_of_update (fun _ _ => Table.addColumn_eq_ok.mp) nofun rfl nofun h
    | alterColumn c =>
        exact moves_of_update (fun _ _ => Table.alterColumn_eq_ok.mp) nofun rfl nofun h
    | dropColumn name =>
        exact moves_of_update (fun _ _ => Table.dropColumn_eq_ok.mp) nofun rfl nofun h
    | addPolicy p =>
        exact moves_of_update (fun _ _ => Table.addPolicy_eq_ok.mp) nofun rfl nofun h
    | replacePolicy p =>
        exact moves_of_update (fun _ _ => Table.replacePolicy_eq_ok.mp) nofun rfl nofun h
    | dropPolicy =>
        cases gives with
        | true => cases h
        | false =>
            refine moves_of_update ?_ nofun rfl (fun _ => rfl) h
            intro t t' ht
            obtain ⟨hpolicy, ht'⟩ := Table.dropPolicy_eq_ok.mp ht
            exact ⟨⟨rfl, hpolicy⟩, ht'⟩
    | createIndex i =>
        obtain ⟨⟨⟩, hcheck, h⟩ := exists_of_bind_eq_ok h
        obtain ⟨⟨⟩, hcolumns, h⟩ := exists_of_bind_eq_ok h
        obtain ⟨name, hname, h⟩ := exists_of_bind_eq_ok h
        cases h
        refine .indexed nofun hcheck ?_ (mapError_eq_ok.mp hname)
        intro t ht
        exact Table.checkIndexColumns_eq_ok.mp (TableState.check_eq_ok.mp hcolumns t ht)
    | addForeignKey k =>
        obtain ⟨⟨⟩, hk, h⟩ := exists_of_bind_eq_ok h
        cases h
        exact .beside nofun (.addForeignKey (mapError_eq_ok.mp hk))
    | dropIndex name =>
        cases h
        exact .beside nofun (.dropIndex name)
    | dropForeignKey name =>
        cases h
        exact .beside nofun (.dropForeignKey name)

/-- A change that a known table allows is taken. -/
theorem apply_of_allowed (ht : tr.table = .present t) (hc : c.Allowed t tr.givesPolicy) :
    tr.apply known blueprint c = .ok
      ({ tr with table := .present (c.effect t), givesPolicy := c.givesPolicy || tr.givesPolicy },
        c) := by
  obtain ⟨table, names, gives⟩ := tr
  obtain rfl : table = .present t := ht
  have hupdate : ∀ {f : Table → Except Error Table}, f t = .ok (c.effect t) →
      (TableState.present t).update f = .ok (.present (c.effect t)) := by
    intro f hf
    exact map_eq_ok.mpr ⟨_, hf, rfl⟩
  cases c with
  | addColumn c =>
      exact bind_eq_ok.mpr ⟨_, hupdate (Table.addColumn_eq_ok.mpr ⟨hc, rfl⟩), rfl⟩
  | alterColumn c =>
      exact bind_eq_ok.mpr ⟨_, hupdate (Table.alterColumn_eq_ok.mpr ⟨hc, rfl⟩), rfl⟩
  | dropColumn name =>
      exact bind_eq_ok.mpr ⟨_, hupdate (Table.dropColumn_eq_ok.mpr ⟨hc, rfl⟩), rfl⟩
  | addPolicy p =>
      exact bind_eq_ok.mpr ⟨_, hupdate (Table.addPolicy_eq_ok.mpr ⟨hc, rfl⟩), rfl⟩
  | replacePolicy p =>
      exact bind_eq_ok.mpr ⟨_, hupdate (Table.replacePolicy_eq_ok.mpr ⟨hc, rfl⟩), rfl⟩
  | dropPolicy =>
      obtain ⟨hgives, hpolicy⟩ := hc
      obtain rfl : gives = false := hgives
      exact bind_eq_ok.mpr ⟨_, hupdate (Table.dropPolicy_eq_ok.mpr ⟨hpolicy, rfl⟩), rfl⟩
  | _ => exact False.elim hc

/-- A change of an unknown table is taken, unless it drops the policy that the
    batch gives. -/
theorem apply_of_unchecked (ht : tr.table = .unknown) (hc : c.altersTable = true)
    (hdrop : c = .dropPolicy → tr.givesPolicy = false) :
    tr.apply known blueprint c
      = .ok ({ tr with givesPolicy := c.givesPolicy || tr.givesPolicy }, c) := by
  obtain ⟨table, names, gives⟩ := tr
  obtain rfl : table = .unknown := ht
  cases c with
  | dropPolicy =>
      obtain rfl : gives = false := hdrop rfl
      rfl
  | addColumn _ | alterColumn _ | dropColumn _ | addPolicy _ | replacePolicy _ => rfl
  | _ => cases hc

/-- What a tracker can do with a change, it does. -/
theorem apply_of_moves (h : tr.Moves known blueprint c tr' c') :
    tr.apply known blueprint c = .ok (tr', c') := by
  cases h with
  | allowed ht hc => exact apply_of_allowed ht hc
  | unchecked ht hc hdrop => exact apply_of_unchecked ht hc hdrop
  | created ht hcheck =>
      obtain ⟨table, names, gives⟩ := tr
      obtain rfl : table = .unknown := ht
      exact bind_eq_ok.mpr ⟨(), hcheck, rfl⟩
  | dropped ht =>
      obtain ⟨table, names, gives⟩ := tr
      cases table with
      | dropped => exact absurd rfl ht
      | _ => rfl
  | indexed ht hcheck hcolumns hname =>
      obtain ⟨table, names, gives⟩ := tr
      have hfound := TableState.check_eq_ok.mpr fun t ht =>
        Table.checkIndexColumns_eq_ok.mpr (hcolumns t ht)
      cases table with
      | dropped => exact absurd rfl ht
      | _ =>
        refine bind_eq_ok.mpr ⟨(), hcheck, bind_eq_ok.mpr ⟨(), hfound, ?_⟩⟩
        exact bind_eq_ok.mpr ⟨_, mapError_eq_ok.mpr hname, rfl⟩
  | beside ht hc =>
      obtain ⟨table, names, gives⟩ := tr
      cases table with
      | dropped => exact absurd rfl ht
      | _ =>
        cases hc with
        | addForeignKey hk => exact bind_eq_ok.mpr ⟨(), mapError_eq_ok.mpr hk, rfl⟩
        | _ => rfl

/-- Nothing moves behind a table that is dropped. -/
theorem Moves.ne_dropped (h : tr.Moves known blueprint c tr' c') : tr.table ≠ .dropped := by
  cases h with
  | allowed ht _ => exact fun h => nomatch ht.symm.trans h
  | unchecked ht _ _ => exact fun h => nomatch ht.symm.trans h
  | created ht _ => exact fun h => nomatch ht.symm.trans h
  | dropped ht => exact ht
  | indexed ht _ _ _ => exact ht
  | beside ht _ => exact ht

/-- A table that is there becomes what the change makes of it, unless it is
    dropped. -/
theorem Moves.of_present (h : tr.Moves known blueprint c tr' c') (ht : tr.table = .present t) :
    tr'.table = .present (c.effect t) ∨ tr'.table = .dropped := by
  cases h with
  | allowed hu _ =>
      obtain rfl := TableState.present.inj (hu.symm.trans ht)
      exact Or.inl rfl
  | unchecked hu _ _ => cases hu.symm.trans ht
  | created hu _ => cases hu.symm.trans ht
  | dropped _ => exact Or.inr rfl
  | indexed _ _ _ _ => exact Or.inl ht
  | beside _ hc => cases hc <;> exact Or.inl ht

theorem Moves.createsTable (h : tr.Moves known blueprint c tr' c') (ht : tr.table = .present t) :
    c.createsTable = false := by
  cases c with
  | createTable u =>
      cases h with
      | allowed _ hc => exact False.elim hc
      | unchecked hu _ _ => cases hu.symm.trans ht
      | created hu _ => cases hu.symm.trans ht
      | beside _ hc => cases hc
  | _ => rfl

/-- A change is carried out as it is, but for the name of an index. -/
theorem Moves.congr {β : Type} (f : Change → β)
    (hf : ∀ i name, f (.createIndex { i with name := some name }) = f (.createIndex i))
    (h : tr.Moves known blueprint c tr' c') : f c' = f c := by
  cases h with
  | indexed _ _ _ _ => exact hf _ _
  | _ => rfl

end Tracker

end SpannerDialect.Schema
