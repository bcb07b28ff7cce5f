import Mathlib.Data.List.Nodup
import SpannerDialect.Proofs.Schema.Runs

/-! # Sound tables

    A table is sound when it passes its own check (`Table.Sound`).  What a run
    keeps of that is that the table is well formed: it names each column once,
    has the columns of its key, and dates or times under its policy.  A table
    that is known is well formed behind every change, and keeps its name, its
    key and its parent (`Synthesis.run_wellFormed`). -/

namespace SpannerDialect.Schema

namespace Table

variable {t u : Table} {name : String} {c : Column}

/-! ## Columns by their names -/

theorem column?_eq_none : t.column? name = none ↔ name ∉ t.columns.map Column.name := by
  simp [column?]

theorem column?_ne_none : t.column? name ≠ none ↔ name ∈ t.columns.map Column.name := by
  rw [ne_eq, column?_eq_none, not_not]

theorem name_of_column? (h : t.column? name = some c) : c.name = name := by
  have hname := List.find?_some h
  exact beq_iff_eq.mp hname

theorem mem_of_column? (h : t.column? name = some c) : c ∈ t.columns :=
  List.mem_of_find?_eq_some h

theorem column?_of_mem (hnodup : (t.columns.map Column.name).Nodup) (hc : c ∈ t.columns) :
    t.column? c.name = some c := by
  cases hfound : t.column? c.name with
  | none => exact absurd (List.mem_map_of_mem hc) (column?_eq_none.mp hfound)
  | some d =>
      have hd := mem_of_column? hfound
      rw [List.inj_on_of_nodup_map hnodup hd hc (name_of_column? hfound)]

theorem map_name_replaceColumn (c : Column) (cs : List Column) :
    (replaceColumn c cs).map Column.name = cs.map Column.name := by
  induction cs with
  | nil => rfl
  | cons d ds ih =>
      rw [replaceColumn]
      split
      · rename_i h
        rw [List.map_cons, List.map_cons, h]
      · rw [List.map_cons, List.map_cons, ih]

/-! ## What a check asks -/

/-- No column of the key ever holds NULL. -/
def KeyNotNull (t : Table) : Prop :=
  ∀ name ∈ t.primaryKey, ∃ c, t.column? name = some c ∧ c.nullable = false

/-- The columns are told apart by their names, the key is one of them, and the
    policy has dates or times to go by. -/
structure WellFormed (t : Table) : Prop where
  columns_nodup : (t.columns.map Column.name).Nodup
  key_present : ∀ name ∈ t.primaryKey, name ∈ t.columns.map Column.name
  policy_holdsTimes : ∀ p, t.policy = some p → t.HoldsTimes p.column

/-- All that is asked of a table. -/
structure Sound (t : Table) : Prop where
  named : t.name ≠ ""
  columns_named : ∀ c ∈ t.columns, c.name ≠ ""
  columns_nodup : (t.columns.map Column.name).Nodup
  key_nodup : t.primaryKey.Nodup
  key_notNull : t.KeyNotNull
  policy_holdsTimes : ∀ p, t.policy = some p → t.HoldsTimes p.column

theorem Sound.wellFormed (h : t.Sound) : t.WellFormed where
  columns_nodup := h.columns_nodup
  key_present := by
    intro name hname
    obtain ⟨c, hc, -⟩ := h.key_notNull name hname
    exact column?_ne_none.mp (hc ▸ nofun)
  policy_holdsTimes := h.policy_holdsTimes

theorem checkColumns_eq_ok {seen : List String} {cs : List Column} :
    checkColumns name seen cs = .ok () ↔
      (∀ c ∈ cs, c.name ≠ "") ∧ (cs.map Column.name).Nodup ∧
        ∀ c ∈ cs, c.name ∉ seen := by
  induction cs generalizing seen with
  | nil => simp [checkColumns]
  | cons c cs ih =>
      rw [checkColumns, guard_eq_ok, guard_eq_ok, ih, List.map_cons, List.nodup_cons,
        List.forall_mem_cons, List.forall_mem_cons]
      simp only [List.mem_cons, not_or, List.mem_map, not_exists, not_and]
      constructor
      · rintro ⟨hname, hnew, hnamed, hnodup, hseen⟩
        refine ⟨⟨hname, hnamed⟩, ⟨?_, hnodup⟩, hnew, ?_⟩
        · exact fun d hd h => (hseen d hd).1 h
        · exact fun d hd => (hseen d hd).2
      · rintro ⟨⟨hname, hnamed⟩, ⟨hfirst, hnodup⟩, hnew, hseen⟩
        refine ⟨hname, hnew, hnamed, hnodup, ?_⟩
        exact fun d hd => ⟨fun h => hfirst d hd h, hseen d hd⟩

theorem checkKey_eq_ok {seen names : List String} :
    t.checkKey seen names = .ok () ↔
      names.Nodup ∧ (∀ name ∈ names, name ∉ seen) ∧
        ∀ name ∈ names, ∃ c, t.column? name = some c ∧ c.nullable = false := by
  induction names generalizing seen with
  | nil => simp [checkKey]
  | cons name names ih =>
      rw [checkKey, guard_eq_ok, List.nodup_cons, List.forall_mem_cons, List.forall_mem_cons]
      cases hcolumn : t.column? name with
      | none => simp
      | some c =>
          simp only [Bool.not_eq_true, guard_eq_ok, ih, List.mem_cons, not_or]
          constructor
          · rintro ⟨hnew, hnull, hnodup, hseen, hkey⟩
            refine ⟨⟨?_, hnodup⟩, ⟨hnew, ?_⟩, ⟨c, rfl, hnull⟩, hkey⟩
            · exact fun h => (hseen name h).1 rfl
            · exact fun other h => (hseen other h).2
          · rintro ⟨⟨hfirst, hnodup⟩, ⟨hnew, hseen⟩, ⟨d, hd, hnull⟩, hkey⟩
            obtain rfl := Option.some.inj hd
            refine ⟨hnew, hnull, hnodup, ?_, hkey⟩
            exact fun other h => ⟨fun heq => hfirst (heq ▸ h), hseen other h⟩

/-- What is checked of a policy, if there is one. -/
theorem checkPolicies_eq_ok :
    (match t.policy with
      | some p => t.checkPolicy p
      | none => pure ()) = .ok () ↔ ∀ p, t.policy = some p → t.HoldsTimes p.column := by
  cases t.policy with
  | none => simp [pure, Except.pure]
  | some p =>
      rw [checkPolicy_eq_ok]
      constructor
      · rintro h q hq
        obtain rfl := Option.some.inj hq
        exact h
      · intro h
        exact h p rfl

/-- The check of a table says whether it is sound. -/
theorem validate_eq_ok : t.validate = .ok () ↔ t.Sound := by
  have hvalidate : t.validate = if t.name = "" then .error .emptyTableName else
      checkColumns t.name [] t.columns >>= fun _ => checkKey t [] t.primaryKey >>= fun _ =>
        match t.policy with
          | some p => t.checkPolicy p
          | none => pure () := rfl
  rw [hvalidate, guard_eq_ok, bind_eq_ok]
  constructor
  · rintro ⟨hnamed, ⟨⟩, hcolumns, hrest⟩
    obtain ⟨⟨⟩, hkey, hpolicy⟩ := bind_eq_ok.mp hrest
    obtain ⟨hcolumns, hdistinct, -⟩ := checkColumns_eq_ok.mp hcolumns
    obtain ⟨hkey, -, hnotNull⟩ := checkKey_eq_ok.mp hkey
    exact ⟨hnamed, hcolumns, hdistinct, hkey, hnotNull, checkPolicies_eq_ok.mp hpolicy⟩
  · intro h
    have hcolumns : checkColumns t.name [] t.columns = .ok () :=
      checkColumns_eq_ok.mpr ⟨h.columns_named, h.columns_nodup, fun _ _ => List.not_mem_nil⟩
    have hkey : t.checkKey [] t.primaryKey = .ok () :=
      checkKey_eq_ok.mpr ⟨h.key_nodup, fun _ _ => List.not_mem_nil, h.key_notNull⟩
    exact ⟨h.named, (), hcolumns,
      bind_eq_ok.mpr ⟨(), hkey, checkPolicies_eq_ok.mpr h.policy_holdsTimes⟩⟩

/-! ## What changes keep -/

/-- Two tables have the same name, key and parent, which no change of columns
    or of the policy touches. -/
structure SameFrame (t u : Table) : Prop where
  name_eq : t.name = u.name
  primaryKey_eq : t.primaryKey = u.primaryKey
  interleave_eq : t.interleave = u.interleave

theorem SameFrame.refl (t : Table) : t.SameFrame t :=
  ⟨rfl, rfl, rfl⟩

theorem SameFrame.trans {v : Table} (h : t.SameFrame u) (h' : u.SameFrame v) : t.SameFrame v :=
  ⟨h.name_eq.trans h'.name_eq, h.primaryKey_eq.trans h'.primaryKey_eq,
    h.interleave_eq.trans h'.interleave_eq⟩

end Table

namespace Change

variable {t : Table} {gives : Bool} {c : Change}

theorem sameFrame_effect (h : c.createsTable = false) : (c.effect t).SameFrame t := by
  cases c with
  | createTable _ => cases h
  | _ => exact ⟨rfl, rfl, rfl⟩

/-- What a well-formed table allows leaves it well-formed. -/
theorem Allowed.wellFormed (hc : c.Allowed t gives) (h : t.WellFormed) :
    (c.effect t).WellFormed := by
  have hpolicy : ∀ p, t.policy = some p → (c.effect t).HoldsTimes p.column := by
    intro p hp
    exact hc.holdsTimes (Table.drivesPolicy_eq_true.mpr ⟨p, hp, rfl⟩) (h.policy_holdsTimes p hp)
  cases c with
  | addColumn c =>
      refine ⟨?_, ?_, hpolicy⟩
      · have hnew := Table.column?_eq_none.mp hc
        show ((t.columns ++ [c]).map Column.name).Nodup
        rw [List.map_append, List.map_singleton, ← List.concat_eq_append]
        exact h.columns_nodup.concat hnew
      · intro name hname
        show name ∈ (t.columns ++ [c]).map Column.name
        rw [List.map_append]
        exact List.mem_append_left _ (h.key_present name hname)
  | alterColumn c =>
      refine ⟨?_, ?_, hpolicy⟩
      · show ((Table.replaceColumn c t.columns).map Column.name).Nodup
        rw [Table.map_name_replaceColumn]
        exact h.columns_nodup
      · intro name hname
        show name ∈ (Table.replaceColumn c t.columns).map Column.name
        rw [Table.map_name_replaceColumn]
        exact h.key_present name hname
  | dropColumn dropped =>
      refine ⟨h.columns_nodup.sublist (List.filter_sublist.map _), ?_, hpolicy⟩
      intro name hname
      have hne : dropped ≠ name := by
        rintro rfl
        exact hc.1 hname
      rw [← Table.column?_ne_none, Table.column?_dropColumn, if_neg hne, Table.column?_ne_none]
      exact h.key_present name hname
  | addPolicy p =>
      refine ⟨h.columns_nodup, h.key_present, ?_⟩
      rintro q ⟨⟩
      exact hc.2
  | replacePolicy p =>
      refine ⟨h.columns_nodup, h.key_present, ?_⟩
      rintro q ⟨⟩
      exact hc.2
  | dropPolicy => exact ⟨h.columns_nodup, h.key_present, nofun⟩
  | _ => exact False.elim hc

end Change

/-! ## What runs keep -/

section

variable {s : Synthesis} {known : List Table} {blueprint : String} {tr tr' : Tracker} {t : Table}
  {c c' : Change} {cs : List Change} {steps : List Step}

theorem Tracker.sound_of_checkCreation (h : checkCreation known blueprint t = .ok ()) :
    t.Sound := by
  rw [checkCreation] at h
  split at h
  · cases h
  · obtain ⟨⟨⟩, hvalid, -⟩ := exists_of_bind_eq_ok h
    exact Table.validate_eq_ok.mp (mapError_eq_ok.mp hvalid)

/-- A change leaves a known table well-formed. -/
theorem Tracker.Moves.wellFormed (h : tr.Moves known blueprint c tr' c')
    (hwell : ∀ u, tr.table = .present u → u.WellFormed) (ht : tr'.table = .present t) :
    t.WellFormed := by
  cases h with
  | allowed hu hc =>
      obtain rfl := TableState.present.inj ht
      exact hc.wellFormed (hwell _ hu)
  | unchecked hu _ _ => cases hu.symm.trans ht
  | created _ hcheck =>
      obtain rfl := TableState.present.inj ht
      exact (sound_of_checkCreation hcheck).wellFormed
  | dropped _ => cases ht
  | indexed _ _ _ _ => exact hwell t ht
  | beside _ _ => exact hwell t ht

/-- A known table is what it was but for its columns and its policy, or it has
    just been created. -/
theorem Tracker.Moves.sameFrame (h : tr.Moves known blueprint c tr' c')
    (ht : tr'.table = .present t) :
    (∃ u, tr.table = .present u ∧ t.SameFrame u) ∨ tr.table = .unknown ∧ c = .createTable t := by
  cases h with
  | allowed hu hc =>
      obtain rfl := TableState.present.inj ht
      exact Or.inl ⟨_, hu, Change.sameFrame_effect hc.createsTable⟩
  | unchecked hu _ _ => cases hu.symm.trans ht
  | created hu _ =>
      obtain rfl := TableState.present.inj ht
      exact Or.inr ⟨hu, rfl⟩
  | dropped _ => cases ht
  | indexed _ _ _ _ => exact Or.inl ⟨t, ht, .refl t⟩
  | beside _ _ => exact Or.inl ⟨t, ht, .refl t⟩

/-- A table that is unknown behind a change was so before it. -/
theorem Tracker.Moves.unknown (h : tr.Moves known blueprint c tr' c')
    (ht : tr'.table = .unknown) : tr.table = .unknown := by
  cases h with
  | allowed _ _ => cases ht
  | unchecked hu _ _ => exact hu
  | created hu _ => exact hu
  | dropped _ => cases ht
  | indexed _ _ _ _ => exact ht
  | beside _ _ => exact ht

namespace Synthesis.Runs

theorem wellFormed (h : s.Runs blueprint tr cs tr' steps)
    (hwell : ∀ u, tr.table = .present u → u.WellFormed) (ht : tr'.table = .present t) :
    t.WellFormed := by
  induction h with
  | nil => exact hwell t ht
  | cons hmove _ _ ih => exact ih (fun u hu => hmove.wellFormed hwell hu) ht

/-- A known table has been known from the start, or a change has created it. -/
theorem sameFrame (h : s.Runs blueprint tr cs tr' steps) (ht : tr'.table = .present t) :
    ∃ d, (tr.table = .present d ∨ tr.table = .unknown ∧ .createTable d ∈ cs) ∧
      t.SameFrame d := by
  induction h with
  | nil => exact ⟨t, Or.inl ht, .refl t⟩
  | cons hmove _ _ ih =>
      obtain ⟨d, hd | ⟨hunknown, hcreated⟩, hframe⟩ := ih ht
      · rcases hmove.sameFrame hd with ⟨u, hu, hframe'⟩ | ⟨hunknown, rfl⟩
        · exact ⟨u, Or.inl hu, hframe.trans hframe'⟩
        · exact ⟨d, Or.inr ⟨hunknown, .head _⟩, hframe⟩
      · exact ⟨d, Or.inr ⟨hmove.unknown hunknown, .tail _ hcreated⟩, hframe⟩

end Synthesis.Runs

/-- **A known table stays well-formed.**  Whatever changes a run has taken so
    far, from an existing table that is sound or from an unknown one: while the
    table is known and not dropped, its columns have different names, those of
    its key are among them, and its policy has a column of dates or times.  Its
    name, its key and its parent are those of the existing table, or of the one
    that was created where none was known. -/
theorem Synthesis.run_wellFormed {existing : Option Table}
    (hexisting : ∀ d, existing = some d → d.validate = .ok ())
    (h : s.run blueprint (.start existing) cs = .ok (tr, steps)) (ht : tr.table = .present t) :
    t.WellFormed ∧
      ∃ d, (existing = some d ∨ existing = none ∧ .createTable d ∈ cs) ∧ t.SameFrame d := by
  have hruns := runs_of_run h
  cases existing with
  | none =>
      refine ⟨hruns.wellFormed nofun ht, ?_⟩
      obtain ⟨d, hd | ⟨-, hd⟩, hframe⟩ := hruns.sameFrame ht
      · cases hd
      · exact ⟨d, Or.inr ⟨rfl, hd⟩, hframe⟩
  | some e =>
      refine ⟨hruns.wellFormed ?_ ht, ?_⟩
      · rintro u ⟨⟩
        exact (Table.validate_eq_ok.mp (hexisting e rfl)).wellFormed
      · obtain ⟨d, hd | ⟨hunknown, -⟩, hframe⟩ := hruns.sameFrame ht
        · obtain rfl := TableState.present.inj hd
          exact ⟨e, Or.inl rfl, hframe⟩
        · cases hunknown

/-- The policy of the people moves to another column, which becomes one of times. -/
def redatedPeople : Blueprint where
  table := "User"
  changes := [.alterColumn (.ofKind "born" .timestamp), .replacePolicy ⟨"born", 5⟩,
    .dropColumn "deletedAt", .addColumn (.ofKind "left" .date)]

theorem run_wellFormed_redatedPeople :
    people.validate = .ok () ∧
      ∃ tr steps t, Synthesis.run ⟨[], .utc⟩ "User" (.start (some people)) redatedPeople.changes
          = .ok (tr, steps) ∧
        tr.table = .present t ∧ t.policy = some ⟨"born", 5⟩ ∧ t.WellFormed ∧
        t.SameFrame people := by
  have hexisting : ∀ d, some people = some d → d.validate = .ok () := by
    rintro d ⟨⟩
    rfl
  have hrun : ∃ tr steps t, Synthesis.run ⟨[], .utc⟩ "User" (.start (some people))
      redatedPeople.changes = .ok (tr, steps) ∧ tr.table = .present t ∧
        t.policy = some ⟨"born", 5⟩ :=
    ⟨_, _, _, rfl, rfl, rfl⟩
  obtain ⟨tr, steps, t, hrun, ht, hpolicy⟩ := hrun
  obtain ⟨hwell, d, hd | ⟨hnone, -⟩, hframe⟩ := Synthesis.run_wellFormed hexisting hrun ht
  · obtain rfl := Option.some.inj hd
    exact ⟨rfl, tr, steps, t, hrun, ht, hpolicy, hwell, hframe⟩
  · cases hnone

end

end SpannerDialect.Schema
