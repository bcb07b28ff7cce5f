import SpannerDialect.Proofs.Schema.Reordering
import SpannerDialect.Proofs.Schema.Soundness

/-! # The columns of the key

    A sound table has no column in its key that allows NULL, and no change of a
    known table adds or drops such a column.  An altered column, though, may
    allow NULL whether or not it is in the key.  So the columns of the key stay
    as they should just when the blueprint alters none of them so
    (`Synthesis.batch_keyNotNull`). -/

namespace SpannerDialect.Schema

/-- Whether a change lets a column of a key hold NULL. -/
def Change.nullsKey (key : List String) : Change → Bool
  | .alterColumn c => c.name ∈ key && c.nullable
  | _ => false

variable {s : Synthesis} {known : List Table} {blueprint name : String} {tr tr' : Tracker}
  {t u : Table} {c c' : Change} {cs as bs : List Change} {steps : List Step} {gives : Bool}

/-! ## One change -/

theorem Change.nullsKey_eq_false {key : List String} :
    c.nullsKey key = false ↔ ∀ d, c = .alterColumn d → d.name ∈ key → d.nullable = false := by
  cases c with
  | alterColumn d => simp [nullsKey]
  | _ => exact ⟨fun _ _ => nofun, fun _ => rfl⟩

/-- A change of a table leaves its key without NULL just when it lets no column
    of the key hold one. -/
theorem Change.Allowed.keyNotNull_iff (hc : c.Allowed t gives) (h : t.KeyNotNull) :
    (c.effect t).KeyNotNull ↔ c.nullsKey t.primaryKey = false := by
  cases c with
  | addColumn c =>
      refine iff_of_true ?_ rfl
      intro name hname
      obtain ⟨d, hd, hnull⟩ := h name hname
      refine ⟨d, ?_, hnull⟩
      rw [Table.column?_addColumn, hd]
      rfl
  | alterColumn c =>
      rw [nullsKey_eq_false]
      constructor
      · rintro hkey d ⟨⟩ hname
        obtain ⟨d, hd, hnull⟩ := hkey c.name hname
        obtain ⟨e, he, -⟩ := h c.name hname
        rw [Table.column?_alterColumn, if_pos rfl, he] at hd
        obtain rfl := Option.some.inj hd
        exact hnull
      · intro hnull name hname
        obtain ⟨d, hd, hold⟩ := h name hname
        rw [Table.column?_alterColumn, hd]
        by_cases heq : c.name = name
        · subst heq
          exact ⟨c, by rw [if_pos rfl, Option.map_some], hnull c rfl hname⟩
        · exact ⟨d, by rw [if_neg heq], hold⟩
  | dropColumn dropped =>
      refine iff_of_true ?_ rfl
      intro name hname
      obtain ⟨d, hd, hnull⟩ := h name hname
      have hne : dropped ≠ name := by
        rintro rfl
        exact hc.1 hname
      exact ⟨d, by rw [Table.column?_dropColumn, if_neg hne, hd], hnull⟩
  | addPolicy _ => exact iff_of_true h rfl
  | replacePolicy _ => exact iff_of_true h rfl
  | dropPolicy => exact iff_of_true h rfl
  | _ => exact False.elim hc

/-- The same, of a change that a run takes. -/
theorem Tracker.Moves.keyNotNull_iff (h : tr.Moves known blueprint c tr' c')
    (ht : tr.table = .present t) (hkey : t.KeyNotNull) (hu : tr'.table = .present u) :
    u.KeyNotNull ↔ c.nullsKey t.primaryKey = false := by
  cases h with
  | allowed ht' hc =>
      obtain rfl := TableState.present.inj (ht'.symm.trans ht)
      obtain rfl := TableState.present.inj hu
      exact hc.keyNotNull_iff hkey
  | unchecked ht' _ _ => cases ht'.symm.trans ht
  | created ht' _ => cases ht'.symm.trans ht
  | dropped _ => cases hu
  | indexed _ _ _ _ =>
      obtain rfl := TableState.present.inj (ht.symm.trans hu)
      exact iff_of_true hkey rfl
  | beside _ hc =>
      obtain rfl := TableState.present.inj (ht.symm.trans hu)
      cases hc <;> exact iff_of_true hkey rfl

/-! ## Runs -/

/-- A change of the table among others finds the table there, which allows it. -/
theorem Synthesis.exists_allowed_of_run (hc : c.altersTable = true) (ht : tr.table = .present t)
    (h : s.run blueprint tr (as ++ c :: bs) = .ok (tr', steps)) :
    ∃ tr₁ tr₂ u steps₁ steps₂, s.run blueprint tr as = .ok (tr₁, steps₁) ∧
      tr₁.table = .present u ∧ c.Allowed u tr₁.givesPolicy ∧
      s.run blueprint tr (as ++ [c]) = .ok (tr₂, steps₂) ∧ tr₂.table = .present (c.effect u) := by
  rw [List.append_cons] at h
  obtain ⟨tr₂, steps₂, _, hrun, -, -⟩ := exists_of_run_append h
  obtain ⟨tr₁, steps₁, _, hbefore, hlast, -⟩ := exists_of_run_append hrun
  obtain ⟨_, first, rest, hstep, hnil, -⟩ := exists_of_run_cons hlast
  cases hnil
  -- a table that has been dropped would have taken no change
  have hpresent := ((runs_of_run hbefore).of_present ht).resolve_right
    (moves_of_step hstep).1.ne_dropped
  obtain ⟨hallowed, -, -, rfl⟩ := (step_eq_ok hc hpresent).mp hstep
  exact ⟨tr₁, _, _, steps₁, steps₂, hbefore, hpresent, hallowed, hrun, rfl⟩

/-- A run that lets no column of the key hold NULL leaves the key without. -/
theorem Synthesis.Runs.keyNotNull (h : s.Runs blueprint tr cs tr' steps)
    (ht : tr.table = .present t) (hkey : t.KeyNotNull)
    (hcs : ∀ c ∈ cs, c.nullsKey t.primaryKey = false) (hu : tr'.table = .present u) :
    u.KeyNotNull := by
  induction h generalizing t with
  | nil =>
      obtain rfl := TableState.present.inj (ht.symm.trans hu)
      exact hkey
  | cons hmove _ hrest ih =>
      obtain ⟨hfirst, htail⟩ := List.forall_mem_cons.mp hcs
      rcases hmove.of_present ht with hnext | hdropped
      · have hframe := Change.sameFrame_effect (t := t) (hmove.createsTable ht)
        refine ih hnext ((hmove.keyNotNull_iff ht hkey hnext).mpr hfirst) ?_ hu
        rw [hframe.primaryKey_eq]
        exact htail
      · obtain rfl := hrest.eq_nil_of_dropped hdropped
        cases hrest
        cases hdropped.symm.trans hu

/-- **The key stays without NULL** behind every change of an accepted blueprint
    just when the blueprint alters no column of the key into one that allows it:
    that the existing table is sound is not enough. -/
theorem Synthesis.batch_keyNotNull {s : Synthesis} {t : Table} {b : Blueprint}
    {statements : List (List Char)} (hvalid : t.validate = .ok ())
    (h : s.batch (some t) b = .ok statements) :
    (∀ before after, b.changes = before ++ after →
      ∀ tr steps u, s.run b.table (.start (some t)) before = .ok (tr, steps) →
        tr.table = .present u → u.KeyNotNull) ↔
      ∀ c, .alterColumn c ∈ b.changes → c.name ∈ t.primaryKey → c.nullable = false := by
  have hkey := (Table.validate_eq_ok.mp hvalid).key_notNull
  obtain ⟨⟨tr, steps⟩, hrun, -⟩ := exists_of_bind_eq_ok h
  constructor
  · intro hall c hc hname
    obtain ⟨before, after, hsplit⟩ := List.mem_iff_append.mp hc
    have hwhole := hrun
    rw [hsplit] at hwhole
    obtain ⟨tr₁, tr₂, u, steps₁, steps₂, hbefore, hu, hallowed, hbehind, hu'⟩ :=
      exists_allowed_of_run rfl rfl hwhole
    have hkey₁ := hall before (.alterColumn c :: after) hsplit tr₁ steps₁ u hbefore hu
    have hkey₂ := hall (before ++ [.alterColumn c]) after (by rw [hsplit, List.append_cons])
      tr₂ steps₂ _ hbehind hu'
    have hnull := (hallowed.keyNotNull_iff hkey₁).mp hkey₂
    refine Change.nullsKey_eq_false.mp hnull c rfl ?_
    obtain ⟨d, hd | ⟨hunknown, -⟩, hframe⟩ := (runs_of_run hbefore).sameFrame hu
    · obtain rfl := TableState.present.inj hd
      rw [hframe.primaryKey_eq]
      exact hname
    · cases hunknown
  · intro hnull before after hsplit tr₁ steps₁ u hrun₁ hu
    refine (runs_of_run hrun₁).keyNotNull rfl hkey ?_ hu
    intro c hc
    rw [Change.nullsKey_eq_false]
    rintro d rfl hname
    exact hnull d (hsplit ▸ List.mem_append_left _ hc) hname

/-- A column of the key that is altered to allow NULL. -/
def nullableKey : Blueprint where
  table := "User"
  changes := [.alterColumn { Column.ofKind "userId" .uuid with nullable := true }]

/-- The blueprint is accepted, and leaves a table that its own check refuses. -/
theorem nullableKey_accepted :
    people.validate = .ok () ∧
      Synthesis.batch ⟨[], .utc⟩ (some people) nullableKey =
        .ok ["alter table `User` alter column `userId` string(36)".toList] ∧
      ∃ tr steps t, Synthesis.run ⟨[], .utc⟩ "User" (.start (some people)) nullableKey.changes
          = .ok (tr, steps) ∧
        tr.table = .present t ∧ t.validate = .error (.keyColumnNullable "userId" "User") ∧
        ¬ t.KeyNotNull := by
  refine ⟨rfl, rfl, _, _, _, rfl, rfl, rfl, ?_⟩
  intro hkey
  obtain ⟨c, hc, hnull⟩ := hkey "userId" (.head _)
  cases hc
  cases hnull

/-- A column of the key that is altered and still never holds NULL. -/
def widenedKey : Blueprint where
  table := "User"
  changes := [.alterColumn (.ofKind "userId" .string), .dropColumn "name"]

theorem batch_keyNotNull_widenedKey :
    people.validate = .ok () ∧
      ∃ statements tr steps t,
        Synthesis.batch ⟨[], .utc⟩ (some people) widenedKey = .ok statements ∧
        Synthesis.run ⟨[], .utc⟩ "User" (.start (some people)) widenedKey.changes
          = .ok (tr, steps) ∧
        tr.table = .present t ∧ t.KeyNotNull := by
  have hbatch : ∃ statements,
      Synthesis.batch ⟨[], .utc⟩ (some people) widenedKey = .ok statements := ⟨_, rfl⟩
  obtain ⟨statements, hbatch⟩ := hbatch
  have hrun : ∃ tr steps t, Synthesis.run ⟨[], .utc⟩ "User" (.start (some people))
      widenedKey.changes = .ok (tr, steps) ∧ tr.table = .present t := ⟨_, _, _, rfl, rfl⟩
  obtain ⟨tr, steps, t, hrun, ht⟩ := hrun
  have hnull : ∀ c, .alterColumn c ∈ widenedKey.changes → c.name ∈ people.primaryKey →
      c.nullable = false := by
    intro c hc _
    rcases List.mem_cons.mp hc with heq | hrest
    · obtain rfl := Change.alterColumn.inj heq
      rfl
    · cases List.mem_singleton.mp hrest
  exact ⟨rfl, statements, tr, steps, t, hbatch, hrun, ht,
    (Synthesis.batch_keyNotNull rfl hbatch).mpr hnull _ [] (List.append_nil _).symm
      tr steps t hrun ht⟩

end SpannerDialect.Schema
