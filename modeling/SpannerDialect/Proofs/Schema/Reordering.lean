import SpannerDialect.Proofs.Schema.Runs

/-! # Changes in the order of the batch

    Changes are checked in the order of their declaration, and their
    statements stand in the order of the batch.  Declared in the latter
    order, changes of columns and of the policy would have been accepted just
    as well (`Synthesis.batch_inGroups`): dropping the policy can come before
    a change of columns, which has more freedom then, and giving a policy can
    come after it, since the change has left the column of the policy alone. -/

namespace SpannerDialect.Schema

/-! ## Policies that keep their column -/

/-- Whether a change that replaces the policy of a table keeps its column. -/
def Change.keepsColumn (t : Table) : Change → Bool
  | .replacePolicy p => t.policy.all fun q => p.column == q.column
  | _ => true

/-- Whether each change of a run that replaces the policy in force keeps its
    column. -/
def Synthesis.keepsPolicyColumn (s : Synthesis) (blueprint : String) :
    Tracker → List Change → Bool
  | _, [] => true
  | tr, c :: cs =>
    (match tr.table with
      | .present t => c.keepsColumn t
      | _ => true) &&
    match s.step blueprint tr c with
    | .ok (tr, _) => s.keepsPolicyColumn blueprint tr cs
    | .error _ => true

/-! ## Two changes -/

namespace Change

variable {t : Table} {gives gives' : Bool} {a c : Change} {as bs cs : List Change}

/-- The three kinds of changes of a table, by their groups. -/
theorem altersTable_cases (h : c.altersTable = true) :
    c = .dropPolicy ∨ c.group = .table ∨ c.group = .policy := by
  cases c with
  | dropPolicy => exact Or.inl rfl
  | addColumn _ => exact Or.inr (Or.inl rfl)
  | alterColumn _ => exact Or.inr (Or.inl rfl)
  | dropColumn _ => exact Or.inr (Or.inl rfl)
  | addPolicy _ => exact Or.inr (Or.inr rfl)
  | replacePolicy _ => exact Or.inr (Or.inr rfl)
  | _ => cases h

/-- A change of columns asks less of a table with the same columns whose
    policy drives less. -/
theorem Allowed.weaken (h : c.Allowed t gives) (hc : c.group = .table) (u : Table)
    (hcolumns : u.columns = t.columns) (hkey : u.primaryKey = t.primaryKey)
    (hdrives : ∀ name, u.drivesPolicy name = true → t.drivesPolicy name = true) :
    c.Allowed u gives' := by
  have hcolumn : ∀ name, u.column? name = t.column? name := by
    intro name
    rw [Table.column?, Table.column?, hcolumns]
  cases c with
  | addColumn c => exact (hcolumn c.name).trans h
  | alterColumn c =>
      obtain ⟨hthere, htimes⟩ := h
      refine ⟨?_, fun hd => htimes (hdrives c.name hd)⟩
      rw [hcolumn]
      exact hthere
  | dropColumn name =>
      obtain ⟨hout, hfree, hthere⟩ := h
      refine ⟨?_, ?_, ?_⟩
      · rw [hkey]
        exact hout
      · rw [← Bool.not_eq_true]
        intro hd
        exact absurd (hdrives name hd) (ne_true_of_eq_false hfree)
      · rw [hcolumn]
        exact hthere
  | createTable _ => exact False.elim h
  | _ => cases hc

/-- Columns and policy are changed apart from each other. -/
theorem effect_comm (hc : c.group = .table) (hallowed : c.Allowed t gives)
    (ha : a = .dropPolicy ∨ a.group = .policy) :
    a.effect (c.effect t) = c.effect (a.effect t) := by
  cases c with
  | createTable _ => exact False.elim hallowed
  | addColumn _ | alterColumn _ | dropColumn _ =>
      cases a with
      | dropPolicy | addPolicy _ | replacePolicy _ => rfl
      | _ => rcases ha with ha | ha <;> cases ha
  | _ => cases hc

theorem policy_effect (hc : c.group = .table) (hnew : c.createsTable = false) :
    (c.effect t).policy = t.policy := by
  cases c with
  | createTable _ => cases hnew
  | addColumn _ | alterColumn _ | dropColumn _ => rfl
  | _ => cases hc

theorem givesPolicy_of_table (hc : c.group = .table) (hallowed : c.Allowed t gives) :
    c.givesPolicy = false := by
  cases c with
  | createTable _ => exact False.elim hallowed
  | addColumn _ | alterColumn _ | dropColumn _ => rfl
  | _ => cases hc

theorem keepsColumn_effect (hc : c.group = .table) (hallowed : c.Allowed t gives) :
    a.keepsColumn (c.effect t) = a.keepsColumn t := by
  cases a with
  | replacePolicy p => rw [keepsColumn, keepsColumn, policy_effect hc hallowed.createsTable]
  | _ => rfl

/-- Dropping the policy can come before a change of columns. -/
theorem Allowed.dropPolicy_first (hc : c.group = .table) (hallowed : c.Allowed t gives)
    (hdrop : Change.dropPolicy.Allowed (c.effect t) gives') :
    Change.dropPolicy.Allowed t gives' ∧ c.Allowed (Change.dropPolicy.effect t) gives := by
  refine ⟨⟨hdrop.1, ?_⟩, hallowed.weaken hc (Change.dropPolicy.effect t) rfl rfl nofun⟩
  rw [← policy_effect hc hallowed.createsTable]
  exact hdrop.2

/-- Under a policy that drives no less, a change of columns leaves what the
    policy asks for. -/
theorem Allowed.before_policy {p : DeletionPolicy} (hc : c.group = .table)
    (hdrives : ∀ name, t.drivesPolicy name = true → p.column = name)
    (hholds : t.HoldsTimes p.column)
    (hallowed : c.Allowed ((addPolicy p).effect t) gives') :
    (∀ g, c.Allowed t g) ∧ (c.effect t).HoldsTimes p.column := by
  have hfirst : ∀ g, c.Allowed t g := fun _ =>
    hallowed.weaken hc t rfl rfl
      fun name h => Table.drivesPolicy_eq_true.mpr ⟨p, rfl, hdrives name h⟩
  refine ⟨hfirst, ?_⟩
  have hafter : ((addPolicy p).effect (c.effect t)).HoldsTimes p.column := by
    rw [effect_comm hc (hfirst gives') (Or.inr rfl)]
    exact hallowed.holdsTimes (Table.drivesPolicy_eq_true.mpr ⟨p, rfl, rfl⟩) hholds
  exact hafter

/-- Giving a policy can come after a change of columns. -/
theorem Allowed.column_first (ha : a.group = .policy) (hc : c.group = .table)
    (hkeeps : a.keepsColumn t = true) (hallowed : a.Allowed t gives)
    (hcolumn : c.Allowed (a.effect t) gives') :
    c.Allowed t gives ∧ a.Allowed (c.effect t) gives := by
  cases a with
  | addPolicy p =>
      obtain ⟨hnone, hholds⟩ := hallowed
      have hdrives : ∀ name, t.drivesPolicy name = true → p.column = name := by
        intro name h
        rw [Table.drivesPolicy, hnone] at h
        cases h
      obtain ⟨hfirst, hholds⟩ := Allowed.before_policy hc hdrives hholds hcolumn
      exact ⟨hfirst gives, (policy_effect hc (hfirst gives).createsTable).trans hnone, hholds⟩
  | replacePolicy p =>
      obtain ⟨hsome, hholds⟩ := hallowed
      have hdrives : ∀ name, t.drivesPolicy name = true → p.column = name := by
        intro name h
        obtain ⟨q, hq, rfl⟩ := Table.drivesPolicy_eq_true.mp h
        rw [keepsColumn, hq] at hkeeps
        exact beq_iff_eq.mp hkeeps
      obtain ⟨hfirst, hholds⟩ := Allowed.before_policy hc hdrives hholds hcolumn
      refine ⟨hfirst gives, ?_, hholds⟩
      rw [policy_effect hc (hfirst gives).createsTable]
      exact hsome
  | _ => cases ha

/-! ## Some changes -/

/-- A table allows some changes one after the other. -/
def AllAllowed : Table → Bool → List Change → Prop
  | _, _, [] => True
  | t, gives, c :: cs =>
    c.Allowed t gives ∧ AllAllowed (c.effect t) (c.givesPolicy || gives) cs

/-- Where a table allows some changes, it allows others in their place, and
    these make the same of it. -/
def Replaceable (t : Table) (gives : Bool) (as bs : List Change) : Prop :=
  AllAllowed t gives as → AllAllowed t gives bs ∧ effects t bs = effects t as

namespace Replaceable

theorem refl (t : Table) (gives : Bool) (as : List Change) : Replaceable t gives as as :=
  fun h => ⟨h, rfl⟩

theorem trans (h : Replaceable t gives as bs) (h' : Replaceable t gives bs cs) :
    Replaceable t gives as cs := by
  intro has
  obtain ⟨hbs, heq⟩ := h has
  obtain ⟨hcs, heq'⟩ := h' hbs
  exact ⟨hcs, heq'.trans heq⟩

theorem cons (h : c.Allowed t gives → Replaceable (c.effect t) (c.givesPolicy || gives) as bs) :
    Replaceable t gives (c :: as) (c :: bs) := by
  rintro ⟨hc, has⟩
  obtain ⟨hbs, heq⟩ := h hc has
  exact ⟨⟨hc, hbs⟩, heq⟩

/-- Two neighbours change places. -/
theorem swap (rest : List Change)
    (h : c.Allowed t gives → a.Allowed (c.effect t) (c.givesPolicy || gives) →
      (a.Allowed t gives ∧ c.Allowed (a.effect t) (a.givesPolicy || gives)) ∧
        a.effect (c.effect t) = c.effect (a.effect t)) :
    Replaceable t gives (c :: a :: rest) (a :: c :: rest) := by
  rintro ⟨hc, ha, hrest⟩
  obtain ⟨⟨ha', hc'⟩, hcomm⟩ := h hc ha
  rw [hcomm, Bool.or_left_comm] at hrest
  refine ⟨⟨ha', hc', hrest⟩, ?_⟩
  exact congrArg (effects · rest) hcomm.symm

/-- Dropping the policy, however often, comes before a change of columns. -/
theorem drops_first (hc : c.group = .table) {drops : List Change}
    (hdrops : ∀ d ∈ drops, d = .dropPolicy) (rest : List Change) :
    Replaceable t gives (c :: (drops ++ rest)) (drops ++ c :: rest) := by
  induction drops generalizing t gives with
  | nil => exact refl _ _ _
  | cons d drops ih =>
      obtain ⟨rfl, htail⟩ := List.forall_mem_cons.mp hdrops
      refine trans (swap (drops ++ rest) ?_) (cons fun _ => ih htail)
      intro hallowed hdrop
      rw [givesPolicy_of_table hc hallowed] at hdrop
      exact ⟨hallowed.dropPolicy_first hc hdrop, effect_comm hc hallowed (Or.inl rfl)⟩

/-- Giving a policy comes after changes of columns. -/
theorem columns_first (ha : a.group = .policy) (hkeeps : a.keepsColumn t = true)
    {columns : List Change} (hcolumns : ∀ c ∈ columns, c.group = .table) (rest : List Change) :
    Replaceable t gives (a :: (columns ++ rest)) (columns ++ a :: rest) := by
  induction columns generalizing t gives with
  | nil => exact refl _ _ _
  | cons c columns ih =>
      obtain ⟨hc, htail⟩ := List.forall_mem_cons.mp hcolumns
      refine trans (swap (columns ++ rest) ?_) (cons fun hallowed => ih ?_ htail)
      · intro hallowed hcolumn
        obtain ⟨hfirst, hlater⟩ := hallowed.column_first ha hc hkeeps hcolumn
        rw [givesPolicy_of_table hc hfirst]
        exact ⟨⟨hfirst, hlater⟩, (effect_comm hc hfirst (Or.inr ha)).symm⟩
      · rw [keepsColumn_effect hc hallowed]
        exact hkeeps

end Replaceable

theorem eq_dropPolicy_of_mem_drops (hcs : ∀ c ∈ cs, c.altersTable = true) :
    ∀ d ∈ ofGroup .drops cs, d = .dropPolicy := by
  intro d hd
  obtain ⟨hmem, hgroup⟩ := mem_ofGroup.mp hd
  rcases altersTable_cases (hcs d hmem) with h | h | h
  · exact h
  · cases h.symm.trans hgroup
  · cases h.symm.trans hgroup

theorem givesPolicy_of_policy (ha : a.group = .policy) : a.givesPolicy = true := by
  cases a with
  | addPolicy _ | replacePolicy _ => rfl
  | _ => cases ha

/-- Behind a policy that is given, none is dropped. -/
theorem AllAllowed.eq_nil_of_gives {drops rest : List Change}
    (h : AllAllowed t (true || gives) (drops ++ rest)) (hdrops : ∀ d ∈ drops, d = .dropPolicy) :
    drops = [] := by
  cases drops with
  | nil => rfl
  | cons d drops =>
      obtain rfl := (List.forall_mem_cons.mp hdrops).1
      cases h.1.1

/-- Changes of a table are in three groups. -/
theorem inGroups_of_altersTable (hcs : ∀ c ∈ cs, c.altersTable = true) :
    inGroups cs = ofGroup .drops cs ++ (ofGroup .table cs ++ ofGroup .policy cs) := by
  have hnone : ∀ g, g = .indexes ∨ g = .constraints ∨ g = .dropTable → ofGroup g cs = [] := by
    intro g hg
    refine List.eq_nil_iff_forall_not_mem.mpr fun c hc => ?_
    obtain ⟨hmem, rfl⟩ := mem_ofGroup.mp hc
    rcases altersTable_cases (hcs c hmem) with rfl | h | h
    · revert hg
      decide
    · rw [h] at hg
      revert hg
      decide
    · rw [h] at hg
      revert hg
      decide
  rw [inGroups_eq, hnone .indexes (by decide), hnone .constraints (by decide),
    hnone .dropTable (by decide), List.append_nil, List.append_nil, List.append_nil]

/-- Changes of a known table come in the order of the batch. -/
theorem replaceable_groups (hcs : ∀ c ∈ cs, c.altersTable = true)
    (hkeeps : along keepsColumn t cs = true) :
    Replaceable t gives cs
      (ofGroup .drops cs ++ (ofGroup .table cs ++ ofGroup .policy cs)) := by
  induction cs generalizing t gives with
  | nil => exact .refl _ _ _
  | cons c cs ih =>
      obtain ⟨hc, htail⟩ := List.forall_mem_cons.mp hcs
      rw [along, Bool.and_eq_true] at hkeeps
      have hrest : ∀ g, Replaceable (c.effect t) g cs
          (ofGroup .drops cs ++ (ofGroup .table cs ++ ofGroup .policy cs)) :=
        fun _ => ih htail hkeeps.2
      have hdrops := eq_dropPolicy_of_mem_drops htail
      refine .trans (.cons fun _ => hrest _) ?_
      rcases altersTable_cases hc with rfl | hgroup | hgroup
      · have hgroup : dropPolicy.group = .drops := rfl
        simp only [ofGroup_cons, hgroup, reduceCtorEq, if_true, if_false]
        exact .refl _ _ _
      · simp only [ofGroup_cons, hgroup, reduceCtorEq, if_true, if_false]
        exact .drops_first hgroup hdrops _
      · simp only [ofGroup_cons, hgroup, reduceCtorEq, if_true, if_false]
        rintro ⟨hallowed, hall⟩
        -- behind a policy that is given, none is dropped
        rw [givesPolicy_of_policy hgroup] at hall
        have hnone := hall.eq_nil_of_gives hdrops
        rw [hnone] at hall ⊢
        refine Replaceable.columns_first hgroup hkeeps.1 ?_ _ ⟨hallowed, ?_⟩
        · exact fun c hc => (mem_ofGroup.mp hc).2
        · rwa [givesPolicy_of_policy hgroup]

end Change

/-! ## Runs -/

section

variable {s : Synthesis} {blueprint : String} {tr tr' : Tracker} {t : Table} {c : Change}
  {cs : List Change} {steps : List Step}

/-- A step that changes a known table. -/
theorem Synthesis.step_eq_ok (hc : c.altersTable = true) (ht : tr.table = .present t)
    {step : Step} :
    s.step blueprint tr c = .ok (tr', step) ↔
      c.Allowed t tr.givesPolicy ∧ step.change = c ∧
        step.change.statement s.offset blueprint = .ok step.statement ∧
        tr' = { tr with table := .present (c.effect t)
                        givesPolicy := c.givesPolicy || tr.givesPolicy } := by
  constructor
  · intro h
    obtain ⟨change, text⟩ := step
    obtain ⟨hmove, htext⟩ := moves_of_step h
    cases hmove with
    | allowed hu hallowed =>
        obtain rfl := TableState.present.inj (hu.symm.trans ht)
        exact ⟨hallowed, rfl, htext, rfl⟩
    | unchecked hu _ _ => cases hu.symm.trans ht
    | beside _ hbeside => cases hbeside <;> cases hc
    | _ => cases hc
  · rintro ⟨hallowed, rfl, htext, rfl⟩
    exact step_of_moves (.allowed ht hallowed) htext

/-- A run that changes a known table. -/
theorem Synthesis.run_eq_ok (hcs : ∀ c ∈ cs, c.altersTable = true) (ht : tr.table = .present t) :
    s.run blueprint tr cs = .ok (tr', steps) ↔
      Change.AllAllowed t tr.givesPolicy cs ∧ steps.map Step.change = cs ∧
        (∀ step ∈ steps, step.change.statement s.offset blueprint = .ok step.statement) ∧
        tr' = { tr with table := .present (Change.effects t cs)
                        givesPolicy := cs.any Change.givesPolicy || tr.givesPolicy } := by
  induction cs generalizing tr tr' t steps with
  | nil =>
      obtain ⟨table, names, gives⟩ := tr
      obtain rfl : table = .present t := ht
      constructor
      · intro h
        cases h
        exact ⟨trivial, rfl, nofun, rfl⟩
      · rintro ⟨-, hsteps, -, rfl⟩
        obtain rfl := List.map_eq_nil_iff.mp hsteps
        rfl
  | cons c cs ih =>
      obtain ⟨hc, hcs⟩ := List.forall_mem_cons.mp hcs
      have hgives : ∀ gives, ((c :: cs).any Change.givesPolicy || gives)
          = (cs.any Change.givesPolicy || (c.givesPolicy || gives)) := by
        intro gives
        rw [List.any_cons, Bool.or_assoc, Bool.or_left_comm]
      constructor
      · intro h
        obtain ⟨tr₁, first, rest, hstep, hrest, rfl⟩ := exists_of_run_cons h
        obtain ⟨hallowed, hchange, htext, rfl⟩ := (step_eq_ok hc ht).mp hstep
        obtain ⟨hall, hchanges, htexts, rfl⟩ := (ih hcs rfl).mp hrest
        refine ⟨⟨hallowed, hall⟩, ?_, List.forall_mem_cons.mpr ⟨htext, htexts⟩, ?_⟩
        · rw [List.map_cons, hchange, hchanges]
        · rw [hgives]
          rfl
      · rintro ⟨⟨hallowed, hall⟩, hsteps, htexts, rfl⟩
        obtain ⟨first, rest, rfl, hchange, hchanges⟩ := List.map_eq_cons_iff.mp hsteps
        obtain ⟨htext, htexts⟩ := List.forall_mem_cons.mp htexts
        have hstep := (step_eq_ok hc ht).mpr ⟨hallowed, hchange, htext, rfl⟩
        have hrest := (@ih { tr with table := .present (c.effect t)
                                     givesPolicy := c.givesPolicy || tr.givesPolicy }
          _ _ rest hcs rfl).mpr ⟨hall, hchanges, htexts, rfl⟩
        rw [hgives]
        exact bind_eq_ok.mpr ⟨_, hstep, bind_eq_ok.mpr ⟨_, hrest, rfl⟩⟩

/-- What a run keeps, said of the effects of its changes. -/
theorem Synthesis.along_keepsColumn (hcs : ∀ c ∈ cs, c.altersTable = true)
    (ht : tr.table = .present t) (hrun : s.run blueprint tr cs = .ok (tr', steps))
    (hkeeps : s.keepsPolicyColumn blueprint tr cs = true) :
    Change.along Change.keepsColumn t cs = true := by
  induction cs generalizing tr t steps with
  | nil => rfl
  | cons c cs ih =>
      obtain ⟨hc, hcs⟩ := List.forall_mem_cons.mp hcs
      obtain ⟨tr₁, first, rest, hstep, hrest, rfl⟩ := exists_of_run_cons hrun
      rw [keepsPolicyColumn, ht, hstep, Bool.and_eq_true] at hkeeps
      obtain ⟨-, -, -, rfl⟩ := (step_eq_ok hc ht).mp hstep
      have hfirst : c.keepsColumn t = true := hkeeps.1
      rw [Change.along, hfirst, ih hcs rfl hrest hkeeps.2]
      rfl

/-- **The order of the batch is an order of declaration.**  Where changes of
    columns and of the policy are accepted, and no policy is replaced by one on
    another column, the changes are accepted in the order of the batch too: they
    make the same batch and leave the same table. -/
theorem Synthesis.batch_inGroups {s : Synthesis} {t : Table} {b : Blueprint}
    {statements : List (List Char)} (hcs : ∀ c ∈ b.changes, c.altersTable = true)
    (hkeeps : s.keepsPolicyColumn b.table (.start (some t)) b.changes = true)
    (h : s.batch (some t) b = .ok statements) :
    s.batch (some t) b.inGroups = .ok statements ∧
      ∃ tr steps steps', s.run b.table (.start (some t)) b.changes = .ok (tr, steps) ∧
        s.run b.inGroups.table (.start (some t)) b.inGroups.changes = .ok (tr, steps') := by
  obtain ⟨⟨tr, steps⟩, hrun, h⟩ := exists_of_bind_eq_ok h
  cases h
  have halong := along_keepsColumn hcs rfl hrun hkeeps
  obtain ⟨hall, hchanges, htexts, htr⟩ := (run_eq_ok hcs rfl).mp hrun
  have hin : b.inGroups.changes = Change.inGroups b.changes := rfl
  obtain ⟨hall', heffects⟩ := Change.replaceable_groups hcs halong hall
  rw [← Change.inGroups_of_altersTable hcs, ← hin] at hall' heffects
  have hrun' : s.run b.inGroups.table (.start (some t)) b.inGroups.changes
      = .ok (tr, grouped steps) := by
    refine (run_eq_ok ?_ rfl).mpr ⟨hall', ?_, ?_, ?_⟩
    · exact fun c hc => hcs c (Change.mem_inGroups.mp hc)
    · rw [map_change_grouped, hchanges, hin]
    · exact fun step hstep => htexts step (mem_grouped.mp hstep)
    · rw [htr, heffects, hin, Change.any_inGroups]
  refine ⟨?_, tr, steps, grouped steps, hrun, hrun'⟩
  rw [batch_of_run hrun', grouped_grouped]

/-- The policy of the people moves to another column, among changes of the
    columns. -/
def movedPolicy : Blueprint where
  table := "User"
  changes := [.alterColumn (.ofKind "born" .timestamp), .dropPolicy, .dropColumn "deletedAt",
    .addPolicy ⟨"born", 5⟩, .addColumn (.ofKind "left" .date), .replacePolicy ⟨"born", 7⟩,
    .dropColumn "left"]

theorem batch_inGroups_movedPolicy :
    people.validate = .ok () ∧ (∀ c ∈ movedPolicy.changes, c.altersTable = true) ∧
      Synthesis.keepsPolicyColumn ⟨[], .utc⟩ "User" (.start (some people)) movedPolicy.changes
        = true ∧
      ∃ statements, Synthesis.batch ⟨[], .utc⟩ (some people) movedPolicy = .ok statements ∧
        Synthesis.batch ⟨[], .utc⟩ (some people) movedPolicy.inGroups = .ok statements ∧
        statements.head? = some "alter table `User` drop row deletion policy".toList := by
  have hcs : ∀ c ∈ movedPolicy.changes, c.altersTable = true := by decide
  have hbatch := (Synthesis.batch_inGroups (s := ⟨[], .utc⟩) (t := people) hcs rfl rfl).1
  exact ⟨rfl, hcs, rfl, _, rfl, hbatch, rfl⟩

end

end SpannerDialect.Schema
