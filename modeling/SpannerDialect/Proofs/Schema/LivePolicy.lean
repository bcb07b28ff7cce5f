import SpannerDialect.Proofs.Schema.Reordering

/-! # The column of the policy in force

    A run refuses a change that takes the dates or times of the policy in
    force.  It looks at the policy of that moment, though, and the statement of
    a policy that is given comes after those of all columns: when a column
    changes, the policy of the existing table is in force, or none.  So the
    batch leaves the column of the policy in force alone just when it drops the
    policy of the existing table or never changes its column
    (`Synthesis.batch_sparesPolicy`).  Where each policy is replaced by one on
    the same column, this is always so. -/

namespace SpannerDialect.Schema

/-! ## Taking the times of a column -/

namespace Change

/-- Whether a change drops a column or gives it a type without dates or
    times. -/
def takesTimes (name : String) : Change → Bool
  | .dropColumn dropped => dropped == name
  | .alterColumn c => c.name == name && !c.type.isTemporal
  | _ => false

/-- Whether a change drops the policy. -/
def dropsPolicy : Change → Bool
  | .dropPolicy => true
  | _ => false

/-- Whether a change leaves the dates or times of the policy in force. -/
def sparesPolicy (t : Table) (c : Change) : Bool :=
  t.policy.all fun q => !c.takesTimes q.column

variable {t : Table} {gives : Bool} {c : Change} {cs : List Change} {name : String}

theorem takesTimes_of_group (h : c.group ≠ .table) : c.takesTimes name = false := by
  cases c with
  | alterColumn _ => exact absurd rfl h
  | dropColumn _ => exact absurd rfl h
  | _ => rfl

theorem sparesPolicy_of_group (h : c.group ≠ .table) : c.sparesPolicy t = true := by
  rw [sparesPolicy, Option.all_eq_true]
  intro q _
  rw [takesTimes_of_group h]
  rfl

/-- What a table allows leaves the dates or times of its policy. -/
theorem Allowed.takesTimes (h : c.Allowed t gives) (hdrives : t.drivesPolicy name = true) :
    c.takesTimes name = false := by
  cases c with
  | dropColumn dropped =>
      refine beq_eq_false_iff_ne.mpr ?_
      rintro rfl
      exact absurd hdrives (ne_true_of_eq_false h.2.1)
  | alterColumn c =>
      refine Bool.and_eq_false_iff.mpr ?_
      by_cases hname : c.name = name
      · subst hname
        exact Or.inr (Bool.not_eq_eq_eq_not.mpr (h.2 hdrives))
      · exact Or.inl (beq_eq_false_iff_ne.mpr hname)
  | _ => rfl

/-! ## The policy in force -/

/-- A policy stays until it is dropped, or replaced by one on its column. -/
theorem Allowed.drivesPolicy (h : c.Allowed t gives) (hdrives : t.drivesPolicy name = true)
    (hdrop : c ≠ .dropPolicy) (hkeeps : c.keepsColumn t = true) :
    (c.effect t).drivesPolicy name = true := by
  obtain ⟨q, hq, rfl⟩ := Table.drivesPolicy_eq_true.mp hdrives
  cases c with
  | addPolicy p => cases h.1.symm.trans hq
  | replacePolicy p =>
      rw [keepsColumn, hq] at hkeeps
      exact Table.drivesPolicy_eq_true.mpr ⟨p, rfl, beq_iff_eq.mp hkeeps⟩
  | dropPolicy => exact absurd rfl hdrop
  | createTable _ => exact False.elim h
  | _ => exact hdrives

/-- What is dropped beside the table leaves its policy. -/
theorem policy_effects_of_drops (hcs : ∀ c ∈ cs, c.group = .drops) :
    (effects t cs).policy = if cs.any dropsPolicy then none else t.policy := by
  induction cs generalizing t with
  | nil => rfl
  | cons c cs ih =>
      obtain ⟨hc, hcs⟩ := List.forall_mem_cons.mp hcs
      rw [effects_cons, ih hcs, List.any_cons]
      cases c with
      | dropPolicy => exact ite_self none
      | dropIndex _ | dropForeignKey _ => rfl
      | _ => cases hc

theorem any_dropsPolicy : cs.any dropsPolicy = true ↔ .dropPolicy ∈ cs := by
  rw [List.any_eq_true]
  constructor
  · rintro ⟨c, hc, h⟩
    cases c with
    | dropPolicy => exact hc
    | _ => cases h
  · intro h
    exact ⟨_, h, rfl⟩

theorem group_of_dropsPolicy (h : c.dropsPolicy = true) : c.group = .drops := by
  cases c with
  | dropPolicy => rfl
  | _ => cases h

theorem group_of_takesTimes (h : c.takesTimes name = true) : c.group = .table := by
  cases c with
  | alterColumn _ | dropColumn _ => rfl
  | _ => cases h

/-- Changes of columns come under one policy. -/
theorem along_sparesPolicy_columns (hnew : cs.any createsTable = false) :
    along sparesPolicy t (ofGroup .table cs)
      = t.policy.all fun q => !cs.any (takesTimes q.column) := by
  have hpolicy : along sparesPolicy t (ofGroup .table cs)
      = (ofGroup .table cs).all fun c => t.policy.all fun q => !c.takesTimes q.column := by
    refine along_eq_all (fun u => u.policy = t.policy) rfl ?_ ?_
    · intro c hc u hu
      obtain ⟨hmem, hgroup⟩ := mem_ofGroup.mp hc
      have hold := (Bool.not_eq_true _).mp (List.any_eq_false.mp hnew c hmem)
      exact (policy_effect hgroup hold).trans hu
    · intro c _ u hu
      rw [sparesPolicy, hu]
  rw [hpolicy]
  cases t.policy with
  | none => exact List.all_eq_true.mpr fun _ _ => rfl
  | some q =>
      show (ofGroup .table cs).all (fun c => !c.takesTimes q.column) = _
      rw [← List.not_any_eq_all_not, any_ofGroup fun _ => group_of_takesTimes]
      rfl

/-- Changes of columns come under the policy of the existing table, unless
    the batch drops it. -/
theorem along_sparesPolicy (hnew : cs.any createsTable = false) :
    along sparesPolicy t (inGroups cs) =
      (cs.any dropsPolicy || t.policy.all fun q => !cs.any (takesTimes q.column)) := by
  have hgroups : along sparesPolicy t (inGroups cs)
      = along sparesPolicy (effects t (ofGroup .drops cs ++ [])) (ofGroup .table cs) :=
    along_inGroups [.drops] [.policy, .indexes, .constraints, .dropTable] rfl (by decide)
      (by decide) fun _ _ h => sparesPolicy_of_group h
  have hpolicy : (effects t (ofGroup .drops cs)).policy
      = if cs.any dropsPolicy then none else t.policy := by
    rw [policy_effects_of_drops fun c hc => (mem_ofGroup.mp hc).2,
      any_ofGroup fun _ => group_of_dropsPolicy]
  rw [hgroups, List.append_nil, along_sparesPolicy_columns hnew, hpolicy]
  cases cs.any dropsPolicy with
  | true => rfl
  | false => rfl

/-- The existing policy is dropped, or its column is left alone. -/
theorem spares_iff :
    (cs.any dropsPolicy || t.policy.all fun q => !cs.any (takesTimes q.column)) = true ↔
      ∀ q, t.policy = some q → .dropPolicy ∈ cs ∨ ∀ c ∈ cs, c.takesTimes q.column = false := by
  rw [Bool.or_eq_true, any_dropsPolicy, Option.all_eq_true]
  simp only [Bool.not_eq_true', List.any_eq_false, Bool.not_eq_true]
  constructor
  · rintro (hdrop | hspared) q hq
    · exact Or.inl hdrop
    · exact Or.inr (hspared q hq)
  · intro h
    by_cases hdrop : .dropPolicy ∈ cs
    · exact Or.inl hdrop
    · exact Or.inr fun q hq => (h q hq).resolve_left hdrop

end Change

/-! ## Batches -/

section

variable {s : Synthesis} {blueprint name : String} {tr tr' : Tracker} {t : Table}
  {c c' : Change} {cs : List Change} {steps : List Step}

/-- A change leaves the dates or times of a policy in force, which goes on to
    drive its column, unless the policy or the table is dropped. -/
theorem Tracker.Moves.sparesPolicy {known : List Table}
    (h : tr.Moves known blueprint c tr' c') (ht : tr.table = .present t)
    (hdrives : t.drivesPolicy name = true) (hkeeps : c.keepsColumn t = true) :
    c = .dropPolicy ∨ c.takesTimes name = false ∧
      (tr'.table = .dropped ∨ ∃ u, tr'.table = .present u ∧ u.drivesPolicy name = true) := by
  cases h with
  | allowed hu hallowed =>
      obtain rfl := TableState.present.inj (hu.symm.trans ht)
      by_cases hdrop : c = .dropPolicy
      · exact Or.inl hdrop
      · refine Or.inr ⟨hallowed.takesTimes hdrives, Or.inr ⟨_, rfl, ?_⟩⟩
        exact hallowed.drivesPolicy hdrives hdrop hkeeps
  | unchecked hu _ _ => cases hu.symm.trans ht
  | created hu _ => cases hu.symm.trans ht
  | dropped _ => exact Or.inr ⟨rfl, Or.inl rfl⟩
  | indexed _ _ _ _ => exact Or.inr ⟨rfl, Or.inr ⟨t, ht, hdrives⟩⟩
  | beside _ hc =>
      refine Or.inr ⟨?_, Or.inr ⟨t, ht, hdrives⟩⟩
      cases hc <;> rfl

/-- A run that never moves the policy to another column drops it, or leaves its
    column alone throughout. -/
theorem Synthesis.sparesPolicy_of_keepsPolicyColumn (ht : tr.table = .present t)
    (hdrives : t.drivesPolicy name = true) (hrun : s.run blueprint tr cs = .ok (tr', steps))
    (hkeeps : s.keepsPolicyColumn blueprint tr cs = true) :
    .dropPolicy ∈ cs ∨ ∀ c ∈ cs, c.takesTimes name = false := by
  induction cs generalizing tr t steps with
  | nil => exact Or.inr nofun
  | cons c cs ih =>
      obtain ⟨tr₁, first, rest, hstep, hrest, rfl⟩ := exists_of_run_cons hrun
      rw [keepsPolicyColumn, ht, hstep, Bool.and_eq_true] at hkeeps
      rcases (moves_of_step hstep).1.sparesPolicy ht hdrives hkeeps.1 with rfl | ⟨hfirst, hnext⟩
      · exact Or.inl (.head _)
      · rcases hnext with hdropped | ⟨u, hu, hdrives⟩
        · rw [(runs_of_run hrest).eq_nil_of_dropped hdropped]
          exact Or.inr (List.forall_mem_singleton.mpr hfirst)
        · rcases ih hu hdrives hrest hkeeps.2 with hdrop | hspared
          · exact Or.inl (.tail _ hdrop)
          · exact Or.inr (List.forall_mem_cons.mpr ⟨hfirst, hspared⟩)

/-- What a run says of the policy in force along its batch. -/
theorem Synthesis.Runs.along_sparesPolicy (h : s.Runs blueprint tr cs tr' steps)
    (ht : tr.table = .present t) :
    Change.along Change.sparesPolicy t ((grouped steps).map Step.change)
      = (cs.any Change.dropsPolicy ||
          t.policy.all fun q => !cs.any (Change.takesTimes q.column)) := by
  rw [map_change_grouped, Change.along_sparesPolicy (h.any_createsTable ht),
    h.any_change Change.dropsPolicy fun _ _ => rfl]
  congr 2
  funext q
  rw [h.any_change (Change.takesTimes q.column) fun _ _ => rfl]

/-- **A batch leaves the column of the policy in force alone** just when it
    drops the policy of the existing table, or never takes the dates or times of
    its column.  A policy that moves to another column does not set the old one
    free, and this is the only way in which a batch can fail to leave it alone:
    where each policy is replaced by one on the same column, it does not. -/
theorem Synthesis.batch_sparesPolicy {s : Synthesis} {t : Table} {b : Blueprint}
    {statements : List (List Char)} (h : s.batch (some t) b = .ok statements) :
    ∃ tr steps, s.run b.table (.start (some t)) b.changes = .ok (tr, steps) ∧
      statements = (grouped steps).map Step.statement ∧
      (Change.along Change.sparesPolicy t ((grouped steps).map Step.change) = true ↔
        ∀ q, t.policy = some q →
          .dropPolicy ∈ b.changes ∨ ∀ c ∈ b.changes, c.takesTimes q.column = false) ∧
      (s.keepsPolicyColumn b.table (.start (some t)) b.changes = true →
        Change.along Change.sparesPolicy t ((grouped steps).map Step.change) = true) := by
  obtain ⟨⟨tr, steps⟩, hrun, h⟩ := exists_of_bind_eq_ok h
  cases h
  refine ⟨tr, steps, hrun, rfl, ?_⟩
  rw [(runs_of_run hrun).along_sparesPolicy rfl]
  refine ⟨Change.spares_iff, fun hkeeps => Change.spares_iff.mpr fun q hq => ?_⟩
  have hdrives := Table.drivesPolicy_eq_true.mpr ⟨q, hq, rfl⟩
  exact sparesPolicy_of_keepsPolicyColumn rfl hdrives hrun hkeeps

/-- The policy of the people moves to another column, and the old one goes. -/
def freedColumn : Blueprint where
  table := "User"
  changes := [.replacePolicy ⟨"born", 10⟩, .dropColumn "deletedAt"]

/-- The column goes while it still drives the policy. -/
theorem freedColumn_driven :
    people.validate = .ok () ∧
      ∃ tr steps, Synthesis.run ⟨[], .utc⟩ "User" (.start (some people)) freedColumn.changes
          = .ok (tr, steps) ∧
        Synthesis.batch ⟨[], .utc⟩ (some people) freedColumn =
          .ok ["alter table `User` drop column `deletedAt`".toList,
            ("alter table `User` replace row deletion policy " ++
              "(older_than(`born`, interval 10 day))").toList] ∧
        Change.along Change.sparesPolicy people ((Synthesis.grouped steps).map Step.change)
          = false :=
  ⟨rfl, _, _, rfl, rfl, rfl⟩

/-- A policy that moves may be dropped and given again. -/
theorem batch_sparesPolicy_movedPolicy :
    ∃ statements tr steps,
      Synthesis.batch ⟨[], .utc⟩ (some people) movedPolicy = .ok statements ∧
      Synthesis.run ⟨[], .utc⟩ "User" (.start (some people)) movedPolicy.changes
        = .ok (tr, steps) ∧
      Change.along Change.sparesPolicy people ((Synthesis.grouped steps).map Step.change)
        = true := by
  have hbatch : ∃ statements,
      Synthesis.batch ⟨[], .utc⟩ (some people) movedPolicy = .ok statements := ⟨_, rfl⟩
  obtain ⟨statements, hbatch⟩ := hbatch
  have hdrop : Change.dropPolicy ∈ movedPolicy.changes := .tail _ (.head _)
  obtain ⟨tr, steps, hrun, -, hspares, -⟩ := Synthesis.batch_sparesPolicy hbatch
  exact ⟨statements, tr, steps, hbatch, hrun, hspares.mpr fun _ _ => Or.inl hdrop⟩

end

end SpannerDialect.Schema
