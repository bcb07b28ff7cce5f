import SpannerDialect.Proofs.Schema.Changes

/-! # Runs and batches

    A run takes one change after the other (`Synthesis.Runs`), and as long as
    the table is there, it is what the effects of the changes make of it.
    The batch holds the same changes in another order.  What a batch does to
    a table is followed statement by statement (`Change.along`). -/

namespace SpannerDialect.Schema

/-! ## The order of a batch -/

/-- The changes of a group, in the order of their declaration. -/
def Change.ofGroup (g : Group) (cs : List Change) : List Change :=
  cs.filter fun c => c.group = g

/-- Changes in the order of the batch. -/
def Change.inGroups (cs : List Change) : List Change :=
  Group.all.flatMap fun g => Change.ofGroup g cs

/-- A blueprint that declares its changes in the order of the batch. -/
def Blueprint.inGroups (b : Blueprint) : Blueprint :=
  { b with changes := Change.inGroups b.changes }

theorem Change.inGroups_eq (cs : List Change) :
    Change.inGroups cs = Change.ofGroup .drops cs ++ (Change.ofGroup .table cs ++
      (Change.ofGroup .policy cs ++ (Change.ofGroup .indexes cs ++
        (Change.ofGroup .constraints cs ++ Change.ofGroup .dropTable cs)))) := by
  simp [Change.inGroups, Group.all]

theorem Change.ofGroup_cons (g : Group) (c : Change) (cs : List Change) :
    Change.ofGroup g (c :: cs)
      = if c.group = g then c :: Change.ofGroup g cs else Change.ofGroup g cs := by
  simp [Change.ofGroup, List.filter_cons]

theorem Change.mem_ofGroup {g : Group} {cs : List Change} {c : Change} :
    c ∈ Change.ofGroup g cs ↔ c ∈ cs ∧ c.group = g := by
  rw [Change.ofGroup, List.mem_filter, decide_eq_true_iff]

theorem Change.ofGroup_append (g : Group) (as bs : List Change) :
    Change.ofGroup g (as ++ bs) = Change.ofGroup g as ++ Change.ofGroup g bs :=
  List.filter_append ..

/-- Changes of one group are all in it. -/
theorem Change.ofGroup_of_group {g g' : Group} {cs : List Change} (h : ∀ c ∈ cs, c.group = g) :
    Change.ofGroup g' cs = if g = g' then cs else [] := by
  split
  · rename_i hg
    exact List.filter_eq_self.mpr fun c hc => decide_eq_true ((h c hc).trans hg)
  · rename_i hg
    refine List.filter_eq_nil_iff.mpr fun c hc => ?_
    rw [decide_eq_true_iff, h c hc]
    exact hg

/-- What only changes of a group are looked at for is found in that group. -/
theorem Change.any_ofGroup {p : Change → Bool} {g : Group} {cs : List Change}
    (hp : ∀ c, p c = true → c.group = g) : (Change.ofGroup g cs).any p = cs.any p := by
  rw [Bool.eq_iff_iff, List.any_eq_true, List.any_eq_true]
  constructor
  · rintro ⟨c, hc, hpc⟩
    exact ⟨c, (Change.mem_ofGroup.mp hc).1, hpc⟩
  · rintro ⟨c, hc, hpc⟩
    exact ⟨c, Change.mem_ofGroup.mpr ⟨hc, hp c hpc⟩, hpc⟩

theorem Change.mem_inGroups {cs : List Change} {c : Change} :
    c ∈ Change.inGroups cs ↔ c ∈ cs := by
  rw [Change.inGroups, List.mem_flatMap]
  constructor
  · rintro ⟨g, -, h⟩
    exact (Change.mem_ofGroup.mp h).1
  · intro h
    refine ⟨c.group, ?_, Change.mem_ofGroup.mpr ⟨h, rfl⟩⟩
    cases c.group <;> decide

theorem Change.any_inGroups (p : Change → Bool) (cs : List Change) :
    (Change.inGroups cs).any p = cs.any p := by
  rw [Bool.eq_iff_iff, List.any_eq_true, List.any_eq_true]
  simp only [Change.mem_inGroups]

theorem Synthesis.map_change_grouped (steps : List Step) :
    (Synthesis.grouped steps).map Step.change = Change.inGroups (steps.map Step.change) := by
  simp only [Synthesis.grouped, Change.inGroups, Change.ofGroup, List.map_flatMap, List.filter_map]
  rfl

theorem Synthesis.filter_grouped (g : Group) (steps : List Step) :
    (Synthesis.grouped steps).filter (fun step => step.change.group = g)
      = steps.filter fun step => step.change.group = g := by
  have hother : ∀ g', (steps.filter fun step => step.change.group = g').filter
      (fun step => step.change.group = g)
        = if g' = g then steps.filter fun step => step.change.group = g else [] := by
    intro g'
    rw [List.filter_filter]
    split
    · rename_i h
      simp [h]
    · rename_i h
      refine List.filter_eq_nil_iff.mpr fun step _ => ?_
      rw [Bool.and_eq_true, decide_eq_true_iff, decide_eq_true_iff]
      rintro ⟨hg, hg'⟩
      exact h (hg'.symm.trans hg)
  rw [Synthesis.grouped, List.filter_flatMap]
  simp only [hother]
  cases g <;> simp [Group.all]

theorem Synthesis.grouped_grouped (steps : List Step) :
    Synthesis.grouped (Synthesis.grouped steps) = Synthesis.grouped steps := by
  conv => lhs; rw [Synthesis.grouped]
  simp only [Synthesis.filter_grouped]
  rfl

theorem Synthesis.mem_grouped {steps : List Step} {step : Step} :
    step ∈ Synthesis.grouped steps ↔ step ∈ steps := by
  rw [Synthesis.grouped, List.mem_flatMap]
  constructor
  · rintro ⟨g, -, h⟩
    exact (List.mem_filter.mp h).1
  · intro h
    refine ⟨step.change.group, ?_, List.mem_filter.mpr ⟨h, decide_eq_true rfl⟩⟩
    cases step.change.group <;> decide

theorem Synthesis.batch_of_run {s : Synthesis} {existing : Option Table} {b : Blueprint}
    {tr : Tracker} {steps : List Step}
    (h : s.run b.table (.start existing) b.changes = .ok (tr, steps)) :
    s.batch existing b = .ok ((Synthesis.grouped steps).map Step.statement) := by
  rw [Synthesis.batch, h]
  rfl

/-! ## Runs -/

/-- A run over some changes, with the steps that it makes. -/
inductive Synthesis.Runs (s : Synthesis) (blueprint : String) :
    Tracker → List Change → Tracker → List Step → Prop
  | nil (tr : Tracker) : Runs s blueprint tr [] tr []
  | cons {tr₀ tr₁ tr₂ : Tracker} {c c' : Change} {text : List Char} {cs : List Change}
      {steps : List Step} (hmove : tr₀.Moves s.known blueprint c tr₁ c')
      (htext : c'.statement s.offset blueprint = .ok text)
      (hrest : Runs s blueprint tr₁ cs tr₂ steps) :
      Runs s blueprint tr₀ (c :: cs) tr₂ (⟨c', text⟩ :: steps)

section

variable {s : Synthesis} {blueprint : String} {tr tr' : Tracker} {c : Change} {cs : List Change}
  {step : Step} {steps : List Step}

theorem Synthesis.moves_of_step (h : s.step blueprint tr c = .ok (tr', step)) :
    tr.Moves s.known blueprint c tr' step.change ∧
      step.change.statement s.offset blueprint = .ok step.statement := by
  obtain ⟨⟨tr₁, c'⟩, happly, h⟩ := exists_of_bind_eq_ok h
  obtain ⟨text, htext, h⟩ := exists_of_bind_eq_ok h
  cases h
  exact ⟨Tracker.moves_of_apply happly, mapError_eq_ok.mp htext⟩

/-- What a tracker can do with a change that has a statement is a step. -/
theorem Synthesis.step_of_moves (hmove : tr.Moves s.known blueprint c tr' step.change)
    (htext : step.change.statement s.offset blueprint = .ok step.statement) :
    s.step blueprint tr c = .ok (tr', step) :=
  bind_eq_ok.mpr ⟨_, Tracker.apply_of_moves hmove,
    bind_eq_ok.mpr ⟨_, mapError_eq_ok.mpr htext, rfl⟩⟩

theorem Synthesis.exists_of_run_cons (h : s.run blueprint tr (c :: cs) = .ok (tr', steps)) :
    ∃ tr₁ first rest, s.step blueprint tr c = .ok (tr₁, first) ∧
      s.run blueprint tr₁ cs = .ok (tr', rest) ∧ steps = first :: rest := by
  obtain ⟨⟨tr₁, first⟩, hstep, h⟩ := exists_of_bind_eq_ok h
  obtain ⟨⟨tr₂, rest⟩, hrest, h⟩ := exists_of_bind_eq_ok h
  cases h
  exact ⟨tr₁, first, rest, hstep, hrest, rfl⟩

/-- A run over some changes and others is a run over the first, and one over the
    others from there. -/
theorem Synthesis.exists_of_run_append {as bs : List Change}
    (h : s.run blueprint tr (as ++ bs) = .ok (tr', steps)) :
    ∃ tr₁ steps₁ steps₂, s.run blueprint tr as = .ok (tr₁, steps₁) ∧
      s.run blueprint tr₁ bs = .ok (tr', steps₂) ∧ steps = steps₁ ++ steps₂ := by
  induction as generalizing tr steps with
  | nil => exact ⟨tr, [], steps, rfl, h, rfl⟩
  | cons a as ih =>
      obtain ⟨tr₁, first, rest, hstep, hrest, rfl⟩ := exists_of_run_cons h
      obtain ⟨tr₂, steps₁, steps₂, has, hbs, rfl⟩ := ih hrest
      refine ⟨tr₂, first :: steps₁, steps₂, ?_, hbs, rfl⟩
      exact bind_eq_ok.mpr ⟨_, hstep, bind_eq_ok.mpr ⟨_, has, rfl⟩⟩

theorem Synthesis.runs_of_run (h : s.run blueprint tr cs = .ok (tr', steps)) :
    s.Runs blueprint tr cs tr' steps := by
  induction cs generalizing tr steps with
  | nil =>
      cases h
      exact .nil _
  | cons c cs ih =>
      obtain ⟨tr₁, first, rest, hstep, hrest, rfl⟩ := exists_of_run_cons h
      obtain ⟨hmove, htext⟩ := moves_of_step hstep
      exact .cons hmove htext (ih hrest)

/-- What a run can do with some changes, it does. -/
theorem Synthesis.run_of_runs (h : s.Runs blueprint tr cs tr' steps) :
    s.run blueprint tr cs = .ok (tr', steps) := by
  induction h with
  | nil => rfl
  | @cons tr₀ tr₁ tr₂ c c' text cs steps hmove htext _ ih =>
      have hstep : s.step blueprint tr₀ c = .ok (tr₁, ⟨c', text⟩) := step_of_moves hmove htext
      exact bind_eq_ok.mpr ⟨_, hstep, bind_eq_ok.mpr ⟨_, ih, rfl⟩⟩

namespace Synthesis.Runs

theorem eq_nil_of_dropped (h : s.Runs blueprint tr cs tr' steps) (ht : tr.table = .dropped) :
    cs = [] := by
  cases h with
  | nil => rfl
  | cons hmove _ _ => exact absurd ht hmove.ne_dropped

/-- The steps carry out the changes in the order of their declaration. -/
theorem map_change {β : Type} (f : Change → β)
    (hf : ∀ i name, f (.createIndex { i with name := some name }) = f (.createIndex i))
    (h : s.Runs blueprint tr cs tr' steps) : (steps.map Step.change).map f = cs.map f := by
  induction h with
  | nil => rfl
  | cons hmove _ _ ih =>
      rw [List.map_cons, List.map_cons, List.map_cons, ih, hmove.congr f hf]

theorem append {tr₁ : Tracker} {as bs : List Change} {steps₁ steps₂ : List Step}
    (has : s.Runs blueprint tr as tr₁ steps₁) (hbs : s.Runs blueprint tr₁ bs tr' steps₂) :
    s.Runs blueprint tr (as ++ bs) tr' (steps₁ ++ steps₂) := by
  induction has with
  | nil => exact hbs
  | cons hmove htext _ ih => exact .cons hmove htext (ih hbs)

/-- A step has the statement of its change. -/
theorem statement_of_mem (h : s.Runs blueprint tr cs tr' steps) (hstep : step ∈ steps) :
    step.change.statement s.offset blueprint = .ok step.statement := by
  induction h with
  | nil => cases hstep
  | cons _ htext _ ih =>
      rcases List.mem_cons.mp hstep with rfl | hstep
      · exact htext
      · exact ih hstep

/-- The statements of a batch are those of its changes. -/
theorem mapM_statement_grouped (h : s.Runs blueprint tr cs tr' steps) :
    (Change.inGroups (steps.map Step.change)).mapM (Change.statement s.offset blueprint)
      = .ok ((grouped steps).map Step.statement) := by
  have hsteps : ∀ step ∈ grouped steps,
      step.change.statement s.offset blueprint = .ok step.statement :=
    fun step hstep => h.statement_of_mem (mem_grouped.mp hstep)
  rw [← map_change_grouped]
  generalize grouped steps = batch at hsteps ⊢
  induction batch with
  | nil => rfl
  | cons first rest ih =>
      obtain ⟨hfirst, hrest⟩ := List.forall_mem_cons.mp hsteps
      rw [List.map_cons, List.mapM_cons]
      exact bind_eq_ok.mpr ⟨_, hfirst, bind_eq_ok.mpr ⟨_, ih hrest, rfl⟩⟩

theorem any_change (f : Change → Bool)
    (hf : ∀ i name, f (.createIndex { i with name := some name }) = f (.createIndex i))
    (h : s.Runs blueprint tr cs tr' steps) : (steps.map Step.change).any f = cs.any f := by
  have hid : ∀ as : List Change, as.any f = (as.map f).any id := fun as => by
    rw [List.any_map]
    rfl
  rw [hid, hid, h.map_change f hf]

/-- A table that is there becomes what the changes make of it, unless it is
    dropped. -/
theorem of_present {t : Table} (h : s.Runs blueprint tr cs tr' steps)
    (ht : tr.table = .present t) :
    tr'.table = .present (Change.effects t cs) ∨ tr'.table = .dropped := by
  induction h generalizing t with
  | nil => exact Or.inl ht
  | cons hmove _ hrest ih =>
      rcases hmove.of_present ht with hnext | hdropped
      · exact ih hnext
      · obtain rfl := hrest.eq_nil_of_dropped hdropped
        cases hrest
        exact Or.inr hdropped

/-- A table that is there is not created again. -/
theorem any_createsTable {t : Table} (h : s.Runs blueprint tr cs tr' steps)
    (ht : tr.table = .present t) : (steps.map Step.change).any Change.createsTable = false := by
  rw [h.any_change Change.createsTable fun _ _ => rfl]
  induction h generalizing t with
  | nil => rfl
  | cons hmove _ hrest ih =>
      rw [List.any_cons, hmove.createsTable ht]
      rcases hmove.of_present ht with hnext | hdropped
      · exact ih hnext
      · rw [hrest.eq_nil_of_dropped hdropped]
        rfl

/-- A run over a change among others is a run up to it, the change, and a run
    from there. -/
theorem split {before after : List Change} {c : Change}
    (h : s.Runs blueprint tr (before ++ c :: after) tr' steps) :
    ∃ tr₁ tr₂ c' steps₁ steps₂, s.Runs blueprint tr before tr₁ steps₁ ∧
      tr₁.Moves s.known blueprint c tr₂ c' ∧ s.Runs blueprint tr₂ after tr' steps₂ ∧
      steps.map Step.change = steps₁.map Step.change ++ c' :: steps₂.map Step.change := by
  induction before generalizing tr steps with
  | nil =>
      cases h with
      | cons hmove _ hrest => exact ⟨_, _, _, _, _, .nil _, hmove, hrest, rfl⟩
  | cons b before ih =>
      cases h with
      | cons hfirst htext hrest =>
          obtain ⟨tr₁, tr₂, c', steps₁, steps₂, hbefore, hmove, hafter, hsteps⟩ := ih hrest
          refine ⟨tr₁, tr₂, c', _, steps₂, .cons hfirst htext hbefore, hmove, hafter, ?_⟩
          rw [List.map_cons, hsteps]
          rfl

end Synthesis.Runs

end

/-! ## Along a batch -/

/-- Whether each change finds the table as it should, when the statements of
    some changes are carried out one after the other. -/
def Change.along (p : Table → Change → Bool) : Table → List Change → Bool
  | _, [] => true
  | t, c :: cs => p t c && Change.along p (c.effect t) cs

namespace Change

variable {p : Table → Change → Bool} {t : Table}

theorem effects_cons (t : Table) (c : Change) (cs : List Change) :
    effects t (c :: cs) = effects (c.effect t) cs :=
  rfl

theorem effects_append (t : Table) (as bs : List Change) :
    effects t (as ++ bs) = effects (effects t as) bs :=
  List.foldl_append

theorem along_append (as bs : List Change) :
    along p t (as ++ bs) = (along p t as && along p (effects t as) bs) := by
  induction as generalizing t with
  | nil => rfl
  | cons c as ih =>
      rw [List.cons_append, along, along, ih, Bool.and_assoc]
      rfl

/-- Changes that find what they should in every table find it along a batch. -/
theorem along_eq_true {cs : List Change} (h : ∀ c ∈ cs, ∀ u, p u c = true) :
    along p t cs = true := by
  induction cs generalizing t with
  | nil => rfl
  | cons c cs ih =>
      obtain ⟨hfirst, hrest⟩ := List.forall_mem_cons.mp h
      rw [along, hfirst t, ih hrest]
      rfl

/-- What only the changes of one group are looked at for is settled behind the
    groups before it. -/
theorem along_inGroups {g : Group} (before after : List Group) {cs : List Change}
    (hall : Group.all = before ++ g :: after) (hbefore : g ∉ before) (hafter : g ∉ after)
    (hp : ∀ c u, c.group ≠ g → p u c = true) :
    along p t (inGroups cs)
      = along p (effects t (before.flatMap fun g => ofGroup g cs)) (ofGroup g cs) := by
  have hother : ∀ gs : List Group, g ∉ gs → ∀ u,
      along p u (gs.flatMap fun g => ofGroup g cs) = true := by
    intro gs hgs u
    refine along_eq_true fun c hc u => hp c u ?_
    rintro rfl
    obtain ⟨g', hg', hc⟩ := List.mem_flatMap.mp hc
    rw [(mem_ofGroup.mp hc).2] at hgs
    exact hgs hg'
  rw [inGroups, hall, List.flatMap_append, along_append, hother before hbefore, Bool.true_and,
    List.flatMap_cons, along_append, hother after hafter, Bool.and_true]

/-- Where the changes keep what they are looked at for, they can be looked at
    one by one. -/
theorem along_eq_all {q : Change → Bool} {cs : List Change} (I : Table → Prop) (ht : I t)
    (hkeep : ∀ c ∈ cs, ∀ u, I u → I (c.effect u)) (hq : ∀ c ∈ cs, ∀ u, I u → p u c = q c) :
    along p t cs = cs.all q := by
  induction cs generalizing t with
  | nil => rfl
  | cons c cs ih =>
      obtain ⟨hfirst, hrest⟩ := List.forall_mem_cons.mp hkeep
      obtain ⟨hq, hqs⟩ := List.forall_mem_cons.mp hq
      rw [along, List.all_cons, hq t ht, ih (hfirst t ht) hrest hqs]

end Change

/-! ## A table with a policy -/

/-- People, whose rows are removed ten days after they have left. -/
def people : Table where
  name := "User"
  columns := [.ofKind "userId" .uuid, .ofKind "name" .string,
    { Column.ofKind "deletedAt" .timestamp with nullable := true },
    { Column.ofKind "born" .date with nullable := true }]
  primaryKey := ["userId"]
  interleave := none
  policy := some ⟨"deletedAt", 10⟩

end SpannerDialect.Schema
