import Mathlib.Data.List.Forall2
import SpannerDialect.Proofs.Schema.Knowledge

/-! # The groups of a batch

    A batch holds one statement for each change, the groups in their order and the
    changes of a group in the order of their declaration, so it is the stable order
    by groups.  The name of a created index is the one thing in a statement that
    hangs on other changes, and these are creations of indexes too
    (`Runs.exists_assignNames`).  So the changes of each group settle the batch,
    however the groups are declared among each other (`Synthesis.batch_grouped`). -/

namespace SpannerDialect.Schema

/-! ## Lists in groups -/

/-- A list that is sorted into different groups holds the same as before, but for
    what is in none of them. -/
theorem flatMap_filter_perm {α κ : Type} [DecidableEq κ] (key : α → κ) {keys : List κ}
    (hkeys : keys.Nodup) (xs : List α) :
    (keys.flatMap fun k => xs.filter fun x => key x = k).Perm (xs.filter fun x => key x ∈ keys) := by
  induction keys with
  | nil => simp
  | cons k keys ih =>
      obtain ⟨hnew, hkeys⟩ := List.nodup_cons.mp hkeys
      have hfirst : (xs.filter fun x => key x ∈ k :: keys).filter (fun x => key x = k)
          = xs.filter fun x => key x = k := by
        rw [List.filter_filter]
        refine List.filter_congr fun x _ => ?_
        by_cases hx : key x = k
        · simp [hx]
        · simp [hx]
      have hrest : (xs.filter fun x => key x ∈ k :: keys).filter (fun x => !decide (key x = k))
          = xs.filter fun x => key x ∈ keys := by
        rw [List.filter_filter]
        refine List.filter_congr fun x _ => ?_
        by_cases hx : key x = k
        · simp [hx, hnew]
        · simp [hx]
      have hparts := List.filter_append_perm (fun x => decide (key x = k))
        (xs.filter fun x => key x ∈ k :: keys)
      rw [hfirst, hrest] at hparts
      exact ((ih hkeys).append_left _).trans hparts

/-- The place of a group in a batch. -/
def Group.place : Group → Nat
  | .drops => 0
  | .table => 1
  | .policy => 2
  | .indexes => 3
  | .constraints => 4
  | .dropTable => 5

theorem Group.mem_all (g : Group) : g ∈ Group.all := by
  cases g <;> decide

namespace Synthesis

variable {s : Synthesis} {blueprint : String} {tr tr' : Tracker} {cs : List Change}
  {steps : List Step}

theorem grouped_perm (steps : List Step) : (grouped steps).Perm steps := by
  have hperm := flatMap_filter_perm (fun step : Step => step.change.group)
    (show Group.all.Nodup by decide) steps
  rwa [List.filter_eq_self.mpr fun step _ => decide_eq_true step.change.group.mem_all] at hperm

/-- The groups of a batch stand in their order. -/
theorem pairwise_grouped (steps : List Step) :
    (grouped steps).Pairwise fun a b => a.change.group.place ≤ b.change.group.place := by
  have hgroup : ∀ {g : Group} {step : Step},
      step ∈ steps.filter (fun step => step.change.group = g) → step.change.group = g := by
    intro g step hstep
    exact of_decide_eq_true (List.mem_filter.mp hstep).2
  rw [grouped, List.pairwise_flatMap]
  constructor
  · intro g _
    refine List.pairwise_of_forall_mem_list fun a ha b hb => ?_
    have hplace : a.change.group.place = b.change.group.place := by
      rw [hgroup ha, hgroup hb]
    exact Nat.le_of_eq hplace
  · have hplaces : Group.all.Pairwise fun g g' => g.place ≤ g'.place := by decide
    refine hplaces.imp fun {g g'} hle a ha b hb => ?_
    rw [hgroup ha, hgroup hb]
    exact hle

end Synthesis

/-! ## What the steps of a run are -/

/-- A step carries out a change with its statement; only the name of an index is
    added to it. -/
structure Step.CarriesOut (offset : Calendar.Offset) (table : String) (c : Change) (step : Step) :
    Prop where
  change_eq : step.change = c ∨
    ∃ i name, c = .createIndex i ∧ step.change = .createIndex { i with name := some name }
  statement_eq : step.change.statement offset table = .ok step.statement

/-- The index that a change creates. -/
def Change.createdIndex? : Change → Option Index
  | .createIndex i => some i
  | _ => none

/-- A change is carried out as it is, or it creates an index under the name that is
    assigned to it. -/
theorem Tracker.Moves.names {known : List Table} {blueprint : String} {tr tr' : Tracker}
    {c c' : Change} (h : tr.Moves known blueprint c tr' c') :
    (c.createdIndex? = none ∧ c' = c ∧ tr'.indexNames = tr.indexNames) ∨
      ∃ i name, c = .createIndex i ∧ assignName tr.indexNames i = .ok name ∧
        c' = .createIndex { i with name := some name } ∧
        tr'.indexNames = name :: tr.indexNames := by
  cases h with
  | allowed _ hc =>
      cases c with
      | createIndex _ => exact False.elim hc
      | _ => exact Or.inl ⟨rfl, rfl, rfl⟩
  | unchecked _ hc _ =>
      cases c with
      | createIndex _ => cases hc
      | _ => exact Or.inl ⟨rfl, rfl, rfl⟩
  | created _ _ => exact Or.inl ⟨rfl, rfl, rfl⟩
  | dropped _ => exact Or.inl ⟨rfl, rfl, rfl⟩
  | indexed _ _ _ hname => exact Or.inr ⟨_, _, rfl, hname, rfl, rfl⟩
  | beside _ hc =>
      cases hc with
      | dropIndex _ | dropForeignKey _ | addForeignKey _ => exact Or.inl ⟨rfl, rfl, rfl⟩

theorem Tracker.Moves.dropped_of_group {known : List Table} {blueprint : String}
    {tr tr' : Tracker} {c c' : Change} (h : tr.Moves known blueprint c tr' c')
    (hc : c'.group = .dropTable) : tr'.table = .dropped := by
  cases h with
  | dropped _ => rfl
  | allowed _ hallowed =>
      cases c with
      | dropTable _ => exact False.elim hallowed
      | _ => cases hc
  | unchecked _ halters _ =>
      cases c with
      | dropTable _ => cases halters
      | _ => cases hc
  | created _ _ => cases hc
  | indexed _ _ _ _ => cases hc
  | beside _ hbeside =>
      cases hbeside with
      | dropIndex _ | dropForeignKey _ | addForeignKey _ => cases hc

namespace Synthesis.Runs

variable {s : Synthesis} {blueprint : String} {tr tr' : Tracker} {cs : List Change}
  {steps : List Step}

/-- Each change has its step. -/
theorem carriesOut (h : s.Runs blueprint tr cs tr' steps) :
    List.Forall₂ (Step.CarriesOut s.offset blueprint) cs steps := by
  induction h with
  | nil => exact .nil
  | cons hmove htext _ ih =>
      refine .cons ⟨?_, htext⟩ ih
      rcases hmove.names with ⟨-, heq, -⟩ | ⟨i, name, hc, -, hc', -⟩
      · exact Or.inl heq
      · exact Or.inr ⟨i, name, hc, hc'⟩

/-- The table is dropped once at most. -/
theorem length_dropTable_le_one (h : s.Runs blueprint tr cs tr' steps) :
    (steps.filter fun step => step.change.group = .dropTable).length ≤ 1 := by
  induction h with
  | nil => exact Nat.zero_le 1
  | @cons _ _ _ _ c' _ _ _ hmove _ hrest ih =>
      by_cases hc : c'.group = .dropTable
      · obtain rfl := hrest.eq_nil_of_dropped (hmove.dropped_of_group hc)
        cases hrest
        exact List.length_filter_le _ _
      · rw [List.filter_cons_of_neg]
        · exact ih
        · exact fun h => hc (of_decide_eq_true h)

/-- Nothing comes behind the dropping of the table. -/
theorem dropTable_last (h : s.Runs blueprint tr cs tr' steps) :
    ∀ step ∈ (grouped steps).dropLast, step.change.group ≠ .dropTable := by
  have hgrouped : grouped steps = ([.drops, .table, .policy, .indexes, .constraints].flatMap
      fun g => steps.filter fun step => step.change.group = g) ++
        steps.filter fun step => step.change.group = .dropTable := by
    simp [grouped, Group.all]
  have hlength := h.length_dropTable_le_one
  have hbefore : ∀ step ∈ [.drops, .table, .policy, .indexes, .constraints].flatMap
      (fun g => steps.filter fun step => step.change.group = g), step.change.group ≠ .dropTable := by
    intro step hstep
    obtain ⟨g, hg, hstep⟩ := List.mem_flatMap.mp hstep
    rw [of_decide_eq_true (List.mem_filter.mp hstep).2]
    rintro rfl
    revert hg
    decide
  rw [hgrouped]
  generalize steps.filter (fun step => step.change.group = .dropTable) = last at hlength
  rcases last with _ | ⟨step, _ | ⟨other, rest⟩⟩
  · rw [List.append_nil]
    exact fun step hstep => hbefore step ((List.dropLast_sublist _).subset hstep)
  · rw [List.dropLast_concat]
    exact hbefore
  · rw [List.length_cons, List.length_cons] at hlength
    omega

/-- A group without indexes is carried out as it is declared. -/
theorem ofGroup_change {g : Group} (hg : g ≠ .indexes) (h : s.Runs blueprint tr cs tr' steps) :
    Change.ofGroup g (steps.map Step.change) = Change.ofGroup g cs := by
  induction h with
  | nil => rfl
  | cons hmove _ _ ih =>
      rw [List.map_cons, Change.ofGroup_cons, Change.ofGroup_cons, ih]
      rcases hmove.names with ⟨-, rfl, -⟩ | ⟨i, name, rfl, -, rfl, -⟩
      · rfl
      · rw [if_neg, if_neg]
        · exact hg.symm
        · exact hg.symm

/-- Created indexes get the names that are assigned to them one after the other. -/
theorem exists_assignNames (h : s.Runs blueprint tr cs tr' steps) :
    ∃ named, assignNames tr.indexNames ((Change.ofGroup .indexes cs).filterMap Change.createdIndex?)
        = .ok named ∧
      Change.ofGroup .indexes (steps.map Step.change)
        = named.map fun b => .createIndex { b.2 with name := some b.1 } := by
  induction h with
  | nil => exact ⟨[], rfl, rfl⟩
  | @cons _ _ _ c _ _ _ _ hmove _ _ ih =>
      obtain ⟨named, hnamed, hchanges⟩ := ih
      rw [List.map_cons, Change.ofGroup_cons, Change.ofGroup_cons, hchanges]
      rcases hmove.names with ⟨hnone, heq, hnames⟩ | ⟨i, name, rfl, hname, rfl, hnames⟩
      · have hgroup : c.group ≠ .indexes := by
          intro hc
          cases c with
          | createIndex _ => cases hnone
          | _ => cases hc
        rw [heq, if_neg hgroup, if_neg hgroup, ← hnames]
        exact ⟨named, hnamed, rfl⟩
      · refine ⟨(name, i) :: named, ?_, rfl⟩
        rw [hnames] at hnamed
        exact bind_eq_ok.mpr ⟨name, hname, bind_eq_ok.mpr ⟨named, hnamed, rfl⟩⟩

/-- What is carried out is settled by the changes of each group. -/
theorem inGroups_change {known : List Table} {tr₂ tr₂' : Tracker} {cs₂ : List Change}
    {steps₂ : List Step} (h : s.Runs blueprint tr cs tr' steps)
    (h₂ : Runs ⟨known, s.offset⟩ blueprint tr₂ cs₂ tr₂' steps₂)
    (hnames : tr₂.indexNames = tr.indexNames)
    (hgroups : ∀ g, Change.ofGroup g cs₂ = Change.ofGroup g cs) :
    Change.inGroups (steps₂.map Step.change) = Change.inGroups (steps.map Step.change) := by
  have hgroup : ∀ g, Change.ofGroup g (steps₂.map Step.change)
      = Change.ofGroup g (steps.map Step.change) := by
    intro g
    by_cases hg : g = .indexes
    · obtain ⟨named, hnamed, hchanges⟩ := h.exists_assignNames
      obtain ⟨named₂, hnamed₂, hchanges₂⟩ := h₂.exists_assignNames
      rw [hnames, hgroups, hnamed] at hnamed₂
      obtain rfl := Except.ok.inj hnamed₂
      rw [hg, hchanges, hchanges₂]
    · rw [h.ofGroup_change hg, h₂.ofGroup_change hg, hgroups]
  simp only [Change.inGroups, hgroup]

end Synthesis.Runs

/-- **A batch is the blueprint in groups.**  Each change has one statement.  The
    statements stand in the order of their groups, those of a group as they are
    declared, and what drops the table comes once at most, and last.  So another
    blueprint of the table that declares the same in each group has the same batch,
    if it is accepted, whatever is known. -/
theorem Synthesis.batch_grouped {s : Synthesis} {existing : Option Table} {b : Blueprint}
    {statements : List (List Char)} (h : s.batch existing b = .ok statements) :
    (∃ declared emitted : List Step,
      List.Forall₂ (Step.CarriesOut s.offset b.table) b.changes declared ∧
      emitted.Perm declared ∧ emitted.map Step.statement = statements ∧
      (emitted.Pairwise fun a b => a.change.group.place ≤ b.change.group.place) ∧
      (∀ g, emitted.filter (fun step => step.change.group = g)
        = declared.filter fun step => step.change.group = g) ∧
      ∀ step ∈ emitted.dropLast, step.change.group ≠ .dropTable) ∧
    ∀ known existing' changes statements',
      (∀ g, Change.ofGroup g changes = Change.ofGroup g b.changes) →
      batch ⟨known, s.offset⟩ existing' ⟨b.table, changes⟩ = .ok statements' →
      statements' = statements := by
  obtain ⟨⟨tr, steps⟩, hrun, h⟩ := exists_of_bind_eq_ok h
  cases h
  have hruns := runs_of_run hrun
  constructor
  · exact ⟨steps, grouped steps, hruns.carriesOut, grouped_perm steps, rfl, pairwise_grouped steps,
      fun g => filter_grouped g steps, hruns.dropTable_last⟩
  · intro known existing' changes statements' hgroups h'
    obtain ⟨⟨tr', steps'⟩, hrun', h'⟩ := exists_of_bind_eq_ok h'
    cases h'
    have hruns' := runs_of_run hrun'
    have hstatements := hruns'.mapM_statement_grouped
    rw [hruns.inGroups_change hruns' rfl hgroups] at hstatements
    exact Except.ok.inj (hstatements.symm.trans hruns.mapM_statement_grouped)

/-- People get a date of their first post, indexes and a constraint, before the
    table is dropped. -/
def remadePeople : Blueprint where
  table := "User"
  changes := [.addForeignKey ⟨none, ["name"], "Person", ["name"]⟩,
    .createIndex (.ofColumns "User" ["name"]), .dropPolicy, .addColumn (.ofKind "posted" .date),
    .createIndex { Index.ofColumns "User" ["name"] with storing := ["born"] },
    .dropIndex "user_born_index", .addForeignKey ⟨none, ["posted"], "Post", ["written"]⟩,
    .dropTable false]

/-- The same, declared group by group. -/
theorem batch_grouped_remadePeople :
    ∃ statements, Synthesis.batch ⟨[posts], .utc⟩ (some people) remadePeople = .ok statements ∧
      Synthesis.batch ⟨[], .utc⟩ none remadePeople.inGroups = .ok statements ∧
      statements.length = remadePeople.changes.length := by
  have hbatch : ∃ statements,
      Synthesis.batch ⟨[posts], .utc⟩ (some people) remadePeople = .ok statements := ⟨_, rfl⟩
  have hbatch' : ∃ statements,
      Synthesis.batch ⟨[], .utc⟩ none remadePeople.inGroups = .ok statements := ⟨_, rfl⟩
  obtain ⟨statements, hbatch⟩ := hbatch
  obtain ⟨statements', hbatch'⟩ := hbatch'
  obtain ⟨⟨declared, emitted, hdeclared, hperm, rfl, -⟩, hsame⟩ := Synthesis.batch_grouped hbatch
  have hgroups : ∀ g, Change.ofGroup g remadePeople.inGroups.changes
      = Change.ofGroup g remadePeople.changes := by
    intro g
    cases g <;> rfl
  obtain rfl := hsame [] none _ _ hgroups hbatch'
  refine ⟨_, hbatch, hbatch', ?_⟩
  rw [List.length_map, hperm.length_eq, hdeclared.length_eq]

end SpannerDialect.Schema
