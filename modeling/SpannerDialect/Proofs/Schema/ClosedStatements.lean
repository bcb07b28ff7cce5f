import SpannerDialect.Proofs.Schema.Admissible
import SpannerDialect.Proofs.Schema.Clauses
import SpannerDialect.Proofs.Schema.Creation

/-! # Closed statements

    A statement is closed when the scanner finds no placeholder in it and ends outside
    of quotes.  Names and defaults of admissible changes are closed by themselves, so
    every statement built of them is, with one exception: the statement that creates a
    table writes the column of the policy without quotes, and is closed just when that
    name is as it stands (`Table.Admissible.neutral_creation_iff`).  A batch is closed
    when each table that it creates meets this (`Synthesis.batch_closed`). -/

namespace SpannerDialect

open Text

/-! ## Columns -/

theorem ScalarType.plain_ddl (t : ScalarType) : Plain t.ddl := by
  have hlength : ∀ n : Length, Plain n.ddl := by
    rintro (_ | ⟨n, _⟩)
    · decide
    · exact plain_digits n
  cases t with
  | string n => exact plain_append.mpr ⟨plain_append.mpr ⟨by decide, hlength n⟩, by decide⟩
  | bytes n => exact plain_append.mpr ⟨plain_append.mpr ⟨by decide, hlength n⟩, by decide⟩
  | _ => decide

theorem ColumnType.plain_ddl (t : ColumnType) : Plain t.ddl := by
  cases t with
  | scalar t => exact t.plain_ddl
  | array t => exact plain_append.mpr ⟨plain_append.mpr ⟨by decide, t.plain_ddl⟩, by decide⟩

/-- What a default is written as is enclosed, unless it is SQL as it stands. -/
theorem DefaultExpression.enclosed_sql {offset : Calendar.Offset} {type : ColumnType}
    {d : DefaultExpression} {text : List Char} (h : d.sql offset type = .ok text)
    (hraw : d.isRaw = false) : Enclosed .outside text := by
  cases d with
  | value v =>
      obtain ⟨w, -, h⟩ := exists_of_bind_eq_ok h
      obtain ⟨typed, -, htext⟩ := exists_of_bind_eq_ok h
      obtain ⟨literal, hliteral, henclosed⟩ := typed.exists_enclosed_literal
      obtain rfl := Except.ok.inj (hliteral.symm.trans htext)
      exact henclosed
  | currentTimestamp =>
      rw [DefaultExpression.sql] at h
      split at h
      · cases h
        exact (enclosed_unmarked (t := "CURRENT_TIMESTAMP".toList) (by decide)).append
          (Enclosed.group .nil)
      · cases h
  | raw sql => cases hraw

namespace Schema

variable {offset : Calendar.Offset} {text : List Char}

/-- The clause of a default: nothing, or enclosed SQL between brackets. -/
def Column.IsDefaultClause (clause : List Char) : Prop :=
  clause = [] ∨ ∃ sql, Enclosed .outside sql ∧ clause = " default (".toList ++ sql ++ [')']

theorem Column.Admissible.isDefaultClause {c : Column} {clause : List Char} (hc : c.Admissible)
    (h : defaultClause offset c.type c.default = .ok clause) : IsDefaultClause clause := by
  rcases defaultClause_cases h with rfl | ⟨d, sql, hd, hsql, rfl⟩
  · exact .inl rfl
  · exact .inr ⟨sql, DefaultExpression.enclosed_sql hsql (hc.default d hd), rfl⟩

theorem Column.Admissible.neutral_ddl {c : Column} (hc : c.Admissible)
    (h : c.ddl offset = .ok text) : Neutral .outside text := by
  obtain ⟨clause, hclause, h⟩ := exists_of_bind_eq_ok h
  cases h
  have hnull : Neutral .outside (if c.nullable then [] else " not null".toList) := by
    split <;> decide
  have hdefault : Neutral .outside clause := by
    rcases hc.isDefaultClause hclause with rfl | ⟨sql, henclosed, rfl⟩
    · exact .nil
    · exact .append (.append (by decide) henclosed.neutral) (by decide)
  have htype : Plain (' ' :: c.type.ddl) := plain_cons.mpr ⟨by decide, c.type.plain_ddl⟩
  exact .append (.append (.append (neutral_quoteName hc.name) htype.neutral_outside) hnull) hdefault

/-! ## Clauses -/

theorem Interleave.neutral_words {i : Interleave} (h : Sql.PlainName i.parent) :
    Neutral .outside i.words :=
  .append (.append (by decide) (neutral_quoteName h)) (.word (by decide))

theorem DeletionPolicy.neutral_quotedWords {p : DeletionPolicy} (h : Sql.PlainName p.column) :
    Neutral .outside p.quotedWords :=
  .append (.append (.append (.append (by decide) (neutral_quoteName h)) (by decide))
    (plain_digits p.days).neutral_outside) (by decide)

/-- The clause of a policy is closed just when the name of its column is, as it stands. -/
theorem DeletionPolicy.neutral_clause_iff (p : DeletionPolicy) :
    Neutral .outside p.clause ↔ Neutral .outside p.column.toList := by
  have hbefore : Neutral .outside ", row deletion policy (older_than(".toList := by decide
  have hbehind : Plain (", interval ".toList ++ (digits p.days ++ " day))".toList)) :=
    plain_append.mpr ⟨by decide, plain_append.mpr ⟨plain_digits p.days, by decide⟩⟩
  rw [clause_eq, hbefore.append_iff, hbehind.neutral_append_iff]

theorem ForeignKey.Admissible.neutral_words {k : ForeignKey} {table : String} (h : k.Admissible)
    (htable : Sql.PlainName table) : Neutral .outside (k.words table) := by
  have hname := neutral_quoteName (h.defaultName htable)
  have hcolumns := neutral_quoteNames h.columns
  have hreferences := neutral_quoteName h.references
  have hreferenced := neutral_quoteNames h.referencedColumns
  unfold ForeignKey.words
  refine .append (.append (.append (.append (.append (.append (.append hname ?_) hcolumns) ?_)
    hreferences) ?_) hreferenced) ?_
  all_goals decide

/-! ## Statements -/

theorem Index.Admissible.neutral_creation {i : Index} (h : i.Admissible) :
    Neutral .outside i.creation := by
  have hstoring : ∀ names ∈ i.stored?, Neutral .outside (Index.storingClause names) := by
    intro names hnames
    obtain rfl := Index.eq_of_mem_stored? hnames
    exact .append (by decide) (.append (neutral_quoteNames h.storing) (by decide))
  have hparent : ∀ parent ∈ i.interleaveIn, Neutral .outside (Index.parentClause parent) :=
    fun parent hp => .append (by decide) (neutral_quoteName (h.interleaveIn parent hp))
  rw [Index.creation_eq]
  refine .append ?_ (.append (.word ?_) (.append (.word ?_) (.append ?_
    (.append (neutral_quoteName h.defaultName) (.append ?_ (.append (neutral_quoteName h.table)
      (.append ?_ (.append (neutral_quoteNames h.columns) (.cons ?_
        (.append (.clause hstoring) (.clause hparent)))))))))))
  all_goals decide

/-- The column of the policy is closed as it stands, without quotes around it. -/
def Table.PolicyClosed (t : Table) : Prop :=
  ∀ p ∈ t.policy, Neutral .outside p.column.toList

/-- An admissible table is created by a closed statement just when the column of its
    policy is closed without quotes. -/
theorem Table.Admissible.neutral_creation_iff {t : Table} (ht : t.Admissible)
    (h : t.creation offset = .ok text) : Neutral .outside text ↔ t.PolicyClosed := by
  obtain ⟨columns, hcolumns, rfl⟩ := exists_of_creation h
  have hjoined : Neutral .outside (join [',', ' '] columns) := by
    refine .join (by decide) fun column hcolumn => ?_
    obtain ⟨c, hc, hddl⟩ := exists_of_mem_mapM hcolumns hcolumn
    exact (ht.columns c hc).neutral_ddl hddl
  have hinterleave : Neutral .outside ((t.interleave.map Interleave.words).getD []) :=
    .clause fun i hi => Interleave.neutral_words (ht.parent i hi)
  have hpolicy : Neutral .outside ((t.policy.map DeletionPolicy.clause).getD []) ↔
      t.PolicyClosed := by
    rw [PolicyClosed]
    cases t.policy with
    | none => exact iff_of_true .nil nofun
    | some p => simpa using p.neutral_clause_iff
  have hcreate : Neutral .outside "create table ".toList := by decide
  have hopen : Neutral .outside " (".toList := by decide
  have hkey : Neutral .outside (')' :: " primary key (".toList) := by decide
  have hclose : Neutral .outside [')'] := by decide
  rw [hcreate.append_iff, (neutral_quoteName ht.name).append_iff, hopen.append_iff,
    hjoined.append_iff, ← List.cons_append, hkey.append_iff,
    (neutral_quoteNames ht.primaryKey).append_iff, ← List.singleton_append, hclose.append_iff,
    hinterleave.append_iff, hpolicy]

/-- The table that a change creates. -/
def Change.created? : Change → Option Table
  | .createTable t => some t
  | _ => none

theorem Change.created?_eq_some {c : Change} {t : Table} :
    c.created? = some t ↔ c = .createTable t := by
  cases c <;> simp [created?]

/-- The statement of an admissible change that creates no table is closed. -/
theorem Change.Admissible.neutral_statement {c : Change} {table : String} (hc : c.Admissible)
    (htable : Sql.PlainName table) (hcreated : c.created? = none)
    (h : c.statement offset table = .ok text) : Neutral .outside text := by
  have halter : ∀ action : String, Neutral .outside action.toList →
      Neutral .outside (Change.statement.alter table action) := fun action haction =>
    .append (.append (by decide) (neutral_quoteName htable)) haction
  cases c with
  | createTable t => cases hcreated
  | dropTable ifExists =>
      cases h
      refine .append ?_ (neutral_quoteName htable)
      split <;> decide
  | addColumn c | alterColumn c =>
      obtain ⟨column, hcolumn, h⟩ := exists_of_bind_eq_ok h
      cases h
      exact .append (halter _ (by decide)) (Column.Admissible.neutral_ddl hc hcolumn)
  | dropColumn name | dropForeignKey name =>
      cases h
      exact .append (halter _ (by decide)) (neutral_quoteName hc)
  | createIndex i =>
      cases h
      exact Index.Admissible.neutral_creation hc
  | dropIndex name =>
      cases h
      exact .append (by decide) (neutral_quoteName hc)
  | addForeignKey k =>
      cases h
      exact .append (halter _ (by decide)) (ForeignKey.Admissible.neutral_words hc htable)
  | addPolicy p | replacePolicy p =>
      cases h
      exact .append (.append (halter _ (by decide)) (DeletionPolicy.neutral_quotedWords hc))
        (by decide)
  | dropPolicy =>
      cases h
      exact halter _ (by decide)

/-- The statement of an admissible change is closed, unless it creates a table whose
    policy has a column that is not closed without quotes. -/
theorem Change.Admissible.neutral_statement_iff {c : Change} {table : String}
    (hc : c.Admissible) (htable : Sql.PlainName table) (h : c.statement offset table = .ok text) :
    Neutral .outside text ↔ ∀ t ∈ c.created?, t.PolicyClosed := by
  cases hcreated : c.created? with
  | none => exact iff_of_true (hc.neutral_statement htable hcreated h) nofun
  | some t =>
      obtain rfl := created?_eq_some.mp hcreated
      rw [Table.Admissible.neutral_creation_iff hc h]
      simp

/-! ## Batches -/

namespace Synthesis

variable {s : Synthesis} {existing : Option Table} {b : Blueprint} {tr tr' : Tracker}
  {blueprint : String} {cs : List Change} {steps : List Step} {statements : List (List Char)}

/-- What every change keeps as it is carried out holds of all that is carried out. -/
theorem Runs.forall_change {P : Change → Prop} (h : s.Runs blueprint tr cs tr' steps)
    (hkeep : ∀ (tr tr' : Tracker) (c c' : Change),
      tr.Moves s.known blueprint c tr' c' → P c → P c')
    (hcs : ∀ c ∈ cs, P c) : ∀ step ∈ steps, P step.change := by
  induction h with
  | nil => nofun
  | cons hmove _ _ ih =>
      obtain ⟨hfirst, hrest⟩ := List.forall_mem_cons.mp hcs
      exact List.forall_mem_cons.mpr ⟨hkeep _ _ _ _ hmove hfirst, ih hrest⟩

/-- The tables that are created are those of the changes. -/
theorem Runs.exists_created_iff (h : s.Runs blueprint tr cs tr' steps) {t : Table} :
    (∃ step ∈ steps, step.change.created? = some t) ↔ .createTable t ∈ cs := by
  have hcreated := h.map_change Change.created? fun _ _ => rfl
  have hsteps : (∃ step ∈ steps, step.change.created? = some t) ↔
      some t ∈ (steps.map Step.change).map Change.created? := by
    simp
  rw [hsteps, hcreated, List.mem_map]
  simp [Change.created?_eq_some]

/-- **Which batches are closed.**  The statements of an admissible blueprint hold no
    placeholder and close all of their quotes, but for those that create a table with a
    policy on a column whose name does not so without quotes.  All of them do just when
    no such table is created. -/
theorem batch_closed (hb : b.Admissible) (h : s.batch existing b = .ok statements) :
    (∀ text ∈ statements, Neutral .outside text ∨
        ∃ t, .createTable t ∈ b.changes ∧ t.creation s.offset = .ok text ∧ ¬ t.PolicyClosed) ∧
      ((∀ text ∈ statements, Neutral .outside text) ↔
        ∀ t, .createTable t ∈ b.changes → t.PolicyClosed) := by
  obtain ⟨⟨tr, steps⟩, hrun, h⟩ := exists_of_bind_eq_ok h
  cases h
  have hruns := runs_of_run hrun
  have hadmissible : ∀ step ∈ steps, step.change.Admissible :=
    hruns.forall_change (fun _ _ _ _ hmove hc => hc.of_moves hmove) hb.changes
  have hneutral : ∀ step ∈ steps,
      (Neutral .outside step.statement ↔ ∀ t ∈ step.change.created?, t.PolicyClosed) :=
    fun step hstep => (hadmissible step hstep).neutral_statement_iff hb.table
      (hruns.statement_of_mem hstep)
  simp only [List.forall_mem_map, mem_grouped]
  refine ⟨fun step hstep => ?_, ?_⟩
  · by_cases hclosed : Neutral .outside step.statement
    · exact .inl hclosed
    · have hopen := mt (hneutral step hstep).mpr hclosed
      push Not at hopen
      obtain ⟨t, ht, hopen⟩ := hopen
      have htext := hruns.statement_of_mem hstep
      rw [Change.created?_eq_some.mp ht] at htext
      exact .inr ⟨t, hruns.exists_created_iff.mp ⟨step, hstep, ht⟩, htext, hopen⟩
  · constructor
    · intro hall t ht
      obtain ⟨step, hstep, hcreated⟩ := hruns.exists_created_iff.mpr ht
      exact (hneutral step hstep).mp (hall step hstep) t hcreated
    · intro hall step hstep
      exact (hneutral step hstep).mpr fun t ht =>
        hall t (hruns.exists_created_iff.mp ⟨step, hstep, ht⟩)

end Synthesis

/-- People, and an index of a name with quotes and a question mark in it. -/
def namedPeople : Blueprint :=
  ⟨"User", [.createTable people,
    .createIndex { Index.ofColumns "User" ["name"] with name := some "who's `who`?" }]⟩

/-- The people have a policy on a column of a plain name, and no name of theirs opens a
    quote. -/
theorem batch_closed_namedPeople :
    namedPeople.Admissible ∧ ∃ statements,
      Synthesis.batch ⟨[], .utc⟩ none namedPeople = .ok statements ∧
      ∀ text ∈ statements, Neutral .outside text := by
  have hb : namedPeople.Admissible := by decide
  have hbatch : ∃ statements,
      Synthesis.batch ⟨[], .utc⟩ none namedPeople = .ok statements := ⟨_, rfl⟩
  obtain ⟨statements, hbatch⟩ := hbatch
  have hpolicy : people.PolicyClosed := by
    rintro _ ⟨⟩
    decide
  refine ⟨hb, statements, hbatch, (Synthesis.batch_closed hb hbatch).2.mpr ?_⟩
  intro t ht
  rcases List.mem_cons.mp ht with heq | ht
  · obtain rfl := Change.createTable.inj heq
    exact hpolicy
  · cases List.mem_singleton.mp ht

/-- Tasks, which are removed thirty days after they were due. -/
def dueTasks : Table where
  name := "Task"
  columns := [.ofKind "id" .uuid, .ofKind "it's due" .date]
  primaryKey := ["id"]
  interleave := none
  policy := some ⟨"it's due", 30⟩

/-- An apostrophe in the column of a policy opens a quote in the statement that creates
    the table, which nothing closes. -/
theorem dueTasks_open :
    (Blueprint.mk "Task" [.createTable dueTasks]).Admissible ∧
      ∃ text, Synthesis.batch ⟨[], .utc⟩ none ⟨"Task", [.createTable dueTasks]⟩ = .ok [text] ∧
        text = ("create table `Task` (`id` string(36) not null, " ++
          "`it's due` date not null) primary key (`id`), " ++
          "row deletion policy (older_than(it's due, interval 30 day))").toList ∧
        scan .outside text = .quoted '\'' :=
  ⟨by decide, _, rfl, by decide +kernel, by decide +kernel⟩

end Schema

end SpannerDialect
