import SpannerDialect.Proofs.Schema.Runs

/-! # What knowledge does

    A run may know the table as it is, and other tables of the database.  A run
    that knows less makes the same steps as long as both are made: what is known
    can refuse a change, but has no part in its statement.  A tracker forgets the
    table (`Tracker.Forgets`) and goes on in step with the one that knows it, until
    the table is dropped; so a batch without any knowledge is the same batch
    (`Synthesis.batch_of_unknown`). -/

namespace SpannerDialect.Schema

variable {known : List Table} {blueprint : String} {tr tr' blind : Tracker} {c c' : Change}

/-! ## Other tables -/

/-- Without other tables, no parent is looked at. -/
theorem notMem_bind_findTable?_nil {α : Type} {o : Option α} {f : α → String} {parent : Table} :
    parent ∉ o.bind fun a => findTable? [] (f a) := by
  cases o with
  | none => exact nofun
  | some a => exact nofun

theorem Tracker.checkCreation_nil_eq_ok {t : Table} :
    checkCreation [] blueprint t = .ok () ↔ t.name = blueprint ∧ t.validate = .ok () := by
  rw [checkCreation_eq_ok]
  exact and_congr_right fun _ => and_iff_left fun parent hparent =>
    absurd hparent notMem_bind_findTable?_nil

theorem Tracker.checkIndex_nil_eq_ok {i : Index} :
    checkIndex [] blueprint i = .ok () ↔ i.table = blueprint ∧ i.validate = .ok () := by
  rw [checkIndex_eq_ok]
  exact and_congr_right fun _ => and_iff_left fun parent hparent =>
    absurd hparent (notMem_bind_findTable?_nil (f := id))

/-- A change that is taken where other tables are known is taken where they are
    not. -/
theorem Tracker.Moves.of_known (h : tr.Moves known blueprint c tr' c') :
    tr.Moves [] blueprint c tr' c' := by
  cases h with
  | allowed ht hc => exact .allowed ht hc
  | unchecked ht hc hdrop => exact .unchecked ht hc hdrop
  | created ht hcheck =>
      obtain ⟨hname, hvalid, -⟩ := checkCreation_eq_ok.mp hcheck
      exact .created ht (checkCreation_nil_eq_ok.mpr ⟨hname, hvalid⟩)
  | dropped ht => exact .dropped ht
  | indexed ht hcheck hcolumns hname =>
      obtain ⟨htable, hvalid, -⟩ := checkIndex_eq_ok.mp hcheck
      exact .indexed ht (checkIndex_nil_eq_ok.mpr ⟨htable, hvalid⟩) hcolumns hname
  | beside ht hc => exact .beside ht hc

/-! ## The table itself -/

/-- A tracker, and one that may not know the table. -/
inductive Tracker.Forgets : Tracker → Tracker → Prop
  | same (tr : Tracker) : Forgets tr tr
  | table (t : Table) (names : List String) (gives : Bool) :
      Forgets ⟨.present t, names, gives⟩ ⟨.unknown, names, gives⟩

theorem Change.Allowed.altersTable {t : Table} {gives : Bool} (h : c.Allowed t gives) :
    c.altersTable = true := by
  cases c with
  | createTable _ | dropTable _ | createIndex _ | dropIndex _ => exact False.elim h
  | addForeignKey _ | dropForeignKey _ => exact False.elim h
  | _ => rfl

/-- What a tracker does with a change, one that may not know the table does
    too, and it still may know less behind it. -/
theorem Tracker.Moves.forgets (h : tr.Moves known blueprint c tr' c') (hforgets : tr.Forgets blind) :
    ∃ blind', blind.Moves [] blueprint c blind' c' ∧ tr'.Forgets blind' := by
  have hmove := h.of_known
  cases hforgets with
  | same _ => exact ⟨tr', hmove, .same tr'⟩
  | table t names gives =>
      cases hmove with
      | allowed ht hc =>
          have hdrop : c = .dropPolicy → gives = false := by
            rintro rfl
            exact hc.1
          exact ⟨_, .unchecked rfl hc.altersTable hdrop, .table _ names _⟩
      | unchecked ht _ _ => cases ht
      | created ht _ => cases ht
      | dropped _ => exact ⟨_, .dropped nofun, .same _⟩
      | indexed _ hcheck _ hname => exact ⟨_, .indexed nofun hcheck nofun hname, .table t _ gives⟩
      | beside _ hc => exact ⟨_, .beside nofun hc, .table t names gives⟩

/-- Two runs in step: the one that may not know the table makes the same steps. -/
theorem Synthesis.Runs.forgets {s : Synthesis} {cs : List Change} {steps : List Step}
    (h : s.Runs blueprint tr cs tr' steps) (hforgets : tr.Forgets blind) :
    ∃ blind', Runs ⟨[], s.offset⟩ blueprint blind cs blind' steps ∧ tr'.Forgets blind' := by
  induction h generalizing blind with
  | nil tr => exact ⟨blind, .nil blind, hforgets⟩
  | cons hmove htext _ ih =>
      obtain ⟨blind₁, hmove₁, hforgets₁⟩ := hmove.forgets hforgets
      obtain ⟨blind₂, hrest, hforgets₂⟩ := ih hforgets₁
      exact ⟨blind₂, .cons hmove₁ htext hrest, hforgets₂⟩

theorem Tracker.start_forgets (existing : Option Table) :
    (start existing).Forgets (start none) := by
  cases existing with
  | none => exact .same _
  | some t => exact .table t [] false

/-! ## Batches -/

/-- **Knowledge only refuses.**  A batch that is accepted with whatever is known,
    of the table and of others, is the batch that comes without any knowledge. -/
theorem Synthesis.batch_of_unknown {s : Synthesis} {existing : Option Table} {b : Blueprint}
    {statements : List (List Char)} (h : s.batch existing b = .ok statements) :
    batch ⟨[], s.offset⟩ none b = .ok statements := by
  obtain ⟨⟨tr, steps⟩, hrun, h⟩ := exists_of_bind_eq_ok h
  cases h
  obtain ⟨blind, hblind, -⟩ := (runs_of_run hrun).forgets (Tracker.start_forgets existing)
  exact batch_of_run (run_of_runs hblind)

/-- What people have written; their rows lie with the people. -/
def posts : Table where
  name := "Post"
  columns := [.ofKind "userId" .uuid, .ofKind "postId" .integer, .ofKind "text" .text,
    { Column.ofKind "hiddenAt" .timestamp with nullable := true }]
  primaryKey := ["userId", "postId"]
  interleave := some ⟨"User", .cascade⟩
  policy := some ⟨"hiddenAt", 30⟩

/-- The posts lose their policy and its column, and get an index that lies with
    the people. -/
def renewedPosts : Blueprint where
  table := "Post"
  changes := [.dropPolicy, .createIndex { Index.ofColumns "Post" ["userId", "text"] with
      storing := ["hiddenAt"], interleaveIn := some "User" },
    .alterColumn (.ofKind "text" .string), .addColumn (.ofKind "written" .date),
    .addPolicy ⟨"written", 365⟩, .dropIndex "post_text_index"]

theorem batch_of_unknown_renewedPosts :
    posts.validate = .ok () ∧
      ∃ statements, Synthesis.batch ⟨[people], .utc⟩ (some posts) renewedPosts = .ok statements ∧
        Synthesis.batch ⟨[], .utc⟩ none renewedPosts = .ok statements := by
  have hbatch : ∃ statements,
      Synthesis.batch ⟨[people], .utc⟩ (some posts) renewedPosts = .ok statements := ⟨_, rfl⟩
  obtain ⟨statements, hbatch⟩ := hbatch
  exact ⟨rfl, statements, hbatch, Synthesis.batch_of_unknown hbatch⟩

end SpannerDialect.Schema
