import SpannerDialect.Proofs.Schema.Matching
import SpannerDialect.Proofs.Schema.Reordering

/-! # Differences that are carried out

    The changes between two tables come in three parts: the wanted columns, the
    columns that nobody wants, and the policy.  Each part is allowed behind the
    one before it, and behind all of them there is a table that matches the
    wanted one (`Synthesis.diffTables_reaches`). -/

namespace SpannerDialect.Schema

/-! ## Changes that a table allows -/

namespace Change

variable {t u existing desired : Table} {gives : Bool} {as bs cs : List Change}

theorem allAllowed_append :
    AllAllowed t gives (as ++ bs) ↔
      AllAllowed t gives as ∧ AllAllowed (effects t as) (as.any givesPolicy || gives) bs := by
  induction as generalizing t gives with
  | nil => exact ⟨fun h => ⟨trivial, h⟩, fun h => h.2⟩
  | cons a as ih =>
      rw [List.cons_append, List.any_cons, Bool.or_assoc, Bool.or_left_comm]
      show _ ∧ _ ↔ (_ ∧ _) ∧ _
      rw [ih, and_assoc]
      rfl

theorem AllAllowed.wellFormed (h : AllAllowed t gives cs) (ht : t.WellFormed) :
    (effects t cs).WellFormed := by
  induction cs generalizing t gives with
  | nil => exact ht
  | cons c cs ih => exact ih h.2 (h.1.wellFormed ht)

theorem AllAllowed.sameFrame (h : AllAllowed t gives cs) : (effects t cs).SameFrame t := by
  induction cs generalizing t gives with
  | nil => exact .refl t
  | cons c cs ih => exact (ih h.2).trans (sameFrame_effect h.1.createsTable)

/-- Changes of columns leave the policy and give none. -/
theorem AllAllowed.keepPolicy (h : AllAllowed t gives cs) (hcs : ∀ c ∈ cs, c.group = .table) :
    (effects t cs).policy = t.policy ∧ cs.any givesPolicy = false := by
  induction cs generalizing t gives with
  | nil => exact ⟨rfl, rfl⟩
  | cons c cs ih =>
      obtain ⟨hc, hcs⟩ := List.forall_mem_cons.mp hcs
      obtain ⟨hpolicy, hgives⟩ := ih h.2 hcs
      refine ⟨hpolicy.trans (policy_effect hc h.1.createsTable), ?_⟩
      rw [List.any_cons, givesPolicy_of_table hc h.1, hgives]
      rfl

/-! ## From one table to another -/

/-- A wanted column comes to stand where it is wanted. -/
theorem allowed_columnChange {d : Column} (hu : u.column? d.name = existing.column? d.name)
    (htimes : u.drivesPolicy d.name = true → d.type.isTemporal = true) :
    AllAllowed u gives (columnChange existing d).toList ∧
      ∀ name, (effects u (columnChange existing d).toList).column? name =
        if d.name = name then some (existing.settled d) else u.column? name := by
  rw [columnChange, Table.settled]
  cases hc : existing.column? d.name with
  | none =>
      have hnew := hu.trans hc
      refine ⟨⟨hnew, trivial⟩, fun name => ?_⟩
      show ((addColumn d).effect u).column? name = _
      rw [Table.column?_addColumn]
      split
      · rename_i h
        rw [← h, hnew]
        rfl
      · rw [Option.or_none]
  | some c =>
      have hold := hu.trans hc
      by_cases hsame : (c == d) = true
      · simp only [if_pos hsame]
        refine ⟨trivial, fun name => ?_⟩
        show u.column? name = _
        split
        · rename_i h
          rw [← h, hold]
        · rfl
      · simp only [if_neg hsame]
        refine ⟨⟨⟨?_, htimes⟩, trivial⟩, fun name => ?_⟩
        · rw [hold]
          exact Option.some_ne_none c
        · show ((alterColumn d).effect u).column? name = _
          rw [Table.column?_alterColumn]
          split
          · rename_i h
            rw [← h, hold]
            rfl
          · rfl

theorem group_of_columnChange {c : Change} {d : Column} (h : c ∈ columnChange existing d) :
    c.group = .table := by
  rw [columnChange] at h
  split at h
  · cases h
    rfl
  · split at h
    · cases h
    · cases h
      rfl

/-- The first of some columns of different names, or what comes to stand after
    it. -/
theorem settled_cons_or {ds : List Column} {d : Column} {name : String} {column? : Option Column}
    (hne : ∀ e ∈ ds, d.name ≠ e.name) :
    (((d :: ds).find? fun e => e.name == name).map existing.settled).or column? =
      ((ds.find? fun e => e.name == name).map existing.settled).or
        (if d.name = name then some (existing.settled d) else column?) := by
  by_cases h : d.name = name
  · have hnone : (ds.find? fun e => e.name == name) = none := by
      refine List.find?_eq_none.mpr fun e he => ?_
      rw [beq_iff_eq, ← h]
      exact Ne.symm (hne e he)
    rw [if_pos h, hnone, List.find?_cons_of_pos (by simpa using h)]
    rfl
  · rw [if_neg h, List.find?_cons_of_neg (by simpa using h)]

/-- All wanted columns come to stand where they are wanted, one by one. -/
theorem allowed_columnChanges {ds : List Column} (hnodup : (ds.map Column.name).Nodup)
    (hu : ∀ d ∈ ds, u.column? d.name = existing.column? d.name)
    (htimes : ∀ d ∈ ds, u.drivesPolicy d.name = true → d.type.isTemporal = true) :
    AllAllowed u gives (ds.filterMap (columnChange existing)) ∧
      ∀ name, (effects u (ds.filterMap (columnChange existing))).column? name =
        ((ds.find? fun d => d.name == name).map existing.settled).or (u.column? name) := by
  induction ds generalizing u gives with
  | nil => exact ⟨trivial, fun name => rfl⟩
  | cons d ds ih =>
      obtain ⟨hnew, hnodup⟩ := List.nodup_cons.mp hnodup
      obtain ⟨hud, hu⟩ := List.forall_mem_cons.mp hu
      obtain ⟨htd, htimes⟩ := List.forall_mem_cons.mp htimes
      have hne : ∀ e ∈ ds, d.name ≠ e.name := by
        intro e he heq
        rw [heq] at hnew
        exact hnew (List.mem_map_of_mem he)
      have hsplit : (d :: ds).filterMap (columnChange existing)
          = (columnChange existing d).toList ++ ds.filterMap (columnChange existing) := by
        rw [List.filterMap_cons]
        cases columnChange existing d <;> rfl
      rw [hsplit, allAllowed_append]
      obtain ⟨hfirst, hcolumn⟩ : AllAllowed u gives (columnChange existing d).toList ∧ _ :=
        allowed_columnChange hud htd
      have hgroup : ∀ c ∈ (columnChange existing d).toList, c.group = .table :=
        fun c hc => group_of_columnChange (Option.mem_toList.mp hc)
      obtain ⟨hpolicy, hgives⟩ := hfirst.keepPolicy hgroup
      rw [hgives, Bool.false_or]
      have hu' : ∀ e ∈ ds, (effects u (columnChange existing d).toList).column? e.name
          = existing.column? e.name := by
        intro e he
        rw [hcolumn, if_neg (hne e he), hu e he]
      have htimes' : ∀ e ∈ ds, (effects u (columnChange existing d).toList).drivesPolicy e.name
          = true → e.type.isTemporal = true := by
        intro e he
        rw [Table.drivesPolicy, hpolicy]
        exact htimes e he
      obtain ⟨hrest, hcolumns⟩ := ih hnodup hu' htimes'
      refine ⟨⟨hfirst, hrest⟩, fun name => ?_⟩
      rw [effects_append, hcolumns, hcolumn]
      exact (settled_cons_or hne).symm

/-- Columns of different names are dropped one by one. -/
theorem allowed_dropColumns {names : List String} (hnodup : names.Nodup)
    (h : ∀ name ∈ names, (dropColumn name).Allowed u gives) :
    AllAllowed u gives (names.map dropColumn) ∧
      ∀ name, (effects u (names.map dropColumn)).column? name =
        if name ∈ names then none else u.column? name := by
  induction names generalizing u with
  | nil => exact ⟨trivial, fun name => (if_neg List.not_mem_nil).symm⟩
  | cons dropped names ih =>
      obtain ⟨hnew, hnodup⟩ := List.nodup_cons.mp hnodup
      obtain ⟨hfirst, hnames⟩ := List.forall_mem_cons.mp h
      have hlater : ∀ name ∈ names,
          (dropColumn name).Allowed ((dropColumn dropped).effect u) gives := by
        intro name hname
        obtain ⟨hkey, hfree, hthere⟩ := hnames name hname
        refine ⟨hkey, hfree, ?_⟩
        rw [Table.column?_dropColumn, if_neg]
        · exact hthere
        · rintro rfl
          exact hnew hname
      obtain ⟨hrest, hcolumns⟩ := ih hnodup hlater
      refine ⟨⟨hfirst, hrest⟩, fun name => ?_⟩
      rw [List.map_cons, effects_cons, hcolumns, Table.column?_dropColumn]
      simp only [List.mem_cons, eq_comm (a := dropped)]
      by_cases h : name = dropped
      · simp [h]
      · simp [h]

/-- The policy comes to be the wanted one. -/
theorem allowed_policyChange {wanted : Option DeletionPolicy}
    (h : ∀ p, wanted = some p → u.HoldsTimes p.column) :
    AllAllowed u false (policyChange u.policy wanted) ∧
      effects u (policyChange u.policy wanted) = { u with policy := wanted } := by
  obtain ⟨name, columns, key, interleave, policy⟩ := u
  cases policy with
  | none =>
      cases wanted with
      | none => exact ⟨trivial, rfl⟩
      | some p => exact ⟨⟨⟨rfl, h p rfl⟩, trivial⟩, rfl⟩
  | some q =>
      cases wanted with
      | none => exact ⟨⟨⟨rfl, nofun⟩, trivial⟩, rfl⟩
      | some p =>
          show AllAllowed _ false (if q = p then [] else [.replacePolicy p]) ∧
            effects _ (if q = p then [] else [.replacePolicy p]) = _
          split
          · rename_i heq
            subst heq
            exact ⟨trivial, rfl⟩
          · exact ⟨⟨⟨nofun, h p rfl⟩, trivial⟩, rfl⟩

/-- The columns that nobody wants are dropped by their names. -/
theorem filterMap_columnDrop (cs : List Column) :
    cs.filterMap (columnDrop desired)
      = ((cs.map Column.name).filter fun name => (desired.column? name).isNone).map dropColumn := by
  induction cs with
  | nil => rfl
  | cons c cs ih =>
      rw [List.filterMap_cons, List.map_cons, List.filter_cons, columnDrop]
      cases desired.column? c.name with
      | none =>
          show _ :: _ = _ :: _
          rw [ih]
      | some d => exact ih

/-- The wanted columns come first.  One that drives the policy is wanted with
    dates or times. -/
theorem allowed_wanted (hdesired : desired.Sound)
    (hpolicy : ∀ p, existing.policy = some p → desired.HoldsTimes p.column) :
    AllAllowed existing gives (desired.columns.filterMap (columnChange existing)) ∧
      ∀ name, (effects existing (desired.columns.filterMap (columnChange existing))).column? name =
        ((desired.column? name).map existing.settled).or (existing.column? name) := by
  refine allowed_columnChanges hdesired.columns_nodup (fun d _ => rfl) ?_
  intro d hd hdrives
  obtain ⟨p, hp, hname⟩ := Table.drivesPolicy_eq_true.mp hdrives
  obtain ⟨e, he, htimes⟩ := hpolicy p hp
  rw [hname, Table.column?_of_mem hdesired.columns_nodup hd] at he
  obtain rfl := Option.some.inj he
  exact htimes

/-- A column that nobody wants can go, unless it drives the policy. -/
theorem allowed_unwantedColumn {name : String} (hdesired : desired.Sound)
    (hkey : u.primaryKey = desired.primaryKey) (hthere : u.column? name ≠ none)
    (hunwanted : desired.column? name = none) (hfree : u.drivesPolicy name = false) :
    (dropColumn name).Allowed u gives := by
  refine ⟨?_, hfree, hthere⟩
  rw [hkey]
  intro hname
  exact Table.column?_ne_none.mpr (hdesired.wellFormed.key_present name hname) hunwanted

/-- The unwanted columns can go then: none of them is in the key or drives the
    policy. -/
theorem allowed_unwanted (hexisting : existing.Sound) (hdesired : desired.Sound)
    (hkey : u.primaryKey = desired.primaryKey)
    (hpolicy : ∀ p, u.policy = some p → desired.HoldsTimes p.column)
    (hcolumns : ∀ name, u.column? name =
      ((desired.column? name).map existing.settled).or (existing.column? name)) :
    AllAllowed u gives (existing.columns.filterMap (columnDrop desired)) ∧
      ∀ name, (effects u (existing.columns.filterMap (columnDrop desired))).column? name =
        (desired.column? name).map existing.settled := by
  have hallowed : ∀ name ∈ (existing.columns.map Column.name).filter
      fun name => (desired.column? name).isNone, (dropColumn name).Allowed u gives := by
    intro name hname
    obtain ⟨hthere, hunwanted⟩ := List.mem_filter.mp hname
    rw [Option.isNone_iff_eq_none] at hunwanted
    refine allowed_unwantedColumn hdesired hkey ?_ hunwanted ?_
    · rw [hcolumns, hunwanted]
      exact Table.column?_ne_none.mpr hthere
    · rw [← Bool.not_eq_true]
      intro hdrives
      obtain ⟨p, hp, rfl⟩ := Table.drivesPolicy_eq_true.mp hdrives
      obtain ⟨d, hd, -⟩ := hpolicy p hp
      cases hunwanted.symm.trans hd
  obtain ⟨hdropped, hleft⟩ := allowed_dropColumns
    (hexisting.columns_nodup.filter fun name => (desired.column? name).isNone) hallowed
  rw [filterMap_columnDrop]
  refine ⟨hdropped, fun name => ?_⟩
  rw [hleft, hcolumns]
  cases hwanted : desired.column? name with
  | some d =>
      refine if_neg fun hname => ?_
      rw [List.mem_filter, hwanted] at hname
      cases hname.2
  | none =>
      split
      · rfl
      · -- what is not dropped has never been there
        rename_i hkept
        rw [List.mem_filter, hwanted] at hkept
        refine Table.column?_eq_none.mpr fun hthere => hkept ⟨hthere, rfl⟩

/-- The changes between two tables are allowed one after the other, and behind
    them what is wanted has come to stand. -/
theorem allowed_changesTo (hexisting : existing.Sound) (hdesired : desired.Sound)
    (hframe : existing.SameFrame desired)
    (hpolicy : ∀ p, existing.policy = some p → desired.HoldsTimes p.column) :
    AllAllowed existing false (existing.changesTo desired) ∧
      (effects existing (existing.changesTo desired)).policy = desired.policy ∧
      ∀ name, (effects existing (existing.changesTo desired)).column? name =
        (desired.column? name).map existing.settled := by
  obtain ⟨hwanted, hcolumns⟩ : AllAllowed existing false _ ∧ _ := allowed_wanted hdesired hpolicy
  obtain ⟨hkept, hgives⟩ := hwanted.keepPolicy fun c hc => by
    obtain ⟨d, -, hd⟩ := List.mem_filterMap.mp hc
    exact group_of_columnChange hd
  obtain ⟨hunwanted, hsettled⟩ : AllAllowed (effects existing _) false _ ∧ _ :=
    allowed_unwanted hexisting hdesired (hwanted.sameFrame.primaryKey_eq.trans hframe.primaryKey_eq)
      (by rw [hkept]; exact hpolicy) hcolumns
  obtain ⟨hkept', hgives'⟩ := hunwanted.keepPolicy fun c hc => by
    rw [filterMap_columnDrop] at hc
    obtain ⟨name, -, rfl⟩ := List.mem_map.mp hc
    rfl
  -- the column of the wanted policy has come to stand with its type
  obtain ⟨hgiven, hfinal⟩ := allowed_policyChange fun p hp => by
    obtain ⟨d, hd, htimes⟩ := hdesired.policy_holdsTimes p hp
    exact ⟨existing.settled d, by rw [hsettled, hd]; rfl, by rw [Table.settled_type]; exact htimes⟩
  rw [hkept', hkept] at hgiven hfinal
  simp only [Table.changesTo, allAllowed_append, effects_append, List.any_append, hgives, hgives',
    Bool.or_false, hfinal]
  exact ⟨⟨⟨hwanted, hunwanted⟩, hgiven⟩, trivial, hsettled⟩

/-- What holds of every change that a difference can have. -/
theorem forall_mem_changesTo {P : Change → Prop} (hadd : ∀ d ∈ desired.columns, P (.addColumn d))
    (halter : ∀ d ∈ desired.columns, P (.alterColumn d)) (hdrop : ∀ name, P (.dropColumn name))
    (hgive : ∀ p, P (.addPolicy p)) (hreplace : ∀ p, P (.replacePolicy p)) (hlose : P .dropPolicy) :
    ∀ c ∈ existing.changesTo desired, P c := by
  intro c hc
  rw [Table.changesTo, List.mem_append, List.mem_append] at hc
  rcases hc with (hwanted | hunwanted) | hpolicy
  · obtain ⟨d, hd, hc⟩ := List.mem_filterMap.mp hwanted
    rw [columnChange] at hc
    split at hc
    · cases hc
      exact hadd d hd
    · split at hc
      · cases hc
      · cases hc
        exact halter d hd
  · rw [filterMap_columnDrop] at hunwanted
    obtain ⟨name, -, rfl⟩ := List.mem_map.mp hunwanted
    exact hdrop name
  · rw [policyChange.eq_def] at hpolicy
    split at hpolicy
    · cases hpolicy
    · obtain rfl := List.mem_singleton.mp hpolicy
      exact hgive _
    · split at hpolicy
      · cases hpolicy
      · obtain rfl := List.mem_singleton.mp hpolicy
        exact hreplace _
    · obtain rfl := List.mem_singleton.mp hpolicy
      exact hlose

theorem altersTable_of_mem_changesTo :
    ∀ c ∈ existing.changesTo desired, c.altersTable = true :=
  forall_mem_changesTo (fun _ _ => rfl) (fun _ _ => rfl) (fun _ => rfl) (fun _ => rfl)
    (fun _ => rfl) rfl

/-- Where the wanted columns have DDL, each change has a statement. -/
theorem exists_statement_of_mem_changesTo {offset : Calendar.Offset} {blueprint : String}
    (hddl : ∀ d ∈ desired.columns, ∃ text, d.ddl offset = .ok text) :
    ∀ c ∈ existing.changesTo desired, ∃ text, c.statement offset blueprint = .ok text := by
  have hcolumn : ∀ d ∈ desired.columns, ∀ f : List Char → List Char, ∃ text,
      (do
        let column ← d.ddl offset
        return f column) = (.ok text : Except Mismatch (List Char)) := by
    intro d hd f
    obtain ⟨text, htext⟩ := hddl d hd
    exact ⟨f text, bind_eq_ok.mpr ⟨text, htext, rfl⟩⟩
  exact forall_mem_changesTo (fun d hd => hcolumn d hd _) (fun d hd => hcolumn d hd _)
    (fun _ => ⟨_, rfl⟩) (fun _ => ⟨_, rfl⟩) (fun _ => ⟨_, rfl⟩) ⟨_, rfl⟩

end Change

/-! ## Runs -/

theorem Synthesis.exists_steps {s : Synthesis} {blueprint : String} {cs : List Change}
    (htexts : ∀ c ∈ cs, ∃ text, c.statement s.offset blueprint = .ok text) :
    ∃ steps : List Step, steps.map Step.change = cs ∧
      ∀ step ∈ steps, step.change.statement s.offset blueprint = .ok step.statement := by
  induction cs with
  | nil => exact ⟨[], rfl, nofun⟩
  | cons c cs ih =>
      obtain ⟨⟨text, htext⟩, htexts⟩ := List.forall_mem_cons.mp htexts
      obtain ⟨steps, hsteps, hall⟩ := ih htexts
      refine ⟨⟨c, text⟩ :: steps, ?_, List.forall_mem_cons.mpr ⟨htext, hall⟩⟩
      rw [List.map_cons, hsteps]

/-- Changes that a known table allows and that have statements are run. -/
theorem Synthesis.exists_run_of_allAllowed {s : Synthesis} {blueprint : String} {tr : Tracker}
    {t : Table} {cs : List Change} (hcs : ∀ c ∈ cs, c.altersTable = true)
    (ht : tr.table = .present t) (hall : Change.AllAllowed t tr.givesPolicy cs)
    (htexts : ∀ c ∈ cs, ∃ text, c.statement s.offset blueprint = .ok text) :
    ∃ tr' steps, s.run blueprint tr cs = .ok (tr', steps) ∧
      tr'.table = .present (Change.effects t cs) := by
  obtain ⟨steps, hsteps, htexts⟩ := exists_steps htexts
  exact ⟨_, steps, (run_eq_ok hcs ht).mpr ⟨hall, hsteps, htexts, rfl⟩, rfl⟩

/-- **A difference leads to the wanted table.**  Between two sound tables of the
    same name, key and parent, where each wanted column has DDL and the column
    of the policy in force is still wanted with dates or times: the changes are
    accepted, and the table that they leave matches the wanted one.  Each of its
    columns is the wanted one itself, or has been there before and equals it.
    Nothing leads from there to the wanted table any more. -/
theorem Synthesis.diffTables_reaches {s : Synthesis} {existing desired : Table}
    (hexisting : existing.validate = .ok ()) (hdesired : desired.validate = .ok ())
    (hframe : existing.SameFrame desired)
    (hddl : ∀ d ∈ desired.columns, ∃ text, d.ddl s.offset = .ok text)
    (hpolicy : ∀ p, existing.policy = some p → desired.HoldsTimes p.column) :
    ∃ b statements tr steps final, diffTables (some existing) desired = .ok b ∧
      s.batch (some existing) b = .ok statements ∧
      s.run b.table (.start (some existing)) b.changes = .ok (tr, steps) ∧
      tr.table = .present final ∧ final.Matches desired ∧
      (∀ name, final.column? name = desired.column? name ∨
        final.column? name = existing.column? name) ∧
      diffTables (some final) desired = .ok ⟨desired.name, []⟩ := by
  have hsound := Table.validate_eq_ok.mp hexisting
  have hwanted := Table.validate_eq_ok.mp hdesired
  obtain ⟨hallowed, hgiven, hcolumns⟩ := Change.allowed_changesTo hsound hwanted hframe hpolicy
  -- the run
  have htracker : (Tracker.start (some existing)).table = .present existing := rfl
  obtain ⟨tr, steps, hrun, ht⟩ := exists_run_of_allAllowed (s := s)
    Change.altersTable_of_mem_changesTo htracker hallowed
    (Change.exists_statement_of_mem_changesTo hddl)
  -- the table behind it
  have hself : ∀ d ∈ desired.columns, (d == d) = true := by
    intro d hd
    obtain ⟨text, htext⟩ := hddl d hd
    exact Column.same_self_of_ddl htext
  have hmatches : (Change.effects existing (existing.changesTo desired)).Matches desired :=
    Table.matches_of_settled (hallowed.sameFrame.trans hframe)
      (hallowed.wellFormed hsound.wellFormed).columns_nodup hgiven hcolumns hself
  have hagain := Table.diffTables_eq hmatches.sameFrame
  rw [hmatches.changesTo_eq_nil hwanted.columns_nodup] at hagain
  refine ⟨_, _, tr, steps, _, Table.diffTables_eq hframe, batch_of_run hrun, hrun, ht, hmatches,
    ?_, hagain⟩
  intro name
  rw [hcolumns]
  exact Table.settled_column? name

/-- What the people are to become: a longer name with a default, a time of
    joining under the policy, and no day of birth. -/
def joinedPeople : Table :=
  { people with
    columns := [.ofKind "userId" .uuid,
      { Column.ofKind "joined" .timestamp with default := some .currentTimestamp },
      { Column.ofKind "name" .text with default := some (.value (.string "?")) },
      { Column.ofKind "deletedAt" .timestamp with nullable := true }]
    policy := some ⟨"joined", 365⟩ }

theorem diffTables_reaches_joinedPeople :
    people.validate = .ok () ∧ joinedPeople.validate = .ok () ∧ people.SameFrame joinedPeople ∧
      joinedPeople.HoldsTimes "deletedAt" ∧
      ∃ b statements tr steps final, diffTables (some people) joinedPeople = .ok b ∧
        Synthesis.batch ⟨[], .utc⟩ (some people) b = .ok statements ∧
        Synthesis.run ⟨[], .utc⟩ b.table (.start (some people)) b.changes = .ok (tr, steps) ∧
        tr.table = .present final ∧ final.Matches joinedPeople ∧
        diffTables (some final) joinedPeople = .ok ⟨"User", []⟩ := by
  have hframe : people.SameFrame joinedPeople := ⟨rfl, rfl, rfl⟩
  have htimes : joinedPeople.HoldsTimes "deletedAt" := ⟨_, rfl, rfl⟩
  have hpolicy : ∀ p, people.policy = some p → joinedPeople.HoldsTimes p.column := by
    rintro p ⟨⟩
    exact htimes
  have hddl : ∀ d ∈ joinedPeople.columns, ∃ text,
      d.ddl (Synthesis.mk [] .utc).offset = .ok text := by
    intro d hd
    simp only [joinedPeople, List.mem_cons, List.not_mem_nil, or_false] at hd
    rcases hd with rfl | rfl | rfl | rfl
    · exact ⟨_, rfl⟩
    · exact ⟨_, rfl⟩
    · exact ⟨_, rfl⟩
    · exact ⟨_, rfl⟩
  obtain ⟨b, statements, tr, steps, final, hdiff, hbatch, hrun, ht, hmatches, -, hagain⟩ :=
    Synthesis.diffTables_reaches rfl rfl hframe hddl hpolicy
  exact ⟨rfl, rfl, hframe, htimes, b, statements, tr, steps, final, hdiff, hbatch, hrun, ht,
    hmatches, hagain⟩

end SpannerDialect.Schema
