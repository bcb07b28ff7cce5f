import SpannerDialect.Proofs.Schema.Differences

/-! # Policies that retire

    The changes between two tables begin with the columns and end with the
    policy.  A difference that takes its dates or times from the column of the
    policy in force does so while that policy still stands, and is refused at
    that change (`Synthesis.diffTables_accepted_iff`).  The order alone is at
    fault: with the policy dropped first, the same columns are changed. -/

namespace SpannerDialect.Schema

/-! ## Changes that are refused -/

namespace Table

variable {t : Table} {name : String} {c : Column}

theorem drivesPolicy_iff {p : DeletionPolicy} (hp : t.policy = some p) :
    t.drivesPolicy name = true ↔ name = p.column := by
  rw [drivesPolicy_eq_true, hp]
  simp [eq_comm]

theorem alterColumn_eq_error (blueprint : String) (hthere : t.column? c.name ≠ none)
    (hdrives : t.drivesPolicy c.name = true) (htimes : c.type.isTemporal = false) :
    t.alterColumn blueprint c = .error (.conflict (.policyColumnType c.name t.name)) := by
  have hsome : ¬ (t.column? c.name).isNone = true := by simpa using hthere
  rw [alterColumn, if_neg hsome, if_pos]
  exact ⟨hdrives, by simp [htimes]⟩

theorem dropColumn_eq_error (blueprint : String) (hkey : name ∉ t.primaryKey)
    (hdrives : t.drivesPolicy name = true) :
    t.dropColumn blueprint name = .error (.conflict (.policyColumnDropped name t.name)) := by
  rw [dropColumn, if_neg hkey, if_pos hdrives]

end Table

section

variable {s : Synthesis} {known : List Table} {blueprint : String} {tr tr' : Tracker}
  {t : Table} {c : Change} {before after : List Change} {steps : List Step} {e : Error}

theorem TableState.update_eq_error {α : Type} {f : Table → Except Error Table}
    {g : TableState → Except Error α} (h : f t = .error e) :
    (TableState.present t).update f >>= g = .error e := by
  rw [update, h]
  rfl

/-- A column that a known table refuses to alter, a tracker refuses to alter. -/
theorem Tracker.apply_alterColumn_eq_error {c : Column} (ht : tr.table = .present t)
    (h : t.alterColumn blueprint c = .error e) :
    tr.apply known blueprint (.alterColumn c) = .error e := by
  obtain ⟨table, names, gives⟩ := tr
  obtain rfl : table = .present t := ht
  exact TableState.update_eq_error h

/-- A column that a known table refuses to drop, a tracker refuses to drop. -/
theorem Tracker.apply_dropColumn_eq_error {name : String} (ht : tr.table = .present t)
    (h : t.dropColumn blueprint name = .error e) :
    tr.apply known blueprint (.dropColumn name) = .error e := by
  obtain ⟨table, names, gives⟩ := tr
  obtain rfl : table = .present t := ht
  exact TableState.update_eq_error h

/-- A run that comes to a change that is refused ends there, whatever would
    follow. -/
theorem Synthesis.run_eq_error (hbefore : s.run blueprint tr before = .ok (tr', steps))
    (hc : tr'.apply s.known blueprint c = .error e) :
    s.run blueprint tr (before ++ c :: after) = .error e := by
  induction before generalizing tr steps with
  | nil =>
      cases hbefore
      show (s.step blueprint tr' c >>= _) = _
      rw [step, hc]
      rfl
  | cons b before ih =>
      obtain ⟨tr₁, first, rest, hstep, hrest, rfl⟩ := exists_of_run_cons hbefore
      show (s.step blueprint tr b >>= _) = _
      rw [hstep]
      show (s.run blueprint tr₁ (before ++ c :: after) >>= _) = _
      rw [ih hrest]
      rfl

end

/-! ## Differences that are refused -/

/-- What a table says to a difference that takes its dates or times from the
    column of its policy. -/
def Table.retirement (existing desired : Table) (column : String) : Conflict :=
  match desired.column? column with
  | none => .policyColumnDropped column existing.name
  | some _ => .policyColumnType column existing.name

namespace Change

variable {u existing desired : Table} {gives : Bool} {p : DeletionPolicy}

/-- While wanted columns come to stand, the policy stays as it is. -/
theorem allowed_columnChanges_keepPolicy {ds : List Column} (hnodup : (ds.map Column.name).Nodup)
    (htimes : ∀ d ∈ ds, existing.drivesPolicy d.name = true → d.type.isTemporal = true) :
    AllAllowed existing gives (ds.filterMap (columnChange existing)) ∧
      (∀ name, (effects existing (ds.filterMap (columnChange existing))).column? name =
        ((ds.find? fun d => d.name == name).map existing.settled).or (existing.column? name)) ∧
      (effects existing (ds.filterMap (columnChange existing))).policy = existing.policy ∧
      (ds.filterMap (columnChange existing)).any givesPolicy = false := by
  obtain ⟨hallowed, hcolumns⟩ : AllAllowed existing gives _ ∧ _ :=
    allowed_columnChanges hnodup (fun _ _ => rfl) htimes
  refine ⟨hallowed, hcolumns, hallowed.keepPolicy ?_⟩
  intro c hc
  obtain ⟨d, -, hd⟩ := List.mem_filterMap.mp hc
  exact group_of_columnChange hd

/-- The wanted columns come to stand up to one that loses the times of the
    policy.  There the table still has its policy. -/
theorem allowed_before_retyped (hexisting : existing.Sound) (hdesired : desired.Sound)
    (hp : existing.policy = some p) {d : Column} (hd : desired.column? p.column = some d)
    (htimes : d.type.isTemporal = false) :
    ∃ before after, existing.changesTo desired = before ++ .alterColumn d :: after ∧
      AllAllowed existing gives before ∧ (effects existing before).column? d.name ≠ none ∧
      (effects existing before).drivesPolicy d.name = true := by
  have hname : d.name = p.column := Table.name_of_column? hd
  obtain ⟨current, hcurrent, hcurrentTimes⟩ := hexisting.policy_holdsTimes p hp
  -- the columns that are wanted before it have other names, so the policy leaves them alone
  obtain ⟨-, ds, ds', hsplit, hne⟩ := List.find?_eq_some_iff_append.mp hd
  have hnodup : (ds.map Column.name).Nodup := by
    have hall := hdesired.columns_nodup
    rw [hsplit, List.map_append] at hall
    exact (List.nodup_append.mp hall).1
  have hfree : ∀ a ∈ ds, existing.drivesPolicy a.name = true → a.type.isTemporal = true := by
    intro a ha hdrives
    have := hne a ha
    simp [(Table.drivesPolicy_iff hp).mp hdrives] at this
  obtain ⟨hbefore, hcolumns, hkept, -⟩ : AllAllowed existing gives _ ∧ _ :=
    allowed_columnChanges_keepPolicy hnodup hfree
  -- its type has changed, so it is altered
  have hchange : columnChange existing d = some (.alterColumn d) := by
    have hdiff : (current == d) = false := by
      rw [← Bool.not_eq_true]
      intro hsame
      rw [(Column.eq_of_same hsame).2, htimes] at hcurrentTimes
      cases hcurrentTimes
    rw [columnChange, hname, hcurrent]
    simp [hdiff]
  refine ⟨ds.filterMap (columnChange existing), ds'.filterMap (columnChange existing) ++
    existing.columns.filterMap (columnDrop desired) ++
      policyChange existing.policy desired.policy, ?_, hbefore, ?_, ?_⟩
  · rw [Table.changesTo, hsplit, List.filterMap_append, List.filterMap_cons, hchange]
    simp
  · rw [hcolumns, hname, hcurrent]
    simp
  · exact (Table.drivesPolicy_iff (hkept.trans hp)).mpr hname

/-- The names of the columns that are there and not wanted. -/
def unwantedNames (existing desired : Table) : List String :=
  (existing.columns.map Column.name).filter fun name => (desired.column? name).isNone

/-- Of the unwanted columns, those before that of the policy can go, and the
    policy stays. -/
theorem allowed_drops_before (hexisting : existing.Sound) (hdesired : desired.Sound)
    (hkey : u.primaryKey = desired.primaryKey) (hp : u.policy = some p)
    (hthere : ∀ name ∈ unwantedNames existing desired, u.column? name ≠ none)
    (hmem : p.column ∈ unwantedNames existing desired) :
    ∃ names names', unwantedNames existing desired = names ++ p.column :: names' ∧
      AllAllowed u gives (names.map dropColumn) ∧
      (effects u (names.map dropColumn)).policy = u.policy := by
  obtain ⟨names, names', hsplit⟩ := List.append_of_mem hmem
  have hnodup : (unwantedNames existing desired).Nodup := hexisting.columns_nodup.filter _
  rw [hsplit] at hnodup
  obtain ⟨hnodup, -, hdisjoint⟩ := List.nodup_append.mp hnodup
  have hallowed : ∀ name ∈ names, (dropColumn name).Allowed u gives := by
    intro name hname
    have hin : name ∈ unwantedNames existing desired := by
      rw [hsplit]
      exact List.mem_append_left _ hname
    have hunwanted := (List.mem_filter.mp hin).2
    rw [Option.isNone_iff_eq_none] at hunwanted
    refine allowed_unwantedColumn hdesired hkey (hthere name hin) hunwanted ?_
    rw [← Bool.not_eq_true]
    intro hdrives
    exact hdisjoint name hname p.column (List.mem_cons_self ..)
      ((Table.drivesPolicy_iff hp).mp hdrives)
  obtain ⟨hdropped, -⟩ := allowed_dropColumns hnodup hallowed
  refine ⟨names, names', hsplit, hdropped, (hdropped.keepPolicy ?_).1⟩
  intro c hc
  obtain ⟨name, -, rfl⟩ := List.mem_map.mp hc
  rfl

/-- The unwanted columns go up to that of the policy.  There the table still
    has its policy. -/
theorem allowed_before_dropped (hexisting : existing.Sound) (hdesired : desired.Sound)
    (hframe : existing.SameFrame desired) (hp : existing.policy = some p)
    (hnone : desired.column? p.column = none) :
    ∃ before after, existing.changesTo desired = before ++ .dropColumn p.column :: after ∧
      AllAllowed existing gives before ∧ p.column ∉ (effects existing before).primaryKey ∧
      (effects existing before).drivesPolicy p.column = true := by
  -- no wanted column is that of the policy
  have hfree : ∀ d ∈ desired.columns, existing.drivesPolicy d.name = true →
      d.type.isTemporal = true := by
    intro d hd hdrives
    have hthere := Table.column?_of_mem hdesired.columns_nodup hd
    rw [(Table.drivesPolicy_iff hp).mp hdrives, hnone] at hthere
    cases hthere
  obtain ⟨hwanted, hcolumns, hkept, hgives⟩ : AllAllowed existing gives _ ∧ _ :=
    allowed_columnChanges_keepPolicy hdesired.columns_nodup hfree
  have hkey := hwanted.sameFrame.primaryKey_eq.trans hframe.primaryKey_eq
  -- what nobody wants is still there behind the wanted columns
  have hthere : ∀ name ∈ unwantedNames existing desired,
      (effects existing (desired.columns.filterMap (columnChange existing))).column? name
        ≠ none := by
    intro name hname
    obtain ⟨hname, hunwanted⟩ := List.mem_filter.mp hname
    rw [Option.isNone_iff_eq_none] at hunwanted
    rw [hcolumns, ← Table.column?, hunwanted]
    exact Table.column?_ne_none.mpr hname
  have hmem : p.column ∈ unwantedNames existing desired := by
    obtain ⟨current, hcurrent, -⟩ := hexisting.policy_holdsTimes p hp
    rw [unwantedNames, List.mem_filter, hnone, ← Table.column?_ne_none, hcurrent]
    exact ⟨Option.some_ne_none current, rfl⟩
  obtain ⟨names, names', hsplit, hdropped, hkept'⟩ :=
    allowed_drops_before hexisting hdesired hkey (hkept.trans hp) hthere hmem
  refine ⟨desired.columns.filterMap (columnChange existing) ++ names.map dropColumn,
    names'.map dropColumn ++ policyChange existing.policy desired.policy, ?_, ?_, ?_, ?_⟩
  · rw [Table.changesTo, filterMap_columnDrop, ← unwantedNames, hsplit]
    simp
  · rw [allAllowed_append, hgives]
    exact ⟨hwanted, hdropped⟩
  · rw [effects_append, hdropped.sameFrame.primaryKey_eq, hkey]
    intro hin
    exact Table.column?_ne_none.mpr (hdesired.wellFormed.key_present _ hin) hnone
  · rw [effects_append]
    exact (Table.drivesPolicy_iff (hkept'.trans (hkept.trans hp))).mpr rfl

end Change

section

variable {s : Synthesis} {existing desired : Table} {p : DeletionPolicy} {blueprint : String}

/-- A difference that takes its dates or times from the column of the policy is
    refused at that column. -/
theorem Synthesis.run_changesTo_eq_error (hexisting : existing.Sound) (hdesired : desired.Sound)
    (hframe : existing.SameFrame desired)
    (hddl : ∀ d ∈ desired.columns, ∃ text, d.ddl s.offset = .ok text)
    (hp : existing.policy = some p) (hlost : ¬ desired.HoldsTimes p.column) :
    s.run blueprint (.start (some existing)) (existing.changesTo desired)
      = .error (.conflict (existing.retirement desired p.column)) := by
  -- the changes before the refused one are run
  have hrun : ∀ before c after, existing.changesTo desired = before ++ c :: after →
      Change.AllAllowed existing false before → ∃ tr steps,
        s.run blueprint (.start (some existing)) before = .ok (tr, steps) ∧
          tr.table = .present (Change.effects existing before) := by
    intro before c after hsplit hallowed
    have hmem : ∀ b ∈ before, b ∈ existing.changesTo desired := by
      intro b hb
      rw [hsplit]
      exact List.mem_append_left _ hb
    exact exists_run_of_allAllowed
      (fun b hb => Change.altersTable_of_mem_changesTo b (hmem b hb)) rfl hallowed
      (fun b hb => Change.exists_statement_of_mem_changesTo hddl b (hmem b hb))
  rw [Table.retirement]
  cases hd : desired.column? p.column with
  | none =>
      obtain ⟨before, after, hsplit, hallowed, hkey, hdrives⟩ :=
        Change.allowed_before_dropped hexisting hdesired hframe hp hd
      obtain ⟨tr, steps, hbefore, ht⟩ := hrun before _ after hsplit hallowed
      have hrefused := Table.dropColumn_eq_error blueprint hkey hdrives
      rw [hallowed.sameFrame.name_eq] at hrefused
      rw [hsplit]
      exact run_eq_error hbefore (Tracker.apply_dropColumn_eq_error ht hrefused)
  | some d =>
      have htimes : d.type.isTemporal = false := by
        rw [← Bool.not_eq_true]
        intro h
        exact hlost ⟨d, hd, h⟩
      obtain ⟨before, after, hsplit, hallowed, hthere, hdrives⟩ :=
        Change.allowed_before_retyped hexisting hdesired hp hd htimes
      obtain ⟨tr, steps, hbefore, ht⟩ := hrun before _ after hsplit hallowed
      have hrefused := Table.alterColumn_eq_error blueprint hthere hdrives htimes
      rw [hallowed.sameFrame.name_eq, Table.name_of_column? hd] at hrefused
      rw [hsplit]
      exact run_eq_error hbefore (Tracker.apply_alterColumn_eq_error ht hrefused)

/-- Changes that a table allows, and that have DDL, are accepted for it. -/
theorem Synthesis.exists_batch_of_allAllowed {cs : List Change}
    (hcs : ∀ c ∈ cs, c.altersTable = true) (hall : Change.AllAllowed existing false cs)
    (htexts : ∀ c ∈ cs, ∃ text, c.statement s.offset blueprint = .ok text) :
    ∃ statements, s.batch (some existing) ⟨blueprint, cs⟩ = .ok statements := by
  have ht : (Tracker.start (some existing)).table = .present existing := rfl
  obtain ⟨tr, steps, hrun, -⟩ := exists_run_of_allAllowed hcs ht hall htexts
  exact ⟨_, batch_of_run hrun⟩

/-- A table whose policy is dropped first can become any other one of its
    frame. -/
theorem Synthesis.exists_batch_dropPolicy_first (hexisting : existing.Sound)
    (hdesired : desired.Sound) (hframe : existing.SameFrame desired)
    (hddl : ∀ d ∈ desired.columns, ∃ text, d.ddl s.offset = .ok text)
    (hp : existing.policy ≠ none) :
    ∃ statements, s.batch (some existing) ⟨desired.name,
      .dropPolicy :: (Change.dropPolicy.effect existing).changesTo desired⟩ = .ok statements := by
  have hsound : (Change.dropPolicy.effect existing).Sound :=
    ⟨hexisting.named, hexisting.columns_named, hexisting.columns_nodup, hexisting.key_nodup,
      hexisting.key_notNull, nofun⟩
  have hframe' : (Change.dropPolicy.effect existing).SameFrame desired :=
    (Change.sameFrame_effect rfl).trans hframe
  obtain ⟨hallowed, -⟩ := Change.allowed_changesTo hsound hdesired hframe' nofun
  have hall : Change.AllAllowed existing false
      (.dropPolicy :: (Change.dropPolicy.effect existing).changesTo desired) :=
    ⟨⟨rfl, hp⟩, hallowed⟩
  exact exists_batch_of_allAllowed
    (List.forall_mem_cons.mpr ⟨rfl, Change.altersTable_of_mem_changesTo⟩) hall
    (List.forall_mem_cons.mpr ⟨⟨_, rfl⟩, Change.exists_statement_of_mem_changesTo hddl⟩)

end

/-- **Which differences are accepted.**  Between two sound tables of the same
    name, key and parent, where each wanted column has DDL, the changes are
    accepted just when the column of the policy in force is still wanted with
    dates or times.  Otherwise that column is refused, because its policy still
    stands; with the policy dropped first, all changes would be accepted. -/
theorem Synthesis.diffTables_accepted_iff {s : Synthesis} {existing desired : Table}
    (hexisting : existing.validate = .ok ()) (hdesired : desired.validate = .ok ())
    (hframe : existing.SameFrame desired)
    (hddl : ∀ d ∈ desired.columns, ∃ text, d.ddl s.offset = .ok text) :
    ∃ b, diffTables (some existing) desired = .ok b ∧
      ((∃ statements, s.batch (some existing) b = .ok statements) ↔
        ∀ p, existing.policy = some p → desired.HoldsTimes p.column) ∧
      (∀ p, existing.policy = some p → ¬ desired.HoldsTimes p.column →
        s.batch (some existing) b = .error (.conflict (existing.retirement desired p.column))) ∧
      (existing.policy ≠ none → ∃ statements, s.batch (some existing) ⟨desired.name,
        .dropPolicy :: (Change.dropPolicy.effect existing).changesTo desired⟩
          = .ok statements) := by
  have hsound := Table.validate_eq_ok.mp hexisting
  have hwanted := Table.validate_eq_ok.mp hdesired
  have hrefused : ∀ p, existing.policy = some p → ¬ desired.HoldsTimes p.column →
      s.batch (some existing) ⟨desired.name, existing.changesTo desired⟩
        = .error (.conflict (existing.retirement desired p.column)) := by
    intro p hp hlost
    rw [batch, run_changesTo_eq_error hsound hwanted hframe hddl hp hlost]
    rfl
  refine ⟨_, Table.diffTables_eq hframe, ⟨?_, ?_⟩, hrefused,
    exists_batch_dropPolicy_first hsound hwanted hframe hddl⟩
  · rintro ⟨statements, hbatch⟩ p hp
    by_contra hlost
    rw [hrefused p hp hlost] at hbatch
    cases hbatch
  · intro hpolicy
    obtain ⟨hallowed, -⟩ := Change.allowed_changesTo hsound hwanted hframe hpolicy
    exact exists_batch_of_allAllowed Change.altersTable_of_mem_changesTo hallowed
      (Change.exists_statement_of_mem_changesTo hddl)

/-- People who never leave: the time of leaving goes, and the policy with it. -/
def stayingPeople : Table :=
  { people with
    columns := [.ofKind "userId" .uuid, .ofKind "name" .string,
      { Column.ofKind "born" .date with nullable := true }]
    policy := none }

theorem stayingPeople_refused :
    people.validate = .ok () ∧ stayingPeople.validate = .ok () ∧
      people.SameFrame stayingPeople ∧ stayingPeople.column? "deletedAt" = none ∧
      diffTables (some people) stayingPeople
        = .ok ⟨"User", [.dropColumn "deletedAt", .dropPolicy]⟩ ∧
      Synthesis.batch ⟨[], .utc⟩ (some people) ⟨"User", [.dropColumn "deletedAt", .dropPolicy]⟩
        = .error (.conflict (.policyColumnDropped "deletedAt" "User")) :=
  ⟨rfl, rfl, ⟨rfl, rfl, rfl⟩, rfl, rfl, rfl⟩

/-- People whose leaving is told in words, and who are forgotten by their age. -/
def agedPeople : Table :=
  { people with
    columns := [.ofKind "userId" .uuid, .ofKind "name" .text,
      { Column.ofKind "deletedAt" .text with default := some (.value (.string "no")) },
      { Column.ofKind "born" .date with nullable := true }]
    policy := some ⟨"born", 36500⟩ }

theorem diffTables_accepted_iff_agedPeople :
    people.validate = .ok () ∧ agedPeople.validate = .ok () ∧ people.SameFrame agedPeople ∧
      people.policy = some ⟨"deletedAt", 10⟩ ∧ ¬ agedPeople.HoldsTimes "deletedAt" ∧
      ∃ b, diffTables (some people) agedPeople = .ok b ∧
        Synthesis.batch ⟨[], .utc⟩ (some people) b
          = .error (.conflict (.policyColumnType "deletedAt" "User")) := by
  have hframe : people.SameFrame agedPeople := ⟨rfl, rfl, rfl⟩
  have hlost : ¬ agedPeople.HoldsTimes "deletedAt" := by
    rintro ⟨c, hc, htimes⟩
    obtain rfl := Option.some.inj hc
    cases htimes
  have hddl : ∀ d ∈ agedPeople.columns, ∃ text,
      d.ddl (Synthesis.mk [] .utc).offset = .ok text := by
    intro d hd
    simp only [agedPeople, List.mem_cons, List.not_mem_nil, or_false] at hd
    rcases hd with rfl | rfl | rfl | rfl
    · exact ⟨_, rfl⟩
    · exact ⟨_, rfl⟩
    · exact ⟨_, rfl⟩
    · exact ⟨_, rfl⟩
  obtain ⟨b, hdiff, -, hrefused, -⟩ := Synthesis.diffTables_accepted_iff rfl rfl hframe hddl
  exact ⟨rfl, rfl, hframe, rfl, hlost, b, hdiff, hrefused _ rfl hlost⟩

end SpannerDialect.Schema
