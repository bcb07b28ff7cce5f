import SpannerDialect.Proofs.Schema.IndexNames

/-! # Requests for index names

    What a request for a name comes to is told by what is taken (`Index.Due`): an
    index has its own name or is refused, and one without a name gets the first of
    its derived names that is free.  There is always one, since the numbers go on
    and only so many names are taken.  A run of requests goes on behind those that
    fail; what is taken is what has been given, and it is given once
    (`requestNames_distinct`). -/

namespace SpannerDialect.Schema

variable {taken : List String} {name : String} {i : Index}
  {outcome : Except InvalidDefinition String}

/-! ## What an index is due -/

namespace Index

/-- The name that takes a number where it is not free. -/
def candidateName (i : Index) : String :=
  if i.storing.isEmpty then i.defaultName else i.storingName

/-- What the request of an index comes to, when some names are taken. -/
inductive Due (i : Index) (taken : List String) : Except InvalidDefinition String → Prop
  /-- A name of its own that is free. -/
  | own {name : String} (hname : i.name = some name) (hfree : name ∉ taken) :
      Due i taken (.ok name)
  /-- A name of its own that is taken. -/
  | refused {name : String} (hname : i.name = some name) (htaken : name ∈ taken) :
      Due i taken (.error (.indexNameTwice name))
  /-- The derived name. -/
  | derived (hname : i.name = none) (hfree : i.defaultName ∉ taken) :
      Due i taken (.ok i.defaultName)
  /-- The derived name with the stored columns in it. -/
  | storing (hname : i.name = none) (hderived : i.defaultName ∈ taken) (hstoring : i.storing ≠ [])
      (hfree : i.storingName ∉ taken) : Due i taken (.ok i.storingName)
  /-- The candidate with the smallest number that is free. -/
  | numbered {n : Nat} (hname : i.name = none) (hderived : i.defaultName ∈ taken)
      (hcandidate : i.candidateName ∈ taken) (hn : 2 ≤ n)
      (hfree : Schema.numbered i.candidateName n ∉ taken)
      (hleast : ∀ m, 2 ≤ m → m < n → Schema.numbered i.candidateName m ∈ taken) :
      Due i taken (.ok (Schema.numbered i.candidateName n))

theorem candidateName_of_storing (h : i.storing ≠ []) : i.candidateName = i.storingName := by
  rw [candidateName, if_neg]
  intro hempty
  exact h (List.isEmpty_iff.mp hempty)

theorem candidateName_of_not_storing (h : i.storing = []) : i.candidateName = i.defaultName := by
  rw [candidateName, if_pos]
  exact List.isEmpty_iff.mpr h

end Index

/-! ## The name that is found -/

theorem firstFree_of_least {n k : Nat} (hk : n ≤ k) (hfree : numbered name k ∉ taken)
    (hleast : ∀ j, n ≤ j → j < k → numbered name j ∈ taken) :
    firstFree taken name n = numbered name k := by
  obtain ⟨k', hk', heq, hfree', hleast'⟩ := exists_firstFree taken name n
  have hle : k ≤ k' := by
    by_contra hlt
    exact hfree' (hleast k' hk' (by omega))
  have hge : k' ≤ k := by
    by_contra hlt
    exact hfree (hleast' k hk (by omega))
  rw [heq, Nat.le_antisymm hge hle]

theorem freeName_of_default (h : i.defaultName ∉ taken) : freeName taken i = i.defaultName :=
  if_pos h

theorem freeName_of_candidate (hdefault : i.defaultName ∈ taken) (h : i.candidateName ∉ taken) :
    freeName taken i = i.candidateName := by
  show (if i.defaultName ∉ taken then _ else if i.candidateName ∉ taken then _ else _) = _
  rw [if_neg (not_not_intro hdefault), if_pos h]
  rfl

theorem freeName_of_taken (hdefault : i.defaultName ∈ taken) (h : i.candidateName ∈ taken) :
    freeName taken i = firstFree taken i.candidateName 2 := by
  show (if i.defaultName ∉ taken then _ else if i.candidateName ∉ taken then _ else _) = _
  rw [if_neg (not_not_intro hdefault), if_neg (not_not_intro h)]
  rfl

theorem assignName_of_name_eq_none (h : i.name = none) :
    assignName taken i = .ok (freeName taken i) := by
  rw [assignName, h]

theorem assignName_of_mem (hname : i.name = some name) (h : name ∈ taken) :
    assignName taken i = .error (.indexNameTwice name) := by
  rw [assignName, hname]
  exact if_pos h

/-- An index gets what it is due. -/
theorem Index.due_assignName (taken : List String) (i : Index) :
    i.Due taken (assignName taken i) := by
  rcases hname : i.name with _ | name
  · rw [assignName_of_name_eq_none hname]
    by_cases hdefault : i.defaultName ∈ taken
    · by_cases hcandidate : i.candidateName ∈ taken
      · obtain ⟨n, hn, heq, hfree, hleast⟩ := exists_firstFree taken i.candidateName 2
        rw [freeName_of_taken hdefault hcandidate, heq]
        exact .numbered hname hdefault hcandidate hn hfree hleast
      · have hstoring : i.storing ≠ [] := by
          intro h
          rw [candidateName_of_not_storing h] at hcandidate
          exact hcandidate hdefault
        rw [freeName_of_candidate hdefault hcandidate, candidateName_of_storing hstoring]
        rw [candidateName_of_storing hstoring] at hcandidate
        exact .storing hname hdefault hstoring hcandidate
    · rw [freeName_of_default hdefault]
      exact .derived hname hdefault
  · by_cases htaken : name ∈ taken
    · rw [assignName_of_mem hname htaken]
      exact .refused hname htaken
    · rw [assignName_of_notMem hname htaken]
      exact .own hname htaken

/-- What an index is due is one thing. -/
theorem Index.Due.eq_assignName (h : i.Due taken outcome) : outcome = assignName taken i := by
  cases h with
  | own hname hfree => exact (assignName_of_notMem hname hfree).symm
  | refused hname htaken => exact (assignName_of_mem hname htaken).symm
  | derived hname hfree => rw [assignName_of_name_eq_none hname, freeName_of_default hfree]
  | storing hname hderived hstoring hfree =>
      rw [← candidateName_of_storing hstoring] at hfree ⊢
      rw [assignName_of_name_eq_none hname, freeName_of_candidate hderived hfree]
  | numbered hname hderived hcandidate hn hfree hleast =>
      rw [assignName_of_name_eq_none hname, freeName_of_taken hderived hcandidate,
        firstFree_of_least hn hfree hleast]

/-- An index is due the same name when more is taken, unless that is. -/
theorem Index.Due.mono {taken' : List String} (h : i.Due taken (.ok name))
    (hsub : taken ⊆ taken') (hfree : name ∉ taken') : i.Due taken' (.ok name) := by
  cases h with
  | own hname _ => exact .own hname hfree
  | derived hname _ => exact .derived hname hfree
  | storing hname hderived hstoring _ => exact .storing hname (hsub hderived) hstoring hfree
  | numbered hname hderived hcandidate hn _ hleast =>
      exact .numbered hname (hsub hderived) (hsub hcandidate) hn hfree
        fun m hm hlt => hsub (hleast m hm hlt)

theorem assignName_mono {taken' : List String} (h : assignName taken i = .ok name)
    (hsub : taken ⊆ taken') (hfree : name ∉ taken') : assignName taken' i = .ok name := by
  have hdue := i.due_assignName taken
  rw [h] at hdue
  exact (hdue.mono hsub hfree).eq_assignName.symm

/-! ## One request -/

theorem requestName_fst (taken : List String) (i : Index) :
    (requestName taken i).1 = assignName taken i := by
  rw [requestName]
  cases assignName taken i with
  | ok name => rfl
  | error e => rfl

/-- A request takes the name that it gives, and no other. -/
theorem mem_requestName_snd :
    name ∈ (requestName taken i).2 ↔ name ∈ taken ∨ (requestName taken i).1 = .ok name := by
  rw [requestName]
  cases assignName taken i with
  | ok given => simp [or_comm, eq_comm]
  | error e => simp

/-- A request that fails takes nothing. -/
theorem requestName_snd_of_error {e : InvalidDefinition}
    (h : (requestName taken i).1 = .error e) : (requestName taken i).2 = taken := by
  rw [requestName] at h ⊢
  cases hname : assignName taken i with
  | ok name =>
      rw [hname] at h
      cases h
  | error e => rfl

/-- The name that a request gives was not taken. -/
theorem requestName_notMem (h : (requestName taken i).1 = .ok name) : name ∉ taken := by
  rw [requestName_fst] at h
  exact assignName_notMem h

/-! ## Requests one after the other -/

theorem requestNames_cons (taken : List String) (i : Index) (is : List Index) :
    requestNames taken (i :: is)
      = ((requestName taken i).1 :: (requestNames (requestName taken i).2 is).1,
        (requestNames (requestName taken i).2 is).2) :=
  rfl

theorem requestNames_append (as bs : List Index) :
    requestNames taken (as ++ bs)
      = ((requestNames taken as).1 ++ (requestNames (requestNames taken as).2 bs).1,
        (requestNames (requestNames taken as).2 bs).2) := by
  induction as generalizing taken with
  | nil => rfl
  | cons a as ih =>
      rw [List.cons_append, requestNames_cons, requestNames_cons, ih]
      rfl

theorem length_requestNames (taken : List String) (is : List Index) :
    (requestNames taken is).1.length = is.length := by
  induction is generalizing taken with
  | nil => rfl
  | cons i is ih => rw [requestNames_cons, List.length_cons, List.length_cons, ih]

/-- What is taken behind a run is what was taken before it and what it has
    given. -/
theorem mem_requestNames_snd {is : List Index} :
    name ∈ (requestNames taken is).2 ↔
      name ∈ taken ∨ .ok name ∈ (requestNames taken is).1 := by
  induction is generalizing taken with
  | nil => simp [requestNames]
  | cons i is ih =>
      rw [requestNames_cons]
      rw [ih, mem_requestName_snd, List.mem_cons, or_assoc, eq_comm]

/-- None of the names that a run gives was taken before it. -/
theorem requestNames_notMem {is : List Index} (h : .ok name ∈ (requestNames taken is).1) :
    name ∉ taken := by
  induction is generalizing taken with
  | nil => cases h
  | cons i is ih =>
      rw [requestNames_cons] at h
      rcases List.mem_cons.mp h with hfirst | hrest
      · exact requestName_notMem hfirst.symm
      · intro htaken
        exact ih hrest (mem_requestName_snd.mpr (Or.inl htaken))

theorem mem_filterMap_toOption {outcomes : List (Except InvalidDefinition String)} :
    name ∈ outcomes.filterMap Except.toOption ↔ .ok name ∈ outcomes := by
  rw [List.mem_filterMap]
  constructor
  · rintro ⟨outcome, hmem, hname⟩
    cases outcome with
    | ok given =>
        obtain rfl := Option.some.inj hname
        exact hmem
    | error e => cases hname
  · intro h
    exact ⟨.ok name, h, rfl⟩

/-- A run gives no name twice. -/
theorem nodup_requestNames (taken : List String) (is : List Index) :
    ((requestNames taken is).1.filterMap Except.toOption).Nodup := by
  induction is generalizing taken with
  | nil => exact List.nodup_nil
  | cons i is ih =>
      rw [requestNames_cons]
      cases hfirst : (requestName taken i).1 with
      | error e => exact ih (requestName taken i).2
      | ok name =>
          refine List.nodup_cons.mpr ⟨?_, ih (requestName taken i).2⟩
          intro hagain
          refine requestNames_notMem (mem_filterMap_toOption.mp hagain) ?_
          exact mem_requestName_snd.mpr (Or.inr hfirst)

/-- A request comes to what it would come to alone, with what is taken behind those
    before it. -/
theorem getElem?_requestNames (before : List Index) (i : Index) (after : List Index) :
    (requestNames taken (before ++ i :: after)).1[before.length]?
      = some (assignName (requestNames taken before).2 i) := by
  rw [requestNames_append, requestNames_cons, requestName_fst]
  show ((requestNames taken before).1 ++ _ :: _)[before.length]? = _
  rw [← length_requestNames taken before, List.getElem?_append_right (Nat.le_refl _),
    Nat.sub_self]
  rfl

/-- **No index name is given twice in a run.**  Each request of a run from nothing
    comes to what its index is due and to nothing else, where just the names that
    the requests before it have given are taken.  Only an index with a name of its
    own can fail, and then what is taken stays as it is. -/
theorem requestNames_distinct (is : List Index) :
    (requestNames [] is).1.length = is.length ∧
      ((requestNames [] is).1.filterMap Except.toOption).Nodup ∧
      ∀ before i after, is = before ++ i :: after →
        (∀ name, name ∈ (requestNames [] before).2 ↔ .ok name ∈ (requestNames [] before).1) ∧
        ∃ outcome, (requestNames [] is).1[before.length]? = some outcome ∧
          (∀ other, i.Due (requestNames [] before).2 other ↔ other = outcome) ∧
          ∀ e, outcome = .error e → i.name ≠ none ∧
            (requestNames [] (before ++ [i])).2 = (requestNames [] before).2 := by
  refine ⟨length_requestNames [] is, nodup_requestNames [] is, ?_⟩
  rintro before i after rfl
  have hbehind : (requestNames [] (before ++ [i])).2
      = (requestName (requestNames [] before).2 i).2 := by
    rw [requestNames_append]
    rfl
  refine ⟨fun name => ?_, assignName (requestNames [] before).2 i,
    getElem?_requestNames before i after, fun other => ?_, ?_⟩
  · rw [mem_requestNames_snd]
    exact or_iff_right List.not_mem_nil
  · constructor
    · intro hdue
      exact hdue.eq_assignName
    · rintro rfl
      exact i.due_assignName _
  · intro e he
    constructor
    · intro hname
      rw [assignName_of_name_eq_none hname] at he
      cases he
    · rw [hbehind]
      exact requestName_snd_of_error ((requestName_fst _ i).trans he)

/-- A plain index and one that stores something, both declared twice, and two
    others that are given one name. -/
def repeatedNames : List Index :=
  [.ofColumns "User" ["name"], { Index.ofColumns "User" ["name"] with storing := ["born"] },
    { Index.ofColumns "User" ["born"] with name := some "by_born" },
    { Index.ofColumns "User" ["name"] with storing := ["born"] },
    { Index.ofColumns "User" ["name", "born"] with name := some "by_born" },
    .ofColumns "User" ["name"]]

/-- The name that is given again is refused, and the run goes on. -/
theorem requestNames_distinct_repeatedNames :
    (requestNames [] repeatedNames).1 =
        [.ok "user_name_index", .ok "user_name_storing_born_index", .ok "by_born",
          .ok "user_name_storing_born_index_2", .error (.indexNameTwice "by_born"),
          .ok "user_name_index_2"] ∧
      ((requestNames [] repeatedNames).1.filterMap Except.toOption).Nodup ∧
      ∃ before i after, repeatedNames = before ++ i :: after ∧ before.length = 4 ∧
        (∀ other, i.Due (requestNames [] before).2 other ↔
          other = .error (.indexNameTwice "by_born")) ∧
        (requestNames [] (before ++ [i])).2 = (requestNames [] before).2 := by
  have hrun : (requestNames [] repeatedNames).1 =
      [.ok "user_name_index", .ok "user_name_storing_born_index", .ok "by_born",
        .ok "user_name_storing_born_index_2", .error (.indexNameTwice "by_born"),
        .ok "user_name_index_2"] := by decide +kernel
  obtain ⟨-, hnodup, hrequests⟩ := requestNames_distinct repeatedNames
  obtain ⟨-, outcome, houtcome, hdue, herror⟩ := hrequests (repeatedNames.take 4) _ _ rfl
  rw [hrun] at houtcome
  obtain rfl := Option.some.inj houtcome
  exact ⟨hrun, hnodup, repeatedNames.take 4, _, _, rfl, rfl, hdue, (herror _ rfl).2⟩

end SpannerDialect.Schema
