import SpannerDialect.Proofs.Schema.ClosedStatements
import SpannerDialect.Proofs.Text.Separation

/-! # Definitions told apart by their statements

    The statement that creates a table or an index tells what is created.  From the left
    on, each part is told apart from what follows it: names by their quotes, types by
    their words, lists by the commas and brackets behind their items, and the SQL of a
    default by the bracket behind it.  Only the column of a policy stands without quotes,
    and is told from the right.  So equal statements create the same, up to how a default
    is given (`creation_determines`). -/

namespace SpannerDialect

open Text

variable {rest rest' : List Char}

/-! ## Types -/

theorem Length.ddl_append_inj {n m : Length}
    (h : n.ddl ++ ')' :: rest = m.ddl ++ ')' :: rest') : n = m ∧ rest = rest' := by
  have hread : ∀ (k : Nat) (r : List Char), leadingDigits (digits k ++ ')' :: r) = digits k :=
    fun k r => leadingDigits_append (all_digits k) (stopsDigits_cons rfl r)
  -- the word for no bound holds no digits
  have hmax : ∀ (k : Nat) (r r' : List Char), ['m', 'a', 'x'] ++ r' ≠ digits k ++ ')' :: r := by
    intro k r r' heq
    have hdigits := congrArg leadingDigits heq
    rw [hread] at hdigits
    exact digits_ne_nil k hdigits.symm
  cases n with
  | max =>
      cases m with
      | max => exact ⟨rfl, by simpa using h⟩
      | bounded m _ => exact absurd h (hmax m _ _)
  | bounded n _ =>
      cases m with
      | max => exact absurd h.symm (hmax n _ _)
      | bounded m _ =>
          have hdigits := congrArg leadingDigits h
          rw [Length.ddl, Length.ddl, hread, hread] at hdigits
          obtain rfl : n = m := by rw [← number_digits n, ← number_digits m, hdigits]
          exact ⟨rfl, (List.cons.inj (List.append_cancel_left h)).2⟩

namespace ScalarType

variable {t u : ScalarType}

/-- The types without a bound on their length. -/
def unboundedTypes : List ScalarType :=
  [bool, int64, float64, numeric, string .max, bytes .max, date, timestamp, json]

theorem unbounded_mem (t : ScalarType) : t.unbounded ∈ unboundedTypes := by
  cases t <;> simp [unbounded, unboundedTypes]

/-- The first letters of a type do not depend on a bound. -/
theorem take_ddl_append (t : ScalarType) (rest : List Char) :
    (t.ddl ++ rest).take 4 = t.unbounded.ddl.take 4 := by
  cases t <;> rfl

/-- The first letters of a type tell it up to a bound. -/
theorem unbounded_eq_of_ddl_append (h : t.ddl ++ rest = u.ddl ++ rest') :
    t.unbounded = u.unbounded := by
  have hinj : ∀ t ∈ unboundedTypes, ∀ u ∈ unboundedTypes,
      t.ddl.take 4 = u.ddl.take 4 → t = u := by decide
  refine hinj _ t.unbounded_mem _ u.unbounded_mem ?_
  rw [← take_ddl_append t rest, ← take_ddl_append u rest', h]

/-- No type of single values starts as an array does. -/
theorem ddl_append_ne_array (t : ScalarType) (rest rest' : List Char) :
    t.ddl ++ rest ≠ "array<".toList ++ rest' := by
  have hletters : ∀ t ∈ unboundedTypes, t.ddl.take 4 ≠ "arra".toList := by decide
  intro h
  refine hletters _ t.unbounded_mem ?_
  rw [← take_ddl_append t rest, h]
  rfl

/-- Types that are the same without a bound differ in their bounds alone. -/
theorem cases_of_unbounded_eq (h : t.unbounded = u.unbounded) :
    t = u ∨ (∃ n m, t = string n ∧ u = string m) ∨ ∃ n m, t = bytes n ∧ u = bytes m := by
  cases t <;> cases u <;> simp_all [unbounded]

theorem ddl_append_inj (h : t.ddl ++ rest = u.ddl ++ rest') : t = u ∧ rest = rest' := by
  have hlength : ∀ (word : List Char) (n m : Length),
      word ++ n.ddl ++ [')'] ++ rest = word ++ m.ddl ++ [')'] ++ rest' → n = m ∧ rest = rest' := by
    intro word n m heq
    simp only [List.append_assoc, List.singleton_append] at heq
    exact Length.ddl_append_inj (List.append_cancel_left heq)
  rcases cases_of_unbounded_eq (unbounded_eq_of_ddl_append h) with
    rfl | ⟨n, m, rfl, rfl⟩ | ⟨n, m, rfl, rfl⟩
  · exact ⟨rfl, List.append_cancel_left h⟩
  · obtain ⟨rfl, hrests⟩ := hlength _ n m h
    exact ⟨rfl, hrests⟩
  · obtain ⟨rfl, hrests⟩ := hlength _ n m h
    exact ⟨rfl, hrests⟩

end ScalarType

/-- A type is told apart from whatever follows it. -/
theorem ColumnType.ddl_append_inj {t u : ColumnType} (h : t.ddl ++ rest = u.ddl ++ rest') :
    t = u ∧ rest = rest' := by
  have harray : ∀ (t : ScalarType) (r : List Char),
      (ColumnType.array t).ddl ++ r = "array<".toList ++ (t.ddl ++ '>' :: r) := by
    intro t r
    show "array<".toList ++ t.ddl ++ ['>'] ++ r = _
    simp only [List.append_assoc, List.singleton_append]
  cases t with
  | scalar t =>
      cases u with
      | scalar u =>
          obtain ⟨rfl, hrests⟩ := ScalarType.ddl_append_inj h
          exact ⟨rfl, hrests⟩
      | array u =>
          rw [harray] at h
          exact absurd h (t.ddl_append_ne_array _ _)
  | array t =>
      cases u with
      | scalar u =>
          rw [harray] at h
          exact absurd h.symm (u.ddl_append_ne_array _ _)
      | array u =>
          rw [harray, harray] at h
          obtain ⟨rfl, hrests⟩ := ScalarType.ddl_append_inj (List.append_cancel_left h)
          exact ⟨rfl, (List.cons.inj hrests).2⟩

/-! ## Columns -/

namespace Schema

variable {offset offset' : Calendar.Offset}

/-- Columns that are written alike: they agree on all but how the default is given. -/
structure Column.Alike (offset offset' : Calendar.Offset) (c d : Column) : Prop where
  name_eq : c.name = d.name
  type_eq : c.type = d.type
  nullable_eq : c.nullable = d.nullable
  default_eq : Column.defaultClause offset c.type c.default
    = Column.defaultClause offset' d.type d.default

/-- The clause of a default is told apart from the comma or the bracket behind it. -/
theorem Column.IsDefaultClause.append_inj {clause clause' : List Char}
    (hclause : IsDefaultClause clause) (hclause' : IsDefaultClause clause')
    (hrest : EndsItem rest) (hrest' : EndsItem rest') (h : clause ++ rest = clause' ++ rest') :
    clause = clause' ∧ rest = rest' := by
  have hne : ∀ (r sql r' : List Char), EndsItem r →
      r ≠ " default (".toList ++ sql ++ [')'] ++ r' := by
    rintro r sql r' hr rfl
    simp [EndsItem] at hr
  rcases hclause with rfl | ⟨sql, hsql, rfl⟩
  · rcases hclause' with rfl | ⟨sql', -, rfl⟩
    · exact ⟨rfl, h⟩
    · exact absurd h (hne _ _ _ hrest)
  · rcases hclause' with rfl | ⟨sql', hsql', rfl⟩
    · exact absurd h.symm (hne _ _ _ hrest')
    · simp only [List.append_assoc, List.singleton_append] at h
      obtain ⟨rfl, hrests⟩ := hsql.append_inj hsql' (List.append_cancel_left h)
      exact ⟨rfl, hrests⟩

/-- Neither a clause of a default nor what follows a column starts as a column goes on
    that does not allow NULL. -/
theorem Column.IsDefaultClause.not_null {clause : List Char} (hclause : IsDefaultClause clause)
    (hrest : EndsItem rest) : ¬ " not null".toList <+: clause ++ rest := by
  rintro ⟨u, hu⟩
  rcases hclause with rfl | ⟨sql, -, rfl⟩
  · obtain rfl : " not null".toList ++ u = rest := hu
    simp [EndsItem] at hrest
  · simp at hu

/-- A column is told apart from the comma or the bracket behind it. -/
theorem Column.ddl_append_inj {c d : Column} {text text' : List Char} (hc : c.Admissible)
    (hd : d.Admissible) (htext : c.ddl offset = .ok text) (htext' : d.ddl offset' = .ok text')
    (hrest : EndsItem rest) (hrest' : EndsItem rest') (h : text ++ rest = text' ++ rest') :
    c.Alike offset offset' d ∧ text = text' ∧ rest = rest' := by
  obtain ⟨clause, hclause, htext⟩ := exists_of_bind_eq_ok htext
  obtain ⟨clause', hclause', htext'⟩ := exists_of_bind_eq_ok htext'
  obtain rfl := Except.ok.inj htext
  obtain rfl := Except.ok.inj htext'
  have hisClause := hc.isDefaultClause hclause
  have hisClause' := hd.isDefaultClause hclause'
  simp only [List.append_assoc, List.cons_append, ← ite_not (c.nullable = true),
    ← ite_not (d.nullable = true)] at h
  obtain ⟨hname, h⟩ := quoteName_append_inj hc.name hd.name h
  obtain ⟨htype, h⟩ := ColumnType.ddl_append_inj (List.cons.inj h).2
  obtain ⟨hnull, h⟩ := word_append_inj (hisClause.not_null hrest) (hisClause'.not_null hrest') h
  obtain ⟨rfl, hrests⟩ := hisClause.append_inj hisClause' hrest hrest' h
  have hnullable : c.nullable = d.nullable := Bool.eq_iff_iff.mpr (not_iff_not.mp hnull)
  refine ⟨⟨hname, htype, hnullable, hclause.trans hclause'.symm⟩, ?_, hrests⟩
  rw [hname, htype, hnullable]

/-- Columns with the same texts are written alike, each one as the one in its place. -/
theorem Column.forall₂_alike {cs ds : List Column} {texts : List (List Char)}
    (hcs : ∀ c ∈ cs, c.Admissible) (hds : ∀ d ∈ ds, d.Admissible)
    (hc : List.Forall₂ (fun c text => Column.ddl offset c = .ok text) cs texts)
    (hd : List.Forall₂ (fun d text => Column.ddl offset' d = .ok text) ds texts) :
    List.Forall₂ (Column.Alike offset offset') cs ds := by
  induction hc generalizing ds with
  | nil =>
      cases hd
      exact .nil
  | cons hfirst _ ih =>
      cases hd with
      | cons hfirst' hrest' =>
          obtain ⟨hcfirst, hcs⟩ := List.forall_mem_cons.mp hcs
          obtain ⟨hdfirst, hds⟩ := List.forall_mem_cons.mp hds
          obtain ⟨halike, -⟩ := Column.ddl_append_inj hcfirst hdfirst hfirst hfirst'
            (.inr rfl) (.inr rfl) (Eq.refl (_ ++ [')']))
          exact .cons halike (ih hcs hds hrest')

/-- The columns of a table are told apart from what follows their bracket. -/
theorem Column.join_append_inj {cs ds : List Column} {texts texts' : List (List Char)}
    (hcs : ∀ c ∈ cs, c.Admissible) (hds : ∀ d ∈ ds, d.Admissible)
    (htexts : cs.mapM (Column.ddl offset) = .ok texts)
    (htexts' : ds.mapM (Column.ddl offset') = .ok texts')
    (h : join [',', ' '] texts ++ ')' :: rest = join [',', ' '] texts' ++ ')' :: rest') :
    List.Forall₂ (Column.Alike offset offset') cs ds ∧ rest = rest' := by
  have hopens : ∀ (o : Calendar.Offset) (c : Column) (text : List Char),
      c.ddl o = .ok text → text.head? = some '\x60' := by
    intro o c text htext
    obtain ⟨clause, -, htext⟩ := exists_of_bind_eq_ok htext
    obtain rfl := Except.ok.inj htext
    rfl
  have hsame : texts = texts' ∧ rest = rest' := by
    refine Text.join_append_inj ?_ ?_ ?_ h
    · intro text htext
      obtain ⟨c, -, hddl⟩ := exists_of_mem_mapM htexts htext
      exact hopens _ c text hddl
    · intro text htext
      obtain ⟨d, -, hddl⟩ := exists_of_mem_mapM htexts' htext
      exact hopens _ d text hddl
    · intro text htext text' htext' r r' hr hr' heq
      obtain ⟨c, hc, hddl⟩ := exists_of_mem_mapM htexts htext
      obtain ⟨d, hd, hddl'⟩ := exists_of_mem_mapM htexts' htext'
      exact (Column.ddl_append_inj (hcs c hc) (hds d hd) hddl hddl' hr hr' heq).2
  obtain ⟨rfl, hrests⟩ := hsame
  exact ⟨forall₂_alike hcs hds (mapM_eq_ok.mp htexts) (mapM_eq_ok.mp htexts'), hrests⟩

/-! ## Tables -/

/-- Tables that are written alike: they agree on all but how defaults are given. -/
structure Table.Alike (offset offset' : Calendar.Offset) (t u : Table) : Prop where
  name_eq : t.name = u.name
  columns_alike : List.Forall₂ (Column.Alike offset offset') t.columns u.columns
  primaryKey_eq : t.primaryKey = u.primaryKey
  interleave_eq : t.interleave = u.interleave
  policy_eq : t.policy = u.policy

/-- A policy is told from the right: the days by the digits, the column by the words
    around it. -/
theorem DeletionPolicy.clause_inj {p q : DeletionPolicy} (h : p.clause = q.clause) : p = q := by
  have hclause : ∀ p : DeletionPolicy, p.clause = ", row deletion policy (older_than(".toList ++
      (p.column.toList ++ ", interval".toList ++ ' ' :: digits p.days) ++ " day))".toList := by
    intro p
    rw [clause_eq]
    simp
  rw [hclause, hclause] at h
  obtain ⟨hcolumn, hdays⟩ := append_digits_inj rfl
    (List.append_cancel_left (List.append_cancel_right h))
  obtain ⟨column, days⟩ := p
  obtain rfl := String.toList_inj.mp (List.append_cancel_right hcolumn)
  obtain rfl : days = q.days := hdays
  rfl

theorem DeletionPolicy.starts_clause (p : DeletionPolicy) :
    ", row deletion policy (".toList <+: p.clause :=
  ⟨_, (List.append_assoc _ _ _).symm⟩

theorem Interleave.starts_words (i : Interleave) :
    ", interleave in parent ".toList <+: i.words :=
  ⟨_, (List.append_assoc _ _ _).symm⟩

/-- The words that place a table with its parent are told apart from the clause of a
    policy, if one follows. -/
theorem Interleave.words_append_inj {i j : Interleave} {p q : Option DeletionPolicy}
    (hi : Sql.PlainName i.parent) (hj : Sql.PlainName j.parent)
    (h : i.words ++ (p.map DeletionPolicy.clause).getD []
      = j.words ++ (q.map DeletionPolicy.clause).getD []) :
    i = j ∧ (p.map DeletionPolicy.clause).getD [] = (q.map DeletionPolicy.clause).getD [] := by
  have hcascade := not_prefix_clause DeletionPolicy.starts_clause
    " on delete cascade".toList (by decide) (by decide) (by decide)
  unfold Interleave.words at h
  simp only [List.append_assoc] at h
  obtain ⟨hparent, h⟩ := quoteName_append_inj hi hj (List.append_cancel_left h)
  obtain ⟨hdelete, hrests⟩ := word_append_inj (hcascade p) (hcascade q) h
  obtain ⟨parent, onDelete⟩ := i
  obtain ⟨parent', onDelete'⟩ := j
  obtain rfl : parent = parent' := hparent
  refine ⟨?_, hrests⟩
  cases onDelete <;> cases onDelete' <;> simp_all

/-- Tables that are created by the same statement are written alike. -/
theorem Table.alike_of_creation {t u : Table} {text : List Char} (ht : t.Admissible)
    (hu : u.Admissible) (h : t.creation offset = .ok text) (h' : u.creation offset' = .ok text) :
    t.Alike offset offset' u := by
  obtain ⟨columns, hcolumns, htext⟩ := exists_of_creation h
  obtain ⟨columns', hcolumns', htext'⟩ := exists_of_creation h'
  have hsame := List.append_cancel_left (htext.symm.trans htext')
  obtain ⟨hname, hsame⟩ := quoteName_append_inj ht.name hu.name hsame
  obtain ⟨halike, hsame⟩ := Column.join_append_inj ht.columns hu.columns hcolumns hcolumns'
    (List.append_cancel_left hsame)
  obtain ⟨hkey, hsame⟩ := quoteNames_append_inj ht.primaryKey hu.primaryKey
    (List.append_cancel_left hsame)
  have hpolicy := not_prefix_clause DeletionPolicy.starts_clause
    ", interleave in parent ".toList (by decide) (by decide) (by decide)
  obtain ⟨hinterleave, hsame⟩ := clause_append_inj Interleave.starts_words (hpolicy _) (hpolicy _)
    (fun i hi j hj => Interleave.words_append_inj (ht.parent i hi) (hu.parent j hj)) hsame
  have hpolicies := clause_inj DeletionPolicy.starts_clause (by decide)
    (fun p _ q _ => DeletionPolicy.clause_inj) hsame
  exact ⟨hname, halike, hkey, hinterleave, hpolicies⟩

/-! ## Indexes -/

namespace Index

theorem starts_storingClause (names : List String) : " storing (".toList <+: storingClause names :=
  List.prefix_append _ _

theorem starts_parentClause (parent : String) : ", interleave in ".toList <+: parentClause parent :=
  List.prefix_append _ _

/-- Indexes that are created by the same statement are the same but for how their name is
    given. -/
theorem eq_of_creation {i j : Index} (hi : i.Admissible) (hj : j.Admissible)
    (h : i.creation = j.creation) :
    i.defaultName = j.defaultName ∧ i.table = j.table ∧ i.columns = j.columns ∧
      i.unique = j.unique ∧ i.nullFiltered = j.nullFiltered ∧ i.storing = j.storing ∧
      i.interleaveIn = j.interleaveIn := by
  rw [creation_eq, creation_eq] at h
  have hindex : ∀ r, ¬ "null_filtered ".toList <+: "index ".toList ++ r := by
    intro r
    simp
  have hfiltered : ∀ (p : Prop) [Decidable p] (r : List Char), ¬ "unique ".toList <+:
      (if p then "null_filtered ".toList else []) ++ ("index ".toList ++ r) := by
    intro p _ r
    split <;> simp
  have hparent := not_prefix_clause starts_parentClause " storing (".toList
    (by decide) (by decide) (by decide)
  have hstoring : ∀ names ∈ i.stored?, ∀ others ∈ j.stored?, ∀ {r r' : List Char},
      storingClause names ++ r = storingClause others ++ r' → names = others ∧ r = r' := by
    intro names hnames others hothers r r' heq
    obtain rfl := eq_of_mem_stored? hnames
    obtain rfl := eq_of_mem_stored? hothers
    unfold storingClause at heq
    simp only [List.append_assoc, List.singleton_append] at heq
    exact quoteNames_append_inj hi.storing hj.storing (List.append_cancel_left heq)
  have hinterleave : ∀ parent ∈ i.interleaveIn, ∀ other ∈ j.interleaveIn,
      parentClause parent = parentClause other → parent = other :=
    fun _ _ _ _ heq => quoteName_injective (List.append_cancel_left heq)
  obtain ⟨hunique, h⟩ := word_append_inj (hfiltered _ _) (hfiltered _ _)
    (List.append_cancel_left h)
  obtain ⟨hnull, h⟩ := word_append_inj (hindex _) (hindex _) h
  obtain ⟨hname, h⟩ := quoteName_append_inj hi.defaultName hj.defaultName
    (List.append_cancel_left h)
  obtain ⟨htable, h⟩ := quoteName_append_inj hi.table hj.table (List.append_cancel_left h)
  obtain ⟨hcolumns, h⟩ := quoteNames_append_inj hi.columns hj.columns (List.append_cancel_left h)
  obtain ⟨hstored, h⟩ := clause_append_inj starts_storingClause (hparent _) (hparent _)
    (fun names hnames others hothers => hstoring names hnames others hothers) h
  have hinterleaves := clause_inj starts_parentClause (by decide) hinterleave h
  refine ⟨hname, htable, hcolumns, Bool.eq_iff_iff.mpr hunique, Bool.eq_iff_iff.mpr hnull, ?_,
    hinterleaves⟩
  rw [← i.getD_stored?, ← j.getD_stored?, hstored]

end Index

/-! ## All definitions -/

/-- **Statements tell definitions apart.**  Two admissible tables that are created by the
    same statements agree on their names, on name, type and default clause of each column
    and on whether it allows NULL, on the key, the parent and the policy.  Two indexes
    that are created by the same statement under some names agree on these and on all
    else. -/
theorem creation_determines :
    (∀ (s s' : Synthesis) (t u : Table) (statements : List (List Char)),
        t.Admissible → u.Admissible →
        s.batch none ⟨t.name, [.createTable t]⟩ = .ok statements →
        s'.batch none ⟨u.name, [.createTable u]⟩ = .ok statements →
        t.Alike s.offset s'.offset u) ∧
      ∀ (i j : Index) (n m : String), Index.Admissible { i with name := some n } →
        Index.Admissible { j with name := some m } →
        Index.creation { i with name := some n } = Index.creation { j with name := some m } →
        n = m ∧ i.table = j.table ∧ i.columns = j.columns ∧ i.unique = j.unique ∧
          i.nullFiltered = j.nullFiltered ∧ i.storing = j.storing ∧
          i.interleaveIn = j.interleaveIn := by
  constructor
  · intro s s' t u statements ht hu h h'
    obtain ⟨-, text, htext, rfl⟩ := Synthesis.batch_creates_eq_ok.mp h
    obtain ⟨-, text', htext', hsame⟩ := Synthesis.batch_creates_eq_ok.mp h'
    obtain rfl := (List.cons.inj hsame).1
    exact Table.alike_of_creation ht hu htext htext'
  · intro i j n m hi hj h
    exact Index.eq_of_creation hi hj h

/-- Items with a price; the name has commas, brackets and quotes in it. -/
def pricedItem (price : Value) : Table where
  name := "item, `lot` (or kit)"
  columns := [.ofKind "id" .uuid,
    { Column.ofKind "price" .decimal with default := some (.value price) }]
  primaryKey := ["id"]
  interleave := none
  policy := none

/-- An index of the items by their price. -/
def priceIndex (name : Option String) : Index :=
  { Index.ofColumns "item, `lot` (or kit)" ["price"] with name }

/-- A price of five is the same default as a number and as text. -/
theorem creation_determines_pricedItem :
    ∃ statements,
      Synthesis.batch ⟨[], .utc⟩ none
        ⟨"item, `lot` (or kit)", [.createTable (pricedItem (.int64 5))]⟩ = .ok statements ∧
      Synthesis.batch ⟨[], .utc⟩ none
        ⟨"item, `lot` (or kit)", [.createTable (pricedItem (.string "5"))]⟩ = .ok statements ∧
      Table.Alike .utc .utc (pricedItem (.int64 5)) (pricedItem (.string "5")) ∧
      (priceIndex none).columns = (priceIndex (some "by price")).columns := by
  have ht : (pricedItem (.int64 5)).Admissible := by decide
  have hu : (pricedItem (.string "5")).Admissible := by decide
  have hi : Index.Admissible { priceIndex none with name := some "price" } := by decide
  have hj : Index.Admissible { priceIndex (some "by price") with name := some "price" } := by
    decide
  refine ⟨_, rfl, rfl, creation_determines.1 ⟨[], .utc⟩ ⟨[], .utc⟩ _ _ _ ht hu rfl rfl, ?_⟩
  exact (creation_determines.2 _ _ "price" "price" hi hj rfl).2.2.1

end Schema

end SpannerDialect
