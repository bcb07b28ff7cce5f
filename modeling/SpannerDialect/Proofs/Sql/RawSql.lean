import SpannerDialect.Proofs.Sql.Placeholders

/-! # Raw SQL

    There are two ways to SQL without parameters: to render a statement and
    put literals into the places of its placeholders, or to put literals
    into the statement and render that.  Both give the same text, since
    filling goes along with appending and the literals come in the order of
    the placeholders (`Statement.rawSql_render`). -/

namespace SpannerDialect.Sql

open Text

/-- Raw SQL that closes its quotes and has neither placeholders nor bindings. -/
def BareRaw (sql : String) (bindings : List TypedValue) : Prop :=
  Neutral .outside sql.toList ∧ bindings = []

instance (sql : String) (bindings : List TypedValue) : Decidable (BareRaw sql bindings) :=
  decidable_of_iff ((scan .outside sql.toList = .outside ∧ placeholdersFrom .outside sql.toList = 0)
      ∧ bindings.isEmpty)
    (and_congr_right fun _ => List.isEmpty_iff)

/-- The literals of some bindings, in order. -/
def LiteralsOf (bindings : List TypedValue) (texts : List (List Char)) : Prop :=
  List.Forall₂ (fun v t => v.literal = .ok t) bindings texts

theorem LiteralsOf.append {as bs : List TypedValue} {ts us : List (List Char)}
    (ha : LiteralsOf as ts) (hb : LiteralsOf bs us) : LiteralsOf (as ++ bs) (ts ++ us) := by
  induction ha with
  | nil => exact hb
  | cons h _ ih => exact .cons h ih

theorem LiteralsOf.mapM_eq {bindings : List TypedValue} {texts : List (List Char)}
    (h : LiteralsOf bindings texts) : bindings.mapM TypedValue.literal = .ok texts := by
  induction h with
  | nil => rfl
  | cons h _ ih =>
      rw [List.mapM_cons, h, ih]
      rfl

/-- The second fragment is the first one with its placeholders filled by the
    literals of its bindings. -/
structure Fragment.FilledBy (f f' : Fragment) : Prop where
  aligned : f.Aligned
  noBindings : f'.bindings = []
  filled : ∃ texts, LiteralsOf f.bindings texts ∧ fill f.text texts = f'.text

theorem Fragment.FilledBy.append {a a' b b' : Fragment} (ha : a.FilledBy a')
    (hb : b.FilledBy b') : (a ++ b).FilledBy (a' ++ b') := by
  obtain ⟨has, hnone, ts, hts, hfill⟩ := ha
  obtain ⟨hbs, hnone', us, hus, hfill'⟩ := hb
  refine ⟨has.append hbs, ?_, ts ++ us, hts.append hus, ?_⟩
  · rw [bindings_append, hnone, hnone', List.append_nil]
  · -- the first text takes as many literals as it has bindings
    have hcount : placeholdersFrom .outside a.text = ts.length := has.2.trans hts.length_eq
    rw [text_append, text_append, fill, fillFrom_append _ _ _ _ _ hcount, has.1]
    rw [fill] at hfill hfill'
    rw [hfill, hfill']

/-- Text without placeholders is filled by nothing. -/
theorem Fragment.filledBy_of_neutral {t : List Char} (h : Neutral .outside t) :
    (plain t).FilledBy (plain t) :=
  ⟨h, rfl, [], .nil, fillFrom_of_no_placeholders h.2 []⟩

/-- Filling is kept by every step of rendering. -/
theorem filledBy_simulation : Simulation BareRaw Fragment.FilledBy where
  neutral := Fragment.filledBy_of_neutral
  append := fun ha hb => ha.append hb
  parameter := fun {v t} hv =>
    ⟨⟨rfl, rfl⟩, rfl, [t], .cons hv .nil, List.append_nil t⟩
  raw := by
    rintro sql bindings ⟨hsql, rfl⟩
    exact Fragment.filledBy_of_neutral hsql

/-- **Raw SQL is the statement with its parameters turned into literals.**
    Where a statement is rendered, so is the same statement with literals
    for its parameters, to SQL without bindings, and that SQL is the raw SQL
    of the former.  Where the former is refused, the latter is, for the same
    reason. -/
theorem Statement.rawSql_render (config : Config) (s : Statement) (hk : s.kind ≠ .ddl)
    (hs : s.Admissible BareRaw) :
    (∀ r, s.render config = .ok r → ∃ r', s.inlined.render config = .ok r' ∧
      r'.bindings = [] ∧ r.rawSql = .ok r'.sql) ∧
    ∀ e, s.render config = .error e → s.inlined.render config = .error e := by
  have hboth := Statement.fragment_both filledBy_simulation hk hs
  refine ⟨?_, ?_⟩
  · intro r hr
    obtain ⟨f, hf, rfl⟩ := Statement.render_eq_ok hr
    obtain ⟨f', hf', haligned, hnone, texts, htexts, hfill⟩ := hboth.of_ok hf
    refine ⟨⟨f'.text, f'.bindings, s.inlined.options config, s.inlined.kind⟩, ?_, hnone, ?_⟩
    · rw [Statement.render, hf']
      rfl
    · have hcount : placeholders f.text = texts.length := haligned.2.trans htexts.length_eq
      show (orMismatch (f.bindings.mapM TypedValue.literal)).bind (substitute f.text) = .ok f'.text
      rw [htexts.mapM_eq]
      show substitute f.text texts = .ok f'.text
      rw [substitute, if_pos hcount, hfill]
  · intro e he
    rw [Statement.render, hboth.of_error (Statement.render_eq_error he)]
    rfl

/-- Two rows whose columns come in a different order, with texts that look
    like a placeholder and like the end of a literal. -/
def reorderedInsert : Statement :=
  .insert
    { Insert.into "Note" with
      rows :=
        [[("id", .bind (textValue "7")), ("body", .bind (textValue "why?"))],
          [("body", .bind (textValue "\\'?\"\n'")), ("id", .raw "length('?')" [])]] }

theorem reorderedInsert_admissible : reorderedInsert.Admissible BareRaw := by
  have hid : PlainName "id" := by decide
  have hbody : PlainName "body" := by decide
  have hraw : BareRaw "length('?')" [] := by decide
  refine ⟨by decide, ?_⟩
  rintro row (_ | ⟨_, _ | ⟨_, ⟨⟩⟩⟩) a (_ | ⟨_, _ | ⟨_, ⟨⟩⟩⟩)
  · exact ⟨hid, trivial⟩
  · exact ⟨hbody, trivial⟩
  · exact ⟨hbody, trivial⟩
  · exact ⟨hid, hraw⟩

theorem reorderedInsert_kind : reorderedInsert.kind ≠ .ddl := by
  decide

theorem rawSql_render_reorderedInsert :
    reorderedInsert.kind ≠ .ddl ∧ reorderedInsert.Admissible BareRaw ∧
      ∃ r r', reorderedInsert.render {} = .ok r ∧ reorderedInsert.inlined.render {} = .ok r' ∧
        r'.bindings = [] ∧ r.rawSql = .ok r'.sql := by
  obtain ⟨r', hr'⟩ :=
    (Statement.rawSql_render {} reorderedInsert reorderedInsert_kind
      reorderedInsert_admissible).1 _ rfl
  exact ⟨reorderedInsert_kind, reorderedInsert_admissible, _, r', rfl, hr'⟩

end SpannerDialect.Sql
