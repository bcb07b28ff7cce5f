import SpannerDialect.Proofs.Sql.Simulation.Write
import SpannerDialect.Proofs.Text.Fill
import SpannerDialect.Proofs.Value.Wire

/-! # Placeholders and bindings

    A fragment is aligned when it leaves the scanner outside quotes and has
    a binding for each of its placeholders.  Alignment is kept by every step
    of rendering, so a rendered statement is aligned, and naming its
    parameters goes through: the parameters are the bindings in order, and
    the SQL changes at the placeholders only (`Statement.parameterize_render`). -/

namespace SpannerDialect.Sql

open Text

/-- Raw SQL that closes its quotes and has a binding for each of its
    placeholders. -/
def AlignedRaw (sql : String) (bindings : List TypedValue) : Prop :=
  scan .outside sql.toList = .outside ∧ placeholders sql.toList = bindings.length

instance (sql : String) (bindings : List TypedValue) : Decidable (AlignedRaw sql bindings) :=
  inferInstanceAs (Decidable (_ ∧ _))

/-- A fragment that closes its quotes and has a binding for each of its
    placeholders. -/
def Fragment.Aligned (f : Fragment) : Prop :=
  scan .outside f.text = .outside ∧ placeholders f.text = f.bindings.length

theorem Fragment.Aligned.append {a b : Fragment} (ha : a.Aligned) (hb : b.Aligned) :
    (a ++ b).Aligned := by
  obtain ⟨ha1, ha2⟩ := ha
  obtain ⟨hb1, hb2⟩ := hb
  refine ⟨?_, ?_⟩
  · rw [text_append, scan_append, ha1, hb1]
  · rw [placeholders] at ha2 hb2 ⊢
    rw [text_append, placeholdersFrom_append, ha1, ha2, hb2, bindings_append, List.length_append]

/-- Alignment says nothing about the other side. -/
theorem aligned_simulation : Simulation AlignedRaw fun f _ => f.Aligned where
  neutral := fun h => h
  append := fun ha hb => ha.append hb
  parameter := fun _ => ⟨rfl, rfl⟩
  raw := fun h => h

/-- A rendered statement is aligned. -/
theorem Statement.aligned_of_fragment {s : Statement} (hk : s.kind ≠ .ddl)
    (hs : s.Admissible AlignedRaw) {f : Fragment} (hf : s.fragment = .ok f) : f.Aligned := by
  obtain ⟨f', -, haligned⟩ := (Statement.fragment_both aligned_simulation hk hs).of_ok hf
  exact haligned

/-- What rendering gives is the fragment, with kind and options beside it. -/
theorem Statement.render_eq_ok {config : Config} {s : Statement} {r : Rendered}
    (h : s.render config = .ok r) :
    ∃ f, s.fragment = .ok f ∧ r = ⟨f.text, f.bindings, s.options config, s.kind⟩ := by
  rw [Statement.render] at h
  cases hf : s.fragment with
  | error e =>
      rw [hf] at h
      cases h
  | ok f =>
      rw [hf] at h
      exact ⟨f, rfl, (Except.ok.inj h).symm⟩

theorem Statement.options_of_render {config : Config} {s : Statement} {r : Rendered}
    (h : s.render config = .ok r) : r.options = s.options config := by
  obtain ⟨f, -, rfl⟩ := Statement.render_eq_ok h
  rfl

/-- Rendering fails only where the fragment does. -/
theorem Statement.render_eq_error {config : Config} {s : Statement} {e : Error}
    (h : s.render config = .error e) : s.fragment = .error e := by
  rw [Statement.render] at h
  cases hf : s.fragment with
  | error e' =>
      rw [hf] at h
      obtain rfl := Except.error.inj h
      rfl
  | ok f =>
      rw [hf] at h
      cases h

/-! ## Parameters -/

/-- The name of the parameter at a place, counted from zero. -/
theorem parameterName_eq (index : Nat) :
    parameterName index = ("p" ++ toString (index + 1)).toList := by
  rw [Nat.toString_eq_ofList_toDigits, String.toList_append, String.toList_ofList,
    String.toList_ofList]
  rfl

/-- One parameter for each binding: its name is `p` with its place, and it
    carries the type and the wire form of the binding.  Places count on from
    the given one. -/
def ParametersOf (index : Nat) (bindings : List TypedValue) (parameters : List Parameter) :
    Prop :=
  parameters.length = bindings.length ∧
    ∀ (k : Nat) (v : TypedValue), bindings[k]? = some v → ∃ value, v.wire = .ok value ∧
      parameters[k]? = some ⟨"p" ++ toString (index + k), v.type.wireType, value⟩

theorem exists_parametersFrom (index : Nat) (vs : List TypedValue) :
    ∃ ps, parametersFrom index vs = .ok ps ∧ ParametersOf (index + 1) vs ps := by
  induction vs generalizing index with
  | nil =>
      refine ⟨[], rfl, rfl, ?_⟩
      intro k v hv
      cases hv
  | cons w ws ih =>
      obtain ⟨value, hw⟩ := w.exists_wire
      obtain ⟨ps, hps, hlen, hget⟩ := ih (index + 1)
      refine ⟨⟨"p" ++ toString (index + 1), w.type.wireType, value⟩ :: ps, ?_, ?_, ?_⟩
      · rw [parametersFrom, parameter, hw, hps, parameterName_eq, String.ofList_toList]
        rfl
      · rw [List.length_cons, List.length_cons, hlen]
      · intro k v hv
        cases k with
        | zero =>
            obtain rfl := Option.some.inj hv
            exact ⟨value, hw, rfl⟩
        | succ k =>
            obtain ⟨value', hv', hk⟩ := hget k v hv
            refine ⟨value', hv', ?_⟩
            rw [List.getElem?_cons_succ, hk, Nat.add_right_comm (index + 1) 1 k]
            rfl

/-- **Placeholders and bindings line up.**  A rendered statement has a binding
    for each placeholder and closes its quotes.  Its SQL is a row of pieces
    without placeholders and a `?` between neighbours; with named parameters
    it is the same row with `@p1`, `@p2` and so on between them, and the
    parameters of these names carry type and wire form of the bindings. -/
theorem Statement.parameterize_render (config : Config) (s : Statement) (hk : s.kind ≠ .ddl)
    (hs : s.Admissible AlignedRaw) (r : Rendered) (hr : s.render config = .ok r) :
    placeholders r.sql = r.bindings.length ∧ scan .outside r.sql = .outside ∧
      ∃ first pieces parameters,
        pieces.length = r.bindings.length ∧
        (∀ p ∈ first :: pieces, Neutral .outside p) ∧
        r.sql = weave first pieces (List.replicate r.bindings.length ['?']) ∧
        r.parameterize = .ok (weave first pieces ((List.range r.bindings.length).map
          fun k => ("@p" ++ toString (k + 1)).toList), parameters) ∧
        ParametersOf 1 r.bindings parameters := by
  obtain ⟨f, hf, rfl⟩ := Statement.render_eq_ok hr
  obtain ⟨hscan, hcount⟩ := Statement.aligned_of_fragment hk hs hf
  obtain ⟨first, pieces, hlen, hneutral, hmarks, hfill⟩ := exists_pieces hscan
  obtain ⟨ps, hps, hof⟩ := exists_parametersFrom 0 f.bindings
  have hlen' : pieces.length = f.bindings.length := hlen.trans hcount
  -- the marks of the parameters are their names, which count from one
  have hnames : Rendered.parameterMarks ⟨f.text, f.bindings, s.options config, s.kind⟩
      = (List.range f.bindings.length).map fun k => ("@p" ++ toString (k + 1)).toList := by
    refine List.map_congr_left fun k _ => ?_
    rw [parameterName_eq, String.toList_append, String.toList_append]
    rfl
  refine ⟨hcount, hscan, first, pieces, ps, hlen', hneutral, ?_, ?_, hof⟩
  · rw [← hlen']
    exact hmarks
  · rw [Rendered.parameterize, hnames, substitute, if_pos, hps, hfill]
    · rfl
    · rw [List.length_map, List.length_range, hlen']
    · rw [List.length_map, List.length_range]
      exact hcount

/-- A text as a value of the widest type. -/
def textValue (s : String) : TypedValue :=
  ⟨.scalar (.string .max), .string s, rfl⟩

/-- A query with a question mark wherever text can stand: in names, in a
    literal of two lines, in raw SQL and in bindings.  The condition of the
    cross join and the operand of the empty list hold parameters that are
    not rendered. -/
def questioningQuery : Statement :=
  .select
    { Select.ofTable ⟨"User`?", some "u?"⟩ with
      columns :=
        [⟨.call "coalesce" [.literal (textValue "is it \"?\"\nor '?'"), .bind (textValue "?")],
          some "answer?"⟩]
      hint := some ⟨.force, "byName"⟩
      joins := [⟨.cross, ⟨"Item", none⟩, some (.bind (textValue "unseen"))⟩]
      filter := some (.and (.raw "starts_with(`name`, ?, '?')" [textValue "a"])
        (.or (.inList (.bind (textValue "unseen")) [] true)
          (.isNull (.bind (textValue "b")) false))) }

theorem questioningQuery_admissible : questioningQuery.Admissible AlignedRaw := by
  have hraw : AlignedRaw "starts_with(`name`, ?, '?')" [textValue "a"] := by decide
  refine ⟨⟨⟨⟨?_, trivial, trivial, trivial⟩, ?_⟩, trivial⟩, ⟨?_, ?_⟩,
    ⟨⟨⟨?_, ?_⟩, trivial⟩, trivial⟩, ⟨hraw, ⟨trivial, trivial⟩, trivial⟩, trivial, trivial, trivial⟩
  all_goals decide

theorem questioningQuery_kind : questioningQuery.kind ≠ .ddl := by
  decide

theorem parameterize_render_questioningQuery :
    questioningQuery.kind ≠ .ddl ∧ questioningQuery.Admissible AlignedRaw ∧
      ∃ r, questioningQuery.render {} = .ok r ∧ placeholders r.sql = 3 ∧
        ∃ sql parameters, r.parameterize = .ok (sql, parameters) ∧
          ParametersOf 1 r.bindings parameters := by
  refine ⟨questioningQuery_kind, questioningQuery_admissible, _, rfl, ?_⟩
  obtain ⟨hcount, -, first, pieces, parameters, -, -, -, hpar, hof⟩ :=
    Statement.parameterize_render {} questioningQuery questioningQuery_kind
      questioningQuery_admissible _ rfl
  exact ⟨hcount, _, parameters, hpar, hof⟩

end SpannerDialect.Sql
