import SpannerDialect.Proofs.Schema.Soundness
import SpannerDialect.Proofs.Value.Inference
import SpannerDialect.Proofs.Value.Literal

/-! # Tables that can be created

    A definition is accepted when four sorts of checks pass: those of the blueprint,
    of the table itself, of the parent where that is known, and of the defaults, which
    are only found wrong as they are written.  What all of them ask of a definition is
    said once (`Table.Creatable`), and a blueprint that creates the table has a batch
    just when the definition meets it (`Synthesis.batch_creates_iff`). -/

namespace SpannerDialect

/-! ## Defaults -/

/-- A default that can be written for a column type: NULL, SQL as it stands, the time
    of the commit where the type is one of times, or a value that the type accepts once
    it is turned toward it. -/
inductive DefaultExpression.Suits (offset : Calendar.Offset) : ColumnType → DefaultExpression → Prop
  | null (type : ColumnType) : Suits offset type (.value .null)
  | raw (type : ColumnType) (sql : String) : Suits offset type (.raw sql)
  | currentTimestamp : Suits offset (.scalar .timestamp) .currentTimestamp
  | value {type : ColumnType} {v w : Value} (hcoerce : v.coerce offset type = .ok w)
      (hfits : Value.FitsColumn type w) : Suits offset type (.value v)

section

variable {offset : Calendar.Offset} {type : ColumnType} {d : DefaultExpression} {v : Value}

/-- A value is written just when it can be turned into one that fits. -/
theorem DefaultExpression.exists_sql_value_iff :
    (∃ text, (DefaultExpression.value v).sql offset type = .ok text) ↔
      ∃ w, v.coerce offset type = .ok w ∧ Value.FitsColumn type w := by
  show (∃ text, (v.coerce offset type >>= fun w =>
    TypedValue.of type w >>= TypedValue.literal) = .ok text) ↔ _
  simp only [exists_bind_eq_ok, TypedValue.of_eq_ok_iff]
  constructor
  · rintro ⟨w, hcoerce, typed, ⟨rfl, rfl⟩, -⟩
    exact ⟨typed.value, hcoerce, typed.fitsColumn⟩
  · rintro ⟨w, hcoerce, hfits⟩
    -- whatever fits its type has a literal
    let typed : TypedValue := ⟨type, w, Value.check_eq_ok_iff.mpr hfits⟩
    obtain ⟨text, htext, -⟩ := typed.exists_literal
    exact ⟨w, hcoerce, typed, ⟨rfl, rfl⟩, text, htext⟩

/-- NULL is no default, and every other one is written just when it suits the type. -/
theorem DefaultExpression.exists_sql_iff (hd : d ≠ .value .null) :
    (∃ text, d.sql offset type = .ok text) ↔ d.Suits offset type := by
  cases d with
  | value v =>
      rw [exists_sql_value_iff]
      constructor
      · rintro ⟨w, hcoerce, hfits⟩
        exact .value hcoerce hfits
      · rintro (_ | _ | _ | ⟨hcoerce, hfits⟩)
        · exact absurd rfl hd
        · exact ⟨_, hcoerce, hfits⟩
  | currentTimestamp =>
      show (∃ text, (if type = .scalar .timestamp then .ok DefaultExpression.commitTime
        else .error (.notTimestampColumn type) : Except Mismatch _) = .ok text) ↔ _
      constructor
      · rintro ⟨text, h⟩
        split at h
        · rename_i htype
          subst htype
          exact .currentTimestamp
        · cases h
      · rintro ⟨⟩
        exact ⟨_, if_pos rfl⟩
  | raw sql => exact ⟨fun _ => .raw type sql, fun _ => ⟨sql.toList, rfl⟩⟩

namespace Schema

/-! ## Columns -/

/-- The clause of a default other than NULL. -/
theorem Column.defaultClause_some (hd : d ≠ .value .null) :
    defaultClause offset type (some d) =
      (d.sql offset type).map fun sql => " default (".toList ++ sql ++ [')'] := by
  rw [defaultClause.eq_def]
  split
  · rename_i heq
    cases heq
  · rename_i heq
    exact absurd (Option.some.inj heq) hd
  · rename_i heq
    obtain rfl := Option.some.inj heq
    exact bind_pure_eq_map _ _

theorem Column.exists_defaultClause_iff {default : Option DefaultExpression} :
    (∃ clause, defaultClause offset type default = .ok clause) ↔
      ∀ d, default = some d → d.Suits offset type := by
  cases default with
  | none => exact iff_of_true ⟨[], rfl⟩ nofun
  | some d =>
      simp only [Option.some.injEq, forall_eq']
      by_cases hd : d = .value .null
      · subst hd
        exact iff_of_true ⟨[], rfl⟩ (.null type)
      · rw [← DefaultExpression.exists_sql_iff hd, defaultClause_some hd]
        simp only [map_eq_ok]
        exact ⟨fun ⟨_, sql, hsql, _⟩ => ⟨sql, hsql⟩, fun ⟨sql, hsql⟩ => ⟨_, sql, hsql, rfl⟩⟩

/-- The clause of a default is empty, or the SQL of the default between brackets. -/
theorem Column.defaultClause_cases {default : Option DefaultExpression} {clause : List Char}
    (h : defaultClause offset type default = .ok clause) :
    clause = [] ∨ ∃ d sql, default = some d ∧ d.sql offset type = .ok sql ∧
      clause = " default (".toList ++ sql ++ [')'] := by
  cases default with
  | none =>
      cases h
      exact .inl rfl
  | some d =>
      by_cases hd : d = .value .null
      · subst hd
        cases h
        exact .inl rfl
      · rw [defaultClause_some hd] at h
        obtain ⟨sql, hsql, rfl⟩ := map_eq_ok.mp h
        exact .inr ⟨d, sql, rfl, hsql, rfl⟩

theorem Column.exists_ddl_iff {c : Column} :
    (∃ text, c.ddl offset = .ok text) ↔ ∀ d, c.default = some d → d.Suits offset c.type := by
  rw [← exists_defaultClause_iff]
  exact exists_bind_pure_eq_ok

/-! ## Tables -/

/-- The first table of a name is the one that is found. -/
theorem findTable?_eq_some {known : List Table} {name : String} {t : Table} :
    findTable? known name = some t ↔ t.name = name ∧
      ∃ before after, known = before ++ t :: after ∧ ∀ u ∈ before, u.name ≠ name := by
  simp [findTable?, List.find?_eq_some_iff_append]

/-- A table of the blueprint's name that is sound, whose key starts with the key of its
    parent if one is known, and whose defaults suit their columns. -/
structure Table.Creatable (known : List Table) (blueprint : String) (offset : Calendar.Offset)
    (t : Table) : Prop where
  name_eq : t.name = blueprint
  sound : t.Sound
  key_starts : ∀ i before parent after, t.interleave = some i →
    known = before ++ parent :: after → parent.name = i.parent →
    (∀ u ∈ before, u.name ≠ i.parent) → parent.primaryKey <+: t.primaryKey
  defaults_suit : ∀ c ∈ t.columns, ∀ d, c.default = some d → d.Suits offset c.type

/-- A parent of the right name is one whose key starts the key of the table. -/
theorem Table.validateInterleave_eq_ok {t parent : Table} {i : Interleave}
    (hi : t.interleave = some i) (hname : parent.name = i.parent) :
    t.validateInterleave parent = .ok () ↔ parent.primaryKey <+: t.primaryKey := by
  rw [validateInterleave, hi]
  simp [hname]

/-- What is checked of a parent, if one is known. -/
theorem Table.validateInterleaves_eq_ok {known : List Table} {t : Table} :
    (∀ parent ∈ t.interleave.bind fun i => findTable? known i.parent,
        t.validateInterleave parent = .ok ()) ↔
      ∀ i before parent after, t.interleave = some i → known = before ++ parent :: after →
        parent.name = i.parent → (∀ u ∈ before, u.name ≠ i.parent) →
        parent.primaryKey <+: t.primaryKey := by
  simp only [Option.mem_def, Option.bind_eq_some_iff, findTable?_eq_some]
  constructor
  · intro h i before parent after hi hknown hname hfirst
    rw [← validateInterleave_eq_ok hi hname]
    exact h parent ⟨i, hi, hname, before, after, hknown, hfirst⟩
  · rintro h parent ⟨i, hi, hname, before, after, hknown, hfirst⟩
    rw [validateInterleave_eq_ok hi hname]
    exact h i before parent after hi hknown hname hfirst

/-- A table has a statement that creates it when each of its columns can be written. -/
theorem Table.exists_creation_iff {t : Table} :
    (∃ text, t.creation offset = .ok text) ↔
      ∀ c ∈ t.columns, ∀ d, c.default = some d → d.Suits offset c.type := by
  simp only [← Column.exists_ddl_iff]
  rw [← exists_mapM_eq_ok]
  exact exists_bind_pure_eq_ok

namespace Synthesis

variable {s : Synthesis} {blueprint : String} {t : Table} {statements : List (List Char)}

/-- A blueprint that creates a table gives the one statement that creates it. -/
theorem batch_creates_eq_ok : s.batch none ⟨blueprint, [.createTable t]⟩ = .ok statements ↔
    Tracker.checkCreation s.known blueprint t = .ok () ∧
      ∃ text, t.creation s.offset = .ok text ∧ statements = [text] := by
  constructor
  · intro h
    obtain ⟨⟨tr, steps⟩, hrun, h⟩ := exists_of_bind_eq_ok h
    obtain ⟨tr', first, rest, hstep, hrest, rfl⟩ := exists_of_run_cons hrun
    obtain ⟨hmove, htext⟩ := moves_of_step hstep
    cases hrest
    cases h
    obtain ⟨change, text⟩ := first
    cases hmove with
    | created _ hcheck => exact ⟨hcheck, text, htext, rfl⟩
    | unchecked _ hc _ => cases hc
    | beside _ hc => cases hc
    | allowed ht _ => cases ht
  · rintro ⟨hcheck, text, htext, rfl⟩
    have hruns : s.Runs blueprint (.start none) [.createTable t] _ [⟨.createTable t, text⟩] :=
      .cons (.created rfl hcheck) htext (.nil _)
    exact batch_of_run (b := ⟨blueprint, [.createTable t]⟩) (run_of_runs hruns)

/-- **Which tables can be created.**  Where the table is not known yet, a blueprint that
    creates it has a batch just when the table has the name of the blueprint, is sound,
    has a key that starts with that of its parent, if one is known, and has defaults that
    can be written for their columns. -/
theorem batch_creates_iff :
    (∃ statements, s.batch none ⟨blueprint, [.createTable t]⟩ = .ok statements) ↔
      t.Creatable s.known blueprint s.offset := by
  simp only [batch_creates_eq_ok, Tracker.checkCreation_eq_ok, Table.validate_eq_ok,
    Table.validateInterleaves_eq_ok]
  constructor
  · rintro ⟨_, ⟨hname, hsound, hkey⟩, text, htext, -⟩
    exact ⟨hname, hsound, hkey, Table.exists_creation_iff.mp ⟨text, htext⟩⟩
  · intro h
    obtain ⟨text, htext⟩ := Table.exists_creation_iff.mpr h.defaults_suit
    exact ⟨[text], ⟨h.name_eq, h.sound, h.key_starts⟩, text, htext, rfl⟩

end Synthesis

end Schema

end

end SpannerDialect
