import SpannerDialect.Proofs.Sql.Placeholders
import SpannerDialect.Proofs.Sql.Unmodified

/-! # Read modifiers

    What the modifiers of a query say travels beside the SQL, in the options.  Options
    for a bound give it in one field, and there is no other way to tell it
    (`ReadOnlyOptions.Tells.eq_readOnly`).  Bound and data boost are those of the query
    itself and, where it says nothing, those of the settings; no query inside of it
    has a say, and in a write none at all (`Statement.render_modifiers`). -/

namespace SpannerDialect

/-! ## What options tell -/

/-- The fields of options that are for a bound. -/
inductive BoundField
  | strong | exactStaleness | minReadTimestamp | maxStaleness | readTimestamp
deriving DecidableEq

theorem BoundField.forall_iff {p : BoundField → Prop} :
    (∀ field, p field) ↔ p strong ∧ p exactStaleness ∧ p minReadTimestamp ∧ p maxStaleness ∧
      p readTimestamp := by
  constructor
  · intro h
    exact ⟨h _, h _, h _, h _, h _⟩
  · rintro ⟨hstrong, hexact, hmin, hmax, hread⟩ field
    cases field with
    | strong => exact hstrong
    | exactStaleness => exact hexact
    | minReadTimestamp => exact hmin
    | maxStaleness => exact hmax
    | readTimestamp => exact hread

/-- The field that is for a bound. -/
def StalenessBound.field : StalenessBound → BoundField
  | strong => .strong
  | exactStaleness _ => .exactStaleness
  | minReadTimestamp _ => .minReadTimestamp
  | maxStaleness _ => .maxStaleness
  | readTimestamp _ => .readTimestamp

theorem StalenessBound.isBounded_iff (bound : StalenessBound) :
    bound.isBounded = true ↔
      (∃ time, bound = .minReadTimestamp time) ∨ ∃ age, bound = .maxStaleness age := by
  cases bound <;> simp [isBounded]

namespace ReadOnlyOptions

/-- Whether a field is set. -/
def isSet (o : ReadOnlyOptions) : BoundField → Bool
  | .strong => o.strong.isSome
  | .exactStaleness => o.exactStaleness.isSome
  | .minReadTimestamp => o.minReadTimestamp.isSome
  | .maxStaleness => o.maxStaleness.isSome
  | .readTimestamp => o.readTimestamp.isSome

/-- The field for a bound gives the bound. -/
def Gives (o : ReadOnlyOptions) : StalenessBound → Prop
  | .strong => o.strong = some true
  | .exactStaleness age => o.exactStaleness = some (String.ofList age.text)
  | .minReadTimestamp time => o.minReadTimestamp = some (String.ofList time.wireText)
  | .maxStaleness age => o.maxStaleness = some (String.ofList age.text)
  | .readTimestamp time => o.readTimestamp = some (String.ofList time.wireText)

/-- Options for a bound: its field gives it and is the only one that is set, and the time
    of the read is asked for just where the backend picks it. -/
structure Tells (o : ReadOnlyOptions) (bound : StalenessBound) : Prop where
  gives : o.Gives bound
  alone : ∀ field, o.isSet field = true ↔ field = bound.field
  time : o.returnReadTimestamp = true ↔
    (∃ time, bound = .minReadTimestamp time) ∨ ∃ age, bound = .maxStaleness age

/-- Fields that are not for the bound are not set. -/
theorem Tells.isSet_eq_false {o : ReadOnlyOptions} {bound : StalenessBound} (h : o.Tells bound)
    (field : BoundField) (hne : field ≠ bound.field) : o.isSet field = false :=
  Bool.eq_false_iff.mpr fun hset => hne ((h.alone field).mp hset)

/-- A bound leaves no choice to its options. -/
theorem Tells.eq_readOnly {o : ReadOnlyOptions} {bound : StalenessBound} (h : o.Tells bound) :
    o = bound.readOnly := by
  have hreturned : o.returnReadTimestamp = bound.isBounded :=
    Bool.eq_iff_iff.mpr (h.time.trans bound.isBounded_iff.symm)
  have hgives := h.gives
  have hothers := BoundField.forall_iff.mp h.isSet_eq_false
  obtain ⟨strong, minReadTimestamp, maxStaleness, readTimestamp, exactStaleness, returned⟩ := o
  obtain rfl : returned = bound.isBounded := hreturned
  simp only [isSet, Option.isSome_eq_false_iff, Option.isNone_iff_eq_none] at hothers
  obtain ⟨hstrong, hexact, hmin, hmax, hread⟩ := hothers
  cases bound with
  | strong =>
      obtain rfl : strong = some true := hgives
      rw [hexact nofun, hmin nofun, hmax nofun, hread nofun]
      rfl
  | exactStaleness age =>
      obtain rfl : exactStaleness = some (String.ofList age.text) := hgives
      rw [hstrong nofun, hmin nofun, hmax nofun, hread nofun]
      rfl
  | minReadTimestamp time =>
      obtain rfl : minReadTimestamp = some (String.ofList time.wireText) := hgives
      rw [hstrong nofun, hexact nofun, hmax nofun, hread nofun]
      rfl
  | maxStaleness age =>
      obtain rfl : maxStaleness = some (String.ofList age.text) := hgives
      rw [hstrong nofun, hexact nofun, hmin nofun, hread nofun]
      rfl
  | readTimestamp time =>
      obtain rfl : readTimestamp = some (String.ofList time.wireText) := hgives
      rw [hstrong nofun, hexact nofun, hmin nofun, hmax nofun]
      rfl

end ReadOnlyOptions

theorem StalenessBound.tells_readOnly (bound : StalenessBound) : bound.readOnly.Tells bound where
  gives := by cases bound <;> rfl
  alone := by
    intro field
    cases bound <;> cases field <;> simp [readOnly, ReadOnlyOptions.isSet, StalenessBound.field]
  time := bound.isBounded_iff

/-- Options of a read: data boost or none, and options for the bound if there is one. -/
structure TransactionOptions.Tells (o : TransactionOptions) (bound : Option StalenessBound)
    (dataBoost : Bool) : Prop where
  dataBoost : o.dataBoost = dataBoost
  unbounded : bound = .none → o.readOnly = .none
  bounded : ∀ b ∈ bound, ∃ options ∈ o.readOnly, options.Tells b

theorem TransactionOptions.tells_read (bound : Option StalenessBound) (dataBoost : Bool) :
    (read bound dataBoost).Tells bound dataBoost := by
  refine ⟨rfl, ?_, ?_⟩
  · rintro rfl
    rfl
  · rintro b rfl
    exact ⟨b.readOnly, rfl, b.tells_readOnly⟩

/-- A bound and data boost leave no choice to the options. -/
theorem TransactionOptions.Tells.eq_read {o : TransactionOptions} {bound : Option StalenessBound}
    {dataBoost : Bool} (h : o.Tells bound dataBoost) : o = read bound dataBoost := by
  obtain ⟨readOnly, boost⟩ := o
  obtain ⟨hboost, hunbounded, hbounded⟩ := h
  obtain rfl : boost = dataBoost := hboost
  cases bound with
  | none =>
      obtain rfl : readOnly = .none := hunbounded rfl
      rfl
  | some b =>
      obtain ⟨options, hoptions, htells⟩ := hbounded b rfl
      obtain rfl : readOnly = some options := hoptions
      rw [htells.eq_readOnly]
      rfl

/-! ## Rendered statements -/

namespace Sql

/-- The same SQL with the same bindings, for a statement of the same kind. -/
structure Rendered.SameSql (r r' : Rendered) : Prop where
  sql : r.sql = r'.sql
  bindings : r.bindings = r'.bindings
  kind : r.kind = r'.kind

/-- Statements that are the same without modifiers are rendered alike, whatever the
    settings. -/
theorem Statement.render_both_of_unmodified {s t : Statement}
    (h : s.unmodified = t.unmodified) (config config' : Config) :
    Both Rendered.SameSql (s.render config) (t.render config') := by
  have hfragment : s.fragment = t.fragment := by
    rw [← fragment_unmodified s, h, fragment_unmodified t]
  have hkind : s.kind = t.kind := by
    rw [← kind_unmodified s, h, kind_unmodified t]
  rw [Statement.render, Statement.render, hfragment]
  exact Both.bind_same _ fun _ => .ok ⟨rfl, rfl, hkind⟩

/-- A write has no options, nor has DDL. -/
theorem Statement.options_of_kind_ne_select {s : Statement} (hk : s.kind ≠ .select)
    (config : Config) : s.options config = .none := by
  cases s with
  | select q => exact absurd rfl hk
  | insert i => rfl
  | update u => rfl
  | delete d => rfl
  | ddl sql => rfl

/-- **Read modifiers stay out of band.**  Statements that differ only in the locks, the
    bounds and the data boost of queries, at whatever depth, have the same SQL and the
    same bindings under all settings, or fail alike.  The options of a query tell the
    bound and the data boost of that very query or, where it has none, those of the
    settings.  So queries with the same modifiers have the same options, whatever else
    is in them.  A write has no options, whatever queries it holds, nor has DDL. -/
theorem Statement.render_modifiers (config : Config) :
    (∀ (s t : Statement) (config' : Config), s.unmodified = t.unmodified →
      Both Rendered.SameSql (s.render config) (t.render config')) ∧
    (∀ (q : Select) (r : Rendered), (Statement.select q).render config = .ok r →
      r.options.Tells (q.staleness.or config.staleness)
        (q.dataBoost.getD config.dataBoost)) ∧
    (∀ (q q' : Select) (r r' : Rendered), q.staleness = q'.staleness →
      q.dataBoost = q'.dataBoost → (Statement.select q).render config = .ok r →
      (Statement.select q').render config = .ok r' → r.options = r'.options) ∧
    ∀ (s : Statement) (r : Rendered), s.kind ≠ .select → s.render config = .ok r →
      r.options.isEmpty = true := by
  have htells : ∀ (q : Select) (r : Rendered), (Statement.select q).render config = .ok r →
      r.options.Tells (q.staleness.or config.staleness)
        (q.dataBoost.getD config.dataBoost) := by
    intro q r hr
    have hbound : (q.staleness <|> config.staleness) = q.staleness.or config.staleness :=
      Option.orElse_eq_or ..
    rw [options_of_render hr, ← hbound]
    exact TransactionOptions.tells_read _ _
  refine ⟨fun s t config' h => render_both_of_unmodified h config config', htells, ?_, ?_⟩
  · intro q q' r r' hstaleness hboost hr hr'
    -- what is told is the same, and it leaves no choice
    rw [(htells q r hr).eq_read, (htells q' r' hr').eq_read, hstaleness, hboost]
  · intro s r hk hr
    rw [options_of_render hr, options_of_kind_ne_select hk]
    rfl

/-- People with an item, both read under modifiers. -/
def ownersQuery (lock : Option LockMode) (staleness inner : Option StalenessBound)
    (dataBoost : Option Bool) : Select :=
  { Select.ofTable ⟨"User", none⟩ with
    filter := some (.existsIn
      { Select.ofTable ⟨"Item", none⟩ with
        filter := some (.compare .equal (.columnNamed "name") (.bind (textValue "?")))
        lock, staleness := inner, dataBoost }
      false)
    lock, staleness, dataBoost }

/-- It leaves the bound to the settings, and its items are older than that. -/
def datedOwners : Select :=
  ownersQuery (some .shared) none (some (.exactStaleness ⟨90, 500000000, by decide⟩))
    (some false)

/-- It leaves data boost to the settings. -/
def latestOwners : Select :=
  ownersQuery (some .update) (some .strong) none none

/-- A removal of all but the people of a query with a bound of its own. -/
def otherOwnersRemoved : Statement :=
  .delete ⟨"User", some (.inList (.columnNamed "id") [.subquery latestOwners] true)⟩

/-- Settings under which reads may be ten seconds old and are boosted. -/
def lateSettings : Config :=
  { dataBoost := true, staleness := some (.maxStaleness ⟨10, 0, by decide⟩) }

theorem render_modifiers_datedOwners :
    (Statement.select datedOwners).unmodified = (Statement.select latestOwners).unmodified ∧
      Both Rendered.SameSql ((Statement.select datedOwners).render lateSettings)
        ((Statement.select latestOwners).render {}) ∧
      (∃ r r', (Statement.select datedOwners).render lateSettings = .ok r ∧
        (Statement.select (ownersQuery none none none (some false))).render lateSettings = .ok r' ∧
        r.options.Tells lateSettings.staleness false ∧ r.options = r'.options) ∧
      (∃ r, (Statement.select latestOwners).render lateSettings = .ok r ∧
        r.options.Tells (some .strong) true) ∧
      otherOwnersRemoved.kind ≠ .select ∧
        ∃ r, otherOwnersRemoved.render lateSettings = .ok r ∧ r.options.isEmpty = true := by
  obtain ⟨hsame, htells, halike, hempty⟩ := Statement.render_modifiers lateSettings
  have hkind : otherOwnersRemoved.kind ≠ .select := by decide
  refine ⟨rfl, hsame _ _ {} rfl, ⟨_, _, rfl, rfl, ?_, ?_⟩, ⟨_, rfl, ?_⟩, hkind, _, rfl, ?_⟩
  · exact htells datedOwners _ rfl
  · exact halike datedOwners (ownersQuery none none none (some false)) _ _ rfl rfl rfl rfl
  · exact htells latestOwners _ rfl
  · exact hempty otherOwnersRemoved _ hkind rfl

end Sql

end SpannerDialect
