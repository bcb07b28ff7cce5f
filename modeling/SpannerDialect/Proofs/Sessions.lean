import SpannerDialect.Connection
import SpannerDialect.Proofs.Planning
import SpannerDialect.Proofs.Sql.Placeholders

/-! # Sessions

    Calls of a connection, one after another, with an executor that may answer
    anything.  A call makes one request at most, of the kind it is for, with
    the SQL that its statement is rendered and parameterized to; what cannot be
    sent fails with nothing sent; and what the executor reports is what the
    caller gets (`Exchange.Disciplined`).  Each call is brought into one form,
    prepare, ask, read (`Conversation.asking`); what holds of a single call
    then holds all along a session (`Connection.session_disciplined`). -/

namespace SpannerDialect

open Sql

/-! ## Calls and exchanges -/

/-- A call of a connection. -/
inductive Call
  | select (q : Select)
  | write (s : Statement)
  | partitionedUpdate (u : Update)
  | partitionedDelete (d : Delete)
  | applySchema (existing : Option Schema.Table) (b : Schema.Blueprint)
  /-- Other tables are known as well. -/
  | applySchemaWith (known : List Schema.Table) (existing : Option Schema.Table)
      (b : Schema.Blueprint)

/-- What a call is answered with. -/
inductive Answer
  | rows (r : Rows)
  | count (n : Nat)
  | statements (ddl : List (List Char))

namespace Call

/-- The statement that a call runs as partitioned DML. -/
def partitioned? : Call → Option Statement
  | partitionedUpdate u => some (.update u)
  | partitionedDelete d => some (.delete d)
  | _ => none

/-- The known tables, the existing table and the blueprint that a call applies. -/
def blueprint? : Call → Option (List Schema.Table × Option Schema.Table × Schema.Blueprint)
  | applySchema existing b => some ([], existing, b)
  | applySchemaWith known existing b => some (known, existing, b)
  | _ => none

end Call

theorem Call.mutations_of_partitioned? {call : Call} {s : Statement}
    (h : call.partitioned? = some s) : s.mutations = .unknown := by
  cases call with
  | partitionedUpdate u => obtain rfl := Option.some.inj h; rfl
  | partitionedDelete d => obtain rfl := Option.some.inj h; rfl
  | select q => cases h
  | write s => cases h
  | applySchema existing b => cases h
  | applySchemaWith known existing b => cases h

/-- A call with the requests on record before it and after it, and its result. -/
structure Exchange where
  call : Call
  earlier : List Request
  later : List Request
  result : Except Error Answer

/-- The requests of an exchange. -/
def Exchange.sent (x : Exchange) : List Request :=
  x.later.drop x.earlier.length

namespace Connection

/-- Carries out a call. -/
def perform (c : Connection) : Call → Conversation Answer
  | .select q => .rows <$> c.select q
  | .write s => .count <$> c.write s
  | .partitionedUpdate u => .count <$> c.partitionedUpdate u
  | .partitionedDelete d => .count <$> c.partitionedDelete d
  | .applySchema existing b => .statements <$> c.applySchema [] existing b
  | .applySchemaWith known existing b => .statements <$> c.applySchema known existing b

/-- The exchange of a call after earlier requests. -/
def exchange (c : Connection) (earlier : List Request) (call : Call) : Exchange :=
  { call, earlier
    later := (c.perform call earlier).2
    result := (c.perform call earlier).1 }

/-- The exchanges of calls one after another.  A call that fails does not keep
    the next from being made. -/
def session (c : Connection) : List Request → List Call → List Exchange
  | _, [] => []
  | earlier, call :: calls =>
    c.exchange earlier call :: c.session (c.exchange earlier call).later calls

end Connection

/-! ## What calls are held to -/

/-- The SQL of a statement and its parameters, as they are sent. -/
def Sql.Statement.prepared (config : Config) (s : Statement) :
    Except Error (List Char × List Parameter) := do
  let r ← s.render config
  r.parameterize

/-- The executor answers a request with an error. -/
def Executor.Fails (executor : Executor) (earlier : List Request) (e : Error) : Request → Prop
  | .execute sql parameters options => executor.execute earlier sql parameters options = .error e
  | .ddl statements => executor.ddl earlier statements = .error e
  | .partitioned sql parameters => executor.partitioned earlier sql parameters = .error e

namespace Exchange

/-- Nothing is sent, and this is the result. -/
def Unsent (x : Exchange) (result : Except Error Answer) : Prop :=
  x.later = x.earlier ∧ x.result = result

/-- This is sent and nothing else, and the result is what the answer is read
    as, unless it is an error. -/
def Sends {α : Type} (x : Exchange) (r : Request) (answer : Except Error α)
    (read : α → Except Error Answer) : Prop :=
  x.later = x.earlier ++ [r] ∧ x.result = answer >>= read

/-- What is prepared is sent; if it cannot be prepared, nothing is. -/
def Follows {α β : Type} (x : Exchange) (prepared : Except Error α) (request : α → Request)
    (answer : α → Except Error β) (read : β → Except Error Answer) : Prop :=
  match prepared with
  | .error e => x.Unsent (.error e)
  | .ok a => x.Sends (request a) (answer a) read

/-- One request is sent at most, and an error that answers it is the result. -/
def Single (c : Connection) (x : Exchange) : Prop :=
  x.later = x.earlier ∨ ∃ r, x.later = x.earlier ++ [r] ∧
    ∀ e, c.executor.Fails x.earlier e r → x.result = .error e

/-- What an exchange of a connection is held to. -/
structure Disciplined (c : Connection) (x : Exchange) : Prop where
  single : x.Single c
  select : ∀ q, x.call = .select q → x.Follows ((Statement.select q).prepared c.config)
    (fun p => .execute p.1 p.2 ((Statement.select q).options c.config))
    (fun p => c.executor.execute x.earlier p.1 p.2 ((Statement.select q).options c.config))
    fun reply => reply.decode.map .rows
  write : ∀ s, x.call = .write s → s.Admitted c.config → x.Follows (s.prepared c.config)
    (fun p => .execute p.1 p.2 .none)
    (fun p => c.executor.execute x.earlier p.1 p.2 .none)
    fun reply => .ok (.count reply.count)
  executesOnly : ∀ s, x.call = .write s → ∀ r ∈ x.sent, ∃ sql parameters,
    s.prepared c.config = .ok (sql, parameters) ∧ r = .execute sql parameters .none
  notAWrite : ∀ s, x.call = .write s → s.kind = .select ∨ s.kind = .ddl →
    x.Unsent (.error (.unsupported (.notAWrite s.kind)))
  overBudget : ∀ i, x.call = .write (.insert i) →
    c.config.budget < (i.rows.map List.length).sum →
    x.Unsent (.error (.mutationLimit (some (i.rows.map List.length).sum) c.config.budget))
  withinBudget : ∀ i, x.call = .write (.insert i) → x.sent ≠ [] →
    (i.rows.map List.length).sum ≤ c.config.budget
  partitioned : ∀ s, x.call.partitioned? = some s → x.Follows (s.prepared c.config)
    (fun p => .partitioned p.1 p.2)
    (fun p => c.executor.partitioned x.earlier p.1 p.2)
    fun n => .ok (.count n)
  asWritten : ∀ s, x.call.partitioned? = some s → ∀ earlier sql parameters,
    .partitioned sql parameters ∈ x.sent ↔
      .execute sql parameters .none ∈ (c.exchange earlier (.write s)).sent
  schema : ∀ known existing b, x.call.blueprint? = some (known, existing, b) →
    match Schema.Synthesis.batch ⟨known, c.config.timezone⟩ existing b with
    | .error e => x.Unsent (.error e)
    | .ok [] => x.Unsent (.ok (.statements []))
    | .ok (d :: ds) => x.Sends (.ddl (d :: ds)) (c.executor.ddl x.earlier (d :: ds))
        fun _ => .ok (.statements (d :: ds))

end Exchange

/-! ## Prepare, ask, read -/

namespace Conversation

variable {α β γ : Type}

theorem bind_apply (m : Conversation α) (g : α → Conversation β) (earlier : List Request) :
    (m >>= g) earlier =
      match m earlier with
      | (.error e, later) => (.error e, later)
      | (.ok a, later) => g a later := by
  simp only [Bind.bind, ExceptT.bind, ExceptT.mk, StateT.bind]
  rcases m earlier with ⟨_ | _, later⟩
  · rfl
  · rfl

theorem map_apply (f : α → β) (m : Conversation α) (earlier : List Request) :
    (f <$> m) earlier = ((m earlier).1.map f, (m earlier).2) := by
  simp only [Functor.map, ExceptT.map, ExceptT.mk, Bind.bind, StateT.bind]
  rcases m earlier with ⟨_ | _, later⟩
  · rfl
  · rfl

/-- Prepares a request, makes it and reads the answer. -/
def asking (prepared : Except Error α) (request : α → Request)
    (answer : α → List Request → Except Error β) (read : β → Except Error γ) :
    Conversation γ := do
  let a ← settled prepared
  let b ← Conversation.request (request a) (answer a)
  settled (read b)

variable {request : α → Request} {answer : α → List Request → Except Error β}
  {read : β → Except Error γ}

theorem asking_ok (a : α) (earlier : List Request) :
    asking (.ok a) request answer read earlier =
      (answer a earlier >>= read, earlier ++ [request a]) := by
  rw [asking, bind_apply, settled]
  simp only [bind_apply, Conversation.request]
  cases answer a earlier with
  | error e => rfl
  | ok b => rfl

theorem asking_error (e : Error) (earlier : List Request) :
    asking (.error e) request answer read earlier = (.error e, earlier) :=
  rfl

end Conversation

namespace Connection

open Conversation

variable (c : Connection) (earlier : List Request)

theorem select_apply (q : Select) :
    c.select q earlier =
      asking ((Statement.select q).prepared c.config)
        (fun p => .execute p.1 p.2 ((Statement.select q).options c.config))
        (fun p earlier =>
          c.executor.execute earlier p.1 p.2 ((Statement.select q).options c.config))
        Reply.decode earlier := by
  rw [select, Statement.prepared]
  cases hr : (Statement.select q).render c.config with
  | error e => rfl
  | ok r =>
      rw [← Statement.options_of_render hr]
      rfl

theorem write_apply {s : Statement} (h : s.Admitted c.config) :
    c.write s earlier =
      asking (s.prepared c.config) (fun p => .execute p.1 p.2 .none)
        (fun p earlier => c.executor.execute earlier p.1 p.2 .none)
        (fun reply => .ok reply.count) earlier := by
  have hoptions : s.options c.config = .none := by
    cases s with
    | select q => exact h.elim
    | insert i => rfl
    | update u => rfl
    | delete d => rfl
    | ddl sql => rfl
  rw [write, Plan.ofWrite_of_admitted h, Statement.prepared]
  cases hr : s.render c.config with
  | error e => rfl
  | ok r =>
      rw [← hoptions, ← Statement.options_of_render hr]
      rfl

theorem writePartitioned_apply {s : Statement} (h : s.mutations = .unknown) :
    c.writePartitioned s earlier =
      asking (s.prepared c.config) (fun p => .partitioned p.1 p.2)
        (fun p earlier => c.executor.partitioned earlier p.1 p.2) .ok earlier := by
  rw [writePartitioned, Plan.ofPartitioned_eq h, Statement.prepared]
  cases hr : s.render c.config with
  | error e => rfl
  | ok r =>
      -- partitioned DML takes no options, and its count is the answer as it is
      show (settled r.parameterize >>= fun p => c.executor.askPartitioned p.1 p.2) earlier =
        asking r.parameterize _ _ _ earlier
      cases r.parameterize with
      | error e => rfl
      | ok p =>
          rw [asking_ok]
          show (c.executor.partitioned earlier p.1 p.2, _) = _
          cases c.executor.partitioned earlier p.1 p.2 with
          | error e => rfl
          | ok n => rfl

theorem applySchema_apply (known : List Schema.Table) (existing : Option Schema.Table)
    (b : Schema.Blueprint) :
    c.applySchema known existing b earlier =
      match Schema.Synthesis.batch ⟨known, c.config.timezone⟩ existing b with
      | .error e => (.error e, earlier)
      | .ok [] => (.ok [], earlier)
      | .ok (d :: ds) =>
        ((c.executor.ddl earlier (d :: ds)).map fun _ => d :: ds, earlier ++ [.ddl (d :: ds)]) := by
  rw [applySchema]
  cases Schema.Synthesis.batch ⟨known, c.config.timezone⟩ existing b with
  | error e => rfl
  | ok statements =>
      cases statements with
      | nil => rfl
      | cons d ds =>
          show ((fun _ => d :: ds) <$> c.executor.askDdl (d :: ds)) earlier = _
          rw [map_apply]
          rfl

end Connection

/-! ## Single exchanges -/

namespace Exchange

variable {c : Connection} {x : Exchange} {α β : Type} {prepared : Except Error α}
  {request : α → Request} {answer : α → Except Error β} {read : β → Except Error Answer}

theorem Unsent.sent_eq {result : Except Error Answer} (h : x.Unsent result) : x.sent = [] := by
  rw [sent, h.1, List.drop_length]

theorem Sends.sent_eq {r : Request} {reply : Except Error β} (h : x.Sends r reply read) :
    x.sent = [r] := by
  rw [sent, h.1, List.drop_left]

theorem Follows.mem_sent_iff (h : x.Follows prepared request answer read) {r : Request} :
    r ∈ x.sent ↔ ∃ a, prepared = .ok a ∧ r = request a := by
  cases prepared with
  | error e => simp [Unsent.sent_eq h]
  | ok a => simp [Sends.sent_eq h]

theorem Unsent.single {result : Except Error Answer} (h : x.Unsent result) : x.Single c :=
  .inl h.1

/-- An error that answers the request is not read. -/
theorem Sends.single {r : Request} {reply : Except Error β} (h : x.Sends r reply read)
    (hfails : ∀ e, c.executor.Fails x.earlier e r → reply = .error e) : x.Single c := by
  refine .inr ⟨r, h.1, ?_⟩
  intro e he
  rw [h.2, hfails e he]
  rfl

theorem Follows.single (h : x.Follows prepared request answer read)
    (hfails : ∀ a e, c.executor.Fails x.earlier e (request a) → answer a = .error e) :
    x.Single c := by
  cases prepared with
  | error e => exact Unsent.single h
  | ok a => exact Sends.single h (hfails a)

/-- A single request is all that an exchange adds to the record. -/
theorem Single.later_eq (h : x.Single c) : x.later = x.earlier ++ x.sent := by
  rcases h with h | ⟨r, h, -⟩
  · rw [sent, h, List.drop_length, List.append_nil]
  · rw [sent, h, List.drop_left]

end Exchange

namespace Connection

open Conversation

variable (c : Connection) (earlier : List Request)

/-- A call that prepares, asks and reads sends what it prepares. -/
theorem exchange_follows {α β γ : Type} {call : Call} {m : Conversation γ} {f : γ → Answer}
    {prepared : Except Error α} {request : α → Request}
    {answer : α → List Request → Except Error β} {read : β → Except Error γ}
    (hcall : c.perform call = f <$> m)
    (h : m earlier = asking prepared request answer read earlier) :
    (c.exchange earlier call).Follows prepared request (fun a => answer a earlier)
      fun b => (read b).map f := by
  have hrun : c.perform call earlier = ((m earlier).1.map f, (m earlier).2) := by
    rw [hcall, map_apply]
  cases prepared with
  | error e =>
      rw [h, asking_error] at hrun
      exact ⟨congrArg Prod.snd hrun, congrArg Prod.fst hrun⟩
  | ok a =>
      rw [h, asking_ok] at hrun
      exact ⟨congrArg Prod.snd hrun, (congrArg Prod.fst hrun).trans (map_bind _ read f)⟩

theorem exchange_select (q : Select) :
    (c.exchange earlier (.select q)).Follows ((Statement.select q).prepared c.config)
      (fun p => .execute p.1 p.2 ((Statement.select q).options c.config))
      (fun p => c.executor.execute earlier p.1 p.2 ((Statement.select q).options c.config))
      fun reply => reply.decode.map .rows :=
  c.exchange_follows earlier rfl (c.select_apply earlier q)

theorem exchange_write {s : Statement} (h : s.Admitted c.config) :
    (c.exchange earlier (.write s)).Follows (s.prepared c.config)
      (fun p => .execute p.1 p.2 .none) (fun p => c.executor.execute earlier p.1 p.2 .none)
      fun reply => .ok (.count reply.count) :=
  c.exchange_follows earlier rfl (c.write_apply earlier h)

/-- A write that is not planned is not sent. -/
theorem exchange_write_refused {s : Statement} {e : Error}
    (h : Plan.ofWrite c.config s = .error e) :
    (c.exchange earlier (.write s)).Unsent (.error e) := by
  have hrun : c.perform (.write s) earlier = (.error e, earlier) := by
    rw [perform, map_apply, write, h]
    rfl
  exact ⟨congrArg Prod.snd hrun, congrArg Prod.fst hrun⟩

theorem exchange_partitioned {call : Call} {s : Statement} (h : call.partitioned? = some s) :
    (c.exchange earlier call).Follows (s.prepared c.config)
      (fun p => .partitioned p.1 p.2) (fun p => c.executor.partitioned earlier p.1 p.2)
      fun n => .ok (.count n) := by
  have hunknown := Call.mutations_of_partitioned? h
  cases call with
  | partitionedUpdate u =>
      obtain rfl := Option.some.inj h
      exact c.exchange_follows earlier rfl (c.writePartitioned_apply earlier hunknown)
  | partitionedDelete d =>
      obtain rfl := Option.some.inj h
      exact c.exchange_follows earlier rfl (c.writePartitioned_apply earlier hunknown)
  | select q => cases h
  | write s => cases h
  | applySchema existing b => cases h
  | applySchemaWith known existing b => cases h

theorem exchange_schema {call : Call} {known : List Schema.Table}
    {existing : Option Schema.Table} {b : Schema.Blueprint}
    (h : call.blueprint? = some (known, existing, b)) :
    match Schema.Synthesis.batch ⟨known, c.config.timezone⟩ existing b with
    | .error e => (c.exchange earlier call).Unsent (.error e)
    | .ok [] => (c.exchange earlier call).Unsent (.ok (.statements []))
    | .ok (d :: ds) => (c.exchange earlier call).Sends (.ddl (d :: ds))
        (c.executor.ddl earlier (d :: ds)) fun _ => .ok (.statements (d :: ds)) := by
  have hrun : c.perform call earlier =
      ((c.applySchema known existing b earlier).1.map .statements,
        (c.applySchema known existing b earlier).2) := by
    rw [← map_apply]
    cases call with
    | applySchema existing b => cases h; rfl
    | applySchemaWith known existing b => cases h; rfl
    | select q => cases h
    | write s => cases h
    | partitionedUpdate u => cases h
    | partitionedDelete d => cases h
  rw [applySchema_apply] at hrun
  -- the record and the result go through the same three cases
  have hlater := congrArg Prod.snd hrun
  have hresult := congrArg Prod.fst hrun
  cases hbatch : Schema.Synthesis.batch ⟨known, c.config.timezone⟩ existing b with
  | error e =>
      rw [hbatch] at hlater hresult
      exact ⟨hlater, hresult⟩
  | ok statements =>
      cases statements with
      | nil =>
          rw [hbatch] at hlater hresult
          exact ⟨hlater, hresult⟩
      | cons d ds =>
          rw [hbatch] at hlater hresult
          refine ⟨hlater, hresult.trans ?_⟩
          show ((c.executor.ddl earlier (d :: ds)).map _).map _ = _
          cases c.executor.ddl earlier (d :: ds) with
          | error e => rfl
          | ok u => rfl

theorem exchange_single (call : Call) : (c.exchange earlier call).Single c := by
  cases hpartitioned : call.partitioned? with
  | some s => exact (c.exchange_partitioned earlier hpartitioned).single fun a e he => he
  | none =>
      cases hblueprint : call.blueprint? with
      | some p =>
          obtain ⟨known, existing, b⟩ := p
          have hschema := c.exchange_schema earlier hblueprint
          split at hschema
          · exact hschema.single
          · exact hschema.single
          · exact hschema.single fun e he => he
      | none =>
          cases call with
          | select q => exact (c.exchange_select earlier q).single fun a e he => he
          | write s =>
              by_cases h : s.Admitted c.config
              · exact (c.exchange_write earlier h).single fun a e he => he
              · obtain ⟨e, he⟩ := Plan.exists_error_of_not_admitted h
                exact (c.exchange_write_refused earlier he).single
          | partitionedUpdate u => cases hpartitioned
          | partitionedDelete d => cases hpartitioned
          | applySchema existing b => cases hblueprint
          | applySchemaWith known existing b => cases hblueprint

/-- **Every call is held to the discipline**, whatever has been asked before and
    whatever the executor answers. -/
theorem exchange_disciplined (call : Call) : (c.exchange earlier call).Disciplined c := by
  refine ⟨c.exchange_single earlier call, ?select, ?write, ?executesOnly, ?notAWrite,
    ?overBudget, ?withinBudget, ?partitioned, ?asWritten, ?schema⟩
  case select =>
    rintro q rfl
    exact c.exchange_select earlier q
  case write =>
    rintro s rfl h
    exact c.exchange_write earlier h
  case executesOnly =>
    rintro s rfl r hr
    by_cases h : s.Admitted c.config
    · obtain ⟨p, hp, rfl⟩ := (c.exchange_write earlier h).mem_sent_iff.mp hr
      exact ⟨p.1, p.2, hp, rfl⟩
    · obtain ⟨e, he⟩ := Plan.exists_error_of_not_admitted h
      rw [(c.exchange_write_refused earlier he).sent_eq] at hr
      cases hr
  case notAWrite =>
    rintro s rfl hkind
    have hwrite : s.isWrite = false := by
      rcases hkind with hkind | hkind <;> simp [Statement.isWrite, hkind]
    exact c.exchange_write_refused earlier (Plan.ofWrite_of_isWrite_eq_false hwrite)
  case overBudget =>
    rintro i rfl hlt
    rw [← List.length_flatten] at hlt ⊢
    exact c.exchange_write_refused earlier (Plan.ofWrite_of_budget_lt hlt)
  case withinBudget =>
    -- had it been over the budget, it would have been refused unsent
    rintro i rfl hsent
    rw [← List.length_flatten]
    by_contra hlt
    have hrefused := Plan.ofWrite_of_budget_lt (Nat.not_le.mp hlt)
    exact hsent (c.exchange_write_refused earlier hrefused).sent_eq
  case partitioned =>
    intro s hs
    exact c.exchange_partitioned earlier hs
  case asWritten =>
    intro s hs earlier' sql parameters
    change call.partitioned? = some s at hs
    have hunknown := Call.mutations_of_partitioned? hs
    have hadmitted : s.Admitted c.config := by
      rw [Statement.Admitted, hunknown]
      trivial
    rw [(c.exchange_partitioned earlier hs).mem_sent_iff,
      (c.exchange_write earlier' hadmitted).mem_sent_iff]
    simp
  case schema =>
    intro known existing b hb
    exact c.exchange_schema earlier hb

/-! ## Whole sessions -/

theorem map_call_session (calls : List Call) :
    (c.session earlier calls).map Exchange.call = calls := by
  induction calls generalizing earlier with
  | nil => rfl
  | cons call calls ih =>
      rw [session, List.map_cons, ih]
      rfl

theorem disciplined_of_mem_session {calls : List Call} {x : Exchange}
    (h : x ∈ c.session earlier calls) : x.Disciplined c := by
  induction calls generalizing earlier with
  | nil => cases h
  | cons call calls ih =>
      rcases List.mem_cons.mp h with rfl | h
      · exact c.exchange_disciplined earlier call
      · exact ih _ h

/-- An exchange starts from the record that the exchanges before it have left. -/
theorem earlier_of_session_eq {calls : List Call} {before after : List Exchange} {x : Exchange}
    (h : c.session earlier calls = before ++ x :: after) :
    x.earlier = earlier ++ before.flatMap Exchange.sent := by
  induction calls generalizing earlier before with
  | nil => simp [session] at h
  | cons call calls ih =>
      rw [session] at h
      cases before with
      | nil =>
          obtain ⟨rfl, -⟩ := List.cons.inj h
          exact (List.append_nil earlier).symm
      | cons y before =>
          -- the first call hands on what was on record with what it has sent
          obtain ⟨rfl, htail⟩ := List.cons.inj h
          rw [ih _ htail, (c.exchange_single earlier call).later_eq, List.append_assoc]
          rfl

/-- **All along a session every call is held to the discipline**, one exchange
    for each call in order, and nothing is on record but what they have sent. -/
theorem session_disciplined (calls : List Call) :
    (c.session earlier calls).map Exchange.call = calls ∧
      (∀ x ∈ c.session earlier calls, x.Disciplined c) ∧
      ∀ before x after, c.session earlier calls = before ++ x :: after →
        x.earlier = earlier ++ before.flatMap Exchange.sent := by
  refine ⟨c.map_call_session earlier calls, ?_, ?_⟩
  · intro x hx
    exact c.disciplined_of_mem_session earlier hx
  · intro before x after h
    exact c.earlier_of_session_eq earlier h

/-- A backend that finds every write in one commit too large, and carries out
    every partitioned one. -/
def narrow : Connection where
  config := { budget := 5 }
  executor :=
    { execute := fun _ _ _ _ => .error (.mutationLimit none 5)
      ddl := fun _ _ => .ok ()
      partitioned := fun _ _ _ => .ok 7 }

/-- An insert that is too large, a delete that turns out to be, and the same
    delete as partitioned DML. -/
def narrowCalls : List Call :=
  [.write (.insert Insert.shuffledPeople), .write (.delete (.ofTable "Person")),
    .partitionedDelete (.ofTable "Person")]

theorem session_disciplined_narrow :
    ∃ x y z, narrow.session [] narrowCalls = [x, y, z] ∧
      x.sent = [] ∧ y.sent.length = 1 ∧ y.result = .error (.mutationLimit none 5) ∧
      z.earlier = [] ++ [x, y].flatMap Exchange.sent ∧ z.result = .ok (.count 7) ∧
      x.Disciplined narrow ∧ y.Disciplined narrow ∧ z.Disciplined narrow := by
  obtain ⟨-, hdisciplined, hearlier⟩ := narrow.session_disciplined [] narrowCalls
  refine ⟨_, _, _, rfl, rfl, rfl, rfl, hearlier [_, _] _ [] rfl, rfl, ?_, ?_, ?_⟩
  · exact hdisciplined _ (List.mem_cons_self ..)
  · exact hdisciplined _ (List.mem_cons_of_mem _ (List.mem_cons_self ..))
  · exact hdisciplined _ (List.mem_cons_of_mem _ (List.mem_cons_of_mem _ (List.mem_cons_self ..)))

end Connection

end SpannerDialect
