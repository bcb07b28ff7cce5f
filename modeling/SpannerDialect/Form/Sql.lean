import SpannerDialect.Form.Options
import SpannerDialect.Sql.Statement

/-! # Statements in JSON

    Expressions and queries nest as deep as their JSON does, so a reader
    goes one level down at a time and stops at the height of the tree. -/

namespace SpannerDialect

/-! ## Heights -/

namespace Json

mutual

/-- How many levels a tree has. -/
def height : Json → Nat
  | array items => heightItems items + 1
  | object fields => heightFields fields + 1
  | _ => 1

/-- The levels of the highest item. -/
def heightItems : List Json → Nat
  | [] => 0
  | a :: as => max (height a) (heightItems as)

/-- The levels of the highest field. -/
def heightFields : List (String × Json) → Nat
  | [] => 0
  | (_, a) :: as => max (height a) (heightFields as)

end

end Json

/-! ## Reading -/

namespace Form

open Sql

/-- A column with its table. -/
def columnRef? (j : Json) : Option ColumnRef := do
  let field ← record? ["table", "name"] j
  let table ← optional? text? (field "table")
  let name ← text? (← field "name")
  return { table, name }

/-- A table with the name it goes by. -/
def tableRef? (j : Json) : Option TableRef := do
  let field ← record? ["name", "alias"] j
  let name ← text? (← field "name")
  let label ← optional? text? (field "alias")
  return { name, label }

/-- The names of the kinds of joins. -/
def joinKinds : List (String × JoinKind) :=
  [("Inner", .inner), ("Left", .left), ("Right", .right), ("Full", .full), ("Cross", .cross)]

/-- The names of the kinds of hints. -/
def hintKinds : List (String × HintKind) :=
  [("Force", .force), ("Use", .use), ("Ignore", .ignore)]

/-- The names of the locks. -/
def lockModes : List (String × LockMode) :=
  [("Update", .update), ("Shared", .shared)]

/-- The names of the directions. -/
def directions : List (String × Direction) :=
  [("Asc", .ascending), ("Desc", .descending)]

/-- The names of the modes of an insert. -/
def insertModes : List (String × InsertMode) :=
  [("Insert", .insert), ("OrIgnore", .orIgnore), ("OrUpdate", .orUpdate)]

/-- The names of the binary predicates. -/
def comparisons : List (String × Comparison) :=
  [("Equal", .equal), ("NotEqual", .notEqual), ("LessThan", .less),
   ("LessThanOrEqual", .lessOrEqual), ("GreaterThan", .greater),
   ("GreaterThanOrEqual", .greaterOrEqual), ("Like", .like), ("NotLike", .notLike)]

/-- The names of the operations on numbers. -/
def arithmetics : List (String × Arithmetic) :=
  [("Add", .add), ("Subtract", .subtract), ("Multiply", .multiply), ("Divide", .divide)]

/-- The name of a choice. -/
def nameOf {α : Type} [DecidableEq α] (choices : List (String × α)) (value : α) : String :=
  ((choices.find? fun c => c.2 = value).map Prod.fst).getD ""

/-- The name of a choice in JSON. -/
def ofChoice {α : Type} [DecidableEq α] (choices : List (String × α)) (value : α) : Json :=
  .string (nameOf choices value)

/-- A hint at an index. -/
def hint? (j : Json) : Option IndexHint := do
  let field ← record? ["kind", "index"] j
  let kind ← choice? hintKinds (← field "kind")
  let index ← text? (← field "index")
  return { kind, index }

/-- How the expressions inside of a form are read. -/
abbrev ExpressionReader := Json → Option Expression

/-- A column of a result. -/
def selectItem? (expr : ExpressionReader) (j : Json) : Option SelectItem := do
  let field ← record? ["expr", "alias"] j
  let e ← expr (← field "expr")
  let label ← optional? text? (field "alias")
  return { expr := e, label }

/-- A further table. -/
def join? (expr : ExpressionReader) (j : Json) : Option Join := do
  let field ← record? ["kind", "table", "on"] j
  let kind ← choice? joinKinds (← field "kind")
  let table ← tableRef? (← field "table")
  let condition ← optional? expr (field "on")
  return { kind, table, condition }

/-- An expression to sort by. -/
def sortKey? (expr : ExpressionReader) (j : Json) : Option SortKey := do
  let (e, direction) ← pair? expr (choice? directions) j
  return { expr := e, direction }

/-- A query. -/
def selectOf? (expr : ExpressionReader) (j : Json) : Option Select := do
  let field ← record? ["distinct", "columns", "from", "index_hint", "joins", "where", "group_by",
    "having", "order_by", "limit", "offset", "lock", "staleness", "data_boost"] j
  let distinct ← flag? (← field "distinct")
  let columns ← listOf? (selectItem? expr) (← field "columns")
  let table ← tableRef? (← field "from")
  let hint ← optional? hint? (field "index_hint")
  let joins ← listOf? (join? expr) (← field "joins")
  let filter ← optional? expr (field "where")
  let groupBy ← listOf? expr (← field "group_by")
  let having ← optional? expr (field "having")
  let orderBy ← listOf? (sortKey? expr) (← field "order_by")
  let limit ← optional? word64? (field "limit")
  let offset ← optional? word64? (field "offset")
  let lock ← optional? (choice? lockModes) (field "lock")
  let staleness ← optional? staleness? (field "staleness")
  let dataBoost ← optional? flag? (field "data_boost")
  return { distinct, columns, table, hint, joins, filter, groupBy, having, orderBy, limit
           offset, lock, staleness, dataBoost }

/-- An operator, from its name and its content. -/
def operator? (expr : ExpressionReader) (name : String) (content : Json) : Option Expression :=
  match name with
  | "And" => (pair? expr expr content).map fun (l, r) => .and l r
  | "Or" => (pair? expr expr content).map fun (l, r) => .or l r
  | "Not" => (expr content).map .not
  | "IsNull" => (expr content).map (.isNull · false)
  | "IsNotNull" => (expr content).map (.isNull · true)
  | "InList" => do
    let field ← object? content
    let e ← expr (← field "expr")
    let items ← listOf? expr (← field "list")
    let negated ← flag? (← field "negated")
    return .inList e items negated
  | "InUnnest" => do
    let field ← object? content
    let e ← expr (← field "expr")
    let array ← expr (← field "array")
    let negated ← flag? (← field "negated")
    return .inUnnest e array negated
  | "Between" => do
    let field ← object? content
    let e ← expr (← field "expr")
    let low ← expr (← field "low")
    let high ← expr (← field "high")
    let negated ← flag? (← field "negated")
    return .between e low high negated
  | _ => do
    let (l, r) ← pair? expr expr content
    match comparisons.lookup name, arithmetics.lookup name with
    | some op, _ => some (.compare op l r)
    | none, some op => some (.arithmetic op l r)
    | none, none => none

/-- An expression of at most so many levels. -/
def expressionWithin? : Nat → Json → Option Expression
  | 0, _ => none
  | n + 1, j => do
    let (name, content) ← variant? j
    let expr := expressionWithin? n
    match name with
    | "All" => unit? .all content
    | "Column" => (columnRef? content).map .column
    | "Bind" => (typedValue? content).map .bind
    | "Literal" => (typedValue? content).map .literal
    | "Raw" =>
      let field ← object? content
      let sql ← text? (← field "sql")
      let bindings ← listOf? typedValue? (← field "bindings")
      return .raw sql bindings
    | "Function" => (pair? text? (listOf? expr) content).map fun (f, args) => .call f args
    | "Operator" =>
      let (op, operands) ← variant? content
      operator? expr op operands
    | "Nested" => (expr content).map .nested
    | "Exists" =>
      let field ← object? content
      let query ← selectOf? expr (← field "select")
      let negated ← flag? (← field "negated")
      return .existsIn query negated
    | "Subquery" => (selectOf? expr content).map .subquery
    | _ => none

/-- An expression. -/
def expression? (j : Json) : Option Expression :=
  expressionWithin? j.height j

/-- A query. -/
def select? : Json → Option Select :=
  selectOf? expression?

/-- A column with its expression. -/
def assignment? : Json → Option Assignment :=
  pair? text? expression?

/-- An insert. -/
def insert? (j : Json) : Option Insert := do
  let field ← record? ["table", "mode", "rows", "returning_id"] j
  let table ← text? (← field "table")
  let mode ← choice? insertModes (← field "mode")
  let rows ← listOf? (listOf? assignment?) (← field "rows")
  let returningId ← flag? (← field "returning_id")
  return { table, mode, rows, returningId }

/-- An update. -/
def update? (j : Json) : Option Update := do
  let field ← record? ["table", "set", "where"] j
  let table ← text? (← field "table")
  let assignments ← listOf? assignment? (← field "set")
  let filter ← optional? expression? (field "where")
  return { table, assignments, filter }

/-- A delete. -/
def delete? (j : Json) : Option Delete := do
  let field ← record? ["table", "where"] j
  let table ← text? (← field "table")
  let filter ← optional? expression? (field "where")
  return { table, filter }

/-- A statement. -/
def statement? (j : Json) : Option Statement := do
  let (name, content) ← variant? j
  match name with
  | "Select" => (select? content).map .select
  | "Insert" => (insert? content).map .insert
  | "Update" => (update? content).map .update
  | "Delete" => (delete? content).map .delete
  | "Ddl" => (text? content).map .ddl
  | _ => none

/-! ## Writing -/

/-- A column with its table, in JSON. -/
def ofColumnRef (c : ColumnRef) : Json :=
  .object [("name", .string c.name), ("table", ofOption .string c.table)]

/-- A table with the name it goes by, in JSON. -/
def ofTableRef (t : TableRef) : Json :=
  .object [("alias", ofOption .string t.label), ("name", .string t.name)]

/-- A hint in JSON. -/
def ofHint (h : IndexHint) : Json :=
  .object [("index", .string h.index), ("kind", ofChoice hintKinds h.kind)]

/-- An operator in JSON. -/
def ofOperator (name : String) (content : Json) : Json :=
  ofVariant "Operator" (ofVariant name content)

mutual

/-- An expression in JSON. -/
def ofExpression : Expression → Json
  | .all => .string "All"
  | .column c => ofVariant "Column" (ofColumnRef c)
  | .bind v => ofVariant "Bind" (ofTypedValue v)
  | .literal v => ofVariant "Literal" (ofTypedValue v)
  | .raw sql bindings =>
    ofVariant "Raw" (.object [("bindings", ofList ofTypedValue bindings), ("sql", .string sql)])
  | .call function args =>
    ofVariant "Function" (.array [.string function, .array (ofExpressions args)])
  | .nested e => ofVariant "Nested" (ofExpression e)
  | .existsIn query negated =>
    ofVariant "Exists" (.object [("negated", .bool negated), ("select", ofSelect query)])
  | .subquery query => ofVariant "Subquery" (ofSelect query)
  | .and l r => ofOperator "And" (.array [ofExpression l, ofExpression r])
  | .or l r => ofOperator "Or" (.array [ofExpression l, ofExpression r])
  | .not e => ofOperator "Not" (ofExpression e)
  | .compare op l r =>
    ofOperator (nameOf comparisons op) (.array [ofExpression l, ofExpression r])
  | .isNull e negated => ofOperator (if negated then "IsNotNull" else "IsNull") (ofExpression e)
  | .inList e items negated =>
    ofOperator "InList" (.object [("expr", ofExpression e), ("list", .array (ofExpressions items)),
      ("negated", .bool negated)])
  | .inUnnest e array negated =>
    ofOperator "InUnnest" (.object [("array", ofExpression array), ("expr", ofExpression e),
      ("negated", .bool negated)])
  | .between e low high negated =>
    ofOperator "Between" (.object [("expr", ofExpression e), ("high", ofExpression high),
      ("low", ofExpression low), ("negated", .bool negated)])
  | .arithmetic op l r =>
    ofOperator (nameOf arithmetics op) (.array [ofExpression l, ofExpression r])

/-- Some expressions in JSON. -/
def ofExpressions : List Expression → List Json
  | [] => []
  | e :: es => ofExpression e :: ofExpressions es

/-- An expression that may be missing, in JSON. -/
def ofOptionalExpression : Option Expression → Json
  | none => .null
  | some e => ofExpression e

/-- A column of a result in JSON. -/
def ofSelectItem : SelectItem → Json
  | ⟨e, label⟩ => .object [("alias", ofOption .string label), ("expr", ofExpression e)]

/-- The columns of a result in JSON. -/
def ofSelectItems : List SelectItem → List Json
  | [] => []
  | item :: items => ofSelectItem item :: ofSelectItems items

/-- A further table in JSON. -/
def ofJoin : Join → Json
  | ⟨kind, table, condition⟩ =>
    .object [("kind", ofChoice joinKinds kind), ("on", ofOptionalExpression condition),
      ("table", ofTableRef table)]

/-- The further tables in JSON. -/
def ofJoins : List Join → List Json
  | [] => []
  | join :: joins => ofJoin join :: ofJoins joins

/-- An expression to sort by, in JSON. -/
def ofSortKey : SortKey → Json
  | ⟨e, direction⟩ => .array [ofExpression e, ofChoice directions direction]

/-- The expressions to sort by, in JSON. -/
def ofSortKeys : List SortKey → List Json
  | [] => []
  | key :: keys => ofSortKey key :: ofSortKeys keys

/-- A query in JSON. -/
def ofSelect : Select → Json
  | ⟨distinct, columns, table, hint, joins, filter, groupBy, having, orderBy, limit, offset,
      lock, staleness, dataBoost⟩ =>
    .object [
      ("columns", .array (ofSelectItems columns)),
      ("data_boost", ofOption .bool dataBoost),
      ("distinct", .bool distinct),
      ("from", ofTableRef table),
      ("group_by", .array (ofExpressions groupBy)),
      ("having", ofOptionalExpression having),
      ("index_hint", ofOption ofHint hint),
      ("joins", .array (ofJoins joins)),
      ("limit", ofOption (fun n => ofInt (n : Nat)) limit),
      ("lock", ofOption (ofChoice lockModes) lock),
      ("offset", ofOption (fun n => ofInt (n : Nat)) offset),
      ("order_by", .array (ofSortKeys orderBy)),
      ("staleness", ofOption ofStaleness staleness),
      ("where", ofOptionalExpression filter)]

end

/-- A column with its expression, in JSON. -/
def ofAssignment (a : Assignment) : Json :=
  .array [.string a.1, ofExpression a.2]

/-- A statement in JSON. -/
def ofStatement : Statement → Json
  | .select s => ofVariant "Select" (ofSelect s)
  | .insert i =>
    ofVariant "Insert" (.object [
      ("mode", ofChoice insertModes i.mode),
      ("returning_id", .bool i.returningId),
      ("rows", ofList (ofList ofAssignment) i.rows),
      ("table", .string i.table)])
  | .update u =>
    ofVariant "Update" (.object [
      ("set", ofList ofAssignment u.assignments),
      ("table", .string u.table),
      ("where", ofOptionalExpression u.filter)])
  | .delete d =>
    ofVariant "Delete" (.object [
      ("table", .string d.table),
      ("where", ofOptionalExpression d.filter)])
  | .ddl sql => ofVariant "Ddl" (.string sql)

end Form

end SpannerDialect
