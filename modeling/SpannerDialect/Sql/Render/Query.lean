import SpannerDialect.Error
import SpannerDialect.Sql.Fragment
import SpannerDialect.Sql.Expression
import SpannerDialect.Text.Quoted
import SpannerDialect.Value.Literal

/-! # Expressions and queries as SQL

    Each part of an expression or a query becomes a fragment.  An operand
    that binds looser than its place asks stands in parentheses.  What the
    backend does not know, such as a join without a condition, is an error
    and no SQL. -/

namespace SpannerDialect.Sql

open Fragment

/-! ## Names -/

/-- A quoted name. -/
def nameFragment (name : String) : Fragment :=
  plain (Text.quoteName name)

/-- A column.  The name `*` is no name and stands as it is. -/
def ColumnRef.fragment (c : ColumnRef) : Fragment :=
  let name := if c.name = "*" then words "*" else nameFragment c.name
  match c.table with
  | some table => nameFragment table ++ words "." ++ name
  | none => name

/-- The name that something goes by, if it has one. -/
def labelFragment : Option String → Fragment
  | some label => words " as " ++ nameFragment label
  | none => plain []

/-! ## How tightly expressions bind -/

namespace Strength

/-- How tightly `or` binds; all else binds tighter. -/
def disjunction : Nat := 1

/-- How tightly `and` binds. -/
def conjunction : Nat := 2

/-- How tightly predicates bind. -/
def predicate : Nat := 4

/-- How tightly `+` and `-` bind, and what a predicate asks of its operands. -/
def additive : Nat := 5

/-- How tightly `*` and `/` bind. -/
def multiplicative : Nat := 6

/-- How tightly that binds which has no operands in the open. -/
def atom : Nat := 7

end Strength

/-- How tightly an operation on numbers binds. -/
def Arithmetic.strength : Arithmetic → Nat
  | add | subtract => Strength.additive
  | multiply | divide => Strength.multiplicative

/-- What an operation asks of its right operand: one that does not associate
    asks for more. -/
def Arithmetic.rightStrength : Arithmetic → Nat
  | add => Strength.additive
  | subtract => Strength.additive + 1
  | multiply => Strength.multiplicative
  | divide => Strength.multiplicative + 1

/-- How tightly an expression binds. -/
def Expression.strength : Expression → Nat
  | .or _ _ => Strength.disjunction
  | .and _ _ => Strength.conjunction
  | .compare .. | .isNull .. | .inList .. | .inUnnest .. | .between .. => Strength.predicate
  | .arithmetic op _ _ => op.strength
  | _ => Strength.atom

/-- The fragment of an operand, in parentheses where the operand binds looser
    than asked. -/
def operand (asked : Nat) (e : Expression) (f : Fragment) : Fragment :=
  if e.strength < asked then parenthesized f else f

/-- Two operands with a sign between them. -/
def binary (l : Fragment) (sign : String) (r : Fragment) : Fragment :=
  l ++ words " " ++ words sign ++ words " " ++ r

/-- The negative or the positive wording of a test. -/
def worded (negated : Bool) (negative positive : String) : Fragment :=
  words (if negated then negative else positive)

/-! ## Clauses -/

/-- Whether a name can stand in a hint, which has no quotes. -/
def isHintName (name : String) : Bool :=
  match name.toList with
  | [] => false
  | c :: cs => (c.isAlpha || c == '_') && cs.all fun d => d.isAlphanum || d == '_'

/-- The hint at an index. -/
def hintFragment : Option IndexHint → Except Error Fragment
  | none => .ok (plain [])
  | some ⟨.force, index⟩ =>
    if isHintName index then
      .ok (words " @\x7bFORCE_INDEX=" ++ words index ++ words "\x7d")
    else
      .error (.definition (.hintName index))
  | some ⟨.use, _⟩ => .error (.unsupported .useHint)
  | some ⟨.ignore, _⟩ => .error (.unsupported .ignoreHint)

/-- The words of a join. -/
def JoinKind.words : JoinKind → String
  | inner => " inner join "
  | left => " left join "
  | right => " right join "
  | full => " full join "
  | cross => " cross join "

/-- The word of a direction. -/
def Direction.words : Direction → String
  | ascending => " asc"
  | descending => " desc"

/-- The largest number of rows, for a query with an offset alone. -/
def unlimitedRows : Nat := 0x7FFFFFFFFFFFFFFF

/-- The rows of a result to return. -/
def limitFragment : Option Nat → Option Nat → Fragment
  | some limit, some offset =>
    words " limit " ++ plain (Text.digits limit) ++ words " offset " ++ plain (Text.digits offset)
  | some limit, none => words " limit " ++ plain (Text.digits limit)
  | none, some offset =>
    words " limit " ++ plain (Text.digits unlimitedRows) ++ words " offset " ++
      plain (Text.digits offset)
  | none, none => plain []

/-- A clause with a list, left out when the list is empty. -/
def listClause (start : String) (fs : List Fragment) : Fragment :=
  if fs.isEmpty then plain [] else words start ++ commaSeparated fs

/-! ## Expressions and queries -/

mutual

/-- An expression. -/
def Expression.render : Expression → Except Error Fragment
  | .all => .ok (words "*")
  | .column c => .ok c.fragment
  | .bind v => .ok (placeholder v)
  | .literal v => do
    let text ← orMismatch v.literal
    return plain text
  | .raw sql bindings => .ok ⟨sql.toList, bindings⟩
  | .call function args => do
    let args ← Expression.renderAll args
    return words function ++ parenthesized (commaSeparated args)
  | .nested e => do
    let e ← e.render
    return parenthesized e
  | .existsIn query negated => do
    let query ← query.render
    return worded negated "not " "" ++ words "exists " ++ parenthesized query
  | .subquery query => do
    let query ← query.render
    return parenthesized query
  | .and l r => do
    let lf ← l.render
    let rf ← r.render
    return binary (operand Strength.conjunction l lf) "and" (operand Strength.conjunction r rf)
  | .or l r => do
    let lf ← l.render
    let rf ← r.render
    return binary (operand Strength.disjunction l lf) "or" (operand Strength.disjunction r rf)
  | .not e => do
    let f ← e.render
    return words "not " ++ parenthesized f
  | .compare op l r => do
    let lf ← l.render
    let rf ← r.render
    return binary (operand Strength.additive l lf) op.sign (operand Strength.additive r rf)
  | .isNull e negated => do
    let f ← e.render
    return operand Strength.additive e f ++ worded negated " is not null" " is null"
  | .inList _ [] negated => .ok (worded negated "true" "false")
  | .inList e (item :: items) negated => do
    let f ← e.render
    let first ← item.render
    let rest ← Expression.renderAll items
    return operand Strength.additive e f ++ worded negated " not in " " in " ++
      parenthesized (commaSeparated (first :: rest))
  | .inUnnest e array negated => do
    let f ← e.render
    let a ← array.render
    return operand Strength.additive e f ++ worded negated " not in unnest" " in unnest" ++
      parenthesized a
  | .between e low high negated => do
    let f ← e.render
    let lf ← low.render
    let hf ← high.render
    return operand Strength.additive e f ++ worded negated " not between " " between " ++
      operand Strength.additive low lf ++ words " and " ++ operand Strength.additive high hf
  | .arithmetic op l r => do
    let lf ← l.render
    let rf ← r.render
    return binary (operand op.strength l lf) op.sign (operand op.rightStrength r rf)

/-- Some expressions. -/
def Expression.renderAll : List Expression → Except Error (List Fragment)
  | [] => .ok []
  | e :: es => do
    let f ← e.render
    let fs ← Expression.renderAll es
    return f :: fs

/-- A clause with one expression, left out where there is none. -/
def Expression.renderClause (start : String) : Option Expression → Except Error Fragment
  | none => .ok (plain [])
  | some e => do
    let f ← e.render
    return words start ++ f

/-- A column of a result. -/
def SelectItem.render : SelectItem → Except Error Fragment
  | ⟨e, label⟩ => do
    let f ← e.render
    return f ++ labelFragment label

/-- The columns of a result. -/
def SelectItem.renderAll : List SelectItem → Except Error (List Fragment)
  | [] => .ok []
  | item :: items => do
    let f ← item.render
    let fs ← SelectItem.renderAll items
    return f :: fs

/-- A further table, with its condition unless the join is a cross join. -/
def Join.render : Join → Except Error Fragment
  | ⟨kind, table, condition⟩ => do
    let start := words kind.words ++ nameFragment table.name ++ labelFragment table.label
    if kind = .cross then
      return start
    else if condition.isNone then
      throw (.shape (.joinWithoutCondition kind table.name))
    else
      let condition ← Expression.renderClause " on " condition
      return start ++ condition

/-- The further tables. -/
def Join.renderAll : List Join → Except Error Fragment
  | [] => .ok (plain [])
  | join :: joins => do
    let f ← join.render
    let fs ← Join.renderAll joins
    return f ++ fs

/-- An expression to sort by. -/
def SortKey.render : SortKey → Except Error Fragment
  | ⟨e, direction⟩ => do
    let f ← e.render
    return f ++ words direction.words

/-- The expressions to sort by. -/
def SortKey.renderAll : List SortKey → Except Error (List Fragment)
  | [] => .ok []
  | key :: keys => do
    let f ← key.render
    let fs ← SortKey.renderAll keys
    return f :: fs

/-- A query. -/
def Select.render : Select → Except Error Fragment
  | ⟨distinct, columns, table, hint, joins, filter, groupBy, having, orderBy, limit, offset,
      _, _, _⟩ => do
    let columns ← SelectItem.renderAll columns
    let hint ← hintFragment hint
    let joins ← Join.renderAll joins
    let filter ← Expression.renderClause " where " filter
    let groupBy ← Expression.renderAll groupBy
    let having ← Expression.renderClause " having " having
    let orderBy ← SortKey.renderAll orderBy
    return words "select " ++ (if distinct then words "distinct " else plain []) ++
      (if columns.isEmpty then words "*" else commaSeparated columns) ++
      words " from " ++ nameFragment table.name ++ hint ++ labelFragment table.label ++
      joins ++ filter ++ listClause " group by " groupBy ++ having ++
      listClause " order by " orderBy ++ limitFragment limit offset

end

end SpannerDialect.Sql
