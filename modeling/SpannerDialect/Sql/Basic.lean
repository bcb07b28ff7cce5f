/-! # Words of statements

    The small parts that statements are put together from: references to
    columns and tables, and the closed choices of joins, hints, locks,
    orders and modes. -/

namespace SpannerDialect.Sql

/-- A column, with the table it belongs to where that is given.  The name
    `*` stands for every column of the table. -/
structure ColumnRef where
  table : Option String
  name : String
deriving DecidableEq

/-- A table in a query, with the name it goes by there. -/
structure TableRef where
  name : String
  label : Option String
deriving DecidableEq

/-- How two tables are joined. -/
inductive JoinKind
  | inner | left | right | full | cross
deriving DecidableEq

/-- The name of a kind of join in messages. -/
def JoinKind.name : JoinKind → String
  | inner => "Inner"
  | left => "Left"
  | right => "Right"
  | full => "Full"
  | cross => "Cross"

/-- What a hint asks for.  The backend can only force an index. -/
inductive HintKind
  | force | use | ignore
deriving DecidableEq

/-- A hint at an index of the first table of a query. -/
structure IndexHint where
  kind : HintKind
  index : String
deriving DecidableEq

/-- A lock on the rows read. -/
inductive LockMode
  | update | shared
deriving DecidableEq

/-- The direction of a sort key. -/
inductive Direction
  | ascending | descending
deriving DecidableEq

/-- What an insert does with a row whose key exists. -/
inductive InsertMode
  /-- It fails. -/
  | insert
  /-- It skips the row. -/
  | orIgnore
  /-- It writes over the row. -/
  | orUpdate
deriving DecidableEq

/-- The kinds of statements. -/
inductive StatementKind
  | select | insert | update | delete | ddl
deriving DecidableEq

/-- The name of a kind of statement. -/
def StatementKind.name : StatementKind → String
  | select => "Select"
  | insert => "Insert"
  | update => "Update"
  | delete => "Delete"
  | ddl => "Ddl"

/-- A binary predicate. -/
inductive Comparison
  | equal | notEqual | less | lessOrEqual | greater | greaterOrEqual | like | notLike
deriving DecidableEq

/-- The sign of a predicate. -/
def Comparison.sign : Comparison → String
  | equal => "="
  | notEqual => "!="
  | less => "<"
  | lessOrEqual => "<="
  | greater => ">"
  | greaterOrEqual => ">="
  | like => "like"
  | notLike => "not like"

/-- A binary operation on numbers. -/
inductive Arithmetic
  | add | subtract | multiply | divide
deriving DecidableEq

/-- The sign of an operation. -/
def Arithmetic.sign : Arithmetic → String
  | add => "+"
  | subtract => "-"
  | multiply => "*"
  | divide => "/"

end SpannerDialect.Sql
