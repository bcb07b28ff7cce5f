import SpannerDialect.Sql.Render.Query
import SpannerDialect.Sql.Statement

/-! # Writes as SQL

    An insert takes its columns and their order from its first row, and
    every other row is put into that order.  An update and a delete always
    have a condition, if only a true one. -/

namespace SpannerDialect.Sql

open Fragment

/-- The names that a row gives values to. -/
def columnNames (row : List Assignment) : List String :=
  row.map Prod.fst

/-- The first name that has come before. -/
def firstRepeated? : List String → List String → Option String
  | _, [] => none
  | seen, c :: cs => if c ∈ seen then some c else firstRepeated? (c :: seen) cs

/-- No column is given twice. -/
def checkDistinct (table : String) (columns : List String) : Except Error Unit :=
  match firstRepeated? [] columns with
  | some column => .error (.shape (.repeatedColumn column table))
  | none => .ok ()

/-- The value of a column of a row. -/
def renderCell (row : List Assignment) (column : String) : Except Error Fragment :=
  match row.lookup column with
  | some e => e.render
  | none => .ok (plain [])

/-- The values of a row, in the order of the given columns. -/
def renderRow (table : String) (columns : List String) (index : Nat) (row : List Assignment) :
    Except Error Fragment := do
  let names := columnNames row
  checkDistinct table names
  if names.length = columns.length ∧ names.all (· ∈ columns) then
    let cells ← columns.mapM (renderCell row)
    return parenthesized (commaSeparated cells)
  else
    throw (.shape (.rowColumns index table names columns))

/-- Rows from an index on. -/
def renderRows (table : String) (columns : List String) :
    Nat → List (List Assignment) → Except Error (List Fragment)
  | _, [] => .ok []
  | index, row :: rows => do
    let f ← renderRow table columns index row
    let fs ← renderRows table columns (index + 1) rows
    return f :: fs

/-- The words of an insert. -/
def InsertMode.words : InsertMode → String
  | insert => "insert into "
  | orIgnore => "insert or ignore into "
  | orUpdate => "insert or update into "

/-- An insert.  The first row gives the columns and their order. -/
def Insert.render (i : Insert) : Except Error Fragment := do
  if i.returningId then
    throw (.unsupported .insertGetId)
  match i.rows with
  | [] => throw (.shape (.insertWithoutRows i.table))
  | first :: _ =>
    if first.isEmpty then
      throw (.shape (.insertWithoutColumns i.table))
    let columns := columnNames first
    checkDistinct i.table columns
    let rows ← renderRows i.table columns 0 i.rows
    return words i.mode.words ++ nameFragment i.table ++ words " " ++
      parenthesized (plain (Text.quoteNames columns)) ++ words " values " ++ commaSeparated rows

/-- A column with its new value. -/
def renderAssignment (a : Assignment) : Except Error Fragment := do
  let f ← a.2.render
  return nameFragment a.1 ++ words " = " ++ f

/-- The condition that every write to rows must have. -/
def requiredFilter : Option Expression → Except Error Fragment
  | some e => do
    let f ← e.render
    return words " where " ++ f
  | none => .ok (words " where true")

/-- An update. -/
def Update.render (u : Update) : Except Error Fragment := do
  if u.assignments.isEmpty then
    throw (.shape (.updateWithoutColumns u.table))
  checkDistinct u.table (columnNames u.assignments)
  let assignments ← u.assignments.mapM renderAssignment
  let filter ← requiredFilter u.filter
  return words "update " ++ nameFragment u.table ++ words " set " ++
    commaSeparated assignments ++ filter

/-- A delete. -/
def Delete.render (d : Delete) : Except Error Fragment := do
  let filter ← requiredFilter d.filter
  return words "delete from " ++ nameFragment d.table ++ filter

end SpannerDialect.Sql
