import SpannerDialect.TypedValue

/-! # Fragments

    A piece of SQL with the values of its placeholders, in order.  Pieces
    are put together by appending both. -/

namespace SpannerDialect.Sql

/-- A piece of SQL with its bindings. -/
structure Fragment where
  text : List Char
  bindings : List TypedValue

namespace Fragment

/-- SQL without placeholders. -/
def plain (text : List Char) : Fragment :=
  ⟨text, []⟩

/-- Words of SQL. -/
def words (s : String) : Fragment :=
  plain s.toList

/-- A placeholder with its value. -/
def placeholder (v : TypedValue) : Fragment :=
  ⟨['?'], [v]⟩

/-- Two pieces in a row. -/
def append (a b : Fragment) : Fragment :=
  ⟨a.text ++ b.text, a.bindings ++ b.bindings⟩

instance : Append Fragment := ⟨append⟩

/-- Pieces in a row, a comma and a blank between neighbours. -/
def commaSeparated : List Fragment → Fragment
  | [] => plain []
  | [f] => f
  | f :: fs => f ++ words ", " ++ commaSeparated fs

/-- A piece in parentheses. -/
def parenthesized (f : Fragment) : Fragment :=
  words "(" ++ f ++ words ")"

@[simp] theorem text_append (a b : Fragment) : (a ++ b).text = a.text ++ b.text := rfl

@[simp] theorem bindings_append (a b : Fragment) :
    (a ++ b).bindings = a.bindings ++ b.bindings := rfl

@[simp] theorem text_plain (t : List Char) : (plain t).text = t := rfl

end Fragment

end SpannerDialect.Sql
