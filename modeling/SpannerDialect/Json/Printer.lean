import SpannerDialect.Json.Basic
import SpannerDialect.Binary64.Text
import SpannerDialect.Text.Digits

/-! # Compact JSON text

    No blanks, fields in the order of the tree, and in strings an escape
    only for the double quote, the backslash and the controls. -/

namespace SpannerDialect.Json

/-- A hexadecimal digit in lower case. -/
def hexDigit (n : Nat) : Char :=
  Nat.digitChar (n % 16)

/-- One character of a string. -/
def escapeChar (c : Char) : List Char :=
  if c = '"' then ['\\', '"']
  else if c = '\\' then ['\\', '\\']
  else if c = '\x08' then ['\\', 'b']
  else if c = '\x0c' then ['\\', 'f']
  else if c = '\n' then ['\\', 'n']
  else if c = '\r' then ['\\', 'r']
  else if c = '\t' then ['\\', 't']
  else if c.toNat < 0x20 then ['\\', 'u', '0', '0', hexDigit (c.toNat / 16), hexDigit c.toNat]
  else [c]

/-- A string between double quotes. -/
def printString (s : String) : List Char :=
  '"' :: s.toList.flatMap escapeChar ++ ['"']

/-- A number. -/
def printNumber : Number → List Char
  | .integer n _ => Text.signed n
  | .float x => Binary64.Layout.json.finite x

mutual

/-- The compact text of a tree. -/
def print : Json → List Char
  | null => ['n', 'u', 'l', 'l']
  | bool true => ['t', 'r', 'u', 'e']
  | bool false => ['f', 'a', 'l', 's', 'e']
  | number n => printNumber n
  | string s => printString s
  | array [] => ['[', ']']
  | array (a :: as) => '[' :: print a ++ printItems as
  | object [] => ['\x7b', '\x7d']
  | object ((k, a) :: as) => '\x7b' :: printString k ++ ':' :: print a ++ printFields as

/-- The items after the first, with the closing bracket. -/
def printItems : List Json → List Char
  | [] => [']']
  | a :: as => ',' :: print a ++ printItems as

/-- The fields after the first, with the closing brace. -/
def printFields : List (String × Json) → List Char
  | [] => ['\x7d']
  | (k, a) :: as => ',' :: printString k ++ ':' :: print a ++ printFields as

end

/-- The compact text of a tree as a string. -/
def text (j : Json) : String :=
  String.ofList j.print

/-- The compact text of a document. -/
def Document.print (d : Document) : List Char :=
  d.tree.print

end SpannerDialect.Json
