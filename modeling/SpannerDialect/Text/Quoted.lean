/-! # Quoted names and string literals

    A name stands between back-quotes, a string literal between double
    quotes.  Text of several lines takes the raw triple-quoted form, which
    keeps line ends as written; a backslash cannot be escaped there, so
    text with one always takes the escaped form. -/

namespace SpannerDialect.Text

/-- Puts a backslash before every back-quote. -/
def escapeName : List Char → List Char
  | [] => []
  | c :: cs => if c = '\x60' then '\\' :: c :: escapeName cs else c :: escapeName cs

/-- A name between back-quotes. -/
def quoteName (name : String) : List Char :=
  '\x60' :: escapeName name.toList ++ ['\x60']

/-- Joins texts, with a separator between neighbours. -/
def join (separator : List Char) : List (List Char) → List Char
  | [] => []
  | [t] => t
  | t :: ts => t ++ separator ++ join separator ts

/-- Quoted names, a comma and a blank between neighbours. -/
def quoteNames (names : List String) : List Char :=
  join [',', ' '] (names.map quoteName)

/-- One character inside the escaped form. -/
def escapeChar (c : Char) : List Char :=
  if c = '\\' ∨ c = '"' then ['\\', c]
  else if c = '\n' then ['\\', 'n']
  else if c = '\r' then ['\\', 'r']
  else [c]

/-- One character inside the raw form. -/
def escapeRawChar (c : Char) : List Char :=
  if c = '"' then ['\\', c] else [c]

/-- Three double quotes, the delimiter of the raw form. -/
def tripleQuote : List Char :=
  ['"', '"', '"']

/-- Whether text takes the raw form. -/
def takesRawForm (text : List Char) : Bool :=
  text.contains '\n' && !text.contains '\\'

/-- Text as a string literal. -/
def quoteText (text : List Char) : List Char :=
  if takesRawForm text then
    'r' :: tripleQuote ++ text.flatMap escapeRawChar ++ tripleQuote
  else
    '"' :: text.flatMap escapeChar ++ ['"']

end SpannerDialect.Text
