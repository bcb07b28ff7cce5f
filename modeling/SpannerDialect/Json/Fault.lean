import SpannerDialect.Text.Bytes

/-! # Faults of JSON text

    What can be wrong with a text, and where.  A reader that stops says
    what is wrong, which part of the text it has not passed, and how many
    bytes of that part it has looked at.  The place is counted in bytes:
    the line from one, and in the line the bytes up to and with the last
    one looked at. -/

namespace SpannerDialect.Json

/-- What is wrong with a text. -/
inductive Fault
  | endInValue
  | endInList
  | endInObject
  | endInString
  | noValue
  | noColon
  | noCommaOrBracket
  | noCommaOrBrace
  | misspelledWord
  | keyNotString
  | trailingComma
  | trailingCharacters
  | invalidNumber
  | numberOutOfRange
  | invalidEscape
  | loneSurrogate
  | unfinishedPair
  | controlCharacter
  | tooDeep
deriving DecidableEq, Repr

/-- The wording of a fault. -/
def Fault.message : Fault → String
  | endInValue => "EOF while parsing a value"
  | endInList => "EOF while parsing a list"
  | endInObject => "EOF while parsing an object"
  | endInString => "EOF while parsing a string"
  | noValue => "expected value"
  | noColon => "expected `:`"
  | noCommaOrBracket => "expected `,` or `]`"
  | noCommaOrBrace => "expected `,` or `\x7d`"
  | misspelledWord => "expected ident"
  | keyNotString => "key must be a string"
  | trailingComma => "trailing comma"
  | trailingCharacters => "trailing characters"
  | invalidNumber => "invalid number"
  | numberOutOfRange => "number out of range"
  | invalidEscape => "invalid escape"
  | loneSurrogate => "lone leading surrogate in hex escape"
  | unfinishedPair => "unexpected end of hex escape"
  | controlCharacter => "control character (\\u0000-\\u001F) found while parsing a string"
  | tooDeep => "recursion limit exceeded"

/-- Where a reader stopped: the text it has not passed, and how many bytes
    of that text it has looked at. -/
structure Stop where
  fault : Fault
  rest : List Char
  seen : Nat
deriving DecidableEq

/-- A fault at the end of what has been read. -/
def Fault.at (fault : Fault) (rest : List Char) : Stop :=
  ⟨fault, rest, 0⟩

/-- A fault that the next byte shows. -/
def Fault.atNext (fault : Fault) (rest : List Char) : Stop :=
  ⟨fault, rest, 1⟩

/-- A fault with its line and its column. -/
structure ReadError where
  fault : Fault
  line : Nat
  column : Nat
deriving DecidableEq, Repr

/-- The place of a stop in the text that was read. -/
def Stop.locate (text : List Char) (stop : Stop) : ReadError :=
  let all := Text.bytes text
  let read := all.take (all.length - (Text.bytes stop.rest).length + stop.seen)
  { fault := stop.fault
    line := 1 + read.count 10
    column := (read.reverse.takeWhile (· != 10)).length }

/-- The wording of an error. -/
def ReadError.message (e : ReadError) : String :=
  s!"{e.fault.message} at line {e.line} column {e.column}"

end SpannerDialect.Json
