import SpannerDialect.Json.Numeral

/-! # Reading JSON text

    Strict JSON text: blanks are space, tab, line feed and carriage
    return, and brackets nest at most 127 deep.  Each reader takes the
    text that is left and gives a part of the tree with the text after
    it; the nesting that is still allowed gets smaller at every bracket,
    and a list or an object has no more members than its text has
    characters. -/

namespace SpannerDialect.Json

/-! ## Blanks and words -/

/-- A reader of one value: the value and the text after it. -/
abbrev ItemReader := List Char → Except Stop (Json × List Char)

/-- A blank of JSON text. -/
def isSpace (c : Char) : Bool :=
  c == ' ' || c == '\t' || c == '\n' || c == '\r'

/-- Drops the blanks in front. -/
def skipSpace (cs : List Char) : List Char :=
  cs.dropWhile isSpace

/-- Reads the letters of a word that stands for a value. -/
def readWord (value : Json) : List Char → List Char → Except Stop (Json × List Char)
  | [], cs => .ok (value, cs)
  | _ :: _, [] => .error (Fault.endInValue.at [])
  | l :: ls, c :: cs =>
    if c = l then readWord value ls cs else .error (Fault.misspelledWord.atNext (c :: cs))

/-! ## Strings -/

/-- The value of a hexadecimal digit. -/
def hexValue? (c : Char) : Option Nat :=
  if c.isDigit then some (c.toNat - 48)
  else if 'a' ≤ c ∧ c ≤ 'f' then some (c.toNat - 87)
  else if 'A' ≤ c ∧ c ≤ 'F' then some (c.toNat - 55)
  else none

/-- The number of some hexadecimal digits, appended to `n`. -/
def hexNumber? (n : Nat) : List Char → Option Nat
  | [] => some n
  | c :: cs => (hexValue? c).bind fun d => hexNumber? (16 * n + d) cs

/-- Four hexadecimal digits. -/
def readHex (cs : List Char) : Except Stop (Nat × List Char) :=
  if (Text.bytes cs).length < 4 then
    .error (Fault.endInString.at [])
  else
    match if (cs.take 4).length = 4 then hexNumber? 0 (cs.take 4) else none with
    | some n => .ok (n, cs.drop 4)
    | none => .error ⟨.invalidEscape, cs, 4⟩

/-- One character, which must come next. -/
def expectPairMark (mark : Char) : List Char → Except Stop (List Char)
  | [] => .error (Fault.endInString.at [])
  | c :: cs => if c = mark then .ok cs else .error (Fault.unfinishedPair.atNext (c :: cs))

/-- What follows `\u`: one unit of UTF-16, or two that make a pair. -/
def readUnit (cs : List Char) : Except Stop (Char × List Char) := do
  let (high, cs) ← readHex cs
  if 0xDC00 ≤ high ∧ high ≤ 0xDFFF then
    .error (Fault.loneSurrogate.at cs)
  else if high < 0xD800 ∨ 0xDBFF < high then
    .ok (Char.ofNat high, cs)
  else
    let cs ← expectPairMark '\\' cs
    let cs ← expectPairMark 'u' cs
    let (low, cs) ← readHex cs
    if low < 0xDC00 ∨ 0xDFFF < low then
      .error (Fault.loneSurrogate.at cs)
    else
      .ok (Char.ofNat ((high - 0xD800) * 0x400 + (low - 0xDC00) + 0x10000), cs)

/-- What follows a backslash. -/
def readEscape : List Char → Except Stop (Char × List Char)
  | [] => .error (Fault.endInString.at [])
  | c :: cs =>
    if c = '"' ∨ c = '\\' ∨ c = '/' then .ok (c, cs)
    else if c = 'b' then .ok ('\x08', cs)
    else if c = 'f' then .ok ('\x0c', cs)
    else if c = 'n' then .ok ('\n', cs)
    else if c = 'r' then .ok ('\r', cs)
    else if c = 't' then .ok ('\t', cs)
    else if c = 'u' then readUnit cs
    else .error (Fault.invalidEscape.atNext (c :: cs))

/-- The characters of a string up to its closing quote, at most `fuel` of
    them. -/
def readChars : Nat → List Char → Except Stop (List Char × List Char)
  | 0, cs => .error (Fault.endInString.at cs)
  | _ + 1, [] => .error (Fault.endInString.at [])
  | fuel + 1, c :: cs =>
    if c = '"' then
      .ok ([], cs)
    else if c.toNat < 0x20 then
      .error (Fault.controlCharacter.atNext (c :: cs))
    else do
      let (d, cs) ← if c = '\\' then readEscape cs else .ok (c, cs)
      let (ds, cs) ← readChars fuel cs
      .ok (d :: ds, cs)

/-- A string after its opening quote. -/
def readString (cs : List Char) : Except Stop (String × List Char) := do
  let (ds, rest) ← readChars (cs.length + 1) cs
  .ok (String.ofList ds, rest)

/-! ## Lists and objects -/

/-- The items after the first, at most `fuel` of them, up to the closing
    bracket. -/
def readItems (item : ItemReader) : Nat → List Char → Except Stop (List Json × List Char)
  | 0, cs => .error (Fault.endInList.at cs)
  | fuel + 1, cs =>
    match skipSpace cs with
    | [] => .error (Fault.endInList.at [])
    | c :: cs =>
      if c = ']' then
        .ok ([], cs)
      else if c = ',' then
        match skipSpace cs with
        | [] => .error (Fault.endInValue.at [])
        | d :: ds =>
          if d = ']' then
            .error (Fault.trailingComma.atNext (d :: ds))
          else do
            let (a, rest) ← item (d :: ds)
            let (as, rest) ← readItems item fuel rest
            .ok (a :: as, rest)
      else
        .error (Fault.noCommaOrBracket.atNext (c :: cs))

/-- A list after its opening bracket. -/
def readList (item : ItemReader) (cs : List Char) : Except Stop (Json × List Char) :=
  match skipSpace cs with
  | [] => .error (Fault.endInList.at [])
  | c :: cs =>
    if c = ']' then
      .ok (.array [], cs)
    else do
      let (a, rest) ← item (c :: cs)
      let (as, rest) ← readItems item (rest.length + 1) rest
      .ok (.array (a :: as), rest)

/-- A field from its opening quote on. -/
def readField (item : ItemReader) : List Char → Except Stop ((String × Json) × List Char)
  | [] => .error (Fault.endInValue.at [])
  | c :: cs =>
    if c = '\x7d' then
      .error (Fault.trailingComma.atNext (c :: cs))
    else if c ≠ '"' then
      .error (Fault.keyNotString.atNext (c :: cs))
    else do
      let (key, rest) ← readString cs
      match skipSpace rest with
      | [] => .error (Fault.endInObject.at [])
      | d :: ds =>
        if d = ':' then do
          let (value, rest) ← item ds
          .ok ((key, value), rest)
        else
          .error (Fault.noColon.atNext (d :: ds))

/-- The fields after the first, at most `fuel` of them, up to the closing
    brace. -/
def readFields (item : ItemReader) :
    Nat → List Char → Except Stop (List (String × Json) × List Char)
  | 0, cs => .error (Fault.endInObject.at cs)
  | fuel + 1, cs =>
    match skipSpace cs with
    | [] => .error (Fault.endInObject.at [])
    | c :: cs =>
      if c = '\x7d' then
        .ok ([], cs)
      else if c = ',' then do
        let (field, rest) ← readField item (skipSpace cs)
        let (fields, rest) ← readFields item fuel rest
        .ok (field :: fields, rest)
      else
        .error (Fault.noCommaOrBrace.atNext (c :: cs))

/-- An object after its opening brace. -/
def readObject (item : ItemReader) (cs : List Char) : Except Stop (Json × List Char) :=
  match skipSpace cs with
  | [] => .error (Fault.endInObject.at [])
  | c :: cs =>
    if c = '\x7d' then
      .ok (.object [], cs)
    else do
      let (field, rest) ← readField item (c :: cs)
      let (fields, rest) ← readFields item (rest.length + 1) rest
      .ok (.object (field :: fields), rest)

/-! ## Documents -/

/-- A value whose brackets nest at most `depth` deep. -/
def readValue (depth : Nat) (cs : List Char) : Except Stop (Json × List Char) :=
  match skipSpace cs with
  | [] => .error (Fault.endInValue.at [])
  | c :: cs =>
    if c = '[' ∨ c = '\x7b' then
      match depth with
      | 0 => .error (Fault.tooDeep.atNext (c :: cs))
      | depth + 1 =>
        if c = '[' then readList (readValue depth) cs else readObject (readValue depth) cs
    else if c = '"' then do
      let (s, rest) ← readString cs
      .ok (.string s, rest)
    else if c = '-' then do
      let (n, rest) ← readNumber true cs
      .ok (.number n, rest)
    else if c.isDigit then do
      let (n, rest) ← readNumber false (c :: cs)
      .ok (.number n, rest)
    else if c = 'n' then readWord .null ['u', 'l', 'l'] cs
    else if c = 't' then readWord (.bool true) ['r', 'u', 'e'] cs
    else if c = 'f' then readWord (.bool false) ['a', 'l', 's', 'e'] cs
    else .error (Fault.noValue.atNext (c :: cs))

/-- The deepest nesting of brackets. -/
def nestingLimit : Nat := 127

/-- A value and nothing after it but blanks. -/
def readWhole (text : List Char) : Except Stop Json := do
  let (value, rest) ← readValue nestingLimit text
  let rest := skipSpace rest
  if rest = [] then .ok value else .error (Fault.trailingCharacters.atNext rest)

/-- Reads a document. -/
def Document.read (text : List Char) : Except ReadError Document :=
  match readWhole text with
  | .ok tree => .ok (.ofTree tree)
  | .error stop => .error (stop.locate text)

/-- Reads a tree, its objects in order. -/
def read (text : List Char) : Except ReadError Json :=
  (Document.read text).map Document.tree

end SpannerDialect.Json
