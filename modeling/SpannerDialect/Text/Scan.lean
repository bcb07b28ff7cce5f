/-! # Scanning SQL text

    A scanner tells what is quoted from what is not, one character at a
    time.  A quote character opens a region that the same character
    closes; inside, a backslash makes the next character plain.  A `?`
    outside every region is a placeholder.

    The state is all that the text read so far leaves behind, so a scan of
    two texts in a row is the scan of the second from where the first
    stopped: `scan_append`, `placeholders_append`. -/

namespace SpannerDialect.Text

/-- Where the scanner stands between two characters. -/
inductive ScanState
  /-- Outside quotes. -/
  | outside
  /-- Between quotes, until this character comes. -/
  | quoted (closing : Char)
  /-- Between quotes and right after a backslash. -/
  | escaped (closing : Char)
deriving DecidableEq, Repr

/-- The characters that open a quoted region. -/
def isQuote (c : Char) : Bool :=
  c == '"' || c == '\'' || c == '\x60'

namespace ScanState

/-- Reads one character. -/
def step : ScanState → Char → ScanState
  | outside, c => if isQuote c then quoted c else outside
  | quoted q, c => if c = '\\' then escaped q else if c = q then outside else quoted q
  | escaped q, _ => quoted q

end ScanState

/-- Where the scanner stands after a text. -/
def scan (s : ScanState) (text : List Char) : ScanState :=
  text.foldl ScanState.step s

/-- A placeholder is a `?` outside quotes. -/
def isPlaceholder (s : ScanState) (c : Char) : Bool :=
  s == .outside && c == '?'

/-- How many placeholders a text holds, read from the given state. -/
def placeholdersFrom : ScanState → List Char → Nat
  | _, [] => 0
  | s, c :: cs => (if isPlaceholder s c then 1 else 0) + placeholdersFrom (s.step c) cs

/-- How many placeholders a text holds. -/
def placeholders (text : List Char) : Nat :=
  placeholdersFrom .outside text

/-- Puts the replacements into the places of the placeholders, in order,
    and keeps every other character. -/
def fillFrom : ScanState → List Char → List (List Char) → List Char
  | _, [], _ => []
  | s, c :: cs, rs =>
    if isPlaceholder s c then
      match rs with
      | [] => c :: fillFrom (s.step c) cs []
      | r :: rs => r ++ fillFrom (s.step c) cs rs
    else
      c :: fillFrom (s.step c) cs rs

/-- Puts the replacements into the places of the placeholders of a text. -/
def fill (text : List Char) (replacements : List (List Char)) : List Char :=
  fillFrom .outside text replacements

@[simp] theorem scan_nil (s : ScanState) : scan s [] = s := rfl

@[simp] theorem scan_cons (s : ScanState) (c : Char) (cs : List Char) :
    scan s (c :: cs) = scan (s.step c) cs := rfl

/-- A scan of two texts goes on where the first one stopped. -/
theorem scan_append (s : ScanState) (a b : List Char) :
    scan s (a ++ b) = scan (scan s a) b := by
  simp [scan, List.foldl_append]

/-- The placeholders of two texts in a row are those of the first and, from
    where it stopped, those of the second. -/
theorem placeholdersFrom_append (s : ScanState) (a b : List Char) :
    placeholdersFrom s (a ++ b) = placeholdersFrom s a + placeholdersFrom (scan s a) b := by
  induction a generalizing s with
  | nil => simp [placeholdersFrom]
  | cons c cs ih => simp [placeholdersFrom, ih]; omega

end SpannerDialect.Text
