/-! # Decimal digits

    Numbers as runs of ASCII digits: writing, padding to a width, and
    reading back. -/

namespace SpannerDialect.Text

/-- The decimal digits of a number, with no zero in front. -/
def digits (n : Nat) : List Char :=
  Nat.toDigits 10 n

/-- The number that a run of digits stands for. -/
def number (ds : List Char) : Nat :=
  Nat.ofDigitChars 10 ds 0

/-- What a digit one stands for with `places` digits after it. -/
def placeValue (places : Nat) : Nat :=
  Nat.pow 10 places

/-- A number in at least `width` digits, zeros in front. -/
def padded (width n : Nat) : List Char :=
  List.replicate (width - (digits n).length) '0' ++ digits n

/-- An integer with `-` in front when it is negative. -/
def signed : Int → List Char
  | .ofNat n => digits n
  | .negSucc n => '-' :: digits (n + 1)

/-- The digits in front. -/
def leadingDigits (cs : List Char) : List Char :=
  cs.takeWhile Char.isDigit

/-- What stands after the digits in front. -/
def afterDigits (cs : List Char) : List Char :=
  cs.dropWhile Char.isDigit

/-- Drops the zeros at the end. -/
def trimZerosRight (ds : List Char) : List Char :=
  (ds.reverse.dropWhile (· == '0')).reverse

/-- The order of two texts, character by character: a text comes before the longer
    ones that start with it. -/
def lexical : List Char → List Char → Ordering :=
  List.compareLex fun c d => Ord.compare c.toNat d.toNat

/-- Splits a sign off: `true` for `-`, and a `+` is dropped. -/
def splitSign : List Char → Bool × List Char
  | '-' :: cs => (true, cs)
  | '+' :: cs => (false, cs)
  | cs => (false, cs)

/-- Reads an optional sign and at least one digit, and nothing else. -/
def readInteger? (cs : List Char) : Option Int :=
  let (negative, ds) := splitSign cs
  if ds ≠ [] ∧ ds.all Char.isDigit then
    some (if negative then -(number ds : Int) else number ds)
  else
    none

theorem number_digits (n : Nat) : number (digits n) = n :=
  Nat.ofDigitChars_toDigits (by decide) (by decide)

theorem isDigit_of_mem_digits {c : Char} {n : Nat} (h : c ∈ digits n) : c.isDigit = true :=
  Nat.isDigit_of_mem_toDigits (by decide) (by decide) h

end SpannerDialect.Text
