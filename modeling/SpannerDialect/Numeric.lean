import SpannerDialect.Text.Digits

/-! # Exact decimals

    A NUMERIC value is a whole number of billionths, with at most 29
    digits before the point.  Reading takes decimal text with any number
    of zeros at its ends; writing gives the one text without such zeros.
    So values are equal when their texts are, and their order can be told
    from the digits. -/

namespace SpannerDialect

/-- A decimal with 29 digits before and 9 after the point. -/
structure Numeric where
  billionths : Int
  bounded : billionths.natAbs < Text.placeValue 38
deriving DecidableEq

namespace Numeric

/-- The billionths of a whole one. -/
def unit : Nat := 1000000000

/-- What is wrong with a text. -/
inductive Fault
  /-- It is no decimal. -/
  | notDecimal
  /-- It has too many digits. -/
  | tooWide
deriving DecidableEq, Repr

/-- The digits before and after the first point. -/
def splitPoint (cs : List Char) : List Char × List Char :=
  (cs.takeWhile (· != '.'), (cs.dropWhile (· != '.')).drop 1)

/-- Reads an optional sign, digits and at most one point, with at least one
    digit. -/
def parse (text : List Char) : Except Fault Numeric :=
  let (negative, unsigned) := Text.splitSign text
  let (whole, fraction) := splitPoint unsigned
  if (whole = [] ∧ fraction = []) ∨ ¬ (whole.all Char.isDigit ∧ fraction.all Char.isDigit) then
    .error .notDecimal
  else
    let fraction := Text.trimZerosRight fraction
    let size : Nat :=
      Text.number whole * unit + Text.number fraction * Text.placeValue (9 - fraction.length)
    let n : Int := if negative then -(size : Int) else size
    if h : fraction.length ≤ 9 ∧ n.natAbs < Text.placeValue 38 then .ok ⟨n, h.2⟩ else .error .tooWide

/-- The digits before the point. -/
def wholeDigits (n : Numeric) : List Char :=
  Text.digits (n.billionths.natAbs / unit)

/-- The digits after the point, without zeros at the end. -/
def fractionDigits (n : Numeric) : List Char :=
  Text.trimZerosRight (Text.padded 9 (n.billionths.natAbs % unit))

/-- Whether the value is below zero. -/
def isNegative (n : Numeric) : Bool :=
  n.billionths < 0

/-- The shortest text of a value. -/
def text (n : Numeric) : List Char :=
  (if n.isNegative then ['-'] else []) ++ n.wholeDigits ++
    (if n.fractionDigits = [] then [] else '.' :: n.fractionDigits)

/-- A whole number. -/
def ofInt64 (i : Int64) : Numeric :=
  ⟨i.toInt * unit, by
    have h1 := i.toInt_lt
    have h2 := i.le_toInt
    have h3 : Text.placeValue 38 = 100000000000000000000000000000000000000 := rfl
    simp only [unit]
    omega⟩

/-- The order of the digits of two values.  More digits before the point make the
    larger number; digits in the same places are compared from the first one on,
    before the point and then behind it. -/
def compareDigits (a b : Numeric) : Ordering :=
  ((Ord.compare a.wholeDigits.length b.wholeDigits.length).then
    (Text.lexical a.wholeDigits b.wholeDigits)).then
    (Text.lexical a.fractionDigits b.fractionDigits)

/-- The order of the values: by sign, and then by the digits, the other way round
    below zero. -/
def compare (a b : Numeric) : Ordering :=
  match a.isNegative, b.isNegative with
  | true, false => .lt
  | false, true => .gt
  | false, false => a.compareDigits b
  | true, true => (a.compareDigits b).swap

/-- Some values in ascending order. -/
def sorted (ns : List Numeric) : List Numeric :=
  ns.mergeSort fun a b => (a.compare b).isLE

/-- The largest coefficient of a decimal with a coefficient of 96 bits. -/
def coefficientLimit : Nat := 0xFFFFFFFFFFFFFFFFFFFFFFFF

/-- The text of a value whose digits, without the point, make a number of at
    most 96 bits. -/
def decimalText? (n : Numeric) : Option (List Char) :=
  if Text.number (n.wholeDigits ++ n.fractionDigits) ≤ coefficientLimit then some n.text else none

end Numeric

end SpannerDialect
