import SpannerDialect.Binary64.Shortest

/-! # Floating point numbers as text

    Two layouts of the shortest digits: the one of SQL text and of values
    on display, and the one of JSON text.  They differ in where positional
    notation ends, in the sign of a positive exponent and in which way a
    tie of two shortest decimals goes. -/

namespace SpannerDialect.Binary64

/-- The decisions of a layout. -/
structure Layout where
  tie : Tie
  /-- The least exponent of the first digit that is written positionally. -/
  leastPositional : Int
  /-- Whether a positive exponent carries a `+`. -/
  plusSign : Bool

/-- SQL text: positional from `0.0001` on and below `10 ^ 16`, then `1e16`. -/
def Layout.sql : Layout := ⟨.up, -4, false⟩

/-- JSON text: positional from `0.00001` on and below `10 ^ 16`, then `1e+16`. -/
def Layout.json : Layout := ⟨.even, -5, true⟩

namespace Layout

/-- Digits with the point after the first `whole` of them; at least one
    digit stands on either side. -/
def placePoint (ds : List Char) (whole : Int) : List Char :=
  if whole ≤ 0 then
    ['0', '.'] ++ List.replicate (-whole).toNat '0' ++ ds
  else if (ds.length : Int) ≤ whole then
    ds ++ List.replicate (whole - ds.length).toNat '0' ++ ['.', '0']
  else
    ds.take whole.toNat ++ '.' :: ds.drop whole.toNat

/-- One digit, the others after a point, and the exponent of the first. -/
def scientific (layout : Layout) (ds : List Char) (exponent : Int) : List Char :=
  ds.take 1 ++ (if ds.length ≤ 1 then [] else '.' :: ds.drop 1) ++
    'e' :: (if layout.plusSign ∧ 0 ≤ exponent then ['+'] else []) ++ Text.signed exponent

/-- A decimal magnitude. -/
def decimal (layout : Layout) (d : Decimal) : List Char :=
  let ds := Text.digits d.coefficient
  let exponent := d.exponent + ds.length - 1
  if layout.leastPositional ≤ exponent ∧ exponent < 16 then
    placePoint ds (exponent + 1)
  else
    layout.scientific ds exponent

/-- A finite number. -/
def finite (layout : Layout) (x : Finite) : List Char :=
  (if x.negative then ['-'] else []) ++
    (if x.significand = 0 then ['0', '.', '0'] else layout.decimal (x.shortest layout.tie))

/-- Any number. -/
def text (layout : Layout) : Binary64 → List Char
  | .nan => ['N', 'a', 'N']
  | .infinite negative => (if negative then ['-'] else []) ++ ['i', 'n', 'f']
  | .finite x => layout.finite x

end Layout

/-- Splits an exponent off, `e` or `E`, a sign and digits; without one the
    exponent is zero. -/
def readExponent? : List Char → Option Int
  | [] => some 0
  | c :: cs => if c = 'e' ∨ c = 'E' then Text.readInteger? cs else none

/-- Reads a decimal: digits with at most one point, at least one digit, and
    an optional exponent. -/
def readDecimal? (cs : List Char) : Option Decimal :=
  let whole := Text.leadingDigits cs
  let (fraction, rest) :=
    match Text.afterDigits cs with
    | '.' :: rest => (Text.leadingDigits rest, Text.afterDigits rest)
    | rest => ([], rest)
  if whole = [] ∧ fraction = [] then
    none
  else
    (readExponent? rest).map fun e => ⟨Text.number (whole ++ fraction), e - fraction.length⟩

/-- Reads a number: an optional sign, then a decimal, rounded to the nearest
    number, or one of the words `nan`, `inf` and `infinity` in any case. -/
def ofText? (text : List Char) : Option Binary64 :=
  let (negative, cs) := Text.splitSign text
  let word := cs.map Char.toLower
  if word = ['n', 'a', 'n'] then
    some .nan
  else if word = ['i', 'n', 'f'] ∨ word = ['i', 'n', 'f', 'i', 'n', 'i', 't', 'y'] then
    some (.infinite negative)
  else
    (readDecimal? cs).map fun d => ofDecimal negative d.coefficient d.exponent

end SpannerDialect.Binary64
