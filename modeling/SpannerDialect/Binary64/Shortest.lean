import SpannerDialect.Binary64.Basic
import SpannerDialect.Text.Digits

/-! # The fewest digits that read back

    A finite number is written with the fewest decimal digits that still
    round to it, and of those decimals with the nearest one.  Everything
    is exact: the interval of the reals that round to the number is
    compared with the points of ever finer decimal grids, and the first
    grid with a point inside wins.  Only the two grid points around the
    number itself have to be tried. -/

namespace SpannerDialect.Binary64

/-- A decimal magnitude, `coefficient · 10 ^ exponent`. -/
structure Decimal where
  coefficient : Nat
  exponent : Int
deriving DecidableEq, Repr

/-- Which of two equally near decimals is taken. -/
inductive Tie
  /-- The larger one. -/
  | up
  /-- The one with an even last digit. -/
  | even
deriving DecidableEq

namespace Finite

/-- Half the gap to the next number below, in quarters of the last place:
    the gap is only half as wide below a power of two. -/
def gapBelow (x : Finite) : Nat :=
  if x.significand = fullSignificand ∧ -1074 < x.exponent then 1 else 2

/-- `quarters` quarters of the last place over `gridUnit x g`, both in units
    that make them natural numbers at the grid of tenth powers `g`. -/
def gridQuarters (x : Finite) (g : Int) (quarters : Nat) : Nat :=
  (quarters <<< x.exponent.toNat) * Text.placeValue (-g).toNat

/-- The distance of two neighbours on the grid of the multiples of `10 ^ g`. -/
def gridUnit (x : Finite) (g : Int) : Nat :=
  (4 <<< (-x.exponent).toNat) * Text.placeValue g.toNat

/-- Whether the grid point `d · 10 ^ g` rounds to the number.  The ends of
    the interval do when the significand is even. -/
def readsBack (x : Finite) (g : Int) (d : Nat) : Bool :=
  let low := x.gridQuarters g (4 * x.significand - x.gapBelow)
  let high := x.gridQuarters g (4 * x.significand + 2)
  let point := d * x.gridUnit g
  if x.significand % 2 = 0 then low ≤ point && point ≤ high
  else low < point && point < high

/-- The nearest point of a grid that reads back, of the two around the
    number. -/
def onGrid? (x : Finite) (tie : Tie) (g : Int) : Option Nat :=
  let scaled := x.gridQuarters g (4 * x.significand)
  let unit := x.gridUnit g
  let q := scaled / unit
  let r := scaled % unit
  if r = 0 then some q
  else
    match x.readsBack g q, x.readsBack g (q + 1) with
    | false, false => none
    | true, false => some q
    | false, true => some (q + 1)
    | true, true =>
      if 2 * r < unit then some q
      else if unit < 2 * r then some (q + 1)
      else match tie with
        | .up => some (q + 1)
        | .even => some (if q % 2 = 0 then q else q + 1)

/-- The first of the given number of grids, from `10 ^ g` on, with a point
    that reads back. -/
def searchGrids (x : Finite) (tie : Tie) : Nat → Int → Decimal
  | 0, g => ⟨x.gridQuarters g (4 * x.significand) / x.gridUnit g, g⟩
  | n + 1, g =>
    match x.onGrid? tie g with
    | some d => ⟨d, g⟩
    | none => searchGrids x tie n (g - 1)

/-- A grid that is wider than the number. -/
def coarsestGrid (x : Finite) : Int :=
  if x.denominator ≤ x.numerator then
    (Text.digits (x.numerator / x.denominator)).length
  else
    1 - (Text.digits (x.denominator / x.numerator)).length

/-- The shortest decimal that reads back as the magnitude of a number other
    than zero.  Seventeen digits always suffice. -/
def shortest (x : Finite) (tie : Tie) : Decimal :=
  x.searchGrids tie 20 x.coarsestGrid

end Finite

end SpannerDialect.Binary64
