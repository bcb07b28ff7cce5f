import SpannerDialect.Text.Digits

/-! # Binary floating point numbers of 64 bits

    A number is what it stands for: a finite one is a sign and
    `significand · 2 ^ exponent` in normal form, and beside those there
    are two infinities and "not a number".  All arithmetic is exact on
    natural numbers and rounds once, to the nearest and on a tie to the
    even significand. -/

namespace SpannerDialect

namespace Binary64

/-- The least significand of 53 bits. -/
def fullSignificand : Nat := 0x10000000000000

/-- A significand and exponent in normal form: 53 significant bits, fewer
    only at the least exponent. -/
def Normal (significand : Nat) (exponent : Int) : Prop :=
  significand < 2 * fullSignificand ∧ (fullSignificand ≤ significand ∨ exponent = -1074) ∧
    -1074 ≤ exponent ∧ exponent ≤ 971

instance (m : Nat) (e : Int) : Decidable (Normal m e) := by
  unfold Normal; infer_instance

/-- A finite number, `± significand · 2 ^ exponent`. -/
structure Finite where
  negative : Bool
  significand : Nat
  exponent : Int
  normal : Normal significand exponent
deriving DecidableEq

end Binary64

/-- A floating point number of 64 bits. -/
inductive Binary64
  /-- Not a number. -/
  | nan
  | infinite (negative : Bool)
  | finite (x : Binary64.Finite)
deriving DecidableEq

namespace Binary64

namespace Finite

/-- Zero, with a sign. -/
def zero (negative : Bool) : Finite :=
  ⟨negative, 0, -1074, by decide⟩

/-- The same magnitude under the given sign. -/
def withSign (x : Finite) (negative : Bool) : Finite :=
  { x with negative := negative }

/-- The magnitude as a ratio: its numerator. -/
def numerator (x : Finite) : Nat :=
  x.significand <<< x.exponent.toNat

/-- The magnitude as a ratio: its denominator. -/
def denominator (x : Finite) : Nat :=
  1 <<< (-x.exponent).toNat

/-- Equality of numbers: the two zeros are one number. -/
def same (x y : Finite) : Bool :=
  (x.significand == 0 && y.significand == 0) || x == y

end Finite

/-- Equality of numbers: a NaN differs from all, and the two zeros are one
    number. -/
def same : Binary64 → Binary64 → Bool
  | finite x, finite y => x.same y
  | infinite s, infinite t => s == t
  | _, _ => false

/-- The finite number inside. -/
def finite? : Binary64 → Option Finite
  | finite x => some x
  | _ => none

/-- `num / den` rounded to the nearest integer, a tie to the even one. -/
def roundHalfEven (num den : Nat) : Nat :=
  let q := num / den
  let r := num % den
  if den < 2 * r ∨ (den = 2 * r ∧ q % 2 = 1) then q + 1 else q

/-- The exponent of the last of 53 bits of `num / den`, or the least
    exponent when there is no room for 53. -/
def scaleOf (num den : Nat) : Int :=
  let e : Int := (num.log2 : Int) - den.log2 - 53
  let e := if 2 * fullSignificand * (den <<< e.toNat) ≤ num <<< (-e).toNat then e + 1 else e
  max e (-1074)

/-- The number nearest to `± num / den`, infinite when that is too large. -/
def ofRatio (negative : Bool) (num den : Nat) : Binary64 :=
  if num = 0 then
    finite (.zero negative)
  else
    let e := scaleOf num den
    let m := roundHalfEven (num <<< (-e).toNat) (den <<< e.toNat)
    let (m, e) := if m = 2 * fullSignificand then (fullSignificand, e + 1) else (m, e)
    if h : Normal m e then finite ⟨negative, m, e, h⟩ else infinite negative

/-- The number nearest to an integer. -/
def ofInt (i : Int) : Binary64 :=
  ofRatio (i < 0) i.natAbs 1

/-- The number nearest to `± coefficient · 10 ^ exponent`.  Outside of the
    powers of ten that a double can hold, the answer needs no arithmetic. -/
def ofDecimal (negative : Bool) (coefficient : Nat) (exponent : Int) : Binary64 :=
  let width : Int := (Nat.toDigits 10 coefficient).length
  if coefficient = 0 ∨ width + exponent < -400 then
    finite (.zero negative)
  else if 400 < width + exponent then
    infinite negative
  else
    ofRatio negative (coefficient * Text.placeValue exponent.toNat)
      (Text.placeValue (-exponent).toNat)

/-- The product, rounded. -/
def Finite.mul (x y : Finite) : Binary64 :=
  ofRatio (x.negative != y.negative) (x.numerator * y.numerator) (x.denominator * y.denominator)

/-- The quotient by a number other than zero, rounded. -/
def Finite.div (x y : Finite) : Binary64 :=
  ofRatio (x.negative != y.negative) (x.numerator * y.denominator) (x.denominator * y.numerator)

end Binary64

end SpannerDialect
