import SpannerDialect.Json.Basic
import SpannerDialect.Json.Fault
import SpannerDialect.Text.Digits

/-! # Numbers in JSON text

    Digits are gathered into a word of 64 bits.  Whole numbers that fit
    stay whole.  Otherwise the word is scaled by a power of ten in
    floating point: digits of the whole part that no longer fit into the
    word raise the power, such digits of the fraction are dropped, and
    each product or quotient is rounded. -/

namespace SpannerDialect.Json

/-- A number read, and the text after it. -/
abbrev NumberStep := Except Stop (Number × List Char)

/-- Whether the next character is a digit. -/
def startsWithDigit : List Char → Bool
  | [] => false
  | c :: _ => c.isDigit

/-- Appends digits to a number as long as it does not pass the limit. -/
def takeDigits (limit : Nat) : Nat → List Char → Nat × List Char
  | n, [] => (n, [])
  | n, c :: cs =>
    if c.isDigit ∧ n * 10 + Text.number [c] ≤ limit then
      takeDigits limit (n * 10 + Text.number [c]) cs
    else
      (n, c :: cs)

/-- The largest word of 64 bits. -/
def wordLimit : Nat := 0xFFFFFFFFFFFFFFFF

/-- The largest exponent that is counted. -/
def exponentLimit : Nat := 0x7FFFFFFF

/-- The double nearest to `10 ^ n`, for `n` up to 308. -/
def powerOfTen (n : Nat) : Binary64.Finite :=
  (Binary64.ofRatio false (Text.placeValue n) 1).finite?.getD (.zero false)

/-- A magnitude over `10 ^ n`. -/
def overPower (x : Binary64.Finite) (n : Nat) : Binary64.Finite :=
  (x.div (powerOfTen n)).finite?.getD (.zero x.negative)

/-- A magnitude over `10 ^ n`, in steps of at most 308 powers. -/
def scaleDown (x : Binary64.Finite) (n : Nat) : Binary64.Finite :=
  if n ≤ 308 then overPower x n
  else if x.significand = 0 then x
  else scaleDown (overPower x 308) (n - 308)
termination_by n

/-- `significand · 10 ^ exponent` in floating point, or nothing when it is
    too large. -/
def scaleWord? (significand : Nat) (exponent : Int) : Option Binary64.Finite :=
  (Binary64.ofRatio false significand 1).finite?.bind fun x =>
    if exponent < 0 then some (scaleDown x exponent.natAbs)
    else if exponent ≤ 308 then (x.mul (powerOfTen exponent.natAbs)).finite?
    else if x.significand = 0 then some x
    else none

/-- A floating point number from its sign, word and power of ten, where the
    text after it is `rest`. -/
def floatNumber (negative : Bool) (significand : Nat) (exponent : Int) (rest : List Char) :
    NumberStep :=
  match scaleWord? significand exponent with
  | some x => .ok (.float (x.withSign negative), rest)
  | none => .error (Fault.numberOutOfRange.at rest)

/-- Splits the sign of an exponent off: `true` for `-`. -/
def exponentSign : List Char → Bool × List Char
  | '+' :: cs => (false, cs)
  | '-' :: cs => (true, cs)
  | cs => (false, cs)

/-- What follows the `e` of a number whose digits so far are
    `significand · 10 ^ power`. -/
def readExponent (negative : Bool) (significand : Nat) (power : Int) (cs : List Char) :
    NumberStep :=
  let (down, cs) := exponentSign cs
  if cs = [] then
    .error (Fault.endInValue.at cs)
  else if !startsWithDigit cs then
    .error (Fault.invalidNumber.atNext cs)
  else
    let (e, rest) := takeDigits exponentLimit 0 cs
    if startsWithDigit rest then
      if significand ≠ 0 ∧ !down then
        .error (Fault.numberOutOfRange.atNext rest)
      else
        .ok (.float (.zero negative), Text.afterDigits rest)
    else
      floatNumber negative significand (if down then power - e else power + e) rest

/-- The end of a number with a point or too many digits: an exponent or
    nothing. -/
def readPower (negative : Bool) (significand : Nat) (power : Int) : List Char → NumberStep
  | [] => floatNumber negative significand power []
  | c :: cs =>
    if c = 'e' ∨ c = 'E' then readExponent negative significand power cs
    else floatNumber negative significand power (c :: cs)

/-- What follows the point. -/
def readFraction (negative : Bool) (significand : Nat) (power : Int) (cs : List Char) :
    NumberStep :=
  let (n, rest) := takeDigits wordLimit significand cs
  let power := power - (cs.length - rest.length : Nat)
  if startsWithDigit rest then
    readPower negative n power (Text.afterDigits rest)
  else if cs = [] then
    .error (Fault.endInValue.at cs)
  else if !startsWithDigit cs then
    .error (Fault.invalidNumber.atNext cs)
  else
    readPower negative n power rest

/-- A number without point and exponent. -/
def wholeNumber (negative : Bool) (n : Nat) (rest : List Char) : NumberStep :=
  let i : Int := if negative then -n else n
  if h : FitsWord i ∧ (negative → n ≠ 0) then
    .ok (.integer i h.1, rest)
  else
    floatNumber negative n 0 rest

/-- A number after its sign. -/
def readNumber (negative : Bool) (cs : List Char) : NumberStep :=
  if cs = [] then
    .error (Fault.endInValue.at cs)
  else if !startsWithDigit cs then
    .error (Fault.invalidNumber.atNext cs)
  else if cs.head? = some '0' ∧ startsWithDigit cs.tail then
    .error (Fault.invalidNumber.atNext cs.tail)
  else
    let (n, beyond) := takeDigits wordLimit 0 cs
    let power := (Text.leadingDigits beyond).length
    match Text.afterDigits beyond with
    | '.' :: rest => readFraction negative n power rest
    | rest =>
      if power = 0 ∧ rest.head? ≠ some 'e' ∧ rest.head? ≠ some 'E' then
        wholeNumber negative n rest
      else
        readPower negative n power rest

end SpannerDialect.Json
