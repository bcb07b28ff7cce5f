import SpannerDialect.Text.Bytes

/-! # Base64

    Bytes as text over the standard alphabet, three bytes in four symbols,
    with padding.  Reading takes exactly what writing produces: the
    padding has to be there and no bit may be left over.  An error names
    the first symbol that is wrong, by its byte and its place in the text
    as UTF-8. -/

namespace SpannerDialect.Text.Base64

/-- The symbol of six bits. -/
def symbol (n : Nat) : Char :=
  if n < 26 then Char.ofNat (65 + n)
  else if n < 52 then Char.ofNat (97 + (n - 26))
  else if n < 62 then Char.ofNat (48 + (n - 52))
  else if n = 62 then '+'
  else '/'

/-- The six bits of a byte of text, if it is a symbol. -/
def bits? (b : UInt8) : Option Nat :=
  let n := b.toNat
  if 65 ≤ n ∧ n ≤ 90 then some (n - 65)
  else if 97 ≤ n ∧ n ≤ 122 then some (n - 97 + 26)
  else if 48 ≤ n ∧ n ≤ 57 then some (n - 48 + 52)
  else if n = 43 then some 62
  else if n = 47 then some 63
  else none

/-- The byte of the padding mark `=`. -/
def paddingMark : UInt8 := 61

/-- The text of some bytes. -/
def encode : List UInt8 → List Char
  | [] => []
  | [a] =>
    let n := a.toNat * 16
    [symbol (n / 64), symbol (n % 64), '=', '=']
  | [a, b] =>
    let n := (a.toNat * 256 + b.toNat) * 4
    [symbol (n / 4096), symbol (n / 64 % 64), symbol (n % 64), '=']
  | a :: b :: c :: rest =>
    let n := (a.toNat * 256 + b.toNat) * 256 + c.toNat
    symbol (n / 262144) :: symbol (n / 4096 % 64) :: symbol (n / 64 % 64) :: symbol (n % 64) ::
      encode rest

/-- What is wrong with a text. -/
inductive DecodeError
  /-- A byte that is no symbol, or a padding mark in a wrong place. -/
  | invalidSymbol (byte : UInt8) (offset : Nat)
  /-- A last group of one symbol. -/
  | invalidLength (length : Nat)
  /-- A last symbol with bits that belong to no byte. -/
  | invalidLastSymbol (byte : UInt8) (offset : Nat)
  /-- Missing padding. -/
  | invalidPadding
deriving DecidableEq, Repr

/-- The wording of an error. -/
def DecodeError.message : DecodeError → String
  | invalidSymbol byte offset => s!"Invalid symbol {byte.toNat}, offset {offset}."
  | invalidLength length => s!"Invalid input length: {length}"
  | invalidLastSymbol byte offset => s!"Invalid last symbol {byte.toNat}, offset {offset}."
  | invalidPadding => "Invalid padding"

/-- The six bits of a byte of text at an offset. -/
def bitsAt (byte : UInt8) (offset : Nat) : Except DecodeError Nat :=
  match bits? byte with
  | some n => .ok n
  | none => .error (.invalidSymbol byte offset)

/-- The three bytes of four symbols. -/
def decodeGroup (offset : Nat) (a b c d : UInt8) : Except DecodeError (List UInt8) := do
  let a ← bitsAt a offset
  let b ← bitsAt b (offset + 1)
  let c ← bitsAt c (offset + 2)
  let d ← bitsAt d (offset + 3)
  let n := ((a * 64 + b) * 64 + c) * 64 + d
  return [UInt8.ofNat (n / 65536), UInt8.ofNat (n / 256), UInt8.ofNat n]

/-- The symbols of the last group from its `index` on, and the number of
    padding marks.  `start` is where the first mark stood, once one came.  A padding mark
    may not stand before the third place, and no symbol after one. -/
def lastSymbols (offset : Nat) : Nat → Option Nat → List UInt8 → Except DecodeError (List Nat × Nat)
  | _, _, [] => .ok ([], 0)
  | index, start, b :: bs =>
    if b = paddingMark then
      if index < 2 then
        .error (.invalidSymbol b (offset + index))
      else do
        let (symbols, marks) ← lastSymbols offset (index + 1) (some (start.getD index)) bs
        return (symbols, marks + 1)
    else
      match start with
      | some first => .error (.invalidSymbol paddingMark (offset + first))
      | none => do
        let n ← bitsAt b (offset + index)
        let (symbols, marks) ← lastSymbols offset (index + 1) none bs
        return (n :: symbols, marks)

/-- The bytes of the last group: four symbols, or two or three with padding. -/
def decodeLast (offset : Nat) (group : List UInt8) : Except DecodeError (List UInt8) := do
  let (symbols, marks) ← lastSymbols offset 0 none group
  let leftOver (k : Nat) : DecodeError :=
    .invalidLastSymbol (group[k]?.getD 0) (offset + k)
  if symbols.length = 1 then
    throw (.invalidLength (offset + symbols.length))
  if (symbols.length + marks) % 4 ≠ 0 then
    throw .invalidPadding
  match symbols with
  | [a, b] =>
    if b % 16 = 0 then return [UInt8.ofNat (a * 4 + b / 16)] else throw (leftOver 1)
  | [a, b, c] =>
    let n := (a * 64 + b) * 64 + c
    if c % 4 = 0 then return [UInt8.ofNat (n / 1024), UInt8.ofNat (n / 4)] else throw (leftOver 2)
  | [a, b, c, d] =>
    let n := ((a * 64 + b) * 64 + c) * 64 + d
    return [UInt8.ofNat (n / 65536), UInt8.ofNat (n / 256), UInt8.ofNat n]
  | _ => return []

/-- The bytes of groups from an offset on.  The last group, of at most four
    bytes, may have padding. -/
def decodeGroups (offset : Nat) : List UInt8 → Except DecodeError (List UInt8)
  | a :: b :: c :: d :: e :: rest => do
    let group ← decodeGroup offset a b c d
    let bytes ← decodeGroups (offset + 4) (e :: rest)
    return group ++ bytes
  | last => decodeLast offset last

/-- The bytes of a text.  When one symbol too many is no symbol at all, that
    is told before all else. -/
def decode (text : List Char) : Except DecodeError (List UInt8) :=
  let all := bytes text
  match all.getLast? with
  | some last =>
    if all.length % 4 = 1 ∧ last ≠ paddingMark ∧ bits? last = none then
      .error (.invalidSymbol last (all.length - 1))
    else
      decodeGroups 0 all
  | none => .ok []

end SpannerDialect.Text.Base64
