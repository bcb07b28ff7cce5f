import SpannerDialect.Value.Coercion

/-! # Values from other kinds of data

    UUIDs become text in their usual form, and decimals with a coefficient
    of 96 bits become exact decimals if they have few enough places. -/

namespace SpannerDialect.Value

/-- The groups of the digits of a UUID. -/
def uuidGroups : List Nat := [8, 4, 4, 4, 12]

/-- Whether a character is a hexadecimal digit. -/
def isHexDigit (c : Char) : Bool :=
  c.isDigit || ('a' ≤ c && c ≤ 'f') || ('A' ≤ c && c ≤ 'F')

/-- The digits of groups with hyphens between them. -/
def dropHyphens : List Nat → List Char → Option (List Char)
  | [], _ => none
  | [n], cs => if cs.length = n then some cs else none
  | n :: ns, cs =>
    match cs.drop n with
    | '-' :: rest => (dropHyphens ns rest).map (cs.take n ++ ·)
    | _ => none

/-- Groups of digits with hyphens between them. -/
def putHyphens : List Nat → List Char → List Char
  | [], _ => []
  | [n], cs => cs.take n
  | n :: ns, cs => cs.take n ++ '-' :: putHyphens ns (cs.drop n)

/-- The form with hyphens inside of braces or of a URN, whose name may be in
    any case. -/
def uuidBody (cs : List Char) : List Char :=
  if cs.length = 38 ∧ cs.head? = some '\x7b' ∧ cs.getLast? = some '\x7d' then
    (cs.drop 1).dropLast
  else if cs.length = 45 ∧ (cs.take 9).map Char.toLower = "urn:uuid:".toList then
    cs.drop 9
  else
    cs

/-- The text of a UUID: its digits in lower case in groups of 8, 4, 4, 4 and
    12. -/
def ofUuid? (text : String) : Option Value := do
  let cs := text.toList
  let ds ← if cs.length = 32 then some cs else dropHyphens uuidGroups (uuidBody cs)
  if ds.all isHexDigit then
    some (string (String.ofList (putHyphens uuidGroups (ds.map Char.toLower))))
  else
    none

/-- Drops zeros at the end of a coefficient, for at most `scale` places. -/
def trimScale : Nat → Nat → Nat × Nat
  | coefficient, 0 => (coefficient, 0)
  | coefficient, scale + 1 =>
    if coefficient % 10 = 0 then trimScale (coefficient / 10) scale else (coefficient, scale + 1)

/-- The text of a decimal. -/
def decimalText (negative : Bool) (coefficient scale : Nat) : List Char :=
  let ds := Text.padded (scale + 1) coefficient
  (if negative ∧ coefficient ≠ 0 then ['-'] else []) ++ ds.take (ds.length - scale) ++
    (if scale = 0 then [] else '.' :: ds.drop (ds.length - scale))

/-- How many places a decimal has at most. -/
def placesLimit : Nat := 28

/-- Drops the underscores that stand after a first digit. -/
def dropUnderscores (cs : List Char) : List Char :=
  cs.takeWhile (!·.isDigit) ++ (cs.dropWhile (!·.isDigit)).filter (· ≠ '_')

/-- The shortest text of a decimal, if the text given is one: a sign, digits
    with at most one point, and underscores between or after them.  It has
    at most 28 places, and nothing stands after the last of these. -/
def shortDecimal? (text : String) : Option String :=
  let (negative, unsigned) := Text.splitSign text.toList
  let (whole, fraction) := Numeric.splitPoint (dropUnderscores unsigned)
  let ds := whole ++ fraction
  let full := fraction.length = placesLimit ∧ unsigned.getLast? = some '_'
  if ds ≠ [] ∧ ds.all Char.isDigit ∧ Text.number ds ≤ Numeric.coefficientLimit ∧
      fraction.length ≤ placesLimit ∧ ¬ full then
    let (coefficient, scale) := trimScale (Text.number ds) fraction.length
    some (String.ofList (decimalText negative coefficient scale))
  else
    none

end SpannerDialect.Value
