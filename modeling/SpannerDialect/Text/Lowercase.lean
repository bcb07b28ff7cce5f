import SpannerDialect.Text.CaseTable

/-! # Lower case

    Text in lower case by the rules of Unicode.  A capital sigma has two
    lower cases: the final one where a cased letter stands before it and
    none after it, with ignorable characters passed over on both sides. -/

namespace SpannerDialect.Text

/-- Whether one of the ranges holds the code point of a character. -/
def inRanges (ranges : List (Nat × Nat)) (c : Char) : Bool :=
  ranges.any fun r => r.1 ≤ c.toNat && c.toNat ≤ r.2

/-- Whether a run holds a code point. -/
def CaseRun.holds (r : CaseRun) (n : Nat) : Bool :=
  r.first ≤ n && n ≤ r.last && (n - r.first) % r.step == 0

/-- The lower case of a letter, or the character itself. -/
def lowerChar (c : Char) : Char :=
  if c.toNat < 0x80 then c.toLower
  else
    match lowerRuns.find? fun r => r.holds c.toNat with
    | some r => Char.ofNat (c.toNat + r.shift).toNat
    | none => c

/-- Whether the first character that is not ignored is cased. -/
def startsCased (cs : List Char) : Bool :=
  match cs.dropWhile (inRanges ignorableRanges) with
  | [] => false
  | c :: _ => inRanges casedRanges c

/-- The lower case of a sigma between the characters before it, the nearest
    first, and those after it. -/
def lowerSigma (before after : List Char) : Char :=
  if startsCased before && !startsCased after then 'ς' else 'σ'

/-- The lower case of text that stands after the given characters, the
    nearest first. -/
def lowercaseAfter (before : List Char) : List Char → List Char
  | [] => []
  | c :: cs =>
    let rest := lowercaseAfter (c :: before) cs
    if c = 'Σ' then lowerSigma before cs :: rest
    else if c = 'İ' then 'i' :: '\u0307' :: rest
    else lowerChar c :: rest

/-- Text in lower case. -/
def lowercase (cs : List Char) : List Char :=
  lowercaseAfter [] cs

end SpannerDialect.Text
