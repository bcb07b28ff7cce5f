import SpannerDialect.Text.Base64

/-! # Base64 read back

    A symbol is one byte of text and is read back as the six bits that it
    was written for.  So a group of four symbols gives the three bytes it
    was made of, a last group with padding the one or two bytes before it,
    and a text all bytes that it was written for (`Base64.decode_encode`). -/

namespace SpannerDialect.Text.Base64

/-- The byte of a symbol. -/
def symbolByte (n : Nat) : UInt8 :=
  UInt8.ofNat (symbol n).toNat

/-- A symbol is one byte of text. -/
theorem bytes_symbol {n : Nat} (h : n < 64) :
    String.utf8EncodeChar (symbol n) = [symbolByte n] := by
  revert n
  decide

theorem bits?_symbolByte {n : Nat} (h : n < 64) : bits? (symbolByte n) = some n := by
  revert n
  decide

theorem symbolByte_ne_paddingMark {n : Nat} (h : n < 64) : symbolByte n ≠ paddingMark := by
  revert n
  decide

theorem bytes_symbol_cons {n : Nat} (h : n < 64) (cs : List Char) :
    bytes (symbol n :: cs) = symbolByte n :: bytes cs := by
  rw [bytes_cons, bytes_symbol h]
  rfl

theorem bitsAt_symbolByte {n : Nat} (h : n < 64) (offset : Nat) :
    bitsAt (symbolByte n) offset = .ok n := by
  rw [bitsAt, bits?_symbolByte h]

theorem bytes_paddingMark_cons (cs : List Char) :
    bytes ('=' :: cs) = paddingMark :: bytes cs :=
  bytes_cons '=' cs

/-! ## Groups -/

/-- A group is read back as the bytes of its number. -/
theorem decodeGroup_symbols {a b c d : Nat} (ha : a < 64) (hb : b < 64) (hc : c < 64)
    (hd : d < 64) (offset : Nat) :
    decodeGroup offset (symbolByte a) (symbolByte b) (symbolByte c) (symbolByte d) =
      .ok [UInt8.ofNat ((((a * 64 + b) * 64 + c) * 64 + d) / 65536),
        UInt8.ofNat ((((a * 64 + b) * 64 + c) * 64 + d) / 256),
        UInt8.ofNat (((a * 64 + b) * 64 + c) * 64 + d)] := by
  rw [decodeGroup, bitsAt_symbolByte ha, bitsAt_symbolByte hb, bitsAt_symbolByte hc,
    bitsAt_symbolByte hd]
  rfl

/-- A symbol of the last group, before any padding. -/
theorem lastSymbols_symbol {n : Nat} (h : n < 64) (offset index : Nat) {bs : List UInt8}
    {symbols : List Nat} {marks : Nat}
    (hbs : lastSymbols offset (index + 1) none bs = .ok (symbols, marks)) :
    lastSymbols offset index none (symbolByte n :: bs) = .ok (n :: symbols, marks) := by
  rw [lastSymbols, if_neg (symbolByte_ne_paddingMark h), bitsAt_symbolByte h]
  show (lastSymbols offset (index + 1) none bs).bind _ = _
  rw [hbs]
  rfl

theorem decodeLast_four {a b c d : Nat} (ha : a < 64) (hb : b < 64) (hc : c < 64) (hd : d < 64)
    (offset : Nat) :
    decodeLast offset [symbolByte a, symbolByte b, symbolByte c, symbolByte d] =
      .ok [UInt8.ofNat ((((a * 64 + b) * 64 + c) * 64 + d) / 65536),
        UInt8.ofNat ((((a * 64 + b) * 64 + c) * 64 + d) / 256),
        UInt8.ofNat (((a * 64 + b) * 64 + c) * 64 + d)] := by
  have hend : lastSymbols offset 4 none [] = .ok ([], 0) := rfl
  have hsymbols := lastSymbols_symbol ha offset 0 (lastSymbols_symbol hb offset 1
    (lastSymbols_symbol hc offset 2 (lastSymbols_symbol hd offset 3 hend)))
  simp [decodeLast, hsymbols, bind, Except.bind, pure, Except.pure]

theorem decodeLast_three {a b c : Nat} (ha : a < 64) (hb : b < 64) (hc : c < 64)
    (hzero : c % 4 = 0) (offset : Nat) :
    decodeLast offset [symbolByte a, symbolByte b, symbolByte c, paddingMark] =
      .ok [UInt8.ofNat (((a * 64 + b) * 64 + c) / 1024),
        UInt8.ofNat (((a * 64 + b) * 64 + c) / 4)] := by
  have hend : lastSymbols offset 3 none [paddingMark] = .ok ([], 1) := rfl
  have hsymbols := lastSymbols_symbol ha offset 0 (lastSymbols_symbol hb offset 1
    (lastSymbols_symbol hc offset 2 hend))
  simp [decodeLast, hsymbols, bind, Except.bind, pure, Except.pure, hzero]

theorem decodeLast_two {a b : Nat} (ha : a < 64) (hb : b < 64) (hzero : b % 16 = 0)
    (offset : Nat) :
    decodeLast offset [symbolByte a, symbolByte b, paddingMark, paddingMark] =
      .ok [UInt8.ofNat (a * 4 + b / 16)] := by
  have hend : lastSymbols offset 2 none [paddingMark, paddingMark] = .ok ([], 2) := rfl
  have hsymbols := lastSymbols_symbol ha offset 0 (lastSymbols_symbol hb offset 1 hend)
  simp [decodeLast, hsymbols, bind, Except.bind, pure, Except.pure, hzero]

/-! ## Texts -/

theorem ofNat_eq_of_mod {n : Nat} {b : UInt8} (h : n % 256 = b.toNat) : UInt8.ofNat n = b := by
  apply UInt8.toNat_inj.mp
  rw [UInt8.toNat_ofNat', h]

/-- The text of a byte or more is not empty. -/
theorem exists_bytes_encode_cons (a : UInt8) (bs : List UInt8) :
    ∃ e es, bytes (encode (a :: bs)) = e :: es := by
  have ha := a.toNat_lt
  match bs with
  | [] => exact ⟨_, _, bytes_symbol_cons (by omega) _⟩
  | [b] =>
      have hb := b.toNat_lt
      exact ⟨_, _, bytes_symbol_cons (by omega) _⟩
  | b :: c :: rest =>
      have hb := b.toNat_lt
      have hc := c.toNat_lt
      exact ⟨_, _, bytes_symbol_cons (by omega) _⟩

/-- The groups of a text are read back. -/
theorem decodeGroups_encode (bs : List UInt8) (hne : bs ≠ []) (offset : Nat) :
    decodeGroups offset (bytes (encode bs)) = .ok bs := by
  fun_induction encode bs generalizing offset with
  | case1 => exact absurd rfl hne
  | case2 a n =>
      have ha := a.toNat_lt
      have h1 : n / 64 < 64 := by omega
      have h2 : n % 64 < 64 := by omega
      have hzero : n % 64 % 16 = 0 := by omega
      have hbyte : UInt8.ofNat (n / 64 * 4 + n % 64 / 16) = a := ofNat_eq_of_mod (by omega)
      rw [bytes_symbol_cons h1, bytes_symbol_cons h2, bytes_paddingMark_cons,
        bytes_paddingMark_cons]
      show decodeLast offset _ = _
      rw [bytes_nil, decodeLast_two h1 h2 hzero, hbyte]
  | case3 a b n =>
      have ha := a.toNat_lt
      have hb := b.toNat_lt
      have h1 : n / 4096 < 64 := by omega
      have h2 : n / 64 % 64 < 64 := by omega
      have h3 : n % 64 < 64 := by omega
      have hzero : n % 64 % 4 = 0 := by omega
      have hnumber : (n / 4096 * 64 + n / 64 % 64) * 64 + n % 64 = n := by omega
      have hbyte1 : UInt8.ofNat (n / 1024) = a := ofNat_eq_of_mod (by omega)
      have hbyte2 : UInt8.ofNat (n / 4) = b := ofNat_eq_of_mod (by omega)
      rw [bytes_symbol_cons h1, bytes_symbol_cons h2, bytes_symbol_cons h3,
        bytes_paddingMark_cons]
      show decodeLast offset _ = _
      rw [bytes_nil, decodeLast_three h1 h2 h3 hzero, hnumber, hbyte1, hbyte2]
  | case4 a b c rest n ih =>
      have ha := a.toNat_lt
      have hb := b.toNat_lt
      have hc := c.toNat_lt
      have h1 : n / 262144 < 64 := by omega
      have h2 : n / 4096 % 64 < 64 := by omega
      have h3 : n / 64 % 64 < 64 := by omega
      have h4 : n % 64 < 64 := by omega
      have hnumber :
          ((n / 262144 * 64 + n / 4096 % 64) * 64 + n / 64 % 64) * 64 + n % 64 = n := by omega
      have hbyte1 : UInt8.ofNat (n / 65536) = a := ofNat_eq_of_mod (by omega)
      have hbyte2 : UInt8.ofNat (n / 256) = b := ofNat_eq_of_mod (by omega)
      have hbyte3 : UInt8.ofNat n = c := ofNat_eq_of_mod (by omega)
      rw [bytes_symbol_cons h1, bytes_symbol_cons h2, bytes_symbol_cons h3, bytes_symbol_cons h4]
      -- the last group is read with an eye to padding, even where it has none
      cases rest with
      | nil =>
          show decodeLast offset _ = _
          rw [encode, bytes_nil, decodeLast_four h1 h2 h3 h4, hnumber,
            hbyte1, hbyte2, hbyte3]
      | cons d ds =>
          obtain ⟨e, es, hcons⟩ := exists_bytes_encode_cons d ds
          have hrest := ih (List.cons_ne_nil d ds) (offset + 4)
          rw [hcons] at hrest ⊢
          rw [decodeGroups, decodeGroup_symbols h1 h2 h3 h4, hrest, hnumber, hbyte1, hbyte2,
            hbyte3]
          rfl

theorem length_bytes_encode (bs : List UInt8) : (bytes (encode bs)).length % 4 = 0 := by
  fun_induction encode bs with
  | case1 => rfl
  | case2 a n =>
      have ha := a.toNat_lt
      rw [bytes_symbol_cons (by omega), bytes_symbol_cons (by omega), bytes_paddingMark_cons,
        bytes_paddingMark_cons, bytes_nil]
      simp only [List.length_cons, List.length_nil]
  | case3 a b n =>
      have ha := a.toNat_lt
      have hb := b.toNat_lt
      rw [bytes_symbol_cons (by omega), bytes_symbol_cons (by omega),
        bytes_symbol_cons (by omega), bytes_paddingMark_cons, bytes_nil]
      simp only [List.length_cons, List.length_nil]
  | case4 a b c rest n ih =>
      have ha := a.toNat_lt
      have hb := b.toNat_lt
      have hc := c.toNat_lt
      rw [bytes_symbol_cons (by omega), bytes_symbol_cons (by omega),
        bytes_symbol_cons (by omega), bytes_symbol_cons (by omega)]
      simp only [List.length_cons]
      omega

/-- The bytes of a text are the bytes that it was written for. -/
theorem decode_encode (bs : List UInt8) : decode (encode bs) = .ok bs := by
  cases bs with
  | nil => rfl
  | cons b rest =>
      have hlen := length_bytes_encode (b :: rest)
      have hgroups := decodeGroups_encode (b :: rest) (List.cons_ne_nil b rest) 0
      have hone : ¬ (bytes (encode (b :: rest))).length % 4 = 1 := by omega
      rw [decode]
      cases hlast : (bytes (encode (b :: rest))).getLast? with
      | none =>
          obtain ⟨e, es, hcons⟩ := exists_bytes_encode_cons b rest
          rw [List.getLast?_eq_none_iff.mp hlast] at hcons
          cases hcons
      | some last =>
          show (if _ ∧ _ ∧ _ then _ else _) = _
          rw [if_neg fun h => hone h.1, hgroups]

end SpannerDialect.Text.Base64
