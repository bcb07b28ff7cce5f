import SpannerDialect.Proofs.Json.Scalar

/-! # Trees read back

    A tree whose numbers are whole is read back from its compact text,
    where its brackets nest no deeper than the reader allows
    (`readValue_print`).  The reader stops where the text of the tree does,
    so members of a list and of an object are read one after the other. -/

namespace SpannerDialect.Json

open Text

mutual

/-- How deep the brackets of a tree nest. -/
def depth : Json → Nat
  | array items => depthItems items + 1
  | object fields => depthFields fields + 1
  | _ => 0

/-- How deep the brackets of the deepest item nest. -/
def depthItems : List Json → Nat
  | [] => 0
  | a :: as => max (depth a) (depthItems as)

/-- How deep the brackets of the deepest field nest. -/
def depthFields : List (String × Json) → Nat
  | [] => 0
  | (_, a) :: as => max (depth a) (depthFields as)

end

mutual

/-- Whether all numbers of a tree are whole. -/
def isWhole : Json → Bool
  | number (.float _) => false
  | array items => areWhole items
  | object fields => areWholeFields fields
  | _ => true

/-- Whether all numbers of some items are whole. -/
def areWhole : List Json → Bool
  | [] => true
  | a :: as => isWhole a && areWhole as

/-- Whether all numbers of some fields are whole. -/
def areWholeFields : List (String × Json) → Bool
  | [] => true
  | (_, a) :: as => isWhole a && areWholeFields as

end

/-! ## Parts of a tree -/

theorem skipSpace_cons {c : Char} (h : isSpace c = false) (cs : List Char) :
    skipSpace (c :: cs) = c :: cs := by
  rw [skipSpace, List.dropWhile_cons, h, if_neg Bool.false_ne_true]

theorem readValue_string (depth : Nat) (s : String) (rest : List Char) :
    readValue depth (printString s ++ rest) = .ok (.string s, rest) := by
  have hstring := readString_print s rest
  rw [printString, List.append_assoc, List.cons_append]
  rw [readValue]
  show (readString (s.toList.flatMap escapeChar ++ '"' :: rest)).bind _ = _
  rw [hstring]
  rfl

theorem isSpace_of_isDigit {d : Char} (hd : d.isDigit = true) : isSpace d = false := by
  have hne : ∀ c : Char, c.isDigit = false → d ≠ c := fun _ => ne_of_isDigit hd
  simp [isSpace, hne ' ' rfl, hne '\t' rfl, hne '\n' rfl, hne '\r' rfl]

/-- A text that starts with a digit is read as a number. -/
theorem readValue_digit {d : Char} (hd : d.isDigit = true) (depth : Nat) (cs : List Char) :
    readValue depth (d :: cs)
      = (readNumber false (d :: cs)).bind fun r => .ok (.number r.1, r.2) := by
  have hne : ∀ c : Char, c.isDigit = false → d ≠ c := fun _ => ne_of_isDigit hd
  have hbracket : ¬ (d = '[' ∨ d = '\x7b') := by
    rintro (h | h)
    · exact hne '[' rfl h
    · exact hne '\x7b' rfl h
  rw [readValue]
  rw [skipSpace_cons (isSpace_of_isDigit hd)]
  dsimp only
  rw [if_neg hbracket, if_neg (hne '"' rfl), if_neg (hne '-' rfl), if_pos hd]
  rfl

theorem readValue_integer (depth : Nat) (i : Int) (hfits : FitsWord i) {rest : List Char}
    (hrest : StopsNumber rest) :
    readValue depth (signed i ++ rest) = .ok (.number (.integer i hfits), rest) := by
  cases i with
  | ofNat n =>
      have hnumber := readNumber_digits false n rfl hfits Bool.noConfusion hrest
      obtain ⟨d, ds, hcons⟩ := List.exists_cons_of_ne_nil (digits_ne_nil n)
      have hd : d.isDigit = true := isDigit_of_mem_digits (hcons ▸ List.mem_cons_self)
      rw [signed]
      rw [hcons, List.cons_append] at hnumber ⊢
      rw [readValue_digit hd, hnumber]
      rfl
  | negSucc n =>
      have hnumber := readNumber_digits true (n + 1) rfl hfits
        (fun _ => Nat.succ_ne_zero n) hrest
      rw [signed, List.cons_append]
      rw [readValue]
      show (readNumber true (digits (n + 1) ++ rest)).bind _ = _
      rw [hnumber]
      rfl

theorem readValue_list (depth : Nat) (cs : List Char) :
    readValue (depth + 1) ('[' :: cs) = readList (readValue depth) cs := by
  rw [readValue]
  rfl

theorem readValue_object (depth : Nat) (cs : List Char) :
    readValue (depth + 1) ('\x7b' :: cs) = readObject (readValue depth) cs := by
  rw [readValue]
  rfl

/-- The text of a tree starts neither with a blank nor with a closing
    bracket. -/
theorem exists_print_cons {j : Json} (hj : j.isWhole = true) :
    ∃ c cs, print j = c :: cs ∧ isSpace c = false ∧ c ≠ ']' := by
  match j with
  | null => exact ⟨_, _, rfl, rfl, by decide⟩
  | bool true => exact ⟨_, _, rfl, rfl, by decide⟩
  | bool false => exact ⟨_, _, rfl, rfl, by decide⟩
  | number (.integer (.ofNat n) _) =>
      obtain ⟨d, ds, hcons⟩ := List.exists_cons_of_ne_nil (digits_ne_nil n)
      have hd : d.isDigit = true := isDigit_of_mem_digits (hcons ▸ List.mem_cons_self)
      exact ⟨d, ds, hcons, isSpace_of_isDigit hd, ne_of_isDigit hd rfl⟩
  | number (.integer (.negSucc n) _) => exact ⟨_, _, rfl, rfl, by decide⟩
  | number (.float _) => cases hj
  | string s => exact ⟨_, _, rfl, rfl, by decide⟩
  | array [] => exact ⟨_, _, rfl, rfl, by decide⟩
  | array (a :: as) => exact ⟨_, _, rfl, rfl, by decide⟩
  | object [] => exact ⟨_, _, rfl, rfl, by decide⟩
  | object ((k, a) :: as) => exact ⟨_, _, rfl, rfl, by decide⟩

/-! ## Members -/

theorem stopsNumber_cons {c : Char}
    (h : c.isDigit = false ∧ c ≠ '.' ∧ c ≠ 'e' ∧ c ≠ 'E') (rest : List Char) :
    StopsNumber (c :: rest) := by
  intro d hd
  obtain rfl := Option.some.inj hd
  exact h

theorem stopsNumber_printItems (as : List Json) (rest : List Char) :
    StopsNumber (printItems as ++ rest) := by
  cases as with
  | nil => exact stopsNumber_cons (by decide) rest
  | cons a as => exact stopsNumber_cons (by decide) _

theorem stopsNumber_printFields (as : List (String × Json)) (rest : List Char) :
    StopsNumber (printFields as ++ rest) := by
  cases as with
  | nil => exact stopsNumber_cons (by decide) rest
  | cons a as => exact stopsNumber_cons (by decide) _

theorem length_le_length_printItems (as : List Json) (rest : List Char) :
    as.length ≤ (printItems as ++ rest).length := by
  induction as with
  | nil => exact Nat.zero_le _
  | cons a as ih =>
      rw [printItems, List.append_assoc, List.length_append, List.length_cons, List.length_cons]
      omega

theorem length_le_length_printFields (as : List (String × Json)) (rest : List Char) :
    as.length ≤ (printFields as ++ rest).length := by
  induction as with
  | nil => exact Nat.zero_le _
  | cons f as ih =>
      obtain ⟨k, a⟩ := f
      rw [printFields, List.append_assoc, List.length_append, List.length_append,
        List.length_cons, List.length_cons]
      omega

/-- One item after a comma. -/
theorem readItems_cons {item : ItemReader} {a : Json} {as : List Json} {fuel : Nat}
    {cs rest : List Char} (ha : a.isWhole = true) (hitem : item (print a ++ cs) = .ok (a, cs))
    (hitems : readItems item fuel cs = .ok (as, rest)) :
    readItems item (fuel + 1) (',' :: (print a ++ cs)) = .ok (a :: as, rest) := by
  obtain ⟨c, tail, hcons, hspace, hne⟩ := exists_print_cons ha
  rw [hcons, List.cons_append] at hitem ⊢
  rw [readItems, skipSpace_cons (by decide)]
  dsimp only
  rw [if_neg (by decide), if_pos rfl, skipSpace_cons hspace]
  dsimp only
  rw [if_neg hne, hitem]
  show (readItems item fuel cs).bind _ = _
  rw [hitems]
  rfl

/-- A key with its value. -/
theorem readField_print {item : ItemReader} {k : String} {a : Json} {cs : List Char}
    (hitem : item (print a ++ cs) = .ok (a, cs)) :
    readField item (printString k ++ ':' :: (print a ++ cs)) = .ok ((k, a), cs) := by
  have hkey := readString_print k (':' :: (print a ++ cs))
  rw [printString, List.append_assoc, List.cons_append, List.singleton_append, readField,
    if_neg (by decide), if_neg (by decide), hkey]
  show (item (print a ++ cs)).bind _ = _
  rw [hitem]
  rfl

/-- One field after a comma. -/
theorem readFields_cons {item : ItemReader} {k : String} {a : Json} {as : List (String × Json)}
    {fuel : Nat} {cs rest : List Char} (hitem : item (print a ++ cs) = .ok (a, cs))
    (hfields : readFields item fuel cs = .ok (as, rest)) :
    readFields item (fuel + 1) (',' :: (printString k ++ ':' :: (print a ++ cs)))
      = .ok ((k, a) :: as, rest) := by
  have hfield := readField_print (k := k) hitem
  rw [readFields, skipSpace_cons (by decide)]
  dsimp only
  rw [if_neg (by decide), if_pos rfl]
  show (readField item (printString k ++ ':' :: (print a ++ cs))).bind _ = _
  rw [hfield]
  show (readFields item fuel cs).bind _ = _
  rw [hfields]
  rfl

/-- A list whose members are read. -/
theorem readList_print {item : ItemReader} {a : Json} {as : List Json} {cs rest : List Char}
    (ha : a.isWhole = true) (hitem : item (print a ++ cs) = .ok (a, cs))
    (hitems : readItems item (cs.length + 1) cs = .ok (as, rest)) :
    readList item (print a ++ cs) = .ok (.array (a :: as), rest) := by
  obtain ⟨c, tail, hcons, hspace, hne⟩ := exists_print_cons ha
  rw [hcons, List.cons_append] at hitem ⊢
  rw [readList, skipSpace_cons hspace]
  dsimp only
  rw [if_neg hne, hitem]
  show (readItems item (cs.length + 1) cs).bind _ = _
  rw [hitems]
  rfl

/-- An object whose members are read. -/
theorem readObject_print {item : ItemReader} {k : String} {a : Json}
    {as : List (String × Json)} {cs rest : List Char} (hitem : item (print a ++ cs) = .ok (a, cs))
    (hfields : readFields item (cs.length + 1) cs = .ok (as, rest)) :
    readObject item (printString k ++ ':' :: (print a ++ cs))
      = .ok (.object ((k, a) :: as), rest) := by
  have hfield := readField_print (k := k) hitem
  rw [readObject, printString, List.append_assoc, List.cons_append, skipSpace_cons (by decide)]
  dsimp only
  rw [printString, List.append_assoc, List.cons_append] at hfield
  rw [if_neg (by decide), hfield]
  show (readFields item (cs.length + 1) cs).bind _ = _
  rw [hfields]
  rfl

/-! ## Trees -/

mutual

/-- **A tree is read back from its text.** -/
theorem readValue_print : ∀ (j : Json) (limit : Nat), j.depth ≤ limit → j.isWhole = true →
    ∀ rest : List Char, StopsNumber rest → readValue limit (print j ++ rest) = .ok (j, rest)
  | null, limit, _, _, rest, _ => by
      rw [readValue]
      rfl
  | bool true, limit, _, _, rest, _ => by
      rw [readValue]
      rfl
  | bool false, limit, _, _, rest, _ => by
      rw [readValue]
      rfl
  | number (.integer i hfits), limit, _, _, rest, hrest => readValue_integer limit i hfits hrest
  | number (.float _), _, _, hwhole, _, _ => Bool.noConfusion hwhole
  | string s, limit, _, _, rest, _ => readValue_string limit s rest
  | array [], limit, hdepth, _, rest, _ => by
      obtain ⟨n, rfl⟩ := Nat.exists_eq_add_of_le' hdepth
      exact readValue_list _ _
  | array (a :: as), limit, hdepth, hwhole, rest, _ => by
      obtain ⟨n, rfl⟩ := Nat.exists_eq_add_of_le' (Nat.le_of_add_left_le hdepth)
      obtain ⟨ha, has⟩ := Bool.and_eq_true_iff.mp hwhole
      have hmax : max a.depth (depthItems as) ≤ n := Nat.le_of_succ_le_succ hdepth
      have hitem := readValue_print a n (le_of_max_le_left hmax) ha
        _ (stopsNumber_printItems as rest)
      have hitems := readItems_printItems as n (le_of_max_le_right hmax) has
        _ rest (Nat.lt_succ_of_le (length_le_length_printItems as rest))
      rw [print, List.append_assoc, List.cons_append, readValue_list]
      exact readList_print ha hitem hitems
  | object [], limit, hdepth, _, rest, _ => by
      obtain ⟨n, rfl⟩ := Nat.exists_eq_add_of_le' hdepth
      exact readValue_object _ _
  | object ((k, a) :: as), limit, hdepth, hwhole, rest, _ => by
      obtain ⟨n, rfl⟩ := Nat.exists_eq_add_of_le' (Nat.le_of_add_left_le hdepth)
      obtain ⟨ha, has⟩ := Bool.and_eq_true_iff.mp hwhole
      have hmax : max a.depth (depthFields as) ≤ n := Nat.le_of_succ_le_succ hdepth
      have hitem := readValue_print a n (le_of_max_le_left hmax) ha
        _ (stopsNumber_printFields as rest)
      have hfields := readFields_printFields as n (le_of_max_le_right hmax) has
        _ rest (Nat.lt_succ_of_le (length_le_length_printFields as rest))
      rw [print, List.append_assoc, List.append_assoc, List.cons_append, List.cons_append,
        readValue_object]
      exact readObject_print hitem hfields

theorem readItems_printItems : ∀ (as : List Json) (limit : Nat), depthItems as ≤ limit →
    areWhole as = true → ∀ (fuel : Nat) (rest : List Char), as.length < fuel →
      readItems (readValue limit) fuel (printItems as ++ rest) = .ok (as, rest)
  | [], _, _, _, fuel, rest, hfuel => by
      obtain ⟨n, rfl⟩ := Nat.exists_eq_add_of_lt hfuel
      rfl
  | a :: as, limit, hdepth, hwhole, fuel, rest, hfuel => by
      obtain ⟨n, rfl⟩ : ∃ n, fuel = n + 1 :=
        Nat.exists_eq_succ_of_ne_zero (Nat.ne_zero_of_lt hfuel)
      obtain ⟨ha, has⟩ := Bool.and_eq_true_iff.mp hwhole
      have hitem := readValue_print a limit (le_of_max_le_left hdepth) ha
        _ (stopsNumber_printItems as rest)
      have hitems := readItems_printItems as limit (le_of_max_le_right hdepth) has
        n rest (Nat.lt_of_succ_lt_succ hfuel)
      rw [printItems, List.append_assoc, List.cons_append]
      exact readItems_cons ha hitem hitems

theorem readFields_printFields : ∀ (as : List (String × Json)) (limit : Nat),
    depthFields as ≤ limit → areWholeFields as = true →
    ∀ (fuel : Nat) (rest : List Char), as.length < fuel →
      readFields (readValue limit) fuel (printFields as ++ rest) = .ok (as, rest)
  | [], _, _, _, fuel, rest, hfuel => by
      obtain ⟨n, rfl⟩ := Nat.exists_eq_add_of_lt hfuel
      rfl
  | (k, a) :: as, limit, hdepth, hwhole, fuel, rest, hfuel => by
      obtain ⟨n, rfl⟩ : ∃ n, fuel = n + 1 :=
        Nat.exists_eq_succ_of_ne_zero (Nat.ne_zero_of_lt hfuel)
      obtain ⟨ha, has⟩ := Bool.and_eq_true_iff.mp hwhole
      have hitem := readValue_print a limit (le_of_max_le_left hdepth) ha
        _ (stopsNumber_printFields as rest)
      have hfields := readFields_printFields as limit (le_of_max_le_right hdepth) has
        n rest (Nat.lt_of_succ_lt_succ hfuel)
      rw [printFields, List.append_assoc, List.append_assoc, List.cons_append, List.cons_append]
      exact readFields_cons hitem hfields

end

end SpannerDialect.Json
