import SpannerDialect.Connection
import SpannerDialect.Proofs.Except

/-! # Decoding

    A cell is read at a column type or refused, and why it can be refused is listed
    (`Refused`).  What is read is NULL or conforms to the type: the type accepts it,
    whatever its length, and complains of nothing but a floating point number that is
    not finite (`Conforms`).  Everything starts from one lemma on scalar types, with a
    case for each branch of the reader (`decodeScalar_ends`).  The rows of an answer are
    read cell by cell, all of them or none (`decode_sound`). -/

namespace SpannerDialect

namespace Value

variable {t : ScalarType} {type : ColumnType} {cell : Json} {v : Value} {items : List Value}
variable {e : DecodeError}

/-! ## Values that conform -/

/-- A check complains of nothing, or of a floating point number that is not finite. -/
def FiniteApart (check : Except Mismatch Unit) : Prop :=
  check = .ok () ∨ ∃ x, check = .error (.notFinite x)

/-- A value conforms to a scalar type: it is not NULL, and the type without a bound on
    its length accepts it, if it is finite. -/
def ConformsScalar (t : ScalarType) (v : Value) : Prop :=
  v.isNull = false ∧ FiniteApart (checkScalar t.unbounded v)

/-- A value conforms to a column type: an array conforms item by item, so that no item
    is NULL. -/
inductive Conforms : ColumnType → Value → Prop
  | scalar {t : ScalarType} {v : Value} (h : ConformsScalar t v) : Conforms (.scalar t) v
  | array {t : ScalarType} {items : List Value} (h : ∀ v ∈ items, ConformsScalar t v) :
      Conforms (.array t) (array items)

theorem conformsScalar_float64 (x : Binary64) : ConformsScalar .float64 (float64 x) := by
  refine ⟨rfl, ?_⟩
  cases x with
  | finite x => exact .inl rfl
  | _ => exact .inr ⟨_, rfl⟩

theorem finiteApart_checkItems (h : ∀ v ∈ items, ConformsScalar t v) (position : Nat) :
    FiniteApart (checkItems t.unbounded position items) := by
  induction items generalizing position with
  | nil => exact .inl rfl
  | cons v vs ih =>
      obtain ⟨⟨hnull, hv⟩, hvs⟩ := List.forall_mem_cons.mp h
      rw [checkItems, if_neg (Bool.eq_false_iff.mp hnull)]
      obtain hok | ⟨x, hx⟩ := hv
      · rw [hok]
        exact ih hvs (position + 1)
      · rw [hx]
        exact .inr ⟨x, rfl⟩

theorem Conforms.finiteApart (h : Conforms type v) : FiniteApart (v.check type.unbounded) := by
  cases h with
  | scalar h => exact h.2
  | array h => exact finiteApart_checkItems h 0

theorem Conforms.isNull (h : Conforms type v) : v.isNull = false := by
  cases h with
  | scalar h => exact h.1
  | array h => rfl

/-! ## Cells that are refused -/

/-- Why a cell that is not NULL is refused at a scalar type: it has no form of the type,
    or its text is no byte string or no document. -/
inductive RefusedScalar (t : ScalarType) (cell : Json) : DecodeError → Prop
  | form : RefusedScalar t cell (.cell (.scalar t) cell)
  | base64 {n : Length} {s : String} {e : Text.Base64.DecodeError} (ht : t = .bytes n)
      (hcell : cell = .string s) (he : Text.Base64.decode s.toList = .error e) :
      RefusedScalar t cell (.base64 e)
  | document {s : String} {e : Json.ReadError} (ht : t = .json) (hcell : cell = .string s)
      (he : Json.Document.read s.toList = .error e) : RefusedScalar t cell (.document e)

/-- Why a cell is refused at a column type: as a scalar, as no array, for a NULL among
    its items, or as one of its items is. -/
inductive Refused : ColumnType → Json → DecodeError → Prop
  | scalar {t : ScalarType} {cell : Json} {e : DecodeError} (h : RefusedScalar t cell e) :
      Refused (.scalar t) cell e
  | form {t : ScalarType} {cell : Json} (h : ∀ items, cell ≠ .array items) :
      Refused (.array t) cell (.cell (.array t) cell)
  | nullElement {t : ScalarType} {items : List Json} (h : .null ∈ items) :
      Refused (.array t) (.array items) (.nullElement t)
  | element {t : ScalarType} {items : List Json} {item : Json} {e : DecodeError}
      (hitem : item ∈ items) (h : RefusedScalar t item e) : Refused (.array t) (.array items) e

/-! ## Cells -/

/-- What is read at a scalar type conforms to it, and the rest is refused for cause. -/
theorem decodeScalar_ends (t : ScalarType) (cell : Json) :
    Ends (RefusedScalar t cell) (ConformsScalar t) (decodeScalar t cell) := by
  unfold decodeScalar
  dsimp only
  split
  case h_1 | h_7 => exact ⟨rfl, .inl rfl⟩
  case h_2 s =>
    cases (Text.readInteger? s.toList).bind int64? with
    | some i => exact ⟨rfl, .inl rfl⟩
    | none => exact .form
  case h_3 n fits =>
    cases int64? n with
    | some i => exact ⟨rfl, .inl rfl⟩
    | none => exact .form
  case h_4 n => exact conformsScalar_float64 (numberValue n)
  case h_5 s =>
    cases specialFloat? s with
    | some x => exact conformsScalar_float64 x
    | none => exact .form
  case h_6 s =>
    cases Numeric.parse s.toList with
    | ok n => exact ⟨rfl, .inl rfl⟩
    | error fault => exact .form
  case h_8 n s =>
    cases hread : Text.Base64.decode s.toList with
    | ok bs => exact ⟨rfl, .inl rfl⟩
    | error e => exact .base64 rfl rfl hread
  case h_9 s =>
    cases Calendar.Date.read? s.toList with
    | some d => exact ⟨rfl, .inl rfl⟩
    | none => exact .form
  case h_10 s =>
    cases Calendar.Timestamp.read? s.toList with
    | some ts => exact ⟨rfl, .inl rfl⟩
    | none => exact .form
  case h_11 s =>
    cases hread : Json.Document.read s.toList with
    | ok d => exact ⟨rfl, .inl rfl⟩
    | error e => exact .document rfl rfl hread
  case h_12 => exact .form

theorem conformsScalar_of_decodeElement (h : decodeElement t cell = .ok v) :
    ConformsScalar t v := by
  unfold decodeElement at h
  split at h
  · cases h
  · exact (decodeScalar_ends t _).of_ok h

theorem refused_of_decodeElement {cells : List Json} (hcell : cell ∈ cells)
    (h : decodeElement t cell = .error e) : Refused (.array t) (.array cells) e := by
  unfold decodeElement at h
  split at h
  · cases h
    exact .nullElement hcell
  · exact .element hcell ((decodeScalar_ends t _).of_error h)

/-- What is read of a cell other than NULL conforms to its type, and the rest is refused
    for cause. -/
theorem decode_ends (type : ColumnType) (hcell : cell ≠ .null) :
    Ends (Refused type cell) (Conforms type) (decode type cell) := by
  cases h : decode type cell with
  | ok v =>
      unfold decode at h
      split at h
      · exact absurd rfl hcell
      · exact .scalar ((decodeScalar_ends _ _).of_ok h)
      · obtain ⟨values, hvalues, rfl⟩ := map_eq_ok.mp h
        refine .array fun v hv => ?_
        obtain ⟨item, -, hitem⟩ := exists_of_mem_mapM hvalues hv
        exact conformsScalar_of_decodeElement hitem
      · cases h
  | error e =>
      unfold decode at h
      split at h
      · cases h
      · exact .scalar ((decodeScalar_ends _ _).of_error h)
      · obtain ⟨item, hitem, hrefused⟩ := exists_of_mapM_eq_error (map_eq_error.mp h)
        exact refused_of_decodeElement hitem hrefused
      · rename_i harray
        cases h
        exact .form fun items => harray items

theorem decode_null (type : ColumnType) : decode type .null = .ok null := by
  cases type <;> rfl

/-- Only NULL is read as NULL; every other value that is read conforms to its type. -/
theorem conforms_of_decode (h : decode type cell = .ok v) :
    cell = .null ∧ v = null ∨ cell ≠ .null ∧ Conforms type v := by
  -- NULL is read at every type before the type is looked at
  by_cases hcell : cell = .null
  · subst hcell
    rw [decode_null] at h
    exact .inl ⟨rfl, (Except.ok.inj h).symm⟩
  · exact .inr ⟨hcell, (decode_ends type hcell).of_ok h⟩

theorem refused_of_decode (h : decode type cell = .error e) : Refused type cell e := by
  have hcell : cell ≠ .null := by
    rintro rfl
    rw [decode_null] at h
    cases h
  exact (decode_ends type hcell).of_error h

end Value

/-! ## Rows -/

namespace Rows

variable {columns : List (String × ColumnType)} {cells : List Json} {values : List Value}
variable {e : DecodeError}

/-- The cell at a place of a row, and the type of its column. -/
def CellAt (columns : List (String × ColumnType)) (cells : List Json) (j : Nat)
    (type : ColumnType) (cell : Json) : Prop :=
  ∃ name, columns[j]? = some (name, type) ∧ cells[j]? = some cell

theorem cellAt_iff {j : Nat} {type : ColumnType} {cell : Json} :
    CellAt columns cells j type cell ↔
      ∃ name, (columns.zip cells)[j]? = some ((name, type), cell) := by
  simp only [CellAt, List.getElem?_zip_eq_some]

/-- A row is read when it has one cell for each column and each cell is read. -/
theorem exists_decodeRow_iff :
    (∃ values, decodeRow columns cells = .ok values) ↔
      cells.length = columns.length ∧
        ∀ j type cell, CellAt columns cells j type cell → ∃ v, Value.decode type cell = .ok v := by
  rw [decodeRow]
  split
  · rename_i hlength
    rw [exists_mapM_eq_ok, and_iff_right hlength]
    constructor
    · intro h j type cell hcell
      obtain ⟨name, hzip⟩ := cellAt_iff.mp hcell
      exact h _ (List.mem_of_getElem? hzip)
    · rintro h ⟨⟨name, type⟩, cell⟩ hmem
      obtain ⟨j, hzip⟩ := List.mem_iff_getElem?.mp hmem
      exact h j type cell (cellAt_iff.mpr ⟨name, hzip⟩)
  · rename_i hlength
    exact iff_of_false nofun fun h => hlength h.1

/-- Each value of a row that is read is its cell, read at the type of its column. -/
theorem getElem?_of_decodeRow (h : decodeRow columns cells = .ok values) {j : Nat}
    {type : ColumnType} {cell : Json} (hcell : CellAt columns cells j type cell) :
    ∃ v, values[j]? = some v ∧ Value.decode type cell = .ok v := by
  rw [decodeRow] at h
  split at h
  · obtain ⟨name, hzip⟩ := cellAt_iff.mp hcell
    exact getElem?_of_mapM h hzip
  · cases h

theorem length_of_decodeRow (h : decodeRow columns cells = .ok values) :
    values.length = columns.length := by
  rw [decodeRow] at h
  split at h
  · rename_i hlength
    rw [length_of_mapM h, List.length_zip, hlength, Nat.min_self]
  · cases h

/-- A row is refused for its width or for one of its cells. -/
theorem refused_of_decodeRow (h : decodeRow columns cells = .error e) :
    (cells.length ≠ columns.length ∧ e = .rowWidth cells.length columns.length) ∨
      ∃ j type cell, CellAt columns cells j type cell ∧ Value.Refused type cell e := by
  rw [decodeRow] at h
  split at h
  · obtain ⟨⟨⟨name, type⟩, cell⟩, hmem, hcell⟩ := exists_of_mapM_eq_error h
    obtain ⟨j, hzip⟩ := List.mem_iff_getElem?.mp hmem
    exact .inr ⟨j, type, cell, cellAt_iff.mpr ⟨name, hzip⟩, Value.refused_of_decode hcell⟩
  · rename_i hlength
    cases h
    exact .inl ⟨hlength, rfl⟩

variable {set : RowSet} {r : Rows}

theorem decode_eq_ok : decode set = .ok r ↔
    ∃ rows, set.rows.mapM (decodeRow set.columns) = .ok rows ∧
      r = { columns := set.columns.map Prod.fst, rows } := by
  rw [decode, bind_pure_eq_map, map_eq_ok]

/-- **Decoding is sound, and keeps all rows or none.**  A cell is refused for cause, or it
    is read as NULL, which only NULL is, or as a value that conforms to its type.  An
    answer is read when each row has one cell for each column and each cell is read;
    then every value stands where its cell stood, read at the type of its column.  An
    answer that is refused fails as one of its rows does. -/
theorem decode_sound :
    (∀ type cell e, Value.decode type cell = .error e → Value.Refused type cell e) ∧
    (∀ type cell v, Value.decode type cell = .ok v →
      (v.isNull = true ↔ cell = .null) ∧ (v.isNull = true ∨ Value.Conforms type v) ∧
      Value.FiniteApart (v.check type.unbounded)) ∧
    (∀ set, (∃ r, decode set = .ok r) ↔
      ∀ cells ∈ set.rows, cells.length = set.columns.length ∧
        ∀ j type cell, CellAt set.columns cells j type cell →
          ∃ v, Value.decode type cell = .ok v) ∧
    (∀ set r, decode set = .ok r →
      r.columns = set.columns.map Prod.fst ∧ r.rows.length = set.rows.length ∧
      ∀ (i : Nat) (cells : List Json), set.rows[i]? = some cells →
        ∃ values, r.rows[i]? = some values ∧ values.length = set.columns.length ∧
          ∀ j type cell, CellAt set.columns cells j type cell →
            ∃ v, values[j]? = some v ∧ Value.decode type cell = .ok v) ∧
    (∀ set e, (Reply.rows set).decode = .error e →
      ∃ d, e = .decoding d ∧ ∃ cells ∈ set.rows,
        (cells.length ≠ set.columns.length ∧
          d = .rowWidth cells.length set.columns.length) ∨
        ∃ j type cell, CellAt set.columns cells j type cell ∧ Value.Refused type cell d) := by
  refine ⟨fun type cell e => Value.refused_of_decode, ?conforms, ?reads, ?places, ?refused⟩
  case conforms =>
    intro type cell v h
    rcases Value.conforms_of_decode h with ⟨rfl, rfl⟩ | ⟨hcell, hv⟩
    · refine ⟨iff_of_true rfl rfl, .inl rfl, .inl ?_⟩
      cases type <;> rfl
    · have hnull : ¬ v.isNull = true := Bool.eq_false_iff.mp hv.isNull
      exact ⟨iff_of_false hnull hcell, .inr hv, hv.finiteApart⟩
  case reads =>
    intro set
    simp only [decode_eq_ok, ← exists_decodeRow_iff, ← exists_mapM_eq_ok]
    constructor
    · rintro ⟨r, rows, hrows, -⟩
      exact ⟨rows, hrows⟩
    · rintro ⟨rows, hrows⟩
      exact ⟨_, rows, hrows, rfl⟩
  case places =>
    intro set r h
    obtain ⟨rows, hrows, rfl⟩ := decode_eq_ok.mp h
    refine ⟨rfl, length_of_mapM hrows, fun i cells hcells => ?_⟩
    obtain ⟨values, hvalues, hrow⟩ := getElem?_of_mapM hrows hcells
    exact ⟨values, hvalues, length_of_decodeRow hrow,
      fun j type cell => getElem?_of_decodeRow hrow⟩
  case refused =>
    intro set e h
    obtain ⟨d, hd, rfl⟩ := mapError_eq_error.mp h
    rw [decode, bind_pure_eq_map, map_eq_error] at hd
    obtain ⟨cells, hcells, hrow⟩ := exists_of_mapM_eq_error hd
    exact ⟨d, rfl, cells, hcells, refused_of_decodeRow hrow⟩

/-- Two columns, with a number that is not finite and with NULL. -/
def levels : RowSet where
  columns := [("id", .scalar .int64), ("levels", .array .float64)]
  rows := [[.string "7", .array [.string "NaN"]], [.null, .array []]]

/-- A row with a cell too many. -/
def overlong : RowSet where
  columns := [("id", .scalar .int64)]
  rows := [[.string "7"], [.string "8", .null]]

theorem decode_levels : decode levels =
    .ok ⟨["id", "levels"], [[.int64 7, .array [.float64 .nan]], [.null, .array []]]⟩ :=
  rfl

theorem decode_overlong :
    (Reply.rows overlong).decode = .error (.decoding (.rowWidth 2 1)) :=
  rfl

/-- The rows of the first answer are read in their places; of the second answer nothing
    is read, as its second row is too long. -/
theorem decode_sound_levels :
    Value.Refused (.array .float64) (.array [.null]) (.nullElement .float64) ∧
    Value.FiniteApart (Value.check (.array .float64) (.array [.float64 .nan])) ∧
    (∀ cells ∈ levels.rows, cells.length = 2) ∧
    (∃ values, [[Value.int64 7, .array [.float64 .nan]], [.null, .array []]][0]? = some values ∧
      ∃ v, values[1]? = some v ∧
        Value.decode (.array .float64) (.array [.string "NaN"]) = .ok v) ∧
    ∃ cells ∈ overlong.rows, cells.length ≠ 1 ∨
      ∃ j type cell, CellAt overlong.columns cells j type cell ∧
        Value.Refused type cell (.rowWidth 2 1) := by
  obtain ⟨refused, conforms, reads, places, failed⟩ := decode_sound
  obtain ⟨-, -, hcheck⟩ :=
    conforms (.array .float64) (.array [.string "NaN"]) (.array [.float64 .nan]) rfl
  refine ⟨refused _ _ _ rfl, hcheck,
    fun cells hcells => ((reads levels).mp ⟨_, decode_levels⟩ cells hcells).1, ?_, ?_⟩
  · obtain ⟨-, -, hrows⟩ := places levels _ decode_levels
    obtain ⟨values, hvalues, -, hcells⟩ := hrows 0 _ rfl
    exact ⟨values, hvalues, hcells 1 _ _ ⟨"levels", rfl, rfl⟩⟩
  · obtain ⟨d, hd, cells, hcells, hcause⟩ := failed overlong _ decode_overlong
    obtain rfl := Error.decoding.inj hd
    exact ⟨cells, hcells, hcause.imp_left And.left⟩

end Rows

end SpannerDialect
