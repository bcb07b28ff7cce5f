import SpannerDialect.Binary64.Basic

/-! # JSON documents

    A JSON value is a tree.  Whole numbers that fit a signed or an
    unsigned word of 64 bits stay whole; every other number is a finite
    floating point number.  A document is a tree whose objects hold each
    key once, in ascending order. -/

namespace SpannerDialect

namespace Json

/-- The whole numbers that a document keeps whole. -/
def FitsWord (n : Int) : Prop :=
  -0x8000000000000000 ≤ n ∧ n < 0x10000000000000000

instance (n : Int) : Decidable (FitsWord n) := by
  unfold FitsWord; infer_instance

/-- A number of a document. -/
inductive Number
  | integer (n : Int) (fits : FitsWord n)
  | float (x : Binary64.Finite)
deriving DecidableEq

/-- Equality of numbers.  A whole number and a floating point number are
    never equal. -/
def Number.same : Number → Number → Bool
  | integer m _, integer n _ => m == n
  | float x, float y => x.same y
  | _, _ => false

end Json

/-- A JSON value. -/
inductive Json
  | null
  | bool (b : Bool)
  | number (n : Json.Number)
  | string (s : String)
  | array (items : List Json)
  | object (fields : List (String × Json))

namespace Json

/-- A whole number, or nothing when it does not fit. -/
def ofInt? (n : Int) : Option Json :=
  if h : FitsWord n then some (.number (.integer n h)) else none

mutual

/-- Equality of documents, with numbers compared as numbers. -/
def same : Json → Json → Bool
  | null, null => true
  | bool a, bool b => a == b
  | number a, number b => a.same b
  | string a, string b => a == b
  | array as, array bs => sameItems as bs
  | object as, object bs => sameFields as bs
  | _, _ => false

/-- Equality of lists of items. -/
def sameItems : List Json → List Json → Bool
  | [], [] => true
  | a :: as, b :: bs => same a b && sameItems as bs
  | _, _ => false

/-- Equality of lists of fields. -/
def sameFields : List (String × Json) → List (String × Json) → Bool
  | [], [] => true
  | (k, a) :: as, (l, b) :: bs => k == l && same a b && sameFields as bs
  | _, _ => false

end

/-- Whether the first of the fields, if any, has a key above the given one. -/
def keyBelow (key : String) : List (String × Json) → Bool
  | [] => true
  | (k, _) :: _ => decide (key < k)

mutual

/-- Whether every object holds its keys in strictly ascending order. -/
def ordered : Json → Bool
  | array items => orderedItems items
  | object fields => orderedFields fields
  | _ => true

/-- Whether every item is ordered. -/
def orderedItems : List Json → Bool
  | [] => true
  | a :: as => ordered a && orderedItems as

/-- Whether the fields ascend and every value is ordered. -/
def orderedFields : List (String × Json) → Bool
  | [] => true
  | (k, a) :: as => keyBelow k as && ordered a && orderedFields as

end

/-- Puts a field into its place by key; a field with the same key is
    replaced. -/
def insertField (key : String) (value : Json) : List (String × Json) → List (String × Json)
  | [] => [(key, value)]
  | (k, v) :: rest =>
    if key < k then (key, value) :: (k, v) :: rest
    else if key = k then (key, value) :: rest
    else (k, v) :: insertField key value rest

mutual

/-- Brings the fields of every object into order; of several fields with one
    key the last stays. -/
def normalize : Json → Json
  | array items => array (normalizeItems items)
  | object fields => object (normalizeFields [] fields)
  | null => null
  | bool b => bool b
  | number n => number n
  | string s => string s

/-- Normalizes every item. -/
def normalizeItems : List Json → List Json
  | [] => []
  | a :: as => normalize a :: normalizeItems as

/-- Adds the fields one by one to those already in order. -/
def normalizeFields (sorted : List (String × Json)) : List (String × Json) → List (String × Json)
  | [] => sorted
  | (k, a) :: as => normalizeFields (insertField k (normalize a) sorted) as

end

theorem keyBelow_cons (key k : String) (v : Json) (rest : List (String × Json)) :
    keyBelow key ((k, v) :: rest) = decide (key < k) := rfl

/-- A key below the first of the fields and below a new key stays below the
    first after the insertion. -/
theorem keyBelow_insertField {k key : String} (value : Json) (h : k < key)
    {fields : List (String × Json)} (hf : keyBelow k fields = true) :
    keyBelow k (insertField key value fields) = true := by
  cases fields with
  | nil => simpa [insertField, keyBelow] using h
  | cons f rest =>
      obtain ⟨l, v⟩ := f
      simp only [insertField]
      split
      · simpa [keyBelow] using h
      · split
        · simpa [keyBelow] using h
        · simpa [keyBelow] using hf

/-- An insertion into fields in order leaves them in order. -/
theorem orderedFields_insertField {key : String} {value : Json} (hv : ordered value = true) :
    ∀ {fields : List (String × Json)}, orderedFields fields = true →
      orderedFields (insertField key value fields) = true
  | [], _ => by simp [insertField, orderedFields, keyBelow, hv]
  | (k, v) :: rest, h => by
      have ⟨⟨h1, h2⟩, h3⟩ : (keyBelow k rest = true ∧ ordered v = true) ∧
          orderedFields rest = true := by
        simpa [orderedFields] using h
      simp only [insertField]
      split
      · rename_i hlt
        simp [orderedFields, keyBelow_cons, hlt, hv, h1, h2, h3]
      · split
        · rename_i heq
          subst heq
          simp [orderedFields, hv, h1, h3]
        · rename_i hlt hne
          have hgt : k < key := by
            rcases Std.lt_trichotomy (α := String) key k with h | h | h
            · exact absurd h hlt
            · exact absurd h hne
            · exact h
          simp [orderedFields, keyBelow_insertField value hgt h1, h2,
            orderedFields_insertField hv h3]

mutual

/-- A normalized document is in order. -/
theorem ordered_normalize : ∀ j : Json, ordered (normalize j) = true
  | array items => by simpa [normalize, ordered] using orderedItems_normalizeItems items
  | object fields => by
      have h : orderedFields [] = true := by simp [orderedFields]
      simpa [normalize, ordered] using orderedFields_normalizeFields h fields
  | null | bool _ | number _ | string _ => by simp [normalize, ordered]

theorem orderedItems_normalizeItems :
    ∀ items : List Json, orderedItems (normalizeItems items) = true
  | [] => by simp [normalizeItems, orderedItems]
  | a :: as => by
      simp [normalizeItems, orderedItems, ordered_normalize a, orderedItems_normalizeItems as]

theorem orderedFields_normalizeFields :
    ∀ {sorted : List (String × Json)}, orderedFields sorted = true →
      ∀ fields : List (String × Json), orderedFields (normalizeFields sorted fields) = true
  | _, h, [] => by simpa [normalizeFields] using h
  | _, h, (_, a) :: as => by
      simpa [normalizeFields] using
        orderedFields_normalizeFields (orderedFields_insertField (ordered_normalize a) h) as

end

/-- A tree whose objects are in order. -/
structure Document where
  tree : Json
  inOrder : tree.ordered = true

namespace Document

/-- The document of a tree: its objects are brought into order. -/
def ofTree (j : Json) : Document :=
  ⟨j.normalize, ordered_normalize j⟩

/-- Equality of documents, with numbers compared as numbers. -/
def same (a b : Document) : Bool :=
  a.tree.same b.tree

end Document

end Json

end SpannerDialect
