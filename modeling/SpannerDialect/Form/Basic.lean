import SpannerDialect.Json.Basic

/-! # Data as JSON

    The common shapes of data in JSON.  A record is an object, or a list
    of the contents of its fields in their order.  A variant is its name,
    or an object whose only field has its name and holds its content; where
    that content has named parts of its own, it is an object and never a
    list.  Reading gives nothing where a form is not met; unknown fields of
    objects are passed over. -/

namespace SpannerDialect.Form

/-- A string. -/
def text? : Json → Option String
  | .string s => some s
  | _ => none

/-- A truth value. -/
def flag? : Json → Option Bool
  | .bool b => some b
  | _ => none

/-- A whole number. -/
def int? : Json → Option Int
  | .number (.integer n _) => some n
  | _ => none

/-- A whole number from zero on and below a limit. -/
def natBelow? (limit : Nat) (j : Json) : Option Nat :=
  (int? j).bind fun n => if 0 ≤ n ∧ n < limit then some n.toNat else none

/-- A number of 32 bits. -/
def word32? : Json → Option Nat :=
  natBelow? 0x100000000

/-- A number of 64 bits. -/
def word64? : Json → Option Nat :=
  natBelow? 0x10000000000000000

/-- A list whose items have a form. -/
def listOf? {α : Type} (item : Json → Option α) : Json → Option (List α)
  | .array items => items.mapM item
  | _ => none

/-- Null, or what has a form. -/
def nullable? {α : Type} (content : Json → Option α) : Json → Option (Option α)
  | .null => some none
  | j => (content j).map some

/-- What has a form, with a value for null. -/
def orElse? {α : Type} (default : α) (content : Json → Option α) : Json → Option α
  | .null => some default
  | j => content j

/-- A list of two. -/
def pair? {α β : Type} (first : Json → Option α) (second : Json → Option β) :
    Json → Option (α × β)
  | .array [a, b] => do
    let a ← first a
    let b ← second b
    return (a, b)
  | _ => none

/-- The contents of the fields that are there, by name. -/
abbrev Fields := String → Option Json

/-- The fields of an object. -/
def object? : Json → Option Fields
  | .object fields => some fun name => fields.lookup name
  | _ => none

/-- The fields of a list, whose names are given in order. -/
def listedFields (names : List String) (items : List Json) : Fields :=
  fun name => (names.zip items).lookup name

/-- The fields of a record, whose names are given in order.  A list has to
    hold every field. -/
def record? (names : List String) : Json → Option Fields
  | .array items => if items.length = names.length then some (listedFields names items) else none
  | j => object? j

/-- The fields of a record that may lack any of them.  A list may stop
    early. -/
def partialRecord? (names : List String) : Json → Option Fields
  | .array items => if items.length ≤ names.length then some (listedFields names items) else none
  | j => object? j

/-- The content of a field that may be missing or null. -/
def optional? {α : Type} (content : Json → Option α) : Option Json → Option (Option α)
  | none => some none
  | some j => nullable? content j

/-- The content of a field, with a value for a missing one. -/
def withDefault? {α : Type} (default : α) (content : Json → Option α) : Option Json → Option α
  | none => some default
  | some j => content j

/-- A variant: its name and its content, which is null for a name alone. -/
def variant? : Json → Option (String × Json)
  | .string name => some (name, .null)
  | .object [(name, content)] => some (name, content)
  | _ => none

/-- The content of a variant without one. -/
def unit? {α : Type} (value : α) : Json → Option α
  | .null => some value
  | _ => none

/-- A choice among names. -/
def choice? {α : Type} (choices : List (String × α)) (j : Json) : Option α := do
  let (name, content) ← variant? j
  let value ← choices.lookup name
  unit? value content

/-- A whole number in JSON; one that does not fit is written as text. -/
def ofInt (n : Int) : Json :=
  (Json.ofInt? n).getD (.string (toString n))

/-- A text in JSON. -/
def ofText (cs : List Char) : Json :=
  .string (String.ofList cs)

/-- A list in JSON. -/
def ofList {α : Type} (item : α → Json) (items : List α) : Json :=
  .array (items.map item)

/-- Null for nothing. -/
def ofOption {α : Type} (content : α → Json) : Option α → Json
  | some a => content a
  | none => .null

/-- A variant with its content. -/
def ofVariant (name : String) (content : Json) : Json :=
  .object [(name, content)]

/-- A list of names. -/
def names? : Json → Option (List String) :=
  listOf? text?

/-- A list of names in JSON. -/
def ofNames : List String → Json :=
  ofList .string

end SpannerDialect.Form
