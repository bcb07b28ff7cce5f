import SpannerDialect.Proofs.Json.Reader

/-! # Documents read back

    The fields of a document are in order already, so bringing them into
    order changes nothing (`normalize_of_ordered`), and a document is read
    back from its text (`Document.read_print`). -/

namespace SpannerDialect.Json

/-! ## Fields in order -/

/-- In fields in order a key below the first one is below all. -/
theorem below_of_keyBelow {key : String} {fields : List (String × Json)}
    (hkey : keyBelow key fields = true) (hfields : orderedFields fields = true) :
    ∀ f ∈ fields, key < f.1 := by
  induction fields generalizing key with
  | nil =>
      intro f hf
      cases hf
  | cons g rest ih =>
      obtain ⟨k, a⟩ := g
      obtain ⟨hhead, hrest⟩ := Bool.and_eq_true_iff.mp hfields
      have hlt : key < k := of_decide_eq_true hkey
      intro f hf
      rcases List.mem_cons.mp hf with rfl | hmem
      · exact hlt
      · exact String.lt_trans hlt (ih (Bool.and_eq_true_iff.mp hhead).1 hrest f hmem)

/-- A field with a key above all others goes to the end. -/
theorem insertField_above {key : String} (value : Json) {sorted : List (String × Json)}
    (h : ∀ f ∈ sorted, f.1 < key) : insertField key value sorted = sorted ++ [(key, value)] := by
  induction sorted with
  | nil => rfl
  | cons f rest ih =>
      obtain ⟨k, a⟩ := f
      obtain ⟨hk, hrest⟩ := List.forall_mem_cons.mp h
      have hnot : ¬ key < k := String.lt_asymm hk
      have hne : key ≠ k := by
        rintro rfl
        exact String.lt_irrefl key hk
      rw [insertField, if_neg hnot, if_neg hne, ih hrest]
      rfl

/-! ## Trees in order -/

mutual

/-- A tree in order is its own normal form. -/
theorem normalize_of_ordered : ∀ {j : Json}, ordered j = true → normalize j = j
  | null, _ => rfl
  | bool _, _ => rfl
  | number _, _ => rfl
  | string _, _ => rfl
  | array _, h => congrArg array (normalizeItems_of_ordered h)
  | object _, h =>
    congrArg object (normalizeFields_of_ordered h fun _ hs => absurd hs List.not_mem_nil)

theorem normalizeItems_of_ordered : ∀ {as : List Json}, orderedItems as = true →
    normalizeItems as = as
  | [], _ => rfl
  | _ :: _, h => by
      obtain ⟨ha, has⟩ := Bool.and_eq_true_iff.mp h
      rw [normalizeItems, normalize_of_ordered ha, normalizeItems_of_ordered has]

/-- Fields in order, all above those in place, are put behind these. -/
theorem normalizeFields_of_ordered : ∀ {as sorted : List (String × Json)},
    orderedFields as = true → (∀ s ∈ sorted, ∀ f ∈ as, s.1 < f.1) →
      normalizeFields sorted as = sorted ++ as
  | [], sorted, _, _ => (List.append_nil sorted).symm
  | (k, a) :: as, sorted, h, hbelow => by
      obtain ⟨hhead, has⟩ := Bool.and_eq_true_iff.mp h
      obtain ⟨hk, ha⟩ := Bool.and_eq_true_iff.mp hhead
      have hsorted : ∀ s ∈ sorted, s.1 < k := fun s hs => hbelow s hs _ (List.mem_cons_self ..)
      -- the new field is above those in place and below those to come
      have hnext : ∀ s ∈ sorted ++ [(k, a)], ∀ f ∈ as, s.1 < f.1 := by
        intro s hs f hf
        rcases List.mem_append.mp hs with hs | hs
        · exact hbelow s hs f (List.mem_cons_of_mem _ hf)
        · obtain rfl := List.mem_singleton.mp hs
          exact below_of_keyBelow hk has f hf
      rw [normalizeFields, normalize_of_ordered ha, insertField_above a hsorted,
        normalizeFields_of_ordered has hnext, List.append_assoc]
      rfl

end

namespace Document

theorem ofTree_tree (d : Document) : ofTree d.tree = d := by
  obtain ⟨tree, hordered⟩ := d
  rw [ofTree]
  congr 1
  exact normalize_of_ordered hordered

/-- A document that can be read back: its numbers are whole, and its brackets
    nest no deeper than a reader allows. -/
def Portable (d : Document) : Prop :=
  d.tree.isWhole = true ∧ d.tree.depth ≤ nestingLimit

instance (d : Document) : Decidable d.Portable :=
  inferInstanceAs (Decidable (_ ∧ _))

/-- **A document is read back from its text.** -/
theorem read_print {d : Document} (h : d.Portable) : Document.read d.print = .ok d := by
  obtain ⟨hwhole, hdepth⟩ := h
  have hvalue := readValue_print d.tree nestingLimit hdepth hwhole [] stopsNumber_nil
  rw [List.append_nil] at hvalue
  have hread : readWhole d.print = .ok d.tree := by
    rw [readWhole, print, hvalue]
    rfl
  rw [Document.read, hread]
  exact congrArg _ d.ofTree_tree

end Document

end SpannerDialect.Json
