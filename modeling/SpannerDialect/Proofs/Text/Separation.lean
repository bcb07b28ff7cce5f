import SpannerDialect.Proofs.Text.Digits
import SpannerDialect.Proofs.Text.Names

/-! # Texts told apart from what follows them

    A text that is made of parts is read from the left on when each part can be told apart
    from what follows it.  For a word or a clause that may be missing, nothing else must
    start with it (`word_append_inj`, `clause_append_inj`).  The items of a list in
    brackets must open with a mark that is not the closing bracket, and be told apart from
    the comma or the bracket behind them (`join_append_inj`). -/

namespace SpannerDialect.Text

variable {word rest rest' : List Char}

/-! ## Optional words and clauses -/

/-- Whether a word stands in front is seen where nothing else starts with it. -/
theorem word_append_inj {p p' : Prop} [Decidable p] [Decidable p'] (hrest : ¬ word <+: rest)
    (hrest' : ¬ word <+: rest')
    (h : (if p then word else []) ++ rest = (if p' then word else []) ++ rest') :
    (p ↔ p') ∧ rest = rest' := by
  by_cases hp : p <;> by_cases hp' : p'
  · rw [if_pos hp, if_pos hp'] at h
    exact ⟨iff_of_true hp hp', List.append_cancel_left h⟩
  · rw [if_pos hp, if_neg hp'] at h
    exact absurd ⟨rest, h⟩ hrest'
  · rw [if_neg hp, if_pos hp'] at h
    exact absurd ⟨rest', h.symm⟩ hrest
  · rw [if_neg hp, if_neg hp'] at h
    exact ⟨iff_of_false hp hp', h⟩

/-- Nor can a clause be overlooked that starts with a word of its own. -/
theorem clause_append_inj {α : Type} {clause : α → List Char} {o o' : Option α}
    (hclause : ∀ a, word <+: clause a) (hrest : ¬ word <+: rest) (hrest' : ¬ word <+: rest')
    (hinj : ∀ a ∈ o, ∀ b ∈ o', clause a ++ rest = clause b ++ rest' → a = b ∧ rest = rest')
    (h : (o.map clause).getD [] ++ rest = (o'.map clause).getD [] ++ rest') :
    o = o' ∧ rest = rest' := by
  have hstarts : ∀ a r, word <+: clause a ++ r := fun a r =>
    (hclause a).trans (List.prefix_append _ _)
  cases o with
  | none =>
      cases o' with
      | none => exact ⟨rfl, h⟩
      | some b =>
          have hb := hstarts b rest'
          rw [← show rest = clause b ++ rest' from h] at hb
          exact absurd hb hrest
  | some a =>
      cases o' with
      | none =>
          have ha := hstarts a rest
          rw [show clause a ++ rest = rest' from h] at ha
          exact absurd ha hrest'
      | some b =>
          obtain ⟨rfl, hrests⟩ := hinj a rfl b rfl h
          exact ⟨rfl, hrests⟩

/-- A clause that may be missing, with nothing behind it. -/
theorem clause_inj {α : Type} {clause : α → List Char} {o o' : Option α}
    (hclause : ∀ a, word <+: clause a) (hword : word ≠ [])
    (hinj : ∀ a ∈ o, ∀ b ∈ o', clause a = clause b → a = b)
    (h : (o.map clause).getD [] = (o'.map clause).getD []) : o = o' := by
  have hnil : ¬ word <+: [] := fun hprefix => hword (List.prefix_nil.mp hprefix)
  refine (clause_append_inj hclause hnil hnil ?_ (congrArg (· ++ []) h)).1
  intro a ha b hb heq
  exact ⟨hinj a ha b hb (List.append_cancel_right heq), rfl⟩

/-- What neither starts the word of a clause nor starts with it starts no such clause, nor
    what is there without one. -/
theorem not_prefix_clause {α : Type} {clause : α → List Char} (hclause : ∀ a, word <+: clause a)
    (other : List Char) (hne : other ≠ []) (hother : ¬ other <+: word) (hword : ¬ word <+: other)
    (o : Option α) : ¬ other <+: (o.map clause).getD [] := by
  intro h
  cases o with
  | none => exact hne (List.prefix_nil.mp h)
  | some a => exact (List.prefix_or_prefix_of_prefix h (hclause a)).elim hother hword

/-! ## Lists in brackets -/

/-- An item of a list in brackets is followed by a comma, or by the bracket. -/
def EndsItem (rest : List Char) : Prop :=
  rest.head? = some ',' ∨ rest.head? = some ')'

/-- What follows an item, with the items behind it. -/
def behindItem (rest : List Char) : List (List Char) → List Char
  | [] => ')' :: rest
  | ts => ',' :: ' ' :: (join [',', ' '] ts ++ ')' :: rest)

theorem endsItem_behindItem (rest : List Char) (ts : List (List Char)) :
    EndsItem (behindItem rest ts) := by
  cases ts with
  | nil => exact .inr rfl
  | cons t ts => exact .inl rfl

theorem join_cons_append (t rest : List Char) (ts : List (List Char)) :
    join [',', ' '] (t :: ts) ++ ')' :: rest = t ++ behindItem rest ts := by
  cases ts with
  | nil => rfl
  | cons u ts => simp [join, behindItem]

/-- What stands behind an item tells the list of the others, with its bracket. -/
theorem join_append_of_behindItem {ts us : List (List Char)}
    (h : behindItem rest ts = behindItem rest' us) :
    join [',', ' '] ts ++ ')' :: rest = join [',', ' '] us ++ ')' :: rest' := by
  cases ts with
  | nil =>
      cases us with
      | nil => exact h
      | cons u us => exact absurd (List.cons.inj h).1 (by decide)
  | cons t ts =>
      cases us with
      | nil => exact absurd (List.cons.inj h).1 (by decide)
      | cons u us => exact (List.cons.inj (List.cons.inj h).2).2

/-- Items that open with a back-quote, and that are told apart from what follows them,
    are told apart one by one in a list in brackets, and the list from what follows it. -/
theorem join_append_inj {ts us : List (List Char)} (hts : ∀ t ∈ ts, t.head? = some '\x60')
    (hus : ∀ u ∈ us, u.head? = some '\x60')
    (hinj : ∀ t ∈ ts, ∀ u ∈ us, ∀ r r', EndsItem r → EndsItem r' → t ++ r = u ++ r' →
      t = u ∧ r = r')
    (h : join [',', ' '] ts ++ ')' :: rest = join [',', ' '] us ++ ')' :: rest') :
    ts = us ∧ rest = rest' := by
  have hopens : ∀ (t r r' : List Char) (ts : List (List Char)), t.head? = some '\x60' →
      ')' :: r ≠ join [',', ' '] (t :: ts) ++ ')' :: r' := by
    intro t r r' ts ht heq
    rw [join_cons_append] at heq
    have hhead := congrArg List.head? heq
    rw [List.head?_append, ht] at hhead
    exact absurd (Option.some.inj hhead) (by decide)
  induction ts generalizing us with
  | nil =>
      cases us with
      | nil => exact ⟨rfl, (List.cons.inj h).2⟩
      | cons u us => exact absurd h (hopens u _ _ us (hus u List.mem_cons_self))
  | cons t ts ih =>
      cases us with
      | nil => exact absurd h.symm (hopens t _ _ ts (hts t List.mem_cons_self))
      | cons u us =>
          rw [join_cons_append, join_cons_append] at h
          obtain ⟨rfl, hbehind⟩ := hinj t List.mem_cons_self u List.mem_cons_self _ _
            (endsItem_behindItem rest ts) (endsItem_behindItem rest' us) h
          have hrestItems : ∀ t ∈ ts, ∀ u ∈ us, ∀ r r', EndsItem r → EndsItem r' →
              t ++ r = u ++ r' → t = u ∧ r = r' := fun t ht u hu =>
            hinj t (List.mem_cons_of_mem _ ht) u (List.mem_cons_of_mem _ hu)
          obtain ⟨rfl, hrests⟩ := ih (List.forall_mem_cons.mp hts).2 (List.forall_mem_cons.mp hus).2
            hrestItems (join_append_of_behindItem hbehind)
          exact ⟨rfl, hrests⟩

theorem quoteName_injective : Function.Injective quoteName := by
  intro name other h
  have hinside := List.append_cancel_right (List.cons.inj h).2
  exact String.toList_inj.mp (escapeName_inj hinside)

/-- Lists of names without backslashes are told apart from what follows their bracket. -/
theorem quoteNames_append_inj {names others : List String}
    (hnames : ∀ name ∈ names, '\\' ∉ name.toList) (hothers : ∀ name ∈ others, '\\' ∉ name.toList)
    (h : quoteNames names ++ ')' :: rest = quoteNames others ++ ')' :: rest') :
    names = others ∧ rest = rest' := by
  have hquoted : names.map quoteName = others.map quoteName ∧ rest = rest' := by
    refine join_append_inj ?_ ?_ ?_ h
    · simp [quoteName]
    · simp [quoteName]
    · intro t ht u hu r r' _ _ htext
      obtain ⟨name, hname, rfl⟩ := List.mem_map.mp ht
      obtain ⟨other, hother, rfl⟩ := List.mem_map.mp hu
      obtain ⟨rfl, hrests⟩ := quoteName_append_inj (hnames name hname) (hothers other hother) htext
      exact ⟨rfl, hrests⟩
  exact ⟨quoteName_injective.list_map hquoted.1, hquoted.2⟩

/-! ## Numbers at the end -/

/-- A number behind a text without digits at its end is told from the right. -/
theorem append_digits_inj {a b : List Char} {n m : Nat} {c : Char} (hc : c.isDigit = false)
    (h : a ++ c :: digits n = b ++ c :: digits m) : a = b ∧ n = m := by
  have hall : ∀ k, (digits k).reverse.all Char.isDigit = true := fun k => by
    rw [List.all_reverse]
    exact all_digits k
  have hread : ∀ (t : List Char) (k : Nat), (t ++ c :: digits k).reverse =
      (digits k).reverse ++ c :: t.reverse := fun t k => by
    simp
  have hreverse := congrArg List.reverse h
  rw [hread, hread] at hreverse
  have hnumber := congrArg leadingDigits hreverse
  have hbefore := congrArg afterDigits hreverse
  rw [leadingDigits_append (hall n) (stopsDigits_cons hc _),
    leadingDigits_append (hall m) (stopsDigits_cons hc _), List.reverse_inj] at hnumber
  rw [afterDigits_append (hall n) (stopsDigits_cons hc _),
    afterDigits_append (hall m) (stopsDigits_cons hc _)] at hbefore
  refine ⟨List.reverse_inj.mp (List.cons.inj hbefore).2, ?_⟩
  rw [← number_digits n, ← number_digits m, hnumber]

end SpannerDialect.Text
