import SpannerDialect.Text.Quoted
import SpannerDialect.Text.Scan

/-! # Neutral text

    A text is neutral in a state of the scanner when it leaves the scanner
    in that state and holds no placeholder.  Neutral texts compose, so the
    parts of a statement can be looked at one by one. -/

namespace SpannerDialect.Text

/-- A text that leaves the scanner where it stands and holds no placeholder. -/
def Neutral (s : ScanState) (t : List Char) : Prop :=
  scan s t = s ∧ placeholdersFrom s t = 0

instance (s : ScanState) (t : List Char) : Decidable (Neutral s t) := by
  unfold Neutral; infer_instance

namespace Neutral

variable {s : ScanState}

theorem nil : Neutral s [] :=
  ⟨rfl, rfl⟩

/-- Behind a neutral text everything is as it was before it. -/
theorem append_iff {a b : List Char} (ha : Neutral s a) : Neutral s (a ++ b) ↔ Neutral s b := by
  obtain ⟨hscan, hplaceholders⟩ := ha
  rw [Neutral, Neutral, scan_append, placeholdersFrom_append, hscan, hplaceholders, Nat.zero_add]

theorem append {a b : List Char} (ha : Neutral s a) (hb : Neutral s b) :
    Neutral s (a ++ b) :=
  ha.append_iff.mpr hb

theorem cons {c : Char} {t : List Char} (hc : Neutral s [c]) (ht : Neutral s t) :
    Neutral s (c :: t) :=
  hc.append ht

/-- A word that may be missing. -/
theorem word {p : Prop} [Decidable p] {w : List Char} (h : Neutral s w) :
    Neutral s (if p then w else []) := by
  split
  · exact h
  · exact nil

/-- A clause that may be missing. -/
theorem clause {α : Type} {g : α → List Char} {o : Option α} (h : ∀ a ∈ o, Neutral s (g a)) :
    Neutral s ((o.map g).getD []) := by
  cases o with
  | none => exact nil
  | some a => exact h a rfl

theorem flatMap {α : Type} {g : α → List Char} {xs : List α}
    (h : ∀ x ∈ xs, Neutral s (g x)) : Neutral s (xs.flatMap g) := by
  induction xs with
  | nil => exact nil
  | cons x xs ih =>
      rw [List.flatMap_cons]
      exact append (h x (List.mem_cons_self ..))
        (ih fun y hy => h y (List.mem_cons_of_mem _ hy))

/-- A text is neutral when each of its characters is. -/
theorem of_chars {t : List Char} (h : ∀ c ∈ t, Neutral s [c]) : Neutral s t := by
  have hf : Neutral s (t.flatMap fun c => [c]) := flatMap h
  rwa [List.flatMap_singleton'] at hf

theorem join {separator : List Char} {ts : List (List Char)}
    (hs : Neutral s separator) (h : ∀ t ∈ ts, Neutral s t) :
    Neutral s (join separator ts) := by
  fun_induction Text.join separator ts with
  | case1 => exact nil
  | case2 t => exact h t (List.mem_singleton_self t)
  | case3 t ts hne ih =>
      exact append (append (h t (List.mem_cons_self ..)) hs)
        (ih fun u hu => h u (List.mem_cons_of_mem _ hu))

end Neutral

/-- Outside quotes a character is neutral unless it opens a quoted region or
    is a placeholder. -/
theorem neutral_outside {c : Char} (hq : isQuote c = false) (hp : c ≠ '?') :
    Neutral .outside [c] := by
  refine ⟨?_, ?_⟩
  · simp [ScanState.step, hq]
  · simp [placeholdersFrom, isPlaceholder, hp]

end SpannerDialect.Text
