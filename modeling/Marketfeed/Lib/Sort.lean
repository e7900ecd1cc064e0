import Mathlib.Data.List.Sort
import Mathlib.Data.Prod.Lex

/-!
# Stable sorting by a key

`sortOn key` is a stable sort, as a sort with a comparator is: elements with the same key stay in the
order they had. Sorting commutes with filtering (`filter_sortOn`).
-/

namespace Marketfeed

variable {α β : Type} [LinearOrder β] (key : α → β)

def sortOn (l : List α) : List α := l.insertionSort (fun a b => key a ≤ key b)

lemma perm_sortOn (l : List α) : (sortOn key l).Perm l := List.perm_insertionSort _ l

lemma mem_sortOn {l : List α} {a : α} : a ∈ sortOn key l ↔ a ∈ l := (perm_sortOn key l).mem_iff

lemma pairwise_sortOn (l : List α) : (sortOn key l).Pairwise (fun a b => key a ≤ key b) := by
  have : Std.Total (fun a b => key a ≤ key b) := ⟨fun a b => le_total (key a) (key b)⟩
  have : IsTrans α (fun a b => key a ≤ key b) := ⟨fun _ _ _ => le_trans⟩
  exact List.pairwise_insertionSort _ l

/-- **Sorting commutes with filtering.** -/
theorem filter_sortOn (p : α → Bool) (l : List α) :
    (sortOn key l).filter p = sortOn key (l.filter p) := by
  have hinsert (a : α) (l : List α) (hsorted : l.Pairwise (fun a b => key a ≤ key b)) :
      (l.orderedInsert (fun a b => key a ≤ key b) a).filter p =
        if p a then (l.filter p).orderedInsert (fun a b => key a ≤ key b) a else l.filter p := by
    induction l with
    | nil => cases hp : p a <;> simp [hp]
    | cons b l ih =>
      obtain ⟨hb, hl⟩ := List.pairwise_cons.mp hsorted
      by_cases hle : key a ≤ key b
      · rw [List.orderedInsert_cons_of_le _ l hle, List.filter_cons]
        split_ifs
        · -- What comes after `b` is not below `a` either.
          rcases hrest : (b :: l).filter p with _ | ⟨c, rest⟩
          · rfl
          · refine (List.orderedInsert_cons_of_le _ rest ?_).symm
            have hc : c ∈ b :: l := List.mem_of_mem_filter (hrest ▸ List.mem_cons_self)
            rcases List.mem_cons.mp hc with rfl | hc
            · exact hle
            · exact hle.trans (hb c hc)
        · rfl
      · rw [List.orderedInsert_of_not_le _ l hle, List.filter_cons, List.filter_cons, ih hl]
        split_ifs
        · exact (List.orderedInsert_of_not_le (fun a b => key a ≤ key b) _ hle).symm
        · rfl
        · rfl
        · rfl
  induction l with
  | nil => rfl
  | cons a l ih =>
    have hsorted := pairwise_sortOn key l
    unfold sortOn at ih hsorted ⊢
    rw [List.insertionSort_cons, hinsert a _ hsorted, ih, List.filter_cons]
    split_ifs
    · rfl
    · rfl

end Marketfeed
