import Mathlib.Data.List.Basic

/-!
# Accounts of a lossy queue

What a queue accepted, what is left of it, and how many items were thrown away in between. `Accounts`
relates the three without saying which items were lost; one rule for each thing that can happen to a
queue keeps them in agreement.

`Covered` says that everything accepted up to some point has been dealt with; it stays true as more is
accepted and more is done.
-/

namespace Marketfeed

/-- `kept` is what is left of `accepted`, in its order, after `dropped` items were thrown away. -/
structure Accounts {α : Type} (accepted kept : List α) (dropped : Nat) : Prop where
  sublist : kept.Sublist accepted
  length : kept.length + dropped = accepted.length

namespace Accounts

variable {α : Type} {accepted kept : List α} {dropped : Nat}

lemma nil : Accounts ([] : List α) [] 0 := ⟨.slnil, rfl⟩

/-- An item is added at the back. -/
lemma accept (h : Accounts accepted kept dropped) (x : α) :
    Accounts (accepted ++ [x]) (kept ++ [x]) dropped := by
  refine ⟨h.sublist.append (.refl _), ?_⟩
  have hlength := h.length
  simp only [List.length_append, List.length_singleton]
  omega

/-- An item is accepted and thrown away at once. -/
lemma refuse (h : Accounts accepted kept dropped) (x : α) :
    Accounts (accepted ++ [x]) kept (dropped + 1) := by
  refine ⟨h.sublist.trans (List.sublist_append_left _ _), ?_⟩
  have hlength := h.length
  simp only [List.length_append, List.length_singleton]
  omega

/-- An item accepted earlier is thrown away. -/
lemma discard {before after : List α} {x : α}
    (h : Accounts accepted (before ++ x :: after) dropped) :
    Accounts accepted (before ++ after) (dropped + 1) := by
  refine ⟨((List.sublist_cons_self x after).append_left before).trans h.sublist, ?_⟩
  have hlength := h.length
  simp only [List.length_append, List.length_cons] at hlength ⊢
  omega

/-- No item is kept more often than it was accepted. -/
lemma count_le [DecidableEq α] (h : Accounts accepted kept dropped) (x : α) :
    kept.count x ≤ accepted.count x :=
  h.sublist.count_le x

end Accounts

/-- The first `n` accepted items come first in `done`. -/
def Covered {α : Type} (accepted : List α) (n : Nat) (done : List α) : Prop :=
  n ≤ accepted.length ∧ accepted.take n <+: done

namespace Covered

variable {α : Type} {accepted done done' : List α} {n : Nat}

lemma mono (h : Covered accepted n done) (hgrow : done <+: done') : Covered accepted n done' :=
  ⟨h.1, h.2.trans hgrow⟩

lemma extend {accepted' : List α} (h : Covered accepted n done) (hmore : accepted <+: accepted') :
    Covered accepted' n done := by
  refine ⟨Nat.le_trans h.1 hmore.length_le, ?_⟩
  obtain ⟨more, rfl⟩ := hmore
  rw [List.take_append_of_le_length h.1]
  exact h.2

/-- Everything accepted so far is done. -/
lemma of_all (hn : n ≤ accepted.length) (hall : done = accepted) : Covered accepted n done :=
  ⟨hn, hall ▸ List.take_prefix _ _⟩

end Covered

end Marketfeed
