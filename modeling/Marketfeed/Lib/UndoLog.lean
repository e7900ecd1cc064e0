import Mathlib.Data.List.Basic

/-!
# Transactions with an undo log

A store is anything with a point read and a point write that obeys the read-over-write law. A
transaction applies a list of writes; before the first write to a cell it records what the cell
held. Rolling back writes the recorded contents again.

* **Without a rollback** the store is the plain fold of the writes (`store_applyAll`).
-/

namespace Marketfeed

namespace UndoLog

variable {σ κ α : Type} [DecidableEq κ]

/-- A store under transaction: its current contents, the recorded old contents in order, and the
cells recorded so far. -/
structure Journal (σ κ α : Type) where
  store : σ
  undo : List (κ × α)
  recorded : List κ

section
variable (get : σ → κ → α) (put : σ → κ → α → σ)

/-- Apply one write, recording the cell's contents the first time it is touched. -/
def applyWrite (j : Journal σ κ α) (w : κ × α) : Journal σ κ α :=
  { store := put j.store w.1 w.2
    undo := if w.1 ∈ j.recorded then j.undo else j.undo ++ [(w.1, get j.store w.1)]
    recorded := if w.1 ∈ j.recorded then j.recorded else w.1 :: j.recorded }

/-- Apply a list of writes to a store. -/
def applyAll (s : σ) (ws : List (κ × α)) : Journal σ κ α :=
  ws.foldl (applyWrite get put) ⟨s, [], []⟩

/-- Write the recorded contents back, oldest first. -/
def rollback (j : Journal σ κ α) : σ := j.undo.foldl (fun s w => put s w.1 w.2) j.store

/-- What the journal knows about the store `s` it started from: exactly the recorded cells are in
the undo list, each with what `s` held there, and every other cell is untouched. -/
structure Tracks (s : σ) (j : Journal σ κ α) : Prop where
  undo_eq : ∀ w ∈ j.undo, w.2 = get s w.1
  mem_undo : ∀ k, k ∈ j.recorded ↔ ∃ a, (k, a) ∈ j.undo
  untouched : ∀ k, k ∉ j.recorded → get j.store k = get s k

variable {get put}
variable (hget : ∀ s k a k', get (put s k a) k' = if k = k' then a else get s k')
include hget

lemma tracks_applyWrite {s : σ} {j : Journal σ κ α} (h : Tracks get s j) (w : κ × α) :
    Tracks get s (applyWrite get put j w) := by
  by_cases hw : w.1 ∈ j.recorded
  · refine ⟨?_, ?_, ?_⟩ <;> simp only [applyWrite, hw, if_true]
    · exact h.undo_eq
    · exact h.mem_undo
    · intro k hk
      have hne : w.1 ≠ k := fun he => hk (he ▸ hw)
      rw [hget, if_neg hne]
      exact h.untouched k hk
  · refine ⟨?_, ?_, ?_⟩ <;> simp only [applyWrite, hw, if_false]
    · intro u hu
      rcases List.mem_append.mp hu with hu | hu
      · exact h.undo_eq u hu
      · rw [List.mem_singleton.mp hu]
        exact h.untouched w.1 hw
    · intro k
      simp only [List.mem_cons, List.mem_append, List.not_mem_nil, or_false, h.mem_undo k]
      constructor
      · rintro (rfl | ⟨a, ha⟩)
        · exact ⟨_, .inr rfl⟩
        · exact ⟨a, .inl ha⟩
      · rintro ⟨a, ha | ha⟩
        · exact .inr ⟨a, ha⟩
        · exact Or.inl (congrArg Prod.fst ha)
    · intro k hk
      simp only [List.mem_cons, not_or] at hk
      rw [hget, if_neg (Ne.symm hk.1)]
      exact h.untouched k hk.2

lemma tracks_applyAll (s : σ) (ws : List (κ × α)) : Tracks get s (applyAll get put s ws) := by
  unfold applyAll
  have h0 : Tracks get s ⟨s, [], []⟩ := ⟨by simp, by simp, by simp⟩
  generalize (⟨s, [], []⟩ : Journal σ κ α) = j at h0
  induction ws generalizing j with
  | nil => exact h0
  | cons w ws ih => exact ih _ (tracks_applyWrite hget h0 w)

/-- Writing a list of cells that all agree with `s` brings those cells to `s` and leaves the rest. -/
lemma get_foldl_put_of_agree {s t : σ} (us : List (κ × α)) (hus : ∀ w ∈ us, w.2 = get s w.1)
    (k : κ) (hk : (∃ a, (k, a) ∈ us) ∨ get t k = get s k) :
    get (us.foldl (fun s w => put s w.1 w.2) t) k = get s k := by
  induction us generalizing t with
  | nil => simpa using hk
  | cons u us ih =>
    refine ih (fun w hw => hus w (List.mem_cons_of_mem _ hw)) ?_
    rw [hget]
    split_ifs with he
    · exact Or.inr (by rw [hus u List.mem_cons_self, he])
    · rcases hk with ⟨a, ha⟩ | hk
      · rcases List.mem_cons.mp ha with ha | ha
        · exact absurd (congrArg Prod.fst ha).symm he
        · exact .inl ⟨a, ha⟩
      · exact .inr hk

/-- **Rollback restores every cell.** -/
theorem get_rollback (s : σ) (ws : List (κ × α)) (k : κ) :
    get (rollback put (applyAll get put s ws)) k = get s k := by
  have h := tracks_applyAll hget s ws
  refine get_foldl_put_of_agree hget _ h.undo_eq k ?_
  by_cases hk : k ∈ (applyAll get put s ws).recorded
  · exact .inl ((h.mem_undo k).mp hk)
  · exact .inr (h.untouched k hk)

end

/-- The store a transaction leaves is the writes applied in order. -/
lemma store_applyAll (get : σ → κ → α) (put : σ → κ → α → σ) (s : σ) (ws : List (κ × α)) :
    (applyAll get put s ws).store = ws.foldl (fun s w => put s w.1 w.2) s := by
  unfold applyAll
  generalize hj : (⟨s, [], []⟩ : Journal σ κ α) = j
  have hs : j.store = s := by rw [← hj]
  clear hj
  induction ws generalizing s j with
  | nil => exact hs
  | cons w ws ih => exact ih _ _ (by simp [applyWrite, hs])

end UndoLog

end Marketfeed
