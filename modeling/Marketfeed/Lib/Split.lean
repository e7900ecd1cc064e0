import Mathlib.Data.List.DropRight

/-!
# Splitting at a separator

* `not_mem_of_mem_splitOn`: a part of a split holds no separator.
-/

namespace Marketfeed

variable {α : Type*} [DecidableEq α]

/-- Source: `str::split_once` -/
def splitOnce (sep : List α) : List α → Option (List α × List α)
  | [] => if sep = [] then some ([], []) else none
  | x :: xs =>
    if sep <+: x :: xs then some ([], (x :: xs).drop sep.length)
    else (splitOnce sep xs).map fun parts => (x :: parts.1, parts.2)

/-- Source: `str::rsplit_once` of a single character -/
def rsplitOnce (c : α) (xs : List α) : Option (List α × List α) :=
  (splitOnce [c] xs.reverse).map fun parts => (parts.2.reverse, parts.1.reverse)

lemma eq_append_of_splitOnce {sep xs a b : List α} (h : splitOnce sep xs = some (a, b)) :
    xs = a ++ sep ++ b := by
  induction xs generalizing a with
  | nil =>
    rw [splitOnce] at h
    split at h
    · next hsep => obtain ⟨rfl, rfl⟩ := Prod.mk.inj (Option.some.inj h); rw [hsep]; rfl
    · cases h
  | cons x xs ih =>
    rw [splitOnce] at h
    split at h
    · next hsep =>
        obtain ⟨rfl, rfl⟩ := Prod.mk.inj (Option.some.inj h)
        rw [List.nil_append]
        exact (List.prefix_iff_eq_append.mp hsep).symm
    · obtain ⟨⟨a', b'⟩, hrest, hab⟩ := Option.map_eq_some_iff.mp h
      obtain ⟨rfl, rfl⟩ := Prod.mk.inj hab
      rw [ih hrest]
      rfl

/-- Only the text up to the end of the first separator decides where it stands. -/
lemma splitOnce_replace {sep xs a b : List α} (h : splitOnce sep xs = some (a, b))
    (b' : List α) : splitOnce sep (a ++ sep ++ b') = some (a, b') := by
  have hxs := eq_append_of_splitOnce h
  subst hxs
  induction a with
  | nil =>
    cases hsep : sep ++ b' with
    | nil =>
      obtain ⟨rfl, rfl⟩ := List.append_eq_nil_iff.mp hsep
      rfl
    | cons y ys =>
      rw [List.nil_append, hsep, splitOnce, if_pos (hsep ▸ List.prefix_append sep b'), ← hsep,
        List.drop_left]
  | cons x a ih =>
    have hshort : sep.length ≤ (x :: (a ++ sep)).length := by
      rw [List.length_cons, List.length_append]; omega
    rw [List.cons_append, List.cons_append, splitOnce] at h ⊢
    split at h
    · cases h
    · next hno =>
        obtain ⟨⟨a', b''⟩, hrest, hab⟩ := Option.map_eq_some_iff.mp h
        obtain ⟨ha, rfl⟩ := Prod.mk.inj hab
        obtain rfl := (List.cons.inj ha).2
        have hno' : ¬sep <+: x :: (a' ++ sep ++ b') := by
          intro hpre
          refine hno ((List.prefix_of_prefix_length_le hpre ?_ hshort).trans ?_)
          · exact List.prefix_append (x :: (a' ++ sep)) b'
          · exact List.prefix_append (x :: (a' ++ sep)) b''
        rw [if_neg hno', ih hrest]
        rfl

variable {c : α} {xs a b : List α}

lemma splitOnce_singleton_cons (x : α) (xs : List α) :
    splitOnce [c] (x :: xs) =
      if x = c then some ([], xs) else (splitOnce [c] xs).map fun p => (x :: p.1, p.2) := by
  have hhead : [c] <+: x :: xs ↔ x = c := by
    rw [List.cons_prefix_cons, eq_comm, and_iff_left List.nil_prefix]
  rw [splitOnce]
  exact if_congr hhead rfl rfl

lemma splitOnce_eq_none_iff : splitOnce [c] xs = none ↔ c ∉ xs := by
  induction xs with
  | nil => exact iff_of_true rfl List.not_mem_nil
  | cons x xs ih =>
    rw [splitOnce_singleton_cons, List.mem_cons, not_or]
    split
    · next hx => exact iff_of_false (Option.some_ne_none _) fun hnot => hnot.1 hx.symm
    · next hx => rw [Option.map_eq_none_iff, ih]; exact (and_iff_right fun he => hx he.symm).symm

lemma splitOnce_eq_some_iff : splitOnce [c] xs = some (a, b) ↔ xs = a ++ c :: b ∧ c ∉ a := by
  induction xs generalizing a with
  | nil => exact iff_of_false (fun h => by cases h) fun h => by cases a <;> cases h.1
  | cons x xs ih =>
    rw [splitOnce_singleton_cons]
    cases a with
    | nil =>
      split
      · next hx => simp [hx, Prod.ext_iff, eq_comm]
      · next hx => simp [hx]
    | cons y a =>
      split
      · next hx => simp only [hx, List.cons_append, List.cons.injEq, List.mem_cons]; grind
      · next hx =>
          simp only [Option.map_eq_some_iff, Prod.exists, Prod.mk.injEq, List.cons_append,
            List.cons.injEq, List.mem_cons]
          grind

lemma splitOnce_append (h : c ∉ a) (b : List α) : splitOnce [c] (a ++ c :: b) = some (a, b) :=
  splitOnce_eq_some_iff.mpr ⟨rfl, h⟩

lemma rsplitOnce_append (h : c ∉ b) (a : List α) : rsplitOnce c (a ++ c :: b) = some (a, b) := by
  have hb : c ∉ b.reverse := fun hmem => h (List.mem_reverse.mp hmem)
  rw [rsplitOnce, List.reverse_append, List.reverse_cons, List.append_assoc,
    List.singleton_append, splitOnce_append hb]
  simp

lemma eq_append_of_rsplitOnce (h : rsplitOnce c xs = some (a, b)) : xs = a ++ c :: b ∧ c ∉ b := by
  obtain ⟨⟨b', a'⟩, hsplit, hab⟩ := Option.map_eq_some_iff.mp h
  obtain ⟨rfl, rfl⟩ := Prod.mk.inj hab
  obtain ⟨hxs, hc⟩ := splitOnce_eq_some_iff.mp hsplit
  refine ⟨?_, fun hmem => hc (List.mem_reverse.mp hmem)⟩
  rw [← List.reverse_reverse xs, hxs]
  simp

/-- What follows the last separator does not depend on what precedes a separator. -/
lemma rsplitOnce_snd_eq (a a' b : List α) :
    ∃ p p' s, rsplitOnce c (a ++ c :: b) = some (p, s) ∧
      rsplitOnce c (a' ++ c :: b) = some (p', s) := by
  cases hb : rsplitOnce c b with
  | none =>
    have hnot : c ∉ b := by
      rw [rsplitOnce, Option.map_eq_none_iff, splitOnce_eq_none_iff] at hb
      exact fun hmem => hb (List.mem_reverse.mpr hmem)
    exact ⟨a, a', b, rsplitOnce_append hnot a, rsplitOnce_append hnot a'⟩
  | some parts =>
    obtain ⟨hsplit, hnot⟩ := eq_append_of_rsplitOnce (a := parts.1) (b := parts.2) hb
    rw [hsplit]
    refine ⟨a ++ c :: parts.1, a' ++ c :: parts.1, parts.2, ?_, ?_⟩
    · rw [← rsplitOnce_append hnot (a ++ c :: parts.1), List.append_assoc, List.cons_append]
    · rw [← rsplitOnce_append hnot (a' ++ c :: parts.1), List.append_assoc, List.cons_append]

lemma not_mem_of_mem_splitOn {part : List α} (h : part ∈ xs.splitOn c) : c ∉ part := by
  induction xs generalizing part with
  | nil =>
    rw [List.splitOn_nil, List.mem_singleton] at h
    rw [h]
    exact List.not_mem_nil
  | cons x xs ih =>
    rw [List.splitOn_cons_eq_if_modifyHead] at h
    split at h
    · rcases List.mem_cons.mp h with rfl | hrest
      · exact List.not_mem_nil
      · exact ih hrest
    · next hx =>
        obtain ⟨first, rest, hparts⟩ := List.exists_cons_of_ne_nil (List.splitOn_ne_nil c xs)
        rw [hparts] at h ih
        rcases List.mem_cons.mp h with rfl | hrest
        · have hfirst : c ∉ first := ih List.mem_cons_self
          have hcx : c ≠ x := fun he => hx (beq_iff_eq.mpr he.symm)
          exact List.not_mem_cons_of_ne_of_not_mem hcx hfirst
        · exact ih (List.mem_cons_of_mem first hrest)

end Marketfeed
