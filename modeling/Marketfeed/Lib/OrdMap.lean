import Mathlib.Algebra.BigOperators.Group.Finset.Basic
import Mathlib.Algebra.Ring.Int.Defs
import Mathlib.Data.Finset.Sort
import Std.Data.ExtTreeMap

/-!
# Ordered maps

A finite map over a linearly ordered key type, with the operations a price ladder needs: the
smallest and the largest entry, writing and removing one key, and the two loops that drop entries
from one end until a size bound holds. The carrier is the standard library's extensional tree map,
so two maps with the same entries are equal.
-/

namespace Marketfeed

/-- A finite map with linearly ordered keys. -/
abbrev OrdMap (K V : Type) [LinearOrder K] := Std.ExtTreeMap K V compare

namespace OrdMap

open Std.ExtTreeMap

variable {K V : Type} [LinearOrder K]

/-! ## The listing -/

variable {m : OrdMap K V} {k : K} {v : V}

lemma mem_toList : (k, v) ∈ m.toList ↔ m[k]? = some v :=
  mem_toList_iff_getElem?_eq_some

/-- The listing is strictly increasing in the key. -/
lemma sorted_toList (m : OrdMap K V) : m.toList.Pairwise (fun a b => a.1 < b.1) :=
  (ordered_keys_toList (t := m)).imp fun h => compare_lt_iff_lt.mp h

/-- **The listing determines the map.** A strictly sorted list with the entries of `m` is the
listing of `m`. -/
theorem toList_eq_of_sorted {l : List (K × V)} (hs : l.Pairwise (fun a b => a.1 < b.1))
    (h : ∀ k v, (k, v) ∈ l ↔ m[k]? = some v) : m.toList = l := by
  have hanti : Std.Antisymm (fun a b : K × V => a.1 < b.1) :=
    ⟨fun a b hab hba => absurd hab hba.asymm⟩
  have hirrefl : Std.Irrefl (fun a b : K × V => a.1 < b.1) := ⟨fun a => lt_irrefl a.1⟩
  refine List.Pairwise.eq_of_mem_iff (sorted_toList m) hs ?_
  rintro ⟨k, v⟩
  rw [mem_toList, h]

/-- The elements of a set of keys, as a map lists them. -/
def ascending (keys : Finset K) : List K := keys.sort (· ≤ ·)

/-- The keys of a map are listed in their order. -/
lemma keys_eq_sort {keys : Finset K} (h : ∀ k : K, k ∈ keys ↔ m[k]? ≠ none) :
    m.toList.map Prod.fst = keys.sort (· ≤ ·) := by
  have hanti : Std.Antisymm (fun a b : K => a < b) := ⟨fun a b hab hba => absurd hab hba.asymm⟩
  have hirrefl : Std.Irrefl (fun a b : K => a < b) := ⟨fun a => lt_irrefl a⟩
  refine List.Pairwise.eq_of_mem_iff (List.pairwise_map.mpr (sorted_toList m))
    (Finset.sortedLT_sort keys).pairwise ?_
  intro k
  rw [List.mem_map, Finset.mem_sort, h, Option.ne_none_iff_exists']
  constructor
  · rintro ⟨⟨k', v⟩, hmem, rfl⟩
    exact ⟨v, mem_toList.mp hmem⟩
  · rintro ⟨v, hv⟩
    exact ⟨(k, v), mem_toList.mpr hv, rfl⟩

/-! ## Writing one key -/

/-- Store a value under a key, or remove the key. -/
def write (m : OrdMap K V) (k : K) : Option V → OrdMap K V
  | some v => m.insert k v
  | none => m.erase k

lemma getElem?_write (m : OrdMap K V) (k k' : K) (o : Option V) :
    (m.write k o)[k']? = if k = k' then o else m[k']? := by
  cases o with
  | none => simp [write, getElem?_erase]
  | some v => simp [write, getElem?_insert]

lemma getElem?_insert (m : OrdMap K V) (k k' : K) (v : V) :
    (m.insert k v)[k']? = if k = k' then some v else m[k']? :=
  getElem?_write m k k' (some v)

/-- Removing an absent key changes nothing. -/
lemma write_none_of_absent (h : m[k]? = none) : m.write k none = m := by
  refine ext_getElem? fun k' => ?_
  rw [getElem?_write]
  split_ifs with hk
  · rw [← hk, h]
  · rfl

variable {n : Nat}

/-- A map with room for a new key stays within its bound. -/
lemma size_insert_le (hle : m.size ≤ n) (hnew : m[k]? = none → m.size < n) :
    (m.insert k v).size ≤ n := by
  rw [size_insert]
  split_ifs with hmem
  · exact hle
  · refine hnew ?_
    rw [← Option.not_isSome_iff_eq_none, ← mem_iff_isSome_getElem?]
    exact hmem

/-! ## The two ends -/

/-- The entry with the smallest key. -/
def first? (m : OrdMap K V) : Option (K × V) := m.toList.head?

/-- The entry with the largest key. -/
def last? (m : OrdMap K V) : Option (K × V) := m.toList.getLast?

variable {e : K × V}

lemma getElem?_of_first? (h : m.first? = some e) : m[e.1]? = some e.2 :=
  mem_toList.mp (List.mem_of_mem_head? h)

lemma getElem?_of_last? (h : m.last? = some e) : m[e.1]? = some e.2 :=
  mem_toList.mp (List.mem_of_getLast? h)

lemma first?_le (h : m.first? = some e) (hk : m[k]? = some v) : e.1 ≤ k := by
  have hmem := mem_toList.mpr hk
  have hs := sorted_toList m
  unfold first? at h
  cases hl : m.toList with
  | nil => simp [hl] at hmem
  | cons a l =>
    simp only [hl, List.head?_cons, Option.some.injEq] at h hmem
    subst h
    rw [hl, List.pairwise_cons] at hs
    rcases List.mem_cons.mp hmem with rfl | hmem
    · exact le_refl _
    · exact (hs.1 _ hmem).le

lemma le_last? (h : m.last? = some e) (hk : m[k]? = some v) : k ≤ e.1 := by
  have hmem := mem_toList.mpr hk
  have hs := sorted_toList m
  obtain ⟨l, hl⟩ := List.getLast?_eq_some_iff.mp h
  rw [hl, List.pairwise_append] at hs
  rw [hl] at hmem
  rcases List.mem_append.mp hmem with hmem | hmem
  · exact (hs.2.2 _ hmem e (by simp)).le
  · exact (congrArg Prod.fst (List.mem_singleton.mp hmem)).le

lemma first?_eq_none : m.first? = none ↔ ∀ k : K, m[k]? = none := by
  unfold first?
  rw [List.head?_eq_none_iff]
  constructor
  · intro h k
    by_contra hk
    obtain ⟨v, hv⟩ := Option.ne_none_iff_exists'.mp hk
    have := mem_toList.mpr hv
    simp [h] at this
  · intro h
    refine List.eq_nil_iff_forall_not_mem.mpr ?_
    rintro ⟨k, v⟩ hmem
    simpa [h k] using mem_toList.mp hmem

lemma last?_eq_none : m.last? = none ↔ m.first? = none := by
  simp [first?, last?]

/-- **Separation.** The largest key of `m` is below the smallest key of `n` exactly when every
key of `m` is below every key of `n`. -/
theorem separated_iff {n : OrdMap K V} :
    (∀ b a, m.last? = some b → n.first? = some a → b.1 < a.1) ↔
      ∀ (kb : K) (vb : V) (ka : K) (va : V),
        m[kb]? = some vb → n[ka]? = some va → kb < ka := by
  constructor
  · intro h kb vb ka va hb ha
    cases hlast : m.last? with
    | none => simp [first?_eq_none.mp (last?_eq_none.mp hlast) kb] at hb
    | some b =>
      cases hfirst : n.first? with
      | none => simp [first?_eq_none.mp hfirst ka] at ha
      | some a =>
        exact (le_last? hlast hb).trans_lt ((h b a hlast hfirst).trans_le (first?_le hfirst ha))
  · intro h b a hb ha
    exact h _ _ _ _ (getElem?_of_last? hb) (getElem?_of_first? ha)

/-! ## Dropping entries from one end -/

/-- Remove the entry with the smallest key. -/
def popFirst (m : OrdMap K V) : OrdMap K V :=
  match m.first? with
  | some e => m.erase e.1
  | none => m

/-- Remove the entry with the largest key. -/
def popLast (m : OrdMap K V) : OrdMap K V :=
  match m.last? with
  | some e => m.erase e.1
  | none => m

/-- Removing a key filters it out of the listing. -/
lemma toList_erase (m : OrdMap K V) (k : K) :
    (m.erase k).toList = m.toList.filter (fun e => e.1 ≠ k) := by
  refine toList_eq_of_sorted ((sorted_toList m).filter _) fun k' v => ?_
  have hw := getElem?_write m k k' none
  simp only [write] at hw
  rw [hw, List.mem_filter, mem_toList]
  by_cases hk : k = k'
  · simp [hk]
  · simp [hk, Ne.symm hk]

/-! ## The sum over the entries -/

/-- The sum of a map's values, weighed by `f`. -/
def total (f : V → Int) (m : OrdMap K V) : Int := (m.toList.map fun e => f e.2).sum

/-- An entry can be taken out of the listing. -/
lemma toList_perm_erase (h : m[k]? = some v) : m.toList.Perm ((k, v) :: (m.erase k).toList) := by
  have hnodup : ∀ m : OrdMap K V, m.toList.Nodup := fun m =>
    (sorted_toList m).imp fun hlt => by
      rintro rfl
      exact lt_irrefl _ hlt
  have hfresh : (k, v) ∉ (m.erase k).toList := by
    rw [toList_erase, List.mem_filter]
    simp
  refine (List.perm_ext_iff_of_nodup (hnodup m) (List.nodup_cons.mpr ⟨hfresh, hnodup _⟩)).mpr ?_
  rintro ⟨k', v'⟩
  rw [List.mem_cons, toList_erase, List.mem_filter, mem_toList, Prod.mk.injEq]
  by_cases hk : k' = k
  · subst hk
    rw [h, Option.some.injEq]
    simp [eq_comm]
  · simp [hk]

lemma total_of_getElem? (f : V → Int) (h : m[k]? = some v) :
    total f m = f v + total f (m.erase k) := by
  unfold total
  rw [((toList_perm_erase h).map fun e => f e.2).sum_eq, List.map_cons, List.sum_cons]

/-- **Writing a value** replaces the one under the key in the sum. -/
theorem total_insert (f : V → Int) (m : OrdMap K V) (k : K) (v : V) :
    total f (m.insert k v) + m[k]?.elim 0 f = total f m + f v := by
  have hget : (m.insert k v)[k]? = some v := by simp
  have herase : (m.insert k v).erase k = m.erase k := by
    refine ext_getElem? fun k' => ?_
    have hl := getElem?_write (m.insert k v) k k' none
    have hr := getElem?_write m k k' none
    simp only [write] at hl hr
    rw [hl, hr, getElem?_insert]
    split_ifs <;> rfl
  rw [total_of_getElem? f hget, herase]
  rcases hold : m[k]? with _ | w
  · have hsame : m.erase k = m := write_none_of_absent hold
    rw [hsame, Option.elim_none]
    omega
  · rw [total_of_getElem? f hold, Option.elim_some]
    omega

lemma nodup_keys (m : OrdMap K V) : (m.toList.map Prod.fst).Nodup := by
  refine List.Pairwise.imp ?_ (List.pairwise_map.mpr (sorted_toList m))
  intro a b hlt
  exact ne_of_lt hlt

/-- The sum is one over any set of keys that has all of the map's. -/
lemma total_eq_sum (f : V → Int) {keys : Finset K} (h : ∀ k v, m[k]? = some v → k ∈ keys) :
    total f m = ∑ k ∈ keys, m[k]?.elim 0 f := by
  have hsub : (m.toList.map Prod.fst).toFinset ⊆ keys := by
    intro k hk
    obtain ⟨⟨k', v⟩, hmem, rfl⟩ := List.mem_map.mp (List.mem_toFinset.mp hk)
    exact h k' v (mem_toList.mp hmem)
  rw [← Finset.sum_subset hsub, List.sum_toFinset _ (nodup_keys m), List.map_map]
  · unfold total
    refine congrArg List.sum (List.map_congr_left ?_)
    rintro ⟨k, v⟩ hmem
    show f v = m[k]?.elim 0 f
    rw [mem_toList.mp hmem, Option.elim_some]
  · intro k _ hk
    rcases hget : m[k]? with _ | v
    · rfl
    · exact absurd (List.mem_toFinset.mpr (List.mem_map.mpr ⟨(k, v), mem_toList.mpr hget, rfl⟩)) hk

lemma toList_popFirst (m : OrdMap K V) : m.popFirst.toList = m.toList.tail := by
  have hs := sorted_toList m
  unfold popFirst first?
  cases hl : m.toList with
  | nil => simp [hl]
  | cons a l =>
    rw [hl, List.pairwise_cons] at hs
    simp only [List.head?_cons, toList_erase, hl, List.tail_cons]
    rw [List.filter_cons_of_neg (by simp), List.filter_eq_self]
    intro e he
    simpa using (hs.1 e he).ne'

lemma toList_popLast (m : OrdMap K V) : m.popLast.toList = m.toList.dropLast := by
  have hs := sorted_toList m
  unfold popLast
  cases hl : m.last? with
  | none =>
    have hnil : m.toList = [] := List.getLast?_eq_none_iff.mp hl
    simp [hnil]
  | some e =>
    obtain ⟨l, hl⟩ := List.getLast?_eq_some_iff.mp hl
    rw [hl, List.pairwise_append] at hs
    simp only [toList_erase, hl, List.dropLast_concat, List.filter_append]
    rw [List.filter_eq_self.mpr, List.filter_eq_nil_iff.mpr]
    · simp
    · simp
    · intro a ha
      simpa using (hs.2.2 a ha e (by simp)).ne

/-- The loop `while len > n { drop }`, with the number of entries as fuel. -/
def trimWhile (drop : OrdMap K V → OrdMap K V) (n : Nat) : Nat → OrdMap K V → OrdMap K V
  | 0, m => m
  | fuel + 1, m => if n < m.size then trimWhile drop n fuel (drop m) else m

/-- Drop the smallest entries while more than `n` remain. -/
def trimFirst (n : Nat) (m : OrdMap K V) : OrdMap K V := trimWhile popFirst n m.size m

/-- Drop the largest entries while more than `n` remain. -/
def trimLast (n : Nat) (m : OrdMap K V) : OrdMap K V := trimWhile popLast n m.size m

/-- A loop whose body shortens the listing by `cut` runs until `n` entries are left. -/
lemma toList_trimWhile (drop : OrdMap K V → OrdMap K V) (n : Nat)
    (cut : Nat → List (K × V) → List (K × V)) (hzero : ∀ l, cut 0 l = l)
    (hcut : ∀ (m : OrdMap K V) j, cut j (drop m).toList = cut (j + 1) m.toList)
    (hsize : ∀ m : OrdMap K V, (drop m).size = m.size - 1) (fuel : Nat) (m : OrdMap K V)
    (hm : m.size ≤ fuel) :
    (trimWhile drop n fuel m).toList = cut (m.size - n) m.toList := by
  induction fuel generalizing m with
  | zero =>
    have h0 : m.size = 0 := Nat.le_zero.mp hm
    simp [trimWhile, h0, hzero]
  | succ fuel ih =>
    unfold trimWhile
    split_ifs with hn
    · have hd := hsize m
      rw [ih (drop m) (by omega), hcut, hd]
      congr 1
      omega
    · rw [Nat.sub_eq_zero_of_le (by omega), hzero]

lemma size_popFirst (m : OrdMap K V) : m.popFirst.size = m.size - 1 := by
  rw [← length_toList, toList_popFirst, List.length_tail,
    length_toList]

lemma size_popLast (m : OrdMap K V) : m.popLast.size = m.size - 1 := by
  rw [← length_toList, toList_popLast, List.length_dropLast,
    length_toList]

/-- The loop over the smallest entries keeps the last `n` entries of the listing. -/
lemma toList_trimFirst (n : Nat) (m : OrdMap K V) :
    (m.trimFirst n).toList = m.toList.drop (m.size - n) := by
  refine toList_trimWhile popFirst n (fun j l => l.drop j) (fun l => rfl) (fun m j => ?_)
    size_popFirst _ m le_rfl
  rw [toList_popFirst, List.drop_tail]

/-- The loop over the largest entries keeps the first `n` entries of the listing. -/
lemma toList_trimLast (n : Nat) (m : OrdMap K V) : (m.trimLast n).toList = m.toList.take n := by
  have h := toList_trimWhile popLast n
    (fun j (l : List (K × V)) => l.take (l.length - j)) (by simp) (fun m j => ?_) size_popLast _ m le_rfl
  · rw [trimLast, h, ← length_toList]
    by_cases hn : n ≤ m.toList.length
    · rw [Nat.sub_sub_self hn]
    · rw [List.take_of_length_le (by omega), List.take_of_length_le (by omega)]
  · rw [toList_popLast, List.length_dropLast, List.dropLast_eq_take, List.take_take]
    congr 1
    omega

lemma getElem?_of_trimFirst (h : (m.trimFirst n)[k]? = some v) : m[k]? = some v := by
  rw [← mem_toList, toList_trimFirst] at h
  exact mem_toList.mp (List.mem_of_mem_drop h)

lemma getElem?_of_trimLast (h : (m.trimLast n)[k]? = some v) : m[k]? = some v := by
  rw [← mem_toList, toList_trimLast] at h
  exact mem_toList.mp (List.mem_of_mem_take h)

lemma size_trimFirst_le (n : Nat) (m : OrdMap K V) : (m.trimFirst n).size ≤ n := by
  rw [← length_toList, toList_trimFirst, List.length_drop,
    length_toList]
  omega

lemma size_trimLast_le (n : Nat) (m : OrdMap K V) : (m.trimLast n).size ≤ n := by
  rw [← length_toList, toList_trimLast]
  exact List.length_take_le n _

/-! ## Images -/

section Image

variable {K' V' : Type} [LinearOrder K'] {f : K → K'} {g : V → V'}

/-- The map with every key and value translated. -/
def image (f : K → K') (g : V → V') (m : OrdMap K V) : OrdMap K' V' :=
  ofList (m.toList.map (Prod.map f g)) compare

lemma image_empty : (∅ : OrdMap K V).image f g = ∅ := by
  simp [image]

variable (hf : StrictMono f)

include hf

variable (m : OrdMap K V)

/-- The listing of an image along a strictly monotone key map is the translated listing. -/
lemma toList_image : (m.image f g).toList = m.toList.map (Prod.map f g) := by
  have hs : (m.toList.map (Prod.map f g)).Pairwise (fun a b => a.1 < b.1) :=
    List.pairwise_map.mpr ((sorted_toList m).imp fun h => hf h)
  have hd : (m.toList.map (Prod.map f g)).Pairwise (fun a b => ¬ compare a.1 b.1 = .eq) :=
    hs.imp fun h he => h.ne (compare_eq_iff_eq.mp he)
  have hmem : ∀ k v, (k, v) ∈ m.toList.map (Prod.map f g) → (m.image f g)[k]? = some v :=
    fun k v he => getElem?_ofList_of_mem (by simp) hd he
  refine toList_eq_of_sorted hs fun k v => ⟨hmem k v, fun hget => ?_⟩
  · by_contra hnot
    by_cases hk : k ∈ (m.toList.map (Prod.map f g)).map Prod.fst
    · obtain ⟨⟨k', v'⟩, he, rfl⟩ := List.mem_map.mp hk
      rw [hmem k' v' he] at hget
      cases hget
      exact hnot he
    · rw [image, getElem?_ofList_of_contains_eq_false (by simpa using hk)] at hget
      cases hget

/-- What an image holds comes from an entry of the map. -/
lemma getElem?_image_iff {m : OrdMap K V} {k' : K'} {v' : V'} :
    (m.image f g)[k']? = some v' ↔ ∃ k v, m[k]? = some v ∧ f k = k' ∧ g v = v' := by
  rw [← mem_toList, toList_image hf, List.mem_map]
  constructor
  · rintro ⟨⟨k, v⟩, he, heq⟩
    exact ⟨k, v, mem_toList.mp he, congrArg Prod.fst heq, congrArg Prod.snd heq⟩
  · rintro ⟨k, v, he, rfl, rfl⟩
    exact ⟨(k, v), mem_toList.mpr he, rfl⟩

lemma getElem?_image (k : K) : (m.image f g)[f k]? = m[k]?.map g := by
  refine Option.ext fun v' => ?_
  rw [getElem?_image_iff hf, Option.map_eq_some_iff]
  constructor
  · rintro ⟨k₁, v, hv, hk, rfl⟩
    rw [← hf.injective hk]
    exact ⟨v, hv, rfl⟩
  · rintro ⟨v, hv, rfl⟩
    exact ⟨k, v, hv, rfl, rfl⟩

/-- Translating after writing is writing after translating. -/
lemma image_write (k : K) (o : Option V) :
    (m.write k o).image f g = (m.image f g).write (f k) (o.map g) := by
  refine ext_getElem? fun k' => ?_
  rw [getElem?_write]
  split_ifs with hk
  · rw [← hk, getElem?_image hf, getElem?_write, if_pos rfl]
  · refine Option.ext fun v' => ?_
    rw [getElem?_image_iff hf, getElem?_image_iff hf]
    refine exists_congr fun k₁ => exists_congr fun v => and_congr_left fun ⟨hk₁, _⟩ => ?_
    rw [getElem?_write, if_neg]
    rintro rfl
    exact hk hk₁

lemma size_image : (m.image f g).size = m.size := by
  rw [← length_toList, toList_image hf, List.length_map, length_toList]

lemma image_trimFirst (n : Nat) (m : OrdMap K V) :
    (m.trimFirst n).image f g = (m.image f g).trimFirst n := by
  rw [← toList_inj, toList_image hf, toList_trimFirst, toList_trimFirst,
    toList_image hf, size_image hf, List.map_drop]

lemma image_trimLast (n : Nat) (m : OrdMap K V) :
    (m.trimLast n).image f g = (m.image f g).trimLast n := by
  rw [← toList_inj, toList_image hf, toList_trimLast, toList_trimLast,
    toList_image hf, List.map_take]

end Image

end OrdMap

end Marketfeed
