import Marketfeed.Engine.Metrics
import Marketfeed.Lib.Run
import Mathlib.Data.FinEnum
import Mathlib.Data.Set.Card

/-!
# The reference counts of the valid books

`ValidBooks` keeps one relation, which session has which instrument, in two maps: the sets of the
sessions, and the number of sessions of each instrument.
-/

namespace Marketfeed.ValidBooks

variable {v : ValidBooks} {session : SessionId} {instrument : InstrumentId}

/-- The sessions whose set has the instrument. -/
def holders (v : ValidBooks) (i : UInt32) : Set UInt64 := {s | i ∈ v.books ⟨s⟩}

/-- A count as it is stored: a count of zero is not. -/
def stored (n : Nat) : Option Nat := if n = 0 then none else some n

/-- **The two maps agree**, and no session keeps an empty set. -/
structure Counted (v : ValidBooks) : Prop where
  references : ∀ i, v.sessionReferences[i]? = stored (v.holders i).ncard
  nonempty : ∀ (s : UInt64) (books : InstrumentSet), v.bySession[s]? = some books → books ≠ ∅

/-- The operations. -/
inductive Op
  | insert (session : SessionId) (instrument : InstrumentId)
  | remove (session : SessionId) (instrument : InstrumentId)
  | clearSession (session : SessionId)

def step (v : ValidBooks) : Op → ValidBooks
  | .insert session instrument => v.insert session instrument
  | .remove session instrument => v.remove session instrument
  | .clearSession session => v.clearSession session

/-- The calls of `decrement_reference` for a list of instruments, with the state each is made in. -/
def calls (v : ValidBooks) : List UInt32 → List (ValidBooks × UInt32)
  | [] => []
  | i :: ids => (v, i) :: (v.decrementReference i).calls ids

/-- The calls of `decrement_reference` that an operation makes. -/
def decrements (v : ValidBooks) : Op → List (ValidBooks × UInt32)
  | .insert _ _ => []
  | .remove session instrument =>
    if instrument.val ∈ v.books session then v.calls [instrument.val] else []
  | .clearSession session =>
    { v with bySession := v.bySession.erase session.val }.calls (v.books session).toList

/-! ## What the operations do -/

@[simp] lemma stored_succ (n : Nat) : stored (n + 1) = some (n + 1) := rfl

@[simp] lemma getD_stored (n : Nat) : (stored n).getD 0 = n := by
  unfold stored
  split_ifs with h <;> simp [h]

lemma bySession_foldl (ids : List UInt32) :
    (ids.foldl decrementReference v).bySession = v.bySession := by
  induction ids generalizing v with
  | nil => rfl
  | cons i ids ih => rw [List.foldl_cons, ih, bySession_decrementReference]

/-- A set as a removal leaves it: an empty one is not kept. -/
def kept (books : InstrumentSet) : Option InstrumentSet := if books.isEmpty then none else some books

lemma getElem?_remove (s' : UInt64) : (v.remove session instrument).bySession[s']? =
    if s' = session.val then kept ((v.books session).erase instrument.val) else v.bySession[s']? := by
  unfold remove
  cases hbooks : v.bySession[session.val]? with
  | none =>
    by_cases hs : s' = session.val
    · simp [hs, hbooks, books, kept]
    · simp [hs]
  | some books =>
    have hsame : (if books.contains instrument.val then v.decrementReference instrument.val
        else v).bySession = v.bySession := by
      split_ifs <;> simp
    have hget : v.books session = books := by simp [ValidBooks.books, hbooks]
    simp only [hsame, hget, kept]
    by_cases hs : s' = session.val
    · split_ifs <;> simp [hs]
    · split_ifs <;>
        simp [Ne.symm hs, Std.ExtTreeMap.getElem?_erase, Std.ExtTreeMap.getElem?_insert]

lemma getElem?_clearSession (s' : UInt64) : (v.clearSession session).bySession[s']? =
    if s' = session.val then none else v.bySession[s']? := by
  unfold clearSession
  cases hbooks : v.bySession[session.val]? with
  | none => by_cases hs : s' = session.val <;> simp [hs, hbooks]
  | some books =>
    simp only [bySession_foldl]
    by_cases hs : s' = session.val
    · simp [hs]
    · simp [hs, Ne.symm hs, Std.ExtTreeMap.getElem?_erase]

/-- Who holds an instrument after an insertion, a removal and the clearing of a session. -/
lemma holders_insert (j : UInt32) : (v.insert session instrument).holders j =
    if j = instrument.val then Insert.insert session.val (v.holders j) else v.holders j := by
  ext s
  simp only [holders, books, insert, Std.ExtTreeMap.getElem?_insert]
  by_cases hs : s = session.val <;> by_cases hj : j = instrument.val <;>
    simp [hs, hj, @eq_comm _ session.val, @eq_comm _ instrument.val]

lemma holders_remove (j : UInt32) : (v.remove session instrument).holders j =
    if j = instrument.val then v.holders j \ {session.val} else v.holders j := by
  have hkept : ∀ books : InstrumentSet, (kept books).getD ∅ = books := by
    intro books
    unfold kept
    split_ifs with h
    · exact (Std.ExtTreeSet.isEmpty_iff.mp h).symm
    · rfl
  ext s
  by_cases hs : s = session.val <;> by_cases hj : j = instrument.val <;>
    simp [holders, books, getElem?_remove, hkept, hs, hj, @eq_comm _ instrument.val]

lemma holders_clearSession (j : UInt32) :
    (v.clearSession session).holders j = v.holders j \ {session.val} := by
  ext s
  by_cases hs : s = session.val <;> simp [holders, books, getElem?_clearSession, hs]

variable {f : UInt32 → Nat}

lemma getElem?_decrementReference (h : ∀ i, v.sessionReferences[i]? = stored (f i))
    (i j : UInt32) :
    (v.decrementReference i).sessionReferences[j]? = stored (if j = i then f j - 1 else f j) := by
  have hi := h i
  have hj := h j
  unfold decrementReference stored at *
  by_cases hzero : f i = 0
  · simp only [hzero, if_true] at hi
    simp only [hi]
    split_ifs <;> simp_all
  · simp only [hzero, if_false] at hi
    simp only [hi]
    by_cases hji : j = i
    · subst hji
      split_ifs <;> simp_all
    · split_ifs <;> simp_all [Std.ExtTreeMap.getElem?_erase, Std.ExtTreeMap.getElem?_insert, Ne.symm hji]

lemma getElem?_foldl_decrementReference {ids : List UInt32} (hnodup : ids.Nodup)
    (h : ∀ i, v.sessionReferences[i]? = stored (f i)) (j : UInt32) :
    (ids.foldl decrementReference v).sessionReferences[j]? =
      stored (if j ∈ ids then f j - 1 else f j) := by
  induction ids generalizing v f with
  | nil => simpa using h j
  | cons i ids ih =>
    obtain ⟨hfresh, hnodup⟩ := List.nodup_cons.mp hnodup
    rw [List.foldl_cons, ih hnodup (getElem?_decrementReference h i)]
    by_cases hji : j = i
    · simp [hji, hfresh]
    · simp [hji]

/-- Every decrement of a list of instruments that are counted finds a positive count. -/
lemma calls_positive {ids : List UInt32} (hnodup : ids.Nodup)
    (h : ∀ i, v.sessionReferences[i]? = stored (f i)) (hpos : ∀ i ∈ ids, 0 < f i) :
    ∀ call ∈ v.calls ids, ∃ n, call.1.sessionReferences[call.2]? = some n ∧ 0 < n := by
  induction ids generalizing v f with
  | nil => simp [calls]
  | cons i ids ih =>
    obtain ⟨hfresh, hnodup⟩ := List.nodup_cons.mp hnodup
    obtain ⟨hi, hpos⟩ := List.forall_mem_cons.mp hpos
    refine List.forall_mem_cons.mpr ⟨⟨f i, ?_, hi⟩, ih hnodup (getElem?_decrementReference h i) ?_⟩
    · simp [h, stored, Nat.ne_of_gt hi]
    · intro j hj
      rw [if_neg (ne_of_mem_of_not_mem hj hfresh)]
      exact hpos j hj

/-- A session that leaves the holders lowers their number by one, if it was among them. -/
lemma ncard_sdiff (v : ValidBooks) (j : UInt32) (session : SessionId) :
    (v.holders j \ {session.val}).ncard =
      if j ∈ v.books session then (v.holders j).ncard - 1 else (v.holders j).ncard := by
  have hmem : session.val ∈ v.holders j ↔ j ∈ v.books session := Iff.rfl
  split_ifs with h
  · exact Set.ncard_sdiff_singleton_of_mem (hmem.mpr h)
  · rw [Set.sdiff_singleton_eq_self (mt hmem.mp h)]

lemma pos_of_mem {j : UInt32} (h : j ∈ v.books session) : 0 < (v.holders j).ncard :=
  (Set.ncard_pos (Set.toFinite _)).mpr ⟨session.val, h⟩

/-! ## The counts -/

lemma Counted.insert (h : v.Counted) (session : SessionId) (instrument : InstrumentId) :
    (v.insert session instrument).Counted := by
  refine ⟨fun j => ?_, fun s' books hbooks => ?_⟩
  · rw [holders_insert, ValidBooks.insert]
    by_cases hmem : instrument.val ∈ v.books session
    · have hset := Set.insert_eq_of_mem (show session.val ∈ v.holders instrument.val from hmem)
      by_cases hj : j = instrument.val <;> simp [hmem, hj, hset, h.references]
    · have hcard := Set.ncard_insert_of_notMem
        (show session.val ∉ v.holders instrument.val from hmem) (Set.toFinite _)
      by_cases hj : j = instrument.val
      · simp [hmem, hj, hcard, h.references]
      · simp [hmem, hj, Ne.symm hj, h.references, Std.ExtTreeMap.getElem?_insert]
  · rw [ValidBooks.insert, Std.ExtTreeMap.getElem?_insert] at hbooks
    split_ifs at hbooks
    · rw [← Option.some.inj hbooks]
      simp
    · exact h.nonempty s' books hbooks

lemma Counted.remove (h : v.Counted) (session : SessionId) (instrument : InstrumentId) :
    (v.remove session instrument).Counted := by
  have hcard := ncard_sdiff v instrument.val session
  refine ⟨fun j => ?_, fun s' books' hbooks' => ?_⟩
  · have hrefs : (v.remove session instrument).sessionReferences =
        (if instrument.val ∈ v.books session then v.decrementReference instrument.val
          else v).sessionReferences := by
      unfold ValidBooks.remove
      cases hbooks : v.bySession[session.val]? with
      | none => simp [books, hbooks]
      | some books => simp [ValidBooks.books, hbooks]
    rw [holders_remove, hrefs]
    split_ifs at hcard ⊢ with hmem hj hj
    · simp [getElem?_decrementReference h.references, hj, hcard]
    · simp [getElem?_decrementReference h.references, hj]
    · rw [h.references, hj, hcard]
    · exact h.references j
  · rw [getElem?_remove] at hbooks'
    split_ifs at hbooks'
    · unfold kept at hbooks'
      split_ifs at hbooks' with hempty
      rw [← Option.some.inj hbooks', ne_eq, ← Std.ExtTreeSet.isEmpty_iff]
      exact hempty
    · exact h.nonempty s' books' hbooks'

lemma nodup_toList (books : InstrumentSet) : books.toList.Nodup :=
  Std.ExtTreeSet.distinct_toList.imp fun h => by simpa using h

lemma Counted.clearSession (h : v.Counted) (session : SessionId) :
    (v.clearSession session).Counted := by
  refine ⟨fun j => ?_, fun s' books hbooks => ?_⟩
  · rw [holders_clearSession, ncard_sdiff]
    unfold ValidBooks.clearSession
    cases hbooks : v.bySession[session.val]? with
    | none => simp [books, hbooks, h.references]
    | some books =>
      have hget : v.books session = books := by simp [ValidBooks.books, hbooks]
      have hfold := getElem?_foldl_decrementReference
        (v := { v with bySession := v.bySession.erase session.val }) (nodup_toList books)
        h.references j
      rw [hget]
      simpa only [Std.ExtTreeSet.mem_toList] using hfold
  · rw [getElem?_clearSession] at hbooks
    split_ifs at hbooks
    exact h.nonempty s' books hbooks

/-- The gauge counts the instruments that some session has. -/
lemma Counted.uniqueCount (h : v.Counted) :
    v.uniqueCount = {i | ∃ session, i ∈ v.books session}.ncard := by
  have hkeys : {i | ∃ session, i ∈ v.books session} = {i | i ∈ v.sessionReferences.keys} := by
    ext i
    have hpos : (v.holders i).ncard = 0 ↔ ∀ s, i ∉ v.books s := by
      rw [Set.ncard_eq_zero (Set.toFinite _), Set.eq_empty_iff_forall_notMem]
      exact ⟨fun hs session => hs session.val, fun hs s => hs ⟨s⟩⟩
    rw [Set.mem_ofPred_eq, Set.mem_ofPred_eq, Std.ExtTreeMap.mem_keys,
      Std.ExtTreeMap.mem_iff_isSome_getElem?, h.references, stored]
    split_ifs with hzero
    · simpa using hpos.mp hzero
    · simpa [hpos] using hzero
  have hnodup : v.sessionReferences.keys.Nodup :=
    Std.ExtTreeMap.distinct_keys.imp fun hne => by simpa using hne
  rw [hkeys, ← List.coe_toFinset, Set.ncard_coe_finset, List.toFinset_card_of_nodup hnodup,
    Std.ExtTreeMap.length_keys]
  rfl

/-- **Every operation keeps the counts**, and each decrement it makes finds a positive one. -/
theorem Counted.step (h : v.Counted) (op : Op) : (v.step op).Counted ∧
    ∀ call ∈ v.decrements op, ∃ n, call.1.sessionReferences[call.2]? = some n ∧ 0 < n := by
  cases op with
  | insert session instrument => exact ⟨h.insert session instrument, by simp [decrements]⟩
  | remove session instrument =>
    refine ⟨h.remove session instrument, ?_⟩
    simp only [decrements]
    split_ifs with hmem
    · exact calls_positive (List.nodup_singleton _) h.references (by simpa using pos_of_mem hmem)
    · simp
  | clearSession session =>
    refine ⟨h.clearSession session, calls_positive (nodup_toList _) h.references fun i hi => ?_⟩
    exact pos_of_mem (Std.ExtTreeSet.mem_toList.mp hi)

/-- **The counts are right after every list of operations**: an instrument is mapped to the number of
sessions that have it, and to nothing if there is none; the gauge is the size of the union; no empty
set is kept; and every decrement of the next operation finds a positive count. -/
theorem validBooks_counted (ops : List Op) :
    let v := run step empty ops
    (∀ i, v.sessionReferences[i]? = stored (v.holders i).ncard) ∧
      v.uniqueCount = {i | ∃ session, i ∈ v.books session}.ncard ∧
      (∀ (s : UInt64) (books : InstrumentSet), v.bySession[s]? = some books → books ≠ ∅) ∧
      ∀ op, ∀ call ∈ v.decrements op, ∃ n, call.1.sessionReferences[call.2]? = some n ∧ 0 < n := by
  have hempty : empty.Counted := ⟨by simp [empty, holders, books, stored], by simp [empty]⟩
  have hrun : (run step empty ops).Counted :=
    run_invariant' (P := Counted) (fun _ op h => (h.step op).1) hempty ops
  exact ⟨hrun.references, hrun.uniqueCount, hrun.nonempty, fun op => (hrun.step op).2⟩

end Marketfeed.ValidBooks
