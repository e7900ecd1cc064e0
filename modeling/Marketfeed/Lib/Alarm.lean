import Mathlib.Data.List.Basic
import Std.Data.ExtTreeMap

/-!
# One-shot alarms

An alarm is set under a key for a time. It stands until it is set again, cancelled, or rings. A table
holds at most so many alarms and refuses a new one when it is full (`AlarmEvent.keep`).
-/

namespace Marketfeed

/-- What can happen to alarms. -/
inductive AlarmEvent (κ τ : Type)
  | set (key : κ) (time : τ)
  | cancel (key : κ)
  | ring (key : κ) (now : τ)
  | clear
deriving DecidableEq

section Table

variable {κ τ : Type} {cmp : κ → κ → Ordering} [Std.TransCmp cmp]

/-- What an event does to a table of at most `capacity` alarms: a full one refuses a new key. -/
def AlarmEvent.keep (capacity : Nat) (table : Std.ExtTreeMap κ τ cmp) :
    AlarmEvent κ τ → Std.ExtTreeMap κ τ cmp
  | .set key time =>
    if ¬ table.contains key ∧ table.size ≥ capacity then table else table.insert key time
  | .cancel key => table.erase key
  | .ring key _ => table.erase key
  | .clear => ∅

variable [DecidableEq κ] [Std.LawfulEqCmp cmp]

variable (table : Std.ExtTreeMap κ τ cmp)

lemma getElem?_insert_key (key other : κ) (time : τ) :
    (table.insert other time)[key]? = if other = key then some time else table[key]? := by
  rw [Std.ExtTreeMap.getElem?_insert]
  simp only [Std.LawfulEqCmp.compare_eq_iff_eq]

lemma getElem?_erase_key (key other : κ) :
    (table.erase other)[key]? = if other = key then none else table[key]? := by
  rw [Std.ExtTreeMap.getElem?_erase]
  simp only [Std.LawfulEqCmp.compare_eq_iff_eq]

omit [DecidableEq κ] in
/-- The keys of some entries are listed once. -/
lemma nodup_keys_filter (p : κ × τ → Bool) : ((table.toList.filter p).map (·.1)).Nodup := by
  have hkeys : (table.toList.map (·.1)).Nodup :=
    List.pairwise_map.mpr (Std.ExtTreeMap.distinct_keys_toList.imp fun h heq =>
      h (Std.LawfulEqCmp.compare_eq_iff_eq.mpr heq))
  exact hkeys.sublist (List.filter_sublist.map _)

omit [DecidableEq κ] in
lemma mem_keys_filter {table : Std.ExtTreeMap κ τ cmp} {p : κ × τ → Bool} {key : κ} :
    key ∈ (table.toList.filter p).map (·.1) ↔
      ∃ time, table[key]? = some time ∧ p (key, time) = true := by
  simp only [List.mem_map, List.mem_filter, Prod.exists, exists_and_right, exists_eq_right,
    Std.ExtTreeMap.mem_toList_iff_getElem?_eq_some]

end Table

end Marketfeed
