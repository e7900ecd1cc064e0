import Marketfeed.Model.Events
import Std.Data.ExtTreeMap
import Std.Data.ExtTreeSet

/-!
# The valid-book set

Model of the readiness part of `crates/engine/src/metrics.rs`: which instruments each session
currently contributes as valid books, with a reference count per instrument, and the gauge of
distinct instruments that readiness reads. The event counters, the latency histograms and the queue
gauges of the same file are written and never read by the engine; they are left out.
-/

namespace Marketfeed

/-- A set of instrument ids. -/
abbrev InstrumentSet := Std.ExtTreeSet UInt32 compare

structure ValidBooks where
  bySession : Std.ExtTreeMap UInt64 InstrumentSet compare
  sessionReferences : Std.ExtTreeMap UInt32 Nat compare

namespace ValidBooks

/-- Source: `ValidBooks::default` -/
def empty : ValidBooks := ⟨∅, ∅⟩

variable (v : ValidBooks)

/-- The instruments of one session. -/
def books (session : SessionId) : InstrumentSet :=
  (v.bySession[session.val]?).getD ∅

def decrementReference (instrument : UInt32) : ValidBooks :=
  match v.sessionReferences[instrument]? with
  | none => v
  | some references =>
    { v with sessionReferences :=
        if references - 1 = 0 then v.sessionReferences.erase instrument
        else v.sessionReferences.insert instrument (references - 1) }

def insert (session : SessionId) (instrument : InstrumentId) : ValidBooks :=
  let books := v.books session
  let references := (v.sessionReferences[instrument.val]?).getD 0
  { v with
    bySession := v.bySession.insert session.val (books.insert instrument.val)
    sessionReferences := if books.contains instrument.val then v.sessionReferences
      else v.sessionReferences.insert instrument.val (references + 1) }

/-- An emptied session is removed. -/
def remove (session : SessionId) (instrument : InstrumentId) : ValidBooks :=
  match v.bySession[session.val]? with
  | none => v
  | some books =>
    let rest := books.erase instrument.val
    let v := if books.contains instrument.val then v.decrementReference instrument.val else v
    { v with bySession := if rest.isEmpty then v.bySession.erase session.val
        else v.bySession.insert session.val rest }

def clearSession (session : SessionId) : ValidBooks :=
  match v.bySession[session.val]? with
  | none => v
  | some books =>
    books.toList.foldl decrementReference
      { v with bySession := v.bySession.erase session.val }

def uniqueCount : Nat := v.sessionReferences.size

@[simp] lemma bySession_decrementReference (instrument : UInt32) :
    (v.decrementReference instrument).bySession = v.bySession := by
  unfold decrementReference
  split <;> rfl

lemma books_clearSession (session : SessionId) : (v.clearSession session).books session = ∅ := by
  have hfold : ∀ (ids : List UInt32) (v : ValidBooks),
      (ids.foldl decrementReference v).bySession = v.bySession := by
    intro ids
    induction ids with
    | nil => exact fun v => rfl
    | cons id ids ih =>
      intro v
      rw [List.foldl_cons, ih, bySession_decrementReference]
  unfold clearSession
  split
  · rename_i h
    rw [books, h]
    rfl
  · rw [books, hfold]
    simp

/-- A removal leaves nothing where there was nothing. -/
lemma books_remove_of_empty {v : ValidBooks} {session : SessionId} (h : v.books session = ∅)
    (instrument : InstrumentId) : (v.remove session instrument).books session = ∅ := by
  unfold remove
  split
  · exact h
  · rename_i books hbooks
    have hempty : books = ∅ := by
      rw [ValidBooks.books, hbooks] at h
      exact h
    subst hempty
    simp [ValidBooks.books]

end ValidBooks

structure EngineMetrics where
  validBooksBySession : ValidBooks
  validBooks : Nat

namespace EngineMetrics

def new : EngineMetrics := ⟨.empty, 0⟩

/-- The set and the gauge change together. -/
def setValidBooks (v : ValidBooks) : EngineMetrics := ⟨v, v.uniqueCount⟩

def observeSystemForSession (m : EngineMetrics) (session : SessionId) :
    SystemEvent → EngineMetrics
  | .bookInvalidated instrument _ =>
    setValidBooks (m.validBooksBySession.remove session instrument)
  | .bookResynchronized instrument =>
    setValidBooks (m.validBooksBySession.insert session instrument)
  | _ => m

def clearValidBooksForSession (m : EngineMetrics) (session : SessionId) : EngineMetrics :=
  setValidBooks (m.validBooksBySession.clearSession session)

end EngineMetrics

end Marketfeed
