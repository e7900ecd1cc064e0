import Marketfeed.Book.Invariant

/-!
# The book synchronizer

Model of `crates/book/src/sync.rs`: the lifecycle of one instrument's book from a requested
snapshot over buffered deltas to live deltas. Sequence arithmetic is on `u64`, byte counts are
`usize` on a 64-bit target; both wrap as in a release build.

The synchronizer carries two notions of readiness, its own `state` and the validity of the book it
owns, and the queries of the book look only at the second.
-/

namespace Marketfeed

inductive SyncState
  | idle
  | bufferingDeltas
  | snapshotRequested
  | snapshotReceived
  | applyingBufferedDeltas
  | live
  | gapDetected
  | invalid
  | resynchronizing
deriving DecidableEq

structure SyncLimits where
  maxBufferedMessages : Nat := 10000
  maxBufferedBytes : UInt64 := 4 * 1024 * 1024
  maxBufferedSpanNs : UInt64 := 5000000000
deriving DecidableEq

structure BufferedDelta where
  sequence : UInt64
  bytesLen : UInt64
  receivedMonoNs : UInt64
  side : BookSide
  operation : BookOperation
  price : Price
  quantity : Option Quantity
deriving DecidableEq

structure BookSynchronizer where
  instrument : InstrumentId
  state : SyncState
  book : OrderBook
  limits : SyncLimits
  buffer : List BufferedDelta
  bufferedBytes : UInt64
  bufferedMonoMin : Option UInt64
  bufferedMonoMax : Option UInt64
  expectedSequence : Option UInt64
deriving DecidableEq

/-- `u64::saturating_sub`. -/
def satSubU64 (a b : UInt64) : UInt64 := if a < b then 0 else a - b

namespace BookSynchronizer

open OrderBook hiding sequence

def new (instrument : InstrumentId) (book : OrderBook) (limits : SyncLimits) : BookSynchronizer :=
  { instrument, state := .idle, book, limits, buffer := [], bufferedBytes := 0,
    bufferedMonoMin := none, bufferedMonoMax := none, expectedSequence := none }

/-- The four assignments that forget the delta buffer. -/
def clearBuffer (s : BookSynchronizer) : BookSynchronizer :=
  { s with buffer := [], bufferedBytes := 0, bufferedMonoMin := none, bufferedMonoMax := none }

def beginResync (s : BookSynchronizer) : BookSynchronizer :=
  { s.clearBuffer with
    state := .resynchronizing
    book := (s.book.setValidity .synchronizing).clear
    expectedSequence := none }

/-- The reason is not stored; the levels stay in the book. -/
def invalidate (s : BookSynchronizer) (_reason : String) : BookSynchronizer :=
  { s.clearBuffer with state := .invalid, book := s.book.setValidity .invalid }

def requestSnapshot (s : BookSynchronizer) : BookSynchronizer :=
  { s with state := .snapshotRequested, book := s.book.setValidity .synchronizing }

def noteGap (s : BookSynchronizer) : BookSynchronizer :=
  { s.clearBuffer with state := .gapDetected, book := s.book.setValidity .invalid }

def bufferDelta (s : BookSynchronizer) (delta : BufferedDelta) :
    BookSynchronizer × Except BookError Unit :=
  let monoMin := s.bufferedMonoMin.elim delta.receivedMonoNs (min · delta.receivedMonoNs)
  let monoMax := s.bufferedMonoMax.elim delta.receivedMonoNs (max · delta.receivedMonoNs)
  if s.buffer.length ≥ s.limits.maxBufferedMessages ∨
      s.bufferedBytes + delta.bytesLen > s.limits.maxBufferedBytes ∨
      satSubU64 monoMax monoMin > s.limits.maxBufferedSpanNs then
    (s.invalidate "delta buffer overflow", .error (.notValid .invalid))
  else
    ({ s with
        bufferedBytes := s.bufferedBytes + delta.bytesLen
        bufferedMonoMin := some monoMin
        bufferedMonoMax := some monoMax
        buffer := s.buffer ++ [delta]
        state := if s.state = .idle ∨ s.state = .snapshotRequested then .bufferingDeltas
          else s.state }, .ok ())

/-- The `for d in pending` loop of `apply_snapshot_and_drain`: the sequence reached, or the error
that ended the loop. -/
def drain (s : BookSynchronizer) :
    UInt64 → List BufferedDelta → BookSynchronizer × Except BookError UInt64
  | last, [] => (s, .ok last)
  | last, d :: rest =>
    if d.sequence ≤ last then drain s last rest
    else if d.sequence ≠ last + 1 then (s.noteGap, .error (.notValid .invalid))
    else
      match s.book.applyChange d.side d.operation d.price d.quantity with
      | (book, .error e) => ({ s with book }, .error e)
      | (book, .ok ()) => drain { s with book } d.sequence rest

/-- **Apply a snapshot and the deltas buffered after it.** Every `?` of the source returns with the
state reached so far. -/
def applySnapshotAndDrain (s : BookSynchronizer) (bids asks : List (Price × Quantity))
    (sequence : UInt64) : BookSynchronizer × Except BookError Unit :=
  let s := { s with state := .snapshotReceived }
  match s.book.applySnapshot bids asks (some sequence) with
  | (_, .error e) => (s, .error e)
  | (book, .ok ()) =>
    let pending := s.buffer.filter fun d => d.sequence > sequence
    let s := { s.clearBuffer with book, state := .applyingBufferedDeltas }
    match s.drain sequence pending with
    | (s, .error e) => (s, .error e)
    | (s, .ok last) =>
      ({ s with
          expectedSequence := some (last + 1)
          book := (s.book.setSequence last).setValidity .valid
          state := .live }, .ok ())

/-- **Apply one live delta.** -/
def onLiveDelta (s : BookSynchronizer) (sequence : UInt64) (side : BookSide)
    (operation : BookOperation) (price : Price) (quantity : Option Quantity) :
    BookSynchronizer × Except BookError Unit :=
  if s.state ≠ .live then (s, .error (.notValid s.book.validity))
  else
    let expected := s.expectedSequence.getD sequence
    if sequence < expected then (s, .ok ())
    else if sequence > expected then (s.noteGap, .error (.notValid .invalid))
    else
      match s.book.applyChange side operation price quantity with
      | (book, .error e) => ({ s with book }, .error e)
      | (book, .ok ()) =>
        ({ s with expectedSequence := some (sequence + 1), book := book.setSequence sequence },
          .ok ())

/-! ## Calls that leave the two notions of readiness apart -/

/-- The book is valid exactly while the synchronizer is live. -/
def Agrees (s : BookSynchronizer) : Prop := s.book.validity = .valid ↔ s.state = .live

/-- A decimal can be written exactly at a scale. -/
def Fits (x : Fixed) (scale : Nat) : Prop := ∃ c, scaleCoeff x scale = .ok c

/-- A change the book refuses to read: an upsert without a quantity, with a negative quantity, or
with a price or quantity off the catalog scales. -/
def Unreadable (b : OrderBook) (operation : BookOperation) (price : Price) :
    Option Quantity → Prop
  | none => operation = .upsert
  | some q => operation = .upsert ∧ q.fixed.coefficient ≠ 0 ∧
      (q.fixed.coefficient < 0 ∨ ¬ Fits price.fixed b.priceScale ∨ ¬ Fits q.fixed b.qtyScale)

/-- A readable upsert that leaves the book crossed. -/
def Crosses (b : OrderBook) (side : BookSide) (operation : BookOperation) (price : Price)
    (quantity : Option Quantity) : Prop :=
  ∃ q b', operation = .upsert ∧ quantity = some q ∧ q.fixed.coefficient ≠ 0 ∧
    b.upsert side price q = .ok b' ∧ ¬ b'.trimDepth.Uncrossed

/-- A drain from `last` reaches a delta the book refuses to read: every delta before it is already
covered or applied. -/
def DrainRefused (b : OrderBook) : UInt64 → List BufferedDelta → Prop
  | _, [] => False
  | last, d :: rest =>
    if d.sequence ≤ last then DrainRefused b last rest
    else d.sequence = last + 1 ∧
      (Unreadable b d.operation d.price d.quantity ∨
        (¬ Unreadable b d.operation d.price d.quantity ∧
          ¬ Crosses b d.side d.operation d.price d.quantity ∧
          DrainRefused (b.applyChange d.side d.operation d.price d.quantity).1 d.sequence rest))

lemma not_fits_iff {x : Fixed} {scale : Nat} :
    ¬ Fits x scale ↔ ∃ e, scaleCoeff x scale = .error e := by
  unfold Fits
  rcases h : scaleCoeff x scale with e | c <;> simp

variable {b : OrderBook}

/-- A non-zero upsert is accepted exactly when it is readable. -/
lemma upsert_error_iff (side : BookSide) {price : Price} {q : Quantity}
    (hq : q.fixed.coefficient ≠ 0) :
    (∃ e, b.upsert side price q = .error e) ↔ Unreadable b .upsert price (some q) := by
  unfold upsert priceKey
  simp only [Unreadable, not_fits_iff]
  by_cases hneg : q.fixed.coefficient < 0
  · have hle : q.fixed.coefficient ≤ 0 := hneg.le
    simp [hle, hneg, hq]
  · have hle : ¬ q.fixed.coefficient ≤ 0 := by omega
    rcases hp : scaleCoeff price.fixed b.priceScale with e | pk <;>
      rcases hs : scaleCoeff q.fixed b.qtyScale with e' | qk <;>
      simp [hle, hneg, hq, bind, Except.bind]

/-- **One change on a valid book**: refused with the book untouched, applied with the book still
valid, or crossing with the validity withdrawn. -/
theorem applyChange_of_valid (hv : b.validity = .valid) (side : BookSide)
    (operation : BookOperation) (price : Price) (quantity : Option Quantity) :
    (Unreadable b operation price quantity ∧
        ∃ e, b.applyChange side operation price quantity = (b, .error e)) ∨
      (¬ Unreadable b operation price quantity ∧ Crosses b side operation price quantity ∧
        ∃ b', b'.validity = .invalid ∧
          b.applyChange side operation price quantity = (b', .error .crossed)) ∨
      (¬ Unreadable b operation price quantity ∧ ¬ Crosses b side operation price quantity ∧
        ∃ b', b'.validity = .valid ∧
          b.applyChange side operation price quantity = (b', .ok ())) := by
  have hdel : (b.delete side price).validity = .valid := by
    rcases delete_cases b side price with ⟨pk, -, he⟩ | ⟨-, he⟩ <;> rw [he]
    · cases side <;> exact hv
    · exact hv
  rcases operation with _ | _
  · rcases quantity with _ | q
    · left
      exact ⟨rfl, .invalidDelete, by simp [applyChange, hv]⟩
    · by_cases hq : q.fixed.coefficient = 0
      · refine Or.inr (Or.inr ⟨by simp [Unreadable, hq], ?_, b.delete side price, hdel, ?_⟩)
        · rintro ⟨q', -, -, hsome, hne, -, -⟩
          cases hsome
          exact hne hq
        · simp [applyChange, hv, hq]
      · rcases hup : b.upsert side price q with e | b'
        · left
          exact ⟨(upsert_error_iff side hq).mp ⟨e, hup⟩, e, by simp [applyChange, hv, hq, hup]⟩
        · have hread : ¬ Unreadable b .upsert price (some q) := by
            rw [← upsert_error_iff side hq, hup]
            simp
          have hv' : b'.trimDepth.validity = .valid := by
            obtain ⟨pk, qk, -, -, -, rfl⟩ := upsert_ok hup
            have h := header_trimDepth (b.putLevel (side, pk) (some qk))
            rw [header_putLevel] at h
            simp only [header, Prod.mk.injEq] at h
            exact h.2.2.1.trans hv
          right
          by_cases hu : b'.trimDepth.Uncrossed
          · refine .inr ⟨hread, ?_, b'.trimDepth, hv', ?_⟩
            · rintro ⟨q', b'', -, hsome, -, hup', hnu⟩
              cases hsome
              cases hup.symm.trans hup'
              exact hnu hu
            · simp [applyChange, hv, hq, hup, checkNotCrossed_eq_ok.mpr hu]
          · refine .inl ⟨hread, ⟨q, b', rfl, rfl, hq, hup, hu⟩,
              b'.trimDepth.setValidity .invalid, rfl, ?_⟩
            rcases hc : b'.trimDepth.checkNotCrossed with e | _
            · have he := checkNotCrossed_error hc
              subst he
              simp [applyChange, hv, hq, hup, hc]
            · exact absurd (checkNotCrossed_eq_ok.mp hc) hu
  · refine Or.inr (Or.inr ⟨?_, ?_, b.delete side price, hdel, by simp [applyChange, hv]⟩)
    · rcases quantity with _ | q <;> simp [Unreadable]
    · rintro ⟨q, b', hop, -⟩
      cases hop

variable {s : BookSynchronizer}

/-- **What a drain leaves.** From a valid book a drain that completes refused nothing; one that
stops leaves the book valid exactly when it stopped at a delta the book refuses to read. -/
theorem drain_spec (hv : s.book.validity = .valid) (hs : s.state ≠ .live) (last : UInt64)
    (pending : List BufferedDelta) :
    (∃ s' last', s.drain last pending = (s', .ok last') ∧
        ¬ DrainRefused s.book last pending) ∨
      ∃ s' e, s.drain last pending = (s', .error e) ∧ s'.state ≠ .live ∧
        (s'.book.validity = .valid ↔ DrainRefused s.book last pending) := by
  induction pending generalizing s last with
  | nil => exact Or.inl ⟨s, last, rfl, by simp [DrainRefused]⟩
  | cons d rest ih =>
    unfold drain DrainRefused
    by_cases hstale : d.sequence ≤ last
    · simpa only [hstale, if_true] using ih hv hs last
    · simp only [hstale, if_false]
      by_cases hgap : d.sequence = last + 1
      · simp only [← hgap, ne_eq, not_true_eq_false, if_false, true_and]
        rcases applyChange_of_valid hv d.side d.operation d.price d.quantity with
          ⟨hr, e, he⟩ | ⟨hr, hc, b', hb', he⟩ | ⟨hr, hc, b', hb', he⟩ <;> rw [he]
        · exact Or.inr ⟨_, e, rfl, hs, by simp [hv, hr]⟩
        · exact Or.inr ⟨_, _, rfl, hs, by simp [hb', hr, hc]⟩
        · simpa [hr, hc] using ih (s := { s with book := b' }) hb' hs d.sequence
      · simp only [hgap, ne_eq, not_false_eq_true, if_true, false_and, not_false_eq_true]
        exact Or.inr ⟨_, _, rfl, by simp [noteGap],
          by simp [noteGap, setValidity]⟩

/-! ## Runs -/

/-- A call of one of the public methods; its result is discarded. -/
inductive Call
  | beginResync
  | invalidate (reason : String)
  | requestSnapshot
  | noteGap
  | bufferDelta (delta : BufferedDelta)
  | applySnapshotAndDrain (bids asks : List (Price × Quantity)) (sequence : UInt64)
  | onLiveDelta (sequence : UInt64) (side : BookSide) (operation : BookOperation) (price : Price)
      (quantity : Option Quantity)

/-- The synchronizer after a call, whether it returned `Ok` or `Err`. -/
def call (s : BookSynchronizer) : Call → BookSynchronizer
  | .beginResync => s.beginResync
  | .invalidate reason => s.invalidate reason
  | .requestSnapshot => s.requestSnapshot
  | .noteGap => s.noteGap
  | .bufferDelta delta => (s.bufferDelta delta).1
  | .applySnapshotAndDrain bids asks sequence => (s.applySnapshotAndDrain bids asks sequence).1
  | .onLiveDelta sequence side operation price quantity =>
    (s.onLiveDelta sequence side operation price quantity).1

/-- The calls that do not leave early between the state and the book: a snapshot that is accepted,
or rejected over a book that is not valid; no unreadable delta reached in the drain; no crossing
upsert as the expected live delta. -/
def Clean (s : BookSynchronizer) : Call → Prop
  | .applySnapshotAndDrain bids asks sequence =>
    match s.book.buildSnapshot bids asks (some sequence) with
    | .error _ => s.book.validity ≠ .valid
    | .ok book => ¬ DrainRefused book sequence (s.buffer.filter fun d => d.sequence > sequence)
  | .onLiveDelta sequence side operation price quantity =>
    ¬ (s.state = .live ∧ s.expectedSequence.getD sequence = sequence ∧
      Crosses s.book side operation price quantity)
  | _ => True

lemma agrees_applySnapshotAndDrain_iff (bids asks : List (Price × Quantity)) (sequence : UInt64) :
    (s.applySnapshotAndDrain bids asks sequence).1.Agrees ↔
      Clean s (.applySnapshotAndDrain bids asks sequence) := by
  unfold applySnapshotAndDrain Clean
  rcases applySnapshot_cases s.book bids asks (some sequence) with
    ⟨book, hb, he⟩ | ⟨e, hb, he⟩ <;> simp only [he, hb]
  · obtain ⟨ws, -, -, hbook⟩ := buildSnapshot_ok hb
    have hv : book.validity = .valid := by rw [hbook]
    rcases drain_spec (s := { s.clearBuffer with book, state := .applyingBufferedDeltas }) hv
      (by simp) sequence (s.buffer.filter fun d => d.sequence > sequence) with
      ⟨s', last', hd, hr⟩ | ⟨s', e, hd, hl, hr⟩
    · simp only [clearBuffer] at hd
      simp [clearBuffer, hd, Agrees, setValidity, hr]
    · simp only [clearBuffer] at hd
      simp [clearBuffer, hd, Agrees, hl, hr]
  · simp [Agrees]

lemma agrees_onLiveDelta_iff (h : s.Agrees) (sequence : UInt64) (side : BookSide)
    (operation : BookOperation) (price : Price) (quantity : Option Quantity) :
    (s.onLiveDelta sequence side operation price quantity).1.Agrees ↔
      Clean s (.onLiveDelta sequence side operation price quantity) := by
  unfold onLiveDelta Clean
  by_cases hl : s.state = .live
  · have hv : s.book.validity = .valid := h.mpr hl
    simp only [hl, ne_eq, not_true_eq_false, if_false, true_and]
    by_cases hlt : sequence < s.expectedSequence.getD sequence
    · have hne : s.expectedSequence.getD sequence ≠ sequence := by grind
      simp [hlt, hne, h]
    · by_cases hgt : sequence > s.expectedSequence.getD sequence
      · have hne : s.expectedSequence.getD sequence ≠ sequence := by grind
        simp [hlt, hgt, hne, Agrees, noteGap, setValidity]
      · have heq : s.expectedSequence.getD sequence = sequence := by grind
        simp only [heq, gt_iff_lt, true_and]
        rcases applyChange_of_valid hv side operation price quantity with
          ⟨hr, e, he⟩ | ⟨hr, hc, b', hb', he⟩ | ⟨hr, hc, b', hb', he⟩ <;> rw [he]
        · have hnc : ¬ Crosses s.book side operation price quantity := by
            rintro ⟨q, b', rfl, rfl, hq, hup, -⟩
            obtain ⟨e, he⟩ := (upsert_error_iff side hq).mpr hr
            cases hup.symm.trans he
          simp [hnc, Agrees, hv]
        · simp [Agrees, hb', hc]
        · simp [Agrees, hb', hc, setSequence]
  · simp [hl, h]

/-- Buffering leaves only `Idle` and `SnapshotRequested`, where the book is not valid, or
invalidates. -/
lemma agrees_bufferDelta (h : s.Agrees) (delta : BufferedDelta) :
    (s.bufferDelta delta).1.Agrees := by
  unfold bufferDelta
  extract_lets monoMin monoMax
  by_cases hover : s.buffer.length ≥ s.limits.maxBufferedMessages ∨
      s.bufferedBytes + delta.bytesLen > s.limits.maxBufferedBytes ∨
      satSubU64 monoMax monoMin > s.limits.maxBufferedSpanNs
  · rw [if_pos hover]
    simp [Agrees, invalidate, setValidity]
  · rw [if_neg hover]
    by_cases hs : s.state = .idle ∨ s.state = .snapshotRequested
    · have hl : s.state ≠ .live := by
        rcases hs with hs | hs <;> rw [hs] <;> decide
      have hv : s.book.validity ≠ .valid := fun hv => hl (h.mp hv)
      simp [Agrees, hs, hv]
    · simpa [Agrees, hs] using h

/-- **A call keeps validity and state in step exactly when it is clean.** -/
theorem agrees_call_iff (s : BookSynchronizer) (c : Call) (h : s.Agrees) :
    (s.call c).Agrees ↔ Clean s c := by
  rcases c with _ | reason | _ | _ | delta | ⟨bids, asks, sequence⟩ | ⟨sequence, side, op, price, q⟩
  · simp [call, Clean, Agrees, beginResync, setValidity, OrderBook.clear]
  · simp [call, Clean, Agrees, invalidate, setValidity]
  · simp [call, Clean, Agrees, requestSnapshot, setValidity]
  · simp [call, Clean, Agrees, noteGap, setValidity]
  · exact iff_of_true (agrees_bufferDelta h delta) trivial
  · exact agrees_applySnapshotAndDrain_iff bids asks sequence
  · exact agrees_onLiveDelta_iff h sequence side op price q

lemma agrees_new_iff (instrument : InstrumentId) (book : OrderBook) (limits : SyncLimits) :
    (new instrument book limits).Agrees ↔ book.validity ≠ .valid := by
  simp [Agrees, new]

/-- Only a valid book answers its queries. -/
lemma validity_of_answers (h : b.bestBid ≠ none ∨ b.bestAsk ≠ none ∨ b.snapshotLevels ≠ none) :
    b.validity = .valid := by
  by_contra hv
  simp [bestBid, bestAsk, snapshotLevels,
    snapshotLevelsBounded, hv] at h

/-- **Validity and state along a run.** In every state of a run the book is valid exactly while the
synchronizer is live, and then its queries answer only while live, iff the book given to `new` was
not valid and every call of the run is clean. -/
theorem validity_agrees_iff_clean (instrument : InstrumentId) (book : OrderBook)
    (limits : SyncLimits) (calls : List Call) :
    (∀ n, let s := run call (new instrument book limits) (calls.take n)
        (s.book.validity = .valid ↔ s.state = .live) ∧
          (s.book.bestBid ≠ none ∨ s.book.bestAsk ≠ none ∨ s.book.snapshotLevels ≠ none →
            s.state = .live)) ↔
      book.validity ≠ .valid ∧ Guarded call Clean (new instrument book limits) calls := by
  have hdrop : ∀ s : BookSynchronizer,
      ((s.book.validity = .valid ↔ s.state = .live) ∧
          (s.book.bestBid ≠ none ∨ s.book.bestAsk ≠ none ∨ s.book.snapshotLevels ≠ none →
            s.state = .live)) ↔ s.Agrees :=
    fun s => ⟨fun h => h.1, fun h => ⟨h, fun ha => h.mp (validity_of_answers ha)⟩⟩
  simp only [hdrop]
  rw [← agrees_new_iff instrument book limits]
  constructor
  · intro h
    have h0 : (new instrument book limits).Agrees := h 0
    exact ⟨h0, (forall_run_take_iff agrees_call_iff h0).mp h⟩
  · rintro ⟨h0, hg⟩
    exact (forall_run_take_iff agrees_call_iff h0).mpr hg

/-- A snapshot, then a replacement snapshot with a zero quantity. -/
def rejectedReplacement : List Call :=
  [.applySnapshotAndDrain [(⟨⟨100, 0⟩⟩, ⟨⟨1, 0⟩⟩)] [] 1,
    .applySnapshotAndDrain [(⟨⟨100, 0⟩⟩, ⟨⟨0, 0⟩⟩)] [] 2]

/-- **A rejected replacement snapshot** leaves the old book valid and answering while the
synchronizer has left `Live`. -/
theorem rejectedReplacement_disagrees :
    let s := run call (new ⟨1⟩ (OrderBook.new 0 0 none) {}) rejectedReplacement
    s.book.validity = .valid ∧ s.state = .snapshotReceived ∧
      s.book.bestBid = some (⟨⟨100, 0⟩⟩, ⟨⟨1, 0⟩⟩) := by
  decide

end BookSynchronizer

end Marketfeed
