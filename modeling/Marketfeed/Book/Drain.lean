import Marketfeed.Book.Sync

/-!
# Buffered and live deltas

A delta reaches the book on one of two paths. Before the snapshot it is buffered, and the drain of
`apply_snapshot_and_drain` filters, skips and checks it against a cursor of its own. After the snapshot
`on_live_delta` compares it with the expected sequence.
-/

namespace Marketfeed

namespace BookSynchronizer

/-! ## The two paths -/

/-- Buffer deltas one after the other, up to the first that is refused. -/
def bufferAll : BookSynchronizer → List BufferedDelta → BookSynchronizer × Except BookError Unit
  | s, [] => (s, .ok ())
  | s, d :: rest =>
    match s.bufferDelta d with
    | (s, .error e) => (s, .error e)
    | (s, .ok ()) => bufferAll s rest

/-- Deliver deltas one after the other, up to the first that fails. -/
def deliverAll : BookSynchronizer → List BufferedDelta → BookSynchronizer × Except BookError Unit
  | s, [] => (s, .ok ())
  | s, d :: rest =>
    match s.onLiveDelta d.sequence d.side d.operation d.price d.quantity with
    | (s, .error e) => (s, .error e)
    | (s, .ok ()) => deliverAll s rest

/-- The synchronizer once a drain has reached `last`. -/
def goLive (s : BookSynchronizer) (last : UInt64) : BookSynchronizer :=
  { s with
    expectedSequence := some (last + 1)
    book := (s.book.setSequence last).setValidity .valid
    state := .live }

variable {s : BookSynchronizer}

/-- What an accepted delta changes: the buffer and its bounds, and the state. -/
lemma bufferDelta_ok {s' : BookSynchronizer} {d : BufferedDelta}
    (h : s.bufferDelta d = (s', .ok ())) :
    s'.buffer = s.buffer ++ [d] ∧ s'.book = s.book ∧ s'.instrument = s.instrument ∧
      s'.limits = s.limits ∧ s'.expectedSequence = s.expectedSequence := by
  unfold bufferDelta at h
  dsimp only at h
  split at h
  · cases h
  · cases h
    exact ⟨rfl, rfl, rfl, rfl, rfl⟩

lemma bufferAll_ok {buffered : BookSynchronizer} {deltas : List BufferedDelta}
    (h : s.bufferAll deltas = (buffered, .ok ())) :
    buffered.buffer = s.buffer ++ deltas ∧ buffered.book = s.book ∧
      buffered.instrument = s.instrument ∧ buffered.limits = s.limits ∧
      buffered.expectedSequence = s.expectedSequence := by
  induction deltas generalizing s with
  | nil =>
    cases h
    exact ⟨(List.append_nil _).symm, rfl, rfl, rfl, rfl⟩
  | cons d rest ih =>
    unfold bufferAll at h
    split at h
    · cases h
    · rename_i s' hd
      obtain ⟨hbuffer, hbook, hinstrument, hlimits, hexpected⟩ := bufferDelta_ok hd
      obtain ⟨hbuffer', hbook', hinstrument', hlimits', hexpected'⟩ := ih h
      refine ⟨?_, hbook'.trans hbook, hinstrument'.trans hinstrument, hlimits'.trans hlimits,
        hexpected'.trans hexpected⟩
      rw [hbuffer', hbuffer, List.append_assoc, List.singleton_append]

/-! ## One delta -/

/-- A change does not read the sequence of the book. -/
lemma applyChange_setSequence (b : OrderBook) (seq : UInt64) (side : BookSide)
    (operation : BookOperation) (price : Price) (quantity : Option Quantity) :
    (b.setSequence seq).applyChange side operation price quantity =
      ((b.applyChange side operation price quantity).1.setSequence seq,
        (b.applyChange side operation price quantity).2) := by
  have hdelete : (b.setSequence seq).delete side price = (b.delete side price).setSequence seq := by
    have hkey : (b.setSequence seq).priceKey price = b.priceKey price := rfl
    unfold OrderBook.delete
    rw [hkey]
    rcases b.priceKey price with e | pk
    · rfl
    · rcases side with _ | _ <;> rfl
  have htrim : ∀ c : OrderBook, (c.setSequence seq).trimDepth = c.trimDepth.setSequence seq := by
    intro c
    unfold OrderBook.trimDepth
    rcases h : c.depth with _ | depth <;> simp [OrderBook.setSequence, h]
  have hupsert : ∀ q, (b.setSequence seq).upsert side price q =
      (b.upsert side price q).map (·.setSequence seq) := by
    intro q
    have hkey : (b.setSequence seq).priceKey price = b.priceKey price := rfl
    have hscale : (b.setSequence seq).qtyScale = b.qtyScale := rfl
    unfold OrderBook.upsert
    rw [hkey, hscale]
    split_ifs
    · rfl
    · rcases b.priceKey price with e | pk
      · rfl
      · rcases scaleCoeff q.fixed b.qtyScale with e | qk
        · rfl
        · rcases side with _ | _ <;> rfl
  have hcheck : ∀ c : OrderBook, (c.setSequence seq).checkNotCrossed = c.checkNotCrossed :=
    fun _ => rfl
  have hvalidity : (b.setSequence seq).validity = b.validity := rfl
  unfold OrderBook.applyChange
  rw [hvalidity]
  split_ifs with hvalid
  · rfl
  · rcases operation with _ | _
    · rcases quantity with _ | q
      · rfl
      · by_cases hzero : q.fixed.coefficient = 0
        · simp only [hzero, if_true, hdelete]
        · simp only [hzero, if_false, hupsert]
          rcases b.upsert side price q with e | b'
          · rfl
          · simp only [Except.map, htrim, hcheck]
            rcases b'.trimDepth.checkNotCrossed with e | ⟨⟩ <;> rfl
    · simp only [hdelete]

variable {last : UInt64}

/-- **One delta on the two paths**: where the drain stands at `last`, the live path expects the next
sequence. -/
theorem onLiveDelta_goLive (hvalid : s.book.validity = .valid)
    (hlast : last < 18446744073709551615) (d : BufferedDelta) :
    (s.goLive last).onLiveDelta d.sequence d.side d.operation d.price d.quantity =
      if d.sequence ≤ last then (s.goLive last, .ok ())
      else if d.sequence ≠ last + 1 then ((s.goLive last).noteGap, .error (.notValid .invalid))
      else
        match s.book.applyChange d.side d.operation d.price d.quantity with
        | (book, .error e) => ({ s.goLive last with book := book.setSequence last }, .error e)
        | (book, .ok ()) => ({ s with book }.goLive d.sequence, .ok ()) := by
  have hbook : (s.goLive last).book = s.book.setSequence last := by
    unfold goLive OrderBook.setValidity OrderBook.setSequence
    simp only [← hvalid]
  have hlt : d.sequence < last + 1 ↔ d.sequence ≤ last := by grind
  have hstate : (s.goLive last).state = .live := rfl
  have hexpected : (s.goLive last).expectedSequence.getD d.sequence = last + 1 := rfl
  unfold onLiveDelta
  simp only [hstate, hexpected, hbook, applyChange_setSequence, ne_eq, not_true_eq_false, if_false, hlt]
  by_cases hstale : d.sequence ≤ last
  · rw [if_pos hstale, if_pos hstale]
  · rw [if_neg hstale, if_neg hstale]
    by_cases hnext : d.sequence = last + 1
    · rw [if_neg (by simp [hnext]), if_neg (not_not.mpr hnext)]
      rcases applyChange_of_valid hvalid d.side d.operation d.price d.quantity with
        ⟨-, e, he⟩ | ⟨-, -, b', -, he⟩ | ⟨-, -, b', hb', he⟩ <;> simp only [he]
      unfold goLive OrderBook.setValidity OrderBook.setSequence
      simp only [← hb']
    · rw [if_pos (by grind), if_pos hnext]

/-! ## All deltas -/

variable {t : BookSynchronizer}

/-- **The drain and the live path agree on every list of deltas.** -/
theorem deliverAll_goLive_iff (hvalid : s.book.validity = .valid)
    (hlast : last < 18446744073709551615) {deltas : List BufferedDelta}
    (hbelow : ∀ d ∈ deltas, d.sequence < 18446744073709551615) :
    (s.goLive last).deliverAll deltas = (t, .ok ()) ↔
      ∃ s' last', s.drain last deltas = (s', .ok last') ∧ t = s'.goLive last' := by
  induction deltas generalizing s last with
  | nil =>
    constructor
    · intro h
      cases h
      exact ⟨s, last, rfl, rfl⟩
    · rintro ⟨s', last', h, rfl⟩
      cases h
      rfl
  | cons d rest ih =>
    have hd := hbelow d List.mem_cons_self
    have hrest : ∀ d ∈ rest, d.sequence < 18446744073709551615 := fun d hmem =>
      hbelow d (List.mem_cons_of_mem _ hmem)
    unfold deliverAll drain
    rw [onLiveDelta_goLive hvalid hlast]
    by_cases hstale : d.sequence ≤ last
    · simp only [hstale, if_true]
      exact ih hvalid hlast hrest
    · by_cases hnext : d.sequence = last + 1
      · rw [if_neg hstale, if_neg (not_not.mpr hnext), if_neg hstale, if_neg (not_not.mpr hnext)]
        rcases applyChange_of_valid hvalid d.side d.operation d.price d.quantity with
          ⟨-, e, he⟩ | ⟨-, -, b', -, he⟩ | ⟨-, -, b', hb', he⟩ <;> simp only [he]
        · simp
        · simp
        · exact ih (s := { s with book := b' }) hb' hd hrest
      · simp only [hstale, hnext, if_false, ne_eq, not_false_eq_true, if_true]
        simp

/-- What is not beyond the cursor is skipped anyway. -/
lemma drain_filter (s : BookSynchronizer) {sequence : UInt64} (hle : sequence ≤ last)
    (deltas : List BufferedDelta) :
    s.drain last (deltas.filter fun d => d.sequence > sequence) = s.drain last deltas := by
  induction deltas generalizing s last with
  | nil => rfl
  | cons d rest ih =>
    by_cases hkeep : d.sequence > sequence
    · rw [List.filter_cons_of_pos (by simpa using hkeep)]
      unfold drain
      split_ifs with hstale hgap
      · exact ih s hle
      · rfl
      · rcases s.book.applyChange d.side d.operation d.price d.quantity with ⟨book, e | ⟨⟩⟩
        · rfl
        · exact ih _ (UInt64.le_of_lt hkeep)
    · have hstale : d.sequence ≤ last := by grind
      rw [List.filter_cons_of_neg (by simpa using hkeep), ih s hle]
      conv_rhs => unfold drain
      rw [if_pos hstale]

/-- The synchronizer that has accepted a snapshot and drains its buffer. -/
def draining (s : BookSynchronizer) (book : OrderBook) : BookSynchronizer :=
  { s.clearBuffer with book, state := .applyingBufferedDeltas }

/-- A snapshot goes through iff the book accepts it and the drain runs to its end. -/
lemma applySnapshotAndDrain_ok_iff {bids asks : List (Price × Quantity)} {sequence : UInt64} :
    s.applySnapshotAndDrain bids asks sequence = (t, .ok ()) ↔
      ∃ next s' last, s.book.buildSnapshot bids asks (some sequence) = .ok next ∧
        (s.draining next).drain sequence s.buffer = (s', .ok last) ∧ t = s'.goLive last := by
  have hdrain : ∀ next, (s.draining next).drain sequence
      (s.buffer.filter fun d => d.sequence > sequence) = (s.draining next).drain sequence s.buffer :=
    fun next => drain_filter _ (UInt64.le_refl _) _
  unfold applySnapshotAndDrain
  rcases OrderBook.applySnapshot_cases s.book bids asks (some sequence) with
    ⟨next, hnext, h⟩ | ⟨e, herr, h⟩ <;> simp only [h]
  · constructor
    · intro hdone
      split at hdone
      · cases hdone
      · rename_i s' last hs'
        exact ⟨next, s', last, hnext, (hdrain next).symm.trans hs', (congrArg Prod.fst hdone).symm⟩
    · rintro ⟨next', s', last, hnext', hs', rfl⟩
      cases hnext.symm.trans hnext'
      split
      · rename_i e hfailed
        cases hfailed.symm.trans ((hdrain next).trans hs')
      · rename_i hdone
        cases hdone.symm.trans ((hdrain next).trans hs')
        rfl
  · simp [herr]

/-! ## A snapshot at the last sequence -/

/-- What a delta taken on the live path does to the expected sequence. -/
lemma onLiveDelta_ok {d : BufferedDelta}
    (h : s.onLiveDelta d.sequence d.side d.operation d.price d.quantity = (t, .ok ())) :
    d.sequence < s.expectedSequence.getD d.sequence ∧ t = s ∨
      t.expectedSequence = some (d.sequence + 1) := by
  unfold onLiveDelta at h
  dsimp only at h
  split_ifs at h with hstate hstale hgap
  · cases h
  · exact .inl ⟨hstale, (congrArg Prod.fst h).symm⟩
  · cases h
  · right
    split at h
    · cases h
    · cases h
      rfl

/-- Successful deliveries below the last `u64` never make the expected sequence wrap to zero. -/
lemma deliverAll_expected_ne_zero {deltas : List BufferedDelta} (hs : s.expectedSequence ≠ some 0)
    (hbelow : ∀ d ∈ deltas, d.sequence < 18446744073709551615)
    (h : s.deliverAll deltas = (t, .ok ())) : t.expectedSequence ≠ some 0 := by
  induction deltas generalizing s with
  | nil =>
    cases h
    exact hs
  | cons d rest ih =>
    unfold deliverAll at h
    split at h
    · cases h
    · rename_i s' hd
      refine ih ?_ (fun d hmem => hbelow d (List.mem_cons_of_mem _ hmem)) h
      have hlt := hbelow d List.mem_cons_self
      rcases onLiveDelta_ok hd with ⟨-, rfl⟩ | hnext
      · exact hs
      · rw [hnext, ne_eq, Option.some.injEq]
        grind

/-- The drain skips every delta of a snapshot at the last `u64`. -/
lemma drain_last_sequence (s : BookSynchronizer) (deltas : List BufferedDelta) :
    s.drain 18446744073709551615 deltas = (s, .ok 18446744073709551615) := by
  induction deltas with
  | nil => rfl
  | cons d rest ih =>
    unfold drain
    rw [if_pos (by grind), ih]

/-- After a snapshot at the last `u64` the live path does not come back to where the drain ends. -/
lemma deliverAll_ne_goLive_last {deltas : List BufferedDelta} (hne : deltas ≠ [])
    (hbelow : ∀ d ∈ deltas, d.sequence < 18446744073709551615) :
    (s.goLive 18446744073709551615).deliverAll deltas ≠ (s.goLive 18446744073709551615, .ok ()) := by
  intro h
  obtain ⟨d, rest, rfl⟩ := List.exists_cons_of_ne_nil hne
  have hlt := hbelow d List.mem_cons_self
  unfold deliverAll at h
  split at h
  · cases h
  · rename_i s' hd
    refine deliverAll_expected_ne_zero ?_ (fun d hmem => hbelow d (List.mem_cons_of_mem _ hmem)) h rfl
    -- The expected sequence is zero, so no delta is stale and the first one has to be number zero.
    rcases onLiveDelta_ok hd with ⟨hstale, -⟩ | hnext
    · exact absurd hstale (UInt64.not_lt.mpr (UInt64.zero_le))
    · rw [hnext, ne_eq, Option.some.injEq]
      grind

/-- **When buffered and live deltas end alike.** Take deltas below the last `u64` that fit the buffer
of a synchronizer. Buffering all of them and then applying a snapshot succeeds exactly when applying
the snapshot with an empty buffer and then delivering them succeeds, in the same synchronizer (the same
levels, book sequence, expected sequence and state), if and only if the snapshot is below the last `u64`
too, or there is no delta, or the book refuses the snapshot. -/
theorem drain_iff_live {s buffered : BookSynchronizer} {deltas : List BufferedDelta}
    (hempty : s.buffer = []) (hfits : s.bufferAll deltas = (buffered, .ok ()))
    (hbelow : ∀ d ∈ deltas, d.sequence < 18446744073709551615)
    (bids asks : List (Price × Quantity)) (sequence : UInt64) :
    (∀ t, buffered.applySnapshotAndDrain bids asks sequence = (t, .ok ()) ↔
      ∃ live, s.applySnapshotAndDrain bids asks sequence = (live, .ok ()) ∧
        live.deliverAll deltas = (t, .ok ())) ↔
    sequence < 18446744073709551615 ∨ deltas = [] ∨
      ∃ e, (s.book.applySnapshot bids asks (some sequence)).2 = .error e := by
  obtain ⟨hbuffer, hbook, hinstrument, hlimits, hexpected⟩ := bufferAll_ok hfits
  rw [hempty, List.nil_append] at hbuffer
  -- Both forget the buffer with the snapshot, so they drain the same synchronizer.
  have hsame : ∀ next, buffered.draining next = s.draining next := by
    intro next
    simp only [draining, clearBuffer, hinstrument, hlimits, hexpected]
  rcases OrderBook.applySnapshot_cases s.book bids asks (some sequence) with
    ⟨next, hnext, h⟩ | ⟨e, herr, h⟩
  · have hvalid : (s.draining next).book.validity = .valid := by
      obtain ⟨ws, -, -, rfl⟩ := OrderBook.buildSnapshot_ok hnext
      rfl
    have hlive : ∀ t, (∃ live, s.applySnapshotAndDrain bids asks sequence = (live, .ok ()) ∧
        live.deliverAll deltas = (t, .ok ())) ↔
        ((s.draining next).goLive sequence).deliverAll deltas = (t, .ok ()) := by
      intro t
      simp [applySnapshotAndDrain_ok_iff, hnext, hempty, drain]
    have hdrained : ∀ t, buffered.applySnapshotAndDrain bids asks sequence = (t, .ok ()) ↔
        ∃ s' last, (s.draining next).drain sequence deltas = (s', .ok last) ∧ t = s'.goLive last := by
      intro t
      simp [applySnapshotAndDrain_ok_iff, hbook, hbuffer, hsame, hnext]
    simp only [hlive, hdrained, h, reduceCtorEq, exists_false, or_false]
    constructor
    · intro halike
      by_contra hnot
      obtain ⟨hlast, hne⟩ := not_or.mp hnot
      obtain rfl : sequence = 18446744073709551615 := by grind
      exact deliverAll_ne_goLive_last hne hbelow
        ((halike _).mp ⟨_, _, drain_last_sequence _ _, rfl⟩)
    · rintro (hlt | rfl) t
      · exact (deliverAll_goLive_iff hvalid hlt hbelow).symm
      · simp [drain, deliverAll, eq_comm]
  · simp [applySnapshotAndDrain_ok_iff, hbook, herr, h]

/-- A delta that adds a bid. -/
def exampleBid (sequence : UInt64) (price : Int) : BufferedDelta :=
  ⟨sequence, 8, 0, .bid, .upsert, ⟨⟨price, 0⟩⟩, some ⟨⟨1, 0⟩⟩⟩

/-- A new synchronizer, before and after it has buffered some deltas. -/
def exampleSync (deltas : List BufferedDelta) : BookSynchronizer :=
  ((new ⟨1⟩ (.new 0 0 none) {}).bufferAll deltas).1

/-- A stale delta, the next sequence twice, and the one after it. -/
def exampleDeltas : List BufferedDelta :=
  [exampleBid 3 1, exampleBid 6 2, exampleBid 6 3, exampleBid 7 4]

/-- The deltas reach the book on either path, and at the last `u64` the paths part. -/
theorem drain_iff_live_example :
    (((exampleSync exampleDeltas).applySnapshotAndDrain [] [] 5).2 = .ok () ∧
      ∃ live t, (exampleSync []).applySnapshotAndDrain [] [] 5 = (live, .ok ()) ∧
        live.deliverAll exampleDeltas = (t, .ok ()) ∧ t.expectedSequence = some 8) ∧
    ¬ ∀ t, (exampleSync exampleDeltas).applySnapshotAndDrain [] [] 18446744073709551615 = (t, .ok ()) ↔
      ∃ live, (exampleSync []).applySnapshotAndDrain [] [] 18446744073709551615 = (live, .ok ()) ∧
        live.deliverAll exampleDeltas = (t, .ok ()) := by
  have hfits : (exampleSync []).bufferAll exampleDeltas = (exampleSync exampleDeltas, .ok ()) := by
    decide +kernel
  have hbelow : ∀ d ∈ exampleDeltas, d.sequence < 18446744073709551615 := by decide +kernel
  have hok : ((exampleSync exampleDeltas).applySnapshotAndDrain [] [] 5).2 = .ok () := by
    decide +kernel
  constructor
  · obtain ⟨live, hlive, hdeliver⟩ := ((drain_iff_live rfl hfits hbelow [] [] 5).mpr (.inl (by decide))
      ((exampleSync exampleDeltas).applySnapshotAndDrain [] [] 5).1).mp (Prod.ext rfl hok)
    exact ⟨hok, live, _, hlive, hdeliver, by decide +kernel⟩
  · intro halike
    rcases (drain_iff_live rfl hfits hbelow [] [] _).mp halike with hlt | hnil | ⟨e, he⟩
    · exact absurd hlt (by decide)
    · cases hnil
    · have haccepts : ((exampleSync []).book.applySnapshot [] [] (some 18446744073709551615)).2 =
        .ok () := by decide +kernel
      cases he.symm.trans haccepts

/-- **A snapshot at the last `u64`**: a delta before it is skipped by the drain. On the live path the
expected sequence has wrapped to zero, so the same delta is a gap and the book is invalidated. -/
theorem live_gap_at_last_sequence :
    ((exampleSync [exampleBid 3 1]).applySnapshotAndDrain [] [] 18446744073709551615).2 = .ok () ∧
    ((exampleSync []).applySnapshotAndDrain [] [] 18446744073709551615).2 = .ok () ∧
    (((exampleSync []).applySnapshotAndDrain [] [] 18446744073709551615).1.deliverAll
      [exampleBid 3 1]).2 = .error (.notValid .invalid) := by
  decide +kernel

end BookSynchronizer

end Marketfeed
