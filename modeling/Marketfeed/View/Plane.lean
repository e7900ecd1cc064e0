import Marketfeed.Adapter.Session
import Marketfeed.Book.Exact

/-!
# The view plane's book cache

Model of `crates/daemon/src/view/plane.rs`: the plane ingests event batches and system events and
serves a book per venue and instrument. Its hash maps are only read and written by key, so they are
functions here. The profile, bubble and derivative projections of the same file neither read nor write
a book and are left out; so do the trade tapes, which are `View/Tape`.
-/

namespace Marketfeed

/-- Books are kept by venue and instrument. -/
abbrev BookKey := VenueId × InstrumentId

/-- The scales are guessed from the first level of a snapshot. A snapshot it cannot hold is dropped,
and so is a delta: the book that was there before stays. -/
structure LiveBook where
  book : OrderBook
deriving DecidableEq

namespace LiveBook

/-- Price and quantity scale of the first level, bids before asks. -/
def firstScales (snap : BookSnapshot) : Nat × Nat :=
  match snap.bids.head?.or snap.asks.head? with
  | some l => (l.price.fixed.scale, l.quantity.fixed.scale)
  | none => (8, 8)

def levelRows (levels : List BookLevel) : List (Price × Quantity) :=
  levels.map fun l => (l.price, l.quantity)

def fromSnapshot (snap : BookSnapshot) : Option LiveBook :=
  let scales := firstScales snap
  match (OrderBook.new scales.1 scales.2 snap.depth).applySnapshot (levelRows snap.bids)
    (levelRows snap.asks) none with
  | (book, .ok ()) => some ⟨book⟩
  | (_, .error _) => none

def applyDelta (live : LiveBook) (delta : BookDelta) : LiveBook × Bool :=
  match live.book.applyChangesAtomic delta.changes with
  | (book, .ok ()) => (⟨book⟩, true)
  | (book, .error _) => (⟨book⟩, false)

def snapshot (live : LiveBook) (depth : Option UInt32) : Option BookSnapshot :=
  let levels := match depth with
    | some depth => live.book.snapshotLevelsBounded depth.toNat
    | none => live.book.snapshotLevels
  levels.map fun (bids, asks) => ⟨bids, asks, depth.map (·.toNat), none⟩

end LiveBook

/-- One column of the depth history: coefficients at the sample's scales. -/
structure StoredDepthSample where
  eventTsNs : Int
  epoch : UInt64
  priceScale : Nat
  quantityScale : Nat
  bids : List (Int × Int)
  asks : List (Int × Int)
deriving DecidableEq

/-- Source: `ViewPlane` and `ViewInner` -/
structure ViewPlane where
  batchesSeen : UInt64
  venueIds : String → Option VenueId
  idToVenue : VenueId → Option String
  symbols : String × UInt32 → Option String
  books : BookKey → Option LiveBook
  depthHistory : BookKey → List StoredDepthSample
  depthLastSampleNs : BookKey → Option Int
  depthEpochs : BookKey → UInt64
  depthCoalescedSamples : BookKey → UInt64
  depthEvictedSamples : BookKey → UInt64
  venueLastEventTs : VenueId → Option Int
  venueLastTradeTs : VenueId → Option Int
  venueLastQuoteTs : VenueId → Option Int
  sinkVenue : Option VenueId

namespace ViewPlane

/-- Source: `DEPTH_SAMPLE_INTERVAL_MS`, `SAMPLE_NS` -/
def sampleNs : Int := 100 * 1000000

def depthHistoryCapacity : Nat := 600

/-- `saturating_add(1)` on a `u64`. -/
def bump (n : UInt64) : UInt64 := if n + 1 = 0 then n else n + 1

def new : ViewPlane where
  batchesSeen := 0
  venueIds _ := none
  idToVenue _ := none
  symbols _ := none
  books _ := none
  depthHistory _ := []
  depthLastSampleNs _ := none
  depthEpochs _ := 0
  depthCoalescedSamples _ := 0
  depthEvictedSamples _ := 0
  venueLastEventTs _ := none
  venueLastTradeTs _ := none
  venueLastQuoteTs _ := none
  sinkVenue := none

variable (p : ViewPlane)

/-- A sample too close to the last one is only counted; a full history drops its oldest sample.
Source: `push_depth_sample`, `StoredDepthHistory::take_reusable`, `push_back` -/
def pushDepthSample (key : BookKey) (eventTsNs : Int) (snapshot : BookSnapshot) : ViewPlane :=
  if (p.depthLastSampleNs key).any fun last => satI64 (eventTsNs - last) < sampleNs then
    { p with depthCoalescedSamples :=
        Function.update p.depthCoalescedSamples key (bump (p.depthCoalescedSamples key)) }
  else
    let history := p.depthHistory key
    let full := history.length ≥ depthHistoryCapacity
    let scales := match snapshot.bids.head?.or snapshot.asks.head? with
      | some l => (l.price.fixed.scale, l.quantity.fixed.scale)
      | none => (0, 0)
    let store (l : BookLevel) := (l.price.fixed.coefficient, l.quantity.fixed.coefficient)
    let sample : StoredDepthSample :=
      ⟨eventTsNs, p.depthEpochs key, scales.1, scales.2, snapshot.bids.map store,
        snapshot.asks.map store⟩
    { p with
      depthLastSampleNs := Function.update p.depthLastSampleNs key (some eventTsNs)
      depthEvictedSamples := if full then
          Function.update p.depthEvictedSamples key (bump (p.depthEvictedSamples key))
        else p.depthEvictedSamples
      depthHistory := Function.update p.depthHistory key
        ((if full then history.tail else history) ++ [sample]) }

/-- The name bookkeeping of an event: the venue is registered under its configured name, or under
`venue-<id>`, and its last event time is noted. -/
def noteVenue (venue : VenueId) (receiveTs : Int) : ViewPlane :=
  let name := (p.idToVenue venue).getD ("venue-" ++ toString venue.val.toNat)
  { p with
    idToVenue := Function.update p.idToVenue venue (some name)
    venueIds := Function.update p.venueIds name (some ((p.venueIds name).getD venue))
    venueLastEventTs := Function.update p.venueLastEventTs venue (some receiveTs) }

/-- The sample taken of a book that has just changed. -/
def sampleBook (key : BookKey) (eventTsNs : Int) (live : LiveBook) : ViewPlane :=
  match live.snapshot (some 64) with
  | some snapshot => p.pushDepthSample key eventTsNs snapshot
  | none => p

/-- **One event of a batch.** A snapshot the plane cannot hold and a delta the book refuses change
nothing.
Source: the `for ev in &batch.events` loop of `ingest_batch` -/
def ingestEvent (ev : EventEnvelope) : ViewPlane :=
  match ev.instrument with
  | none => p
  | some instrument =>
    let key := (ev.venue, instrument)
    let ts := ev.receiveTs.ns
    let p := p.noteVenue ev.venue ts
    match ev.payload with
    | .bookSnapshot snap =>
      match LiveBook.fromSnapshot snap with
      | none => p
      | some live =>
        let p := p.sampleBook key ts live
        { p with books := Function.update p.books key (some live) }
    | .bookDelta delta =>
      match p.books key with
      | none => p
      | some live =>
        let (live, applied) := live.applyDelta delta
        let p := { p with books := Function.update p.books key (some live) }
        if applied then p.sampleBook key ts live else p
    | .trade _ =>
      { p with venueLastTradeTs := Function.update p.venueLastTradeTs ev.venue (some ts) }
    | .quote _ =>
      { p with venueLastQuoteTs := Function.update p.venueLastQuoteTs ev.venue (some ts) }
    | _ => p

/-- The venue of a batch, if all its events agree on it. -/
def batchVenue (batch : EventBatch) : Option VenueId :=
  (batch.events.head?.map (·.venue)).filter fun venue => batch.events.all (·.venue = venue)

def ingestBatch (batch : EventBatch) : ViewPlane × Option VenueId :=
  (batch.events.foldl ingestEvent { p with batchesSeen := p.batchesSeen + 1 }, batchVenue batch)

/-- Only an invalidation of a known venue counts: the book is gone, and a new depth epoch begins. -/
def ingestSystem (sinkVenue : Option VenueId) (event : SystemEvent) : ViewPlane :=
  match sinkVenue, event with
  | some venue, .bookInvalidated instrument _ =>
    let key := (venue, instrument)
    { p with
      books := Function.update p.books key none
      depthEpochs := Function.update p.depthEpochs key (bump (p.depthEpochs key))
      depthLastSampleNs := Function.update p.depthLastSampleNs key none }
  | _, _ => p

/-- Source: `EventSink for ViewPlane` `push_batch` -/
def pushBatch (batch : EventBatch) : ViewPlane :=
  let (p, venue) := p.ingestBatch batch
  { p with sinkVenue := venue.or p.sinkVenue }

/-- Source: `EventSink for ViewPlane` `push_system` -/
def pushSystem (event : SystemEvent) : ViewPlane :=
  p.ingestSystem p.sinkVenue event

end ViewPlane

/-! ## Live books as exact decimals -/

namespace LiveBook

lemma exactRows_levelRows (snap : BookSnapshot) :
    OrderBook.exactRows (levelRows snap.bids) (levelRows snap.asks) snap.depth = .ofSnapshot snap := by
  simp only [OrderBook.exactRows, OrderBook.rowWrites, levelRows, List.map_map,
    ExactBook.ofSnapshot, ExactBook.snapshotWrites]
  rfl

variable {live : LiveBook}

lemma exact_fromSnapshot {snap : BookSnapshot} (h : fromSnapshot snap = some live) :
    live.book.exact = .ofSnapshot snap ∧ live.book.validity = .valid := by
  unfold fromSnapshot at h
  rcases OrderBook.applySnapshot_cases (OrderBook.new (firstScales snap).1 (firstScales snap).2
    snap.depth) (levelRows snap.bids) (levelRows snap.asks) none with
    ⟨next, hnext, happ⟩ | ⟨e, -, happ⟩
  · simp only [happ, Option.some.injEq] at h
    obtain ⟨hexact, hvalid⟩ := OrderBook.buildSnapshot_exact hnext
    rw [← h]
    exact ⟨hexact.trans (exactRows_levelRows snap), hvalid⟩
  · simp [happ] at h

/-- **A snapshot the plane can hold**: every level has a positive quantity and is expressible at the
scales of the first level, and its best bid is below its best ask. -/
structure SnapshotFits (snap : BookSnapshot) : Prop where
  rows : ∀ l ∈ snap.bids ++ snap.asks,
    OrderBook.RowFits (firstScales snap).1 (firstScales snap).2 (l.price, l.quantity)
  uncrossed : (ExactBook.ofSnapshot snap).Uncrossed

instance (snap : BookSnapshot) : Decidable (SnapshotFits snap) :=
  decidable_of_iff _ ⟨fun h : _ ∧ _ => ⟨h.1, h.2⟩, fun h => ⟨h.rows, h.uncrossed⟩⟩

lemma fromSnapshot_of_fits {snap : BookSnapshot} (h : SnapshotFits snap) :
    ∃ live, fromSnapshot snap = some live := by
  have hrows : ∀ row ∈ levelRows snap.bids ++ levelRows snap.asks,
      OrderBook.RowFits (firstScales snap).1 (firstScales snap).2 row := by
    intro row hrow
    rw [levelRows, levelRows, ← List.map_append] at hrow
    obtain ⟨l, hl, rfl⟩ := List.mem_map.mp hrow
    exact h.rows l hl
  have hu := h.uncrossed
  rw [← exactRows_levelRows] at hu
  obtain ⟨next, hnext⟩ := OrderBook.buildSnapshot_of_fits
    (OrderBook.new (firstScales snap).1 (firstScales snap).2 snap.depth) _ _ none hrows hu
  refine ⟨⟨next⟩, ?_⟩
  simp only [fromSnapshot, OrderBook.applySnapshot, hnext]

/-- **A delta the book can carry out**: its changes fit the book's scales one after the other, and
the book they leave is not crossed. -/
structure DeltaFits (live : LiveBook) (delta : BookDelta) : Prop where
  changes : OrderBook.ChangesFit live.book.priceScale live.book.qtyScale live.book.exact delta.changes
  uncrossed : (live.book.exact.putAll (delta.changes.map ExactBook.changeWrite)).Uncrossed

instance (live : LiveBook) (delta : BookDelta) : Decidable (live.DeltaFits delta) :=
  decidable_of_iff _ ⟨fun h : _ ∧ _ => ⟨h.1, h.2⟩, fun h => ⟨h.changes, h.uncrossed⟩⟩

lemma applyDelta_of_fits (hv : live.book.validity = .valid) {delta : BookDelta}
    (h : live.DeltaFits delta) :
    ∃ live', live.applyDelta delta = (live', true) ∧
      live'.book.exact = live.book.exact.applyDelta delta ∧ live'.book.validity = .valid := by
  obtain ⟨book, happ, hexact, hvalid⟩ := OrderBook.applyChangesAtomic_of_fits hv h.changes h.uncrossed
  refine ⟨⟨book⟩, ?_, hexact, hvalid⟩
  simp only [applyDelta, happ]

/-- The number of levels a query may list. -/
def limit (depth : Option UInt32) : Nat := depth.elim usizeMax (·.toNat)

/-- A query of a valid book lists the best levels of its exact reading. -/
lemma snapshot_exact (hv : live.book.validity = .valid) (depth : Option UInt32) :
    (live.snapshot depth).map
        (fun s => (OrderBook.exactLevels s.bids, OrderBook.exactLevels s.asks)) =
      some (live.book.exact.best (limit depth)) := by
  have h := OrderBook.snapshotLevelsBounded_exact hv
  unfold snapshot limit
  rcases depth with _ | depth
  · rw [Option.map_map]
    exact h usizeMax
  · rw [Option.map_map]
    exact h depth.toNat

end LiveBook

/-! ## Served books follow the history -/

namespace ViewPlane

/-- What the plane ingests: a batch, or a system event seen by a sink of the given venue. -/
inductive Ingest
  | batch (batch : EventBatch)
  | system (sinkVenue : Option VenueId) (event : SystemEvent)

def ingest (p : ViewPlane) : Ingest → ViewPlane
  | .batch batch => (p.ingestBatch batch).1
  | .system sinkVenue event => p.ingestSystem sinkVenue event

/-- The events of an input. -/
def Ingest.events : Ingest → List EventEnvelope
  | .batch b => b.events
  | .system _ _ => []

/-- How one event continues the history of a key. -/
def historyEvent (key : BookKey) (book : Option ExactBook) (ev : EventEnvelope) : Option ExactBook :=
  if ev.venue = key.1 ∧ ev.instrument = some key.2 then
    match ev.payload with
    | .bookSnapshot snap => some (.ofSnapshot snap)
    | .bookDelta delta => book.map (·.applyDelta delta)
    | _ => book
  else book

/-- **The history of a key**: its last snapshot followed by every later delta, as exact decimals. -/
def history (key : BookKey) (inputs : List Ingest) : Option ExactBook :=
  (inputs.flatMap Ingest.events).foldl (historyEvent key) none

/-- The payload fits the book it meets. -/
def PayloadFits (live : LiveBook) : MarketEvent → Prop
  | .bookSnapshot snap => LiveBook.SnapshotFits snap
  | .bookDelta delta => live.DeltaFits delta
  | _ => True

instance (live : LiveBook) (payload : MarketEvent) : Decidable (PayloadFits live payload) := by
  unfold PayloadFits
  split
  · infer_instance
  · infer_instance
  · exact .isTrue trivial

/-- **The event fits the book being served**, if a book of its key is being served. -/
def EventFits (p : ViewPlane) (ev : EventEnvelope) : Prop :=
  ∀ instrument ∈ ev.instrument, ∀ live ∈ p.books (ev.venue, instrument), PayloadFits live ev.payload

instance (p : ViewPlane) (ev : EventEnvelope) : Decidable (p.EventFits ev) := by
  unfold EventFits
  infer_instance

/-- Every event of the input fits the book it meets. -/
def IngestFits (p : ViewPlane) : Ingest → Prop
  | .batch batch =>
    Guarded ingestEvent EventFits { p with batchesSeen := p.batchesSeen + 1 } batch.events
  | .system _ _ => True

instance (p : ViewPlane) (input : Ingest) : Decidable (p.IngestFits input) := by
  unfold IngestFits
  split <;> infer_instance

/-- Every served book is valid and equals the history of its key. -/
def Follows (p : ViewPlane) (h : BookKey → Option ExactBook) : Prop :=
  ∀ key live, p.books key = some live →
    h key = some live.book.exact ∧ live.book.validity = .valid

lemma books_pushDepthSample (p : ViewPlane) (key : BookKey) (ts : Int) (snap : BookSnapshot) :
    (p.pushDepthSample key ts snap).books = p.books := by
  unfold pushDepthSample
  split_ifs <;> rfl

lemma books_sampleBook (p : ViewPlane) (key : BookKey) (ts : Int) (live : LiveBook) :
    (p.sampleBook key ts live).books = p.books := by
  unfold sampleBook
  split
  · exact books_pushDepthSample p key ts _
  · rfl

/-- What an event does to the book of its key. -/
def bookAfter (book : Option LiveBook) : MarketEvent → Option LiveBook
  | .bookSnapshot snap => (LiveBook.fromSnapshot snap).or book
  | .bookDelta delta => book.map fun live => (live.applyDelta delta).1
  | _ => book

/-- **The books after one event.** -/
theorem books_ingestEvent (p : ViewPlane) (ev : EventEnvelope) (key : BookKey) :
    (p.ingestEvent ev).books key =
      if ev.venue = key.1 ∧ ev.instrument = some key.2 then bookAfter (p.books key) ev.payload
      else p.books key := by
  unfold ingestEvent
  rcases ev.instrument with _ | instrument
  · simp
  have hkey : (ev.venue = key.1 ∧ some instrument = some key.2) ↔ key = (ev.venue, instrument) := by
    rw [Prod.ext_iff, Option.some.injEq]
    exact ⟨fun h => ⟨h.1.symm, h.2.symm⟩, fun h => ⟨h.1.symm, h.2.symm⟩⟩
  simp only [hkey]
  have hnote : (p.noteVenue ev.venue ev.receiveTs.ns).books = p.books := rfl
  rcases hpay : ev.payload with _ | _ | snap | delta | _ | _ | _ | _ | _ | _ | _ | _ | _
  case bookSnapshot =>
    rcases hsnap : LiveBook.fromSnapshot snap with _ | live
    · simp [bookAfter, hsnap, hnote]
    · simp only [bookAfter, hsnap, books_sampleBook, hnote, Option.some_or, Function.update_apply]
  case bookDelta =>
    rcases hbook : p.books (ev.venue, instrument) with _ | live
    · simp only [hnote, hbook, bookAfter]
      split_ifs with hk
      · rw [hk, hbook]
        rfl
      · rfl
    · have hbooks : ∀ q : ViewPlane, q.books = Function.update p.books (ev.venue, instrument)
          (some (live.applyDelta delta).1) → q.books key =
            if key = (ev.venue, instrument) then bookAfter (p.books key) (.bookDelta delta)
            else p.books key := by
        intro q hq
        rw [hq, Function.update_apply]
        split_ifs with hk
        · rw [hk, hbook]
          rfl
        · rfl
      simp only [hnote, hbook]
      refine hbooks _ ?_
      split_ifs
      · exact books_sampleBook _ _ _ _
      · rfl
  all_goals simp [bookAfter, hnote]

variable {p : ViewPlane} {h : BookKey → Option ExactBook}

/-- **One event keeps the books on their histories.** -/
theorem Follows.ingestEvent (hp : p.Follows h) {ev : EventEnvelope} (hfits : p.EventFits ev) :
    (p.ingestEvent ev).Follows fun key => historyEvent key (h key) ev := by
  intro key live hlive
  show historyEvent key (h key) ev = some live.book.exact ∧ live.book.validity = .valid
  rw [books_ingestEvent] at hlive
  unfold historyEvent
  by_cases hkey : ev.venue = key.1 ∧ ev.instrument = some key.2
  · rw [if_pos hkey] at hlive ⊢
    have hserved : ∀ old, p.books key = some old → PayloadFits old ev.payload := by
      intro old hold
      exact hfits key.2 hkey.2 old (by rw [hkey.1]; exact hold)
    rcases hpay : ev.payload with _ | _ | snap | delta | _ | _ | _ | _ | _ | _ | _ | _ | _
    case bookSnapshot =>
      simp only [hpay, bookAfter, PayloadFits] at hlive hserved ⊢
      rcases hsnap : LiveBook.fromSnapshot snap with _ | new
      · -- a refused snapshot of a served book does not fit
        rw [hsnap, Option.none_or] at hlive
        obtain ⟨new, hnew⟩ := LiveBook.fromSnapshot_of_fits (hserved live hlive)
        cases hsnap.symm.trans hnew
      · rw [hsnap, Option.some_or] at hlive
        cases hlive
        obtain ⟨hexact, hvalid⟩ := LiveBook.exact_fromSnapshot hsnap
        exact ⟨by rw [hexact], hvalid⟩
    case bookDelta =>
      simp only [hpay, bookAfter, PayloadFits] at hlive hserved ⊢
      obtain ⟨old, hold, rfl⟩ := Option.map_eq_some_iff.mp hlive
      obtain ⟨hhist, hvalid⟩ := hp key old hold
      obtain ⟨new, happ, hexact, hvalid'⟩ := LiveBook.applyDelta_of_fits hvalid (hserved old hold)
      rw [happ, hhist]
      exact ⟨congrArg some hexact.symm, hvalid'⟩
    all_goals
      rw [hpay] at hlive
      exact hp key live hlive
  · rw [if_neg hkey] at hlive ⊢
    exact hp key live hlive

/-- The events of an input, one after the other. -/
lemma Follows.events {events : List EventEnvelope} (hp : p.Follows h)
    (hfits : Guarded ViewPlane.ingestEvent EventFits p events) :
    (events.foldl ViewPlane.ingestEvent p).Follows
      fun key => events.foldl (historyEvent key) (h key) := by
  induction events generalizing p h with
  | nil => exact hp
  | cons ev events ih => exact ih (hp.ingestEvent hfits.1) hfits.2

/-- A system event only takes books away. -/
lemma Follows.ingestSystem (hp : p.Follows h) (sinkVenue : Option VenueId) (event : SystemEvent) :
    (p.ingestSystem sinkVenue event).Follows h := by
  intro key live hlive
  unfold ViewPlane.ingestSystem at hlive
  split at hlive
  · simp only [Function.update_apply] at hlive
    split_ifs at hlive
    exact hp key live hlive
  · exact hp key live hlive

/-- **A run keeps the books on their histories.** -/
theorem Follows.run {inputs : List Ingest} (hp : p.Follows h)
    (hfits : Guarded ingest IngestFits p inputs) :
    (Marketfeed.run ingest p inputs).Follows
      fun key => (inputs.flatMap Ingest.events).foldl (historyEvent key) (h key) := by
  induction inputs generalizing p h with
  | nil => exact hp
  | cons input inputs ih =>
    simp only [List.flatMap_cons, List.foldl_append]
    rcases input with batch | ⟨sinkVenue, event⟩
    · have hstart : ({ p with batchesSeen := p.batchesSeen + 1 } : ViewPlane).Follows h := hp
      exact ih (hstart.events hfits.1) hfits.2
    · exact ih (hp.ingestSystem sinkVenue event) hfits.2

/-- **The plane serves the history, as long as the events fit.** Start from a plane without books
and ingest any batches and system events such that every snapshot of a served book can be held at
the scales of its first level, and every delta can be carried out at the scales of the served book.
Then a served book is, as exact decimals, the last snapshot of its key followed by every later delta,
and a query of any depth lists its best levels. -/
theorem served_book_exact (p : ViewPlane) (hempty : ∀ key, p.books key = none)
    (inputs : List Ingest) (hfits : Guarded ingest IngestFits p inputs) (key : BookKey)
    (live : LiveBook) (hlive : (Marketfeed.run ingest p inputs).books key = some live) :
    history key inputs = some live.book.exact ∧
      ∀ depth, (live.snapshot depth).map
          (fun s => (OrderBook.exactLevels s.bids, OrderBook.exactLevels s.asks)) =
        some (live.book.exact.best (LiveBook.limit depth)) := by
  have hstart : p.Follows fun _ => none := by
    intro key live h
    rw [hempty key] at h
    cases h
  obtain ⟨hhist, hvalid⟩ := hstart.run hfits key live hlive
  exact ⟨hhist, LiveBook.snapshot_exact hvalid⟩

/-! ## Examples -/

def exampleKey : BookKey := (⟨3⟩, ⟨1⟩)

/-- A batch with one event of the example key. -/
def exampleEvents (payload : MarketEvent) : EventBatch :=
  ⟨⟨1⟩, 0, [
    { schemaVersion := 1
      venue := exampleKey.1
      instrument := some exampleKey.2
      connection := ⟨1⟩
      session := ⟨1⟩
      frameSeq := 0
      eventIndex := 0
      exchangeTs := none
      receiveTs := ⟨0⟩
      sourceSequence := none
      flags := .empty
      payload }]⟩

def exampleBatch (payload : MarketEvent) : Ingest := .batch (exampleEvents payload)

/-- A book of whole prices: 100 against 101. -/
def wholeSnapshot : BookSnapshot :=
  ⟨[⟨⟨⟨100, 0⟩⟩, ⟨⟨1, 0⟩⟩⟩], [⟨⟨⟨101, 0⟩⟩, ⟨⟨1, 0⟩⟩⟩], some 10, none⟩

/-- A later book whose second bid, 101.5, has one decimal more than the first one. -/
def finerSnapshot : BookSnapshot :=
  ⟨[⟨⟨⟨102, 0⟩⟩, ⟨⟨1, 0⟩⟩⟩, ⟨⟨⟨1015, 1⟩⟩, ⟨⟨1, 0⟩⟩⟩], [⟨⟨⟨103, 0⟩⟩, ⟨⟨1, 0⟩⟩⟩], some 10, none⟩

/-- A new best bid of 100.5. -/
def finerDelta : BookDelta := ⟨[⟨.bid, .upsert, ⟨⟨1005, 1⟩⟩, some ⟨⟨1, 0⟩⟩⟩], none⟩

/-- A new bid of 99. -/
def wholeDelta : BookDelta := ⟨[⟨.bid, .upsert, ⟨⟨99, 0⟩⟩, some ⟨⟨2, 0⟩⟩⟩], none⟩

/-- The plane serves a book that is not the history of its key. -/
def Stale (inputs : List Ingest) : Prop :=
  ∃ live, (Marketfeed.run ingest new inputs).books exampleKey = some live ∧
    history exampleKey inputs ≠ some live.book.exact

/-- **A book at the wrong scale stays.** A snapshot, and likewise a delta, with a price finer than the
first level of the served book is dropped, and the book from before is served as if nothing had
happened. -/
theorem served_book_stale :
    Stale [exampleBatch (.bookSnapshot wholeSnapshot), exampleBatch (.bookSnapshot finerSnapshot)] ∧
      Stale [exampleBatch (.bookSnapshot wholeSnapshot), exampleBatch (.bookDelta finerDelta)] := by
  have hstale : ∀ inputs : List Ingest,
      ((Marketfeed.run ingest new inputs).books exampleKey).any
        (fun live => history exampleKey inputs ≠ some live.book.exact) = true → Stale inputs := by
    intro inputs h
    obtain ⟨live, hlive, hne⟩ := Option.any_eq_true _ _ |>.mp h
    exact ⟨live, hlive, of_decide_eq_true hne⟩
  exact ⟨hstale _ (by decide +kernel), hstale _ (by decide +kernel)⟩

/-- A snapshot the plane cannot hold, one that it can, and a delta of that book. -/
def exampleInputs : List Ingest :=
  [exampleBatch (.bookSnapshot finerSnapshot), exampleBatch (.bookSnapshot wholeSnapshot),
    exampleBatch (.bookDelta wholeDelta)]

/-- The condition is met by a run with a refused first snapshot, a held one and a delta. -/
theorem served_book_exact_exampleInputs :
    ∃ live, (Marketfeed.run ingest new exampleInputs).books exampleKey = some live ∧
      history exampleKey exampleInputs = some live.book.exact ∧
        live.book.exact.best 1 = ([(100, 1)], [(101, 1)]) := by
  have hany : ((Marketfeed.run ingest new exampleInputs).books exampleKey).any
      (fun live => live.book.exact.best 1 = ([(100, 1)], [(101, 1)])) = true := by decide +kernel
  obtain ⟨live, hlive, hbest⟩ := Option.any_eq_true _ _ |>.mp hany
  have hfits : Guarded ingest IngestFits new exampleInputs := by decide +kernel
  exact ⟨live, hlive, (served_book_exact new (fun _ => rfl) exampleInputs hfits exampleKey live
    hlive).1, of_decide_eq_true hbest⟩

end ViewPlane

end Marketfeed
