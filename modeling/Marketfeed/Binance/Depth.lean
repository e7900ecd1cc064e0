import Marketfeed.Adapter.Session
import Marketfeed.Book.Sync

/-!
# The depth-book core of the Binance sessions

The three Binance sessions (`crates/adapters/binance/src/session.rs`, `usdm_session.rs`,
`coinm_session.rs`) maintain one book per symbol with the same code: buffer `@depth` events until a
REST snapshot arrives, apply the snapshot, drain the buffer, then follow the live events. They
differ in the constants and rules collected in `DepthRules`; every function below is the source's
function of the same name with those rules as a parameter, and the session modules instantiate it.

Sequence ids are `u64` and byte counts `usize`, wrapping as in a release build. Hash maps are finite
maps with an arbitrary but fixed iteration order; where the source searches a map, at most one
entry can match.

A session function returns the new session with what it pushed into the action buffer. A pushed
action may carry a `BookMark`, which no function reads: it records which symbol's book the action
reports on and, for a delta, the depth event behind it.
-/

namespace Marketfeed

/-- Venue timestamps of one message, in milliseconds.
Source: `usdm_messages.rs` `UsdmRoutedV4SourceTimes` -/
structure SourceTimes where
  eventTimeMs : Option Int
  transactionTimeMs : Option Int
deriving DecidableEq

/-- One `@depth` event: the range `[U, u]`, the previous event's `u` on the futures streams, and the
level changes. The last two fields are for the buffer's bounds.
Source: `BufferedDepthEvent` of the three session files -/
structure DepthEvent where
  firstU : UInt64
  finalU : UInt64
  prevU : UInt64
  bids : List (Price × Quantity)
  asks : List (Price × Quantity)
  times : SourceTimes
  bytesLen : UInt64
  receivedMonoNs : UInt64
deriving DecidableEq

/-- What a pushed action reports about one symbol's book. -/
inductive BookMark
  | snapshot (lastUpdateId : UInt64) (snapshot : BookSnapshot)
  | delta (event : DepthEvent) (delta : BookDelta)
  | gap
  | invalidated
deriving DecidableEq

/-- A pushed action with the book it reports on, if any. -/
structure Push where
  action : SessionAction
  mark : Option (String × BookMark) := none
deriving DecidableEq

/-- Source: `SymbolBook` of the three session files -/
structure SymbolBook where
  sync : BookSynchronizer
  snapshotReqId : Option UInt64
  buffering : Bool
  awaitingBridge : Bool
  depthBuffer : List DepthEvent
  bufferedBytes : UInt64
  maxBufferedEvents : Nat
  maxBufferedBytes : UInt64
  maxBufferedSpanNs : UInt64
  bufferedMonoMin : Option UInt64
  bufferedMonoMax : Option UInt64
deriving DecidableEq

namespace SymbolBook

variable (b : SymbolBook)

def pushDepth (ev : DepthEvent) : Except String SymbolBook :=
  let monoMin := b.bufferedMonoMin.elim ev.receivedMonoNs (min · ev.receivedMonoNs)
  let monoMax := b.bufferedMonoMax.elim ev.receivedMonoNs (max · ev.receivedMonoNs)
  if b.depthBuffer.length ≥ b.maxBufferedEvents ∨
      b.bufferedBytes + ev.bytesLen > b.maxBufferedBytes ∨
      satSubU64 monoMax monoMin > b.maxBufferedSpanNs then
    .error "depth buffer overflow"
  else
    .ok { b with
      bufferedBytes := b.bufferedBytes + ev.bytesLen
      bufferedMonoMin := some monoMin
      bufferedMonoMax := some monoMax
      depthBuffer := b.depthBuffer ++ [ev] }

def clearDepthBuffer : SymbolBook :=
  { b with depthBuffer := [], bufferedBytes := 0, bufferedMonoMin := none, bufferedMonoMax := none }

def recomputeDepthBufferLimits : SymbolBook :=
  { b with
    bufferedBytes := (b.depthBuffer.map (·.bytesLen)).foldl (· + ·) 0
    bufferedMonoMin := (b.depthBuffer.map (·.receivedMonoNs)).min?
    bufferedMonoMax := (b.depthBuffer.map (·.receivedMonoNs)).max? }

/-- The last applied `u`, or zero before any.
Source: `book.sync.book.sequence().unwrap_or(0)` -/
def lastU : UInt64 := b.sync.book.sequence.getD 0

end SymbolBook

/-- Source: `PendingHttp` of the two futures session files -/
inductive PendingHttp
  | depthSnapshot
  | openInterest
deriving DecidableEq

/-- The derived `Debug` text. -/
def PendingHttp.debug : PendingHttp → String
  | .depthSnapshot => "DepthSnapshot"
  | .openInterest => "OpenInterest"

/-- Source: `messages.rs` `kline_stream_interval` -/
def klineStreamInterval : CandleInterval → String
  | .m1 => "1m"
  | .m5 => "5m"
  | .m15 => "15m"
  | .h1 => "1h"
  | .d1 => "1d"

/-- The configuration of a Binance session. The last three fields are configurable on spot and
constants on the futures sessions.
Source: `BinanceSessionConfig`, `BinanceUsdmSessionConfig`, `BinanceCoinmSessionConfig` -/
structure BinanceSessionConfig where
  symbols : List String
  instrumentIds : Std.ExtTreeMap String InstrumentId compare
  connection : ConnectionId
  session : SessionId
  enableL2 : Bool
  candleIntervals : List CandleInterval
  priceScale : Nat
  qtyScale : Nat
  maxBufferedDepthEvents : Nat := 10000
  maxBufferedDepthBytes : UInt64 := 4 * 1024 * 1024
  maxBufferedDepthSpanNs : UInt64 := 5000000000
deriving DecidableEq

/-- Every symbol has an instrument id of its own, as the catalogs assign them. -/
def BinanceSessionConfig.DistinctIds (cfg : BinanceSessionConfig) : Prop :=
  ∀ (symbol other : String) (id : InstrumentId), cfg.instrumentIds[symbol]? = some id →
    cfg.instrumentIds[other]? = some id → symbol = other

/-- The books of a session by native symbol. -/
abbrev SymbolBooks := Std.ExtTreeMap String SymbolBook compare

/-- The state the three sessions share. Spot has no pending-request map; it stays empty there.
Source: `BinanceSpotSession`, `BinanceUsdmSession`, `BinanceCoinmSession` -/
structure BinanceSession where
  cfg : BinanceSessionConfig
  frameSeq : UInt64
  nextHttpId : UInt64
  books : SymbolBooks
  pendingHttp : Std.ExtTreeMap UInt64 (String × PendingHttp) compare
  live : Bool
deriving DecidableEq

/-- What distinguishes the three sessions in the depth-book code. -/
structure DepthRules where
  /-- Venue of every envelope. -/
  venue : VenueId
  /-- URL of the depth snapshot of a symbol. -/
  depthUrl : String → String
  /-- Buffered events kept beside a snapshot, from its id and the event's `u`. -/
  keeps : UInt64 → UInt64 → Bool
  /-- The continuity check: `some (expected, actual)` is a gap. The flag says whether the previous
  event's `u` is enforced; spot ignores it. -/
  gap : Bool → UInt64 → DepthEvent → Option (UInt64 × UInt64)
  /-- Reason of the invalidation after a gap. -/
  gapReason : String
  /-- `expected_sequence` after the id `u`. -/
  nextExpected : UInt64 → UInt64
  /-- Whether the first event after a snapshot without buffered events has to bridge it. -/
  bridges : Bool
  /-- Whether snapshot requests are registered in the pending-request map. -/
  registersRequests : Bool
  /-- Whether a `BookResynchronized` event follows the snapshot. -/
  announcesResync : Bool
  /-- The venue time reported on depth events. -/
  authoredTimeMs : SourceTimes → Option Int

/-- The `changes` vector built from one event. -/
def DepthEvent.changes (ev : DepthEvent) : List BookChange := levelChanges ev.bids ev.asks

/-- `64 + bids.len().saturating_mul(24) + asks.len().saturating_mul(24)`. -/
def depthBytesLen (bids asks : List (Price × Quantity)) : UInt64 :=
  64 + UInt64.ofNat (min (bids.length * 24) usizeMax) +
    UInt64.ofNat (min (asks.length * 24) usizeMax)

namespace BinanceSession

variable (R : DepthRules)

/-- The price and quantity scales of a symbol's book: the catalog's, or else the configured ones. -/
def bookScales (cfg : BinanceSessionConfig) (catalog : List Instrument) (symbol : String) :
    Nat × Nat :=
  match catalog.find? (·.nativeSymbol = symbol) with
  | some i => (i.priceScale, i.quantityScale)
  | none => (cfg.priceScale, cfg.qtyScale)

/-- Source: the construction loop of the three `new` functions -/
def newBook (cfg : BinanceSessionConfig) (catalog : List Instrument) (symbol : String)
    (id : InstrumentId) : SymbolBook :=
  let scales := bookScales cfg catalog symbol
  { sync := (BookSynchronizer.new id (OrderBook.new scales.1 scales.2 (some 1000)) {}).requestSnapshot
    snapshotReqId := none
    buffering := true
    awaitingBridge := R.bridges
    depthBuffer := []
    bufferedBytes := 0
    maxBufferedEvents := cfg.maxBufferedDepthEvents
    maxBufferedBytes := cfg.maxBufferedDepthBytes
    maxBufferedSpanNs := cfg.maxBufferedDepthSpanNs
    bufferedMonoMin := none
    bufferedMonoMax := none }

/-- Source: the three `new` functions -/
def new (catalog : List Instrument) (cfg : BinanceSessionConfig) : BinanceSession :=
  { cfg
    frameSeq := 0
    nextHttpId := 1
    books := if cfg.enableL2 then cfg.instrumentIds.map (newBook R cfg catalog) else ∅
    pendingHttp := ∅
    live := false }

variable (s : BinanceSession)

def instrumentFor (symbol : String) : Option InstrumentId :=
  s.cfg.instrumentIds[symbol]?

def envelope (instrument : Option InstrumentId) (frameSeq : UInt64) (eventIndex : Nat)
    (received : FrameStamp) (exchangeTsMs : Option Int) (seq : Option SequenceRange)
    (flags : EventFlags) (payload : MarketEvent) : EventEnvelope :=
  { schemaVersion := 1
    venue := R.venue
    instrument
    connection := s.cfg.connection
    session := s.cfg.session
    frameSeq
    eventIndex
    exchangeTs := exchangeTsMs.map msToTimestamp
    receiveTs := received.receiveTs
    sourceSequence := seq
    flags
    payload }

/-- `next_frame`, then one batch with the given payloads numbered from zero.
Source: `next_frame`, `emit_one` and the `EmitBatch` pushes -/
def emit (instrument : Option InstrumentId) (received : FrameStamp) (exchangeTsMs : Option Int)
    (seq : Option SequenceRange) (flags : EventFlags) (payloads : List MarketEvent) :
    BinanceSession × SessionAction :=
  let frameSeq := s.frameSeq + 1
  ({ s with frameSeq },
    .emitBatch ⟨s.cfg.session, frameSeq, payloads.zipIdx.map fun (payload, i) =>
      envelope R s instrument frameSeq i received exchangeTsMs seq flags payload⟩)

/-- One emitted batch as a push that concerns no book. -/
def emitUnmarked (instrument : Option InstrumentId) (received : FrameStamp)
    (exchangeTsMs : Option Int) (seq : Option SequenceRange) (flags : EventFlags)
    (payloads : List MarketEvent) : BinanceSession × List Push :=
  let (s, action) := emit R s instrument received exchangeTsMs seq flags payloads
  (s, [⟨action, none⟩])

/-- Replace the book of a symbol. -/
def setBook (symbol : String) (book : SymbolBook) : BinanceSession :=
  { s with books := s.books.insert symbol book }

/-- The three pushes that end a failed book: the invalidation, the resync request and the
reconnect. -/
def faultPushes (symbol : String) (instrument : InstrumentId) (reason : String) : List Push :=
  [⟨.emitSystem (.bookInvalidated instrument reason), some (symbol, .invalidated)⟩,
    ⟨.resyncInstrument instrument, none⟩, ⟨.reconnect .sequenceGap, none⟩]

/-- The book after a gap: invalid, buffering from scratch. -/
def gapped (book : SymbolBook) : SymbolBook :=
  { book with sync := book.sync.noteGap, buffering := true }.clearDepthBuffer

def requestDepthSnapshot (symbol : String) : BinanceSession × List Push :=
  match s.books[symbol]? with
  | none => (s, [])
  | some book =>
    let id := s.nextHttpId
    let book := { book with
      snapshotReqId := some id
      buffering := true
      awaitingBridge := R.bridges
      -- the depth buffer is kept across snapshot retries
      sync := book.sync.beginResync.requestSnapshot }
    ({ s.setBook symbol book with
        nextHttpId := s.nextHttpId + 1
        pendingHttp := if R.registersRequests then s.pendingHttp.insert id (symbol, .depthSnapshot)
          else s.pendingHttp },
      [⟨.requestHttp ⟨id, .get, R.depthUrl symbol, [], none⟩, none⟩])

/-- **Apply one event to a live book.** -/
def applyLiveDepth (symbol : String) (ev : DepthEvent) (enforcePrevU : Bool)
    (received : FrameStamp) : BinanceSession × List Push :=
  match s.books[symbol]? with
  | none => (s, [])
  | some book =>
    let instrument := book.sync.instrument
    if ev.finalU ≤ book.lastU then (s, []) -- stale
    else
      match R.gap enforcePrevU book.lastU ev with
      | some (expected, actual) =>
        (s.setBook symbol (gapped book),
          ⟨.emitSystem (.sequenceGap expected actual), some (symbol, .gap)⟩ ::
            faultPushes symbol instrument R.gapReason)
      | none =>
        match book.sync.book.applyChangesAtomic ev.changes with
        | (book', .error err) =>
          (s.setBook symbol { book with
              sync := { book.sync with book := book' }.invalidate "live delta apply failed"
              buffering := true },
            faultPushes symbol instrument ("live delta apply failed: " ++ err.display))
        | (book', .ok ()) =>
          let s := s.setBook symbol { book with
            sync := { book.sync with
              book := book'.setSequence ev.finalU
              expectedSequence := some (R.nextExpected ev.finalU) } }
          let delta : BookDelta := ⟨ev.changes, none⟩
          let (s, action) := emit R s (s.instrumentFor symbol) received
            (R.authoredTimeMs ev.times) (some ⟨ev.firstU, ev.finalU⟩) .delta
            [.bookDelta delta]
          (s, [⟨action, some (symbol, .delta ev delta)⟩])

/-- **A depth event arrives**: buffered while the book is not live, otherwise applied; on the
futures sessions the first event after a snapshot has to bridge it. -/
def onDepthUpdate (symbol : String) (firstU finalU prevU : UInt64)
    (bids asks : List (Price × Quantity)) (times : SourceTimes) (received : FrameStamp) :
    BinanceSession × List Push :=
  if !s.cfg.enableL2 then (s, [])
  else
    match s.books[symbol]? with
    | none => (s, [])
    | some book =>
      let ev : DepthEvent := ⟨firstU, finalU, prevU, bids, asks, times, depthBytesLen bids asks,
        received.monoNs⟩
      if book.buffering ∨ book.sync.state ≠ .live then
        match book.pushDepth ev with
        | .ok book => (s.setBook symbol book, [])
        | .error reason =>
          (s.setBook symbol { book with sync := book.sync.invalidate reason }.clearDepthBuffer,
            faultPushes symbol book.sync.instrument reason)
      else if R.bridges ∧ book.awaitingBridge then
        let snapshotU := book.lastU
        if finalU < snapshotU then (s, [])
        else if firstU > snapshotU then
          (s.setBook symbol { gapped book with awaitingBridge := true },
            ⟨.emitSystem (.sequenceGap snapshotU firstU), some (symbol, .gap)⟩ ::
              faultPushes symbol book.sync.instrument
                "first depth event does not bridge snapshot")
        else
          applyLiveDepth R (s.setBook symbol { book with awaitingBridge := false }) symbol ev false
            received
      else applyLiveDepth R s symbol ev true received

/-- The `for ev in pending` loop of `apply_snapshot`; the flag says whether it ran to its end. The
first event is not checked against the previous `u`. -/
def drainDepth (symbol : String) (received : FrameStamp) :
    Bool → BinanceSession → List DepthEvent → BinanceSession × List Push × Bool
  | _, s, [] => (s, [], true)
  | enforcePrevU, s, ev :: rest =>
    let (s, pushes) := applyLiveDepth R s symbol ev enforcePrevU received
    match s.books[symbol]? with
    | none => (s, pushes, false)
    | some book =>
      if book.sync.state ≠ .live then (s, pushes, false)
      else
        let (s, more, completed) := drainDepth symbol received true s rest
        (s, pushes ++ more, completed)

/-- The book that holds an accepted snapshot: live, its buffer handed to the drain. -/
def installed (held : SymbolBook) (lastUpdateId : UInt64) (book : OrderBook) : SymbolBook :=
  { held with
    sync := { held.sync.beginResync.requestSnapshot with
      book
      state := .live
      expectedSequence := some (R.nextExpected lastUpdateId) }
    buffering := false
    awaitingBridge := R.bridges && held.depthBuffer.isEmpty
    snapshotReqId := none }.clearDepthBuffer

/-- `apply_snapshot` once the snapshot bridges `held.depthBuffer`: replace the book, announce the
snapshot, drain, and announce readiness if the drain ran to its end. -/
def installSnapshot (symbol : String) (held : SymbolBook) (lastUpdateId : UInt64)
    (times : SourceTimes) (bids asks : List (Price × Quantity)) (received : FrameStamp) :
    BinanceSession × List Push :=
  let instrument := held.sync.instrument
  let sync := held.sync.beginResync.requestSnapshot
  match sync.book.applySnapshot bids asks (some lastUpdateId) with
  | (book, .error err) =>
    (s.setBook symbol { held with sync := { sync with book }.invalidate err.display },
      [⟨.emitSystem (.bookInvalidated instrument err.display), some (symbol, .invalidated)⟩,
        ⟨.resyncInstrument instrument, none⟩])
  | (book, .ok ()) =>
    let s := s.setBook symbol (installed R held lastUpdateId book)
    let snapshot : BookSnapshot := ⟨toBookLevels bids, toBookLevels asks, some 1000, none⟩
    let (s, action) := emit R s (some instrument) received (R.authoredTimeMs times)
      (some ⟨lastUpdateId, lastUpdateId⟩) .snapshot [.bookSnapshot snapshot]
    let resynced : List Push :=
      if R.announcesResync then [⟨.emitSystem (.bookResynchronized instrument), none⟩] else []
    let announced := ⟨action, some (symbol, .snapshot lastUpdateId snapshot)⟩ :: resynced
    match drainDepth R symbol received false s held.depthBuffer with
    | (s, pushes, true) =>
      ({ s with live := true }, announced ++ pushes ++ [⟨.markLive, none⟩])
    | (s, pushes, false) => (s, announced ++ pushes)

/-- **Apply a REST snapshot, then drain the buffered events.** -/
def applySnapshot (symbol : String) (lastUpdateId : UInt64) (times : SourceTimes)
    (bids asks : List (Price × Quantity)) (received : FrameStamp) : BinanceSession × List Push :=
  match s.books[symbol]? with
  | none => (s, [])
  | some book =>
    -- snapshot older than the first buffered event: fetch again
    if book.depthBuffer.head?.any (fun first => lastUpdateId < first.firstU) then
      requestDepthSnapshot R s symbol
    else
      let kept := book.depthBuffer.filter fun e => R.keeps lastUpdateId e.finalU
      let held := { book with depthBuffer := kept }.recomputeDepthBufferLimits
      -- the first remaining event has to bridge the snapshot
      if kept.head?.any (fun first => !(first.firstU ≤ lastUpdateId ∧ first.finalU ≥ lastUpdateId))
      then
        (s.setBook symbol { held with
            sync := held.sync.invalidate "snapshot/buffer bridge failed"
            buffering := true }.clearDepthBuffer,
          faultPushes symbol held.sync.instrument "snapshot does not bridge buffered depth")
      else installSnapshot R s symbol held lastUpdateId times bids asks received

/-- `book.clear_depth_buffer(); book.buffering = true;` on a symbol's book. -/
def resetBuffer (symbol : String) : BinanceSession :=
  match s.books[symbol]? with
  | none => s
  | some book => s.setBook symbol { book.clearDepthBuffer with buffering := true }

/-- The snapshot requests of a connect, one per configured symbol in order. -/
def requestAll (s : BinanceSession) : List String → BinanceSession × List Push
  | [] => (s, [])
  | symbol :: rest =>
    let (s, pushes) := requestDepthSnapshot R (s.resetBuffer symbol) symbol
    let (s, more) := requestAll s rest
    (s, pushes ++ more)

/-- The loop over all books of a disconnect. -/
def invalidateAll : BinanceSession :=
  { s with books := s.books.map fun _ book =>
      { book with sync := book.sync.invalidate "disconnected", buffering := true }.clearDepthBuffer }

/-! ## Messages for the examples -/

/-- The body of a snapshot with the last update 10, one bid and one ask. -/
def snapshotText : String :=
  "\x7b\"lastUpdateId\":10,\"bids\":[[\"100\",\"1\"]],\"asks\":[[\"101\",\"1\"]]\x7d"

/-- A depth event with the given update ids and bids. -/
def depthText (symbol ids bids : String) : String :=
  "\x7b\"e\":\"depthUpdate\",\"E\":0,\"s\":\"" ++ symbol ++ "\"," ++ ids ++ ",\"b\":[" ++ bids ++
    "],\"a\":[]\x7d"

end BinanceSession

end Marketfeed
