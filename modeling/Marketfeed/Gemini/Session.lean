import Marketfeed.Adapter.Session
import Marketfeed.Book.Sync

/-!
# The Gemini session

Model of `crates/adapters/gemini/src/session.rs`: the trade, book-ticker and depth streams with the
polled candles and 24-hour statistics. Snapshots and deltas arrive as the same kind of frame: a depth
frame counts as a snapshot while the book has none, and then has to carry a single update id.

The JSON decoders, the rendered subscription and the debug text of an error code are the fields of
`GeminiCodec`. Where the source looks an instrument up in the unordered table of symbols, the model
takes the symbol that sorts first.
-/

namespace Marketfeed

/-- Source: `crates/adapter-api/src/subscription.rs` `Channel` -/
inductive Channel
  | trades
  | quote
  | l2Book (depth : Option Nat) (cadenceNs : Option Nat)
  | l3Book
  | candles (interval : CandleInterval)
  | markPrice
  | indexPrice
  | funding
  | openInterest
  | liquidations
  | statistics24h
  | instrumentStatus
deriving DecidableEq

/-- Source: `crates/adapter-api/src/subscription.rs` `ConcreteSubscription` -/
structure ConcreteSubscription where
  instrument : InstrumentId
  channel : Channel
deriving DecidableEq

namespace GeminiSession

/-- Source: `messages.rs` `Decoded` -/
inductive Decoded
  | depthUpdate (symbol : String) (firstUpdateId lastUpdateId : UInt64)
      (bids asks : List (Price × Quantity)) (exchangeTsNs : Int)
  | trade (symbol tradeId : String) (price : Price) (quantity : Quantity)
      (aggressor : AggressorSide) (exchangeTsNs : Int)
  | quote (symbol : String) (updateId : UInt64) (bidPrice : Price) (bidQty : Quantity)
      (askPrice : Price) (askQty : Quantity) (exchangeTsNs : Int)
  | candle (candle : Candle)
  | statistics24h (stats : Statistics24h)
  | subscribeAck
  | error (code : Option Int) (detail : String)
  | ignored
  | unknown
deriving DecidableEq

/-- The JSON and text-rendering parts of the session. -/
structure GeminiCodec where
  /-- Source: `messages.rs` `decode_text` -/
  decodeText : Bytes → Except String Decoded
  /-- Source: `messages.rs` `decode_ticker_rest` -/
  decodeTickerRest : Bytes → Except String Decoded
  /-- Source: `messages.rs` `decode_pubticker_rest` -/
  decodePubtickerRest : Bytes → String → Except String Decoded
  /-- Source: `messages.rs` `decode_candles_rest` -/
  decodeCandlesRest : Bytes → CandleInterval → Except String Decoded
  /-- The `SUBSCRIBE` message for the given stream names. -/
  subscribeBody : List String → Bytes
  /-- The `{:?}` text of an error code. -/
  debugCode : Option Int → String

inductive PendingStatsKind
  | tickerV2
  | pubTicker
deriving DecidableEq

structure GeminiSessionConfig where
  symbols : List String
  instrumentIds : Std.ExtTreeMap String InstrumentId compare
  connection : ConnectionId
  session : SessionId
  enableL2 : Bool
  candleIntervals : List CandleInterval
  pollStats : Bool
  priceScale : Nat
  qtyScale : Nat
deriving DecidableEq

structure SymbolBook where
  sync : BookSynchronizer
  hasSnapshot : Bool
  lastUpdateId : Option UInt64
deriving DecidableEq

/-- The statistics collected so far are a `StatsAcc`, which has the fields of the event.
Source: `GeminiSession` -/
structure State where
  cfg : GeminiSessionConfig
  subscriptions : List ConcreteSubscription
  frameSeq : UInt64
  books : Std.ExtTreeMap String SymbolBook compare
  live : Bool
  wsDataSeen : Bool
  readyCandles : List (String × CandleInterval)
  readyStats : List (String × PendingStatsKind)
  nextHttpId : UInt64
  pendingCandles : Std.ExtTreeMap UInt64 (String × CandleInterval) compare
  pendingStats : Std.ExtTreeMap UInt64 (String × PendingStatsKind) compare
  statsAcc : Std.ExtTreeMap String Statistics24h compare
deriving DecidableEq

/-- Source: `GEMINI_VENUE_ID` -/
def venueId : VenueId := ⟨15⟩

/-- Source: `CANDLE_TIMER_ID`, `STATS_TIMER_ID` -/
def candleTimerId : UInt64 := 1

@[inherit_doc candleTimerId]
def statsTimerId : UInt64 := 2

/-- Source: `CANDLE_POLL_INTERVAL_MS`, `STATS_POLL_INTERVAL_MS` -/
def pollIntervalMs : Int := 60000

/-- Source: `messages.rs` `candle_time_frame` -/
def candleTimeFrame : CandleInterval → String
  | .m1 => "1m"
  | .m5 => "5m"
  | .m15 => "15m"
  | .h1 => "1h"
  | .d1 => "1d"

/-- The `Debug` text of the channels that Gemini does not serve. -/
def debugUnsupported : Channel → String
  | .l3Book => "L3Book"
  | .markPrice => "MarkPrice"
  | .indexPrice => "IndexPrice"
  | .funding => "Funding"
  | .openInterest => "OpenInterest"
  | .liquidations => "Liquidations"
  | .instrumentStatus => "InstrumentStatus"
  | _ => ""

/-- Source: the `matches!(item.channel, Channel::L2Book { .. })` tests -/
def isL2Book : Channel → Bool
  | .l2Book _ _ => true
  | _ => false

def new (subscriptions : List ConcreteSubscription) (cfg : GeminiSessionConfig) : State where
  cfg
  subscriptions
  frameSeq := 0
  books := if cfg.enableL2 then
      cfg.instrumentIds.filterMap fun _ id =>
        if subscriptions.isEmpty ∨ subscriptions.any fun item =>
            item.instrument = id ∧ isL2Book item.channel then
          some ⟨(BookSynchronizer.new id (OrderBook.new cfg.priceScale cfg.qtyScale none)
            {}).requestSnapshot, false, none⟩
        else none
    else ∅
  live := false
  wsDataSeen := false
  readyCandles := []
  readyStats := []
  nextHttpId := 1
  pendingCandles := ∅
  pendingStats := ∅
  statsAcc := ∅

/-! ## Targets and polling -/

variable (C : GeminiCodec)

variable (s : State)

def instrumentFor (symbol : String) : Option InstrumentId := s.cfg.instrumentIds[symbol]?

def symbolForInstrument (instrument : InstrumentId) : Option String :=
  (s.cfg.instrumentIds.toList.find? fun e => e.2 = instrument).map Prod.fst

/-- Keep the first of each target. -/
def distinct {α : Type} [DecidableEq α] (targets : List α) : List α :=
  targets.foldl (fun kept target => if target ∈ kept then kept else kept ++ [target]) []

def candleTargets : List (String × CandleInterval) :=
  if s.subscriptions.isEmpty then
    s.cfg.symbols.flatMap fun symbol => s.cfg.candleIntervals.map fun interval => (symbol, interval)
  else
    distinct (s.subscriptions.filterMap fun item => match item.channel with
      | .candles interval => (symbolForInstrument s item.instrument).map fun symbol => (symbol, interval)
      | _ => none)

def statsTargets : List String :=
  if s.subscriptions.isEmpty then (if s.cfg.pollStats then s.cfg.symbols else [])
  else
    distinct (s.subscriptions.filterMap fun item => match item.channel with
      | .statistics24h => symbolForInstrument s item.instrument
      | _ => none)

/-- A `GET` without headers under the next request id. -/
def getRequest (url : String) : SessionAction :=
  .requestHttp ⟨s.nextHttpId, .get, url, [], none⟩

def requestCandle (target : String × CandleInterval) : State × List SessionAction :=
  ({ s with
      nextHttpId := s.nextHttpId + 1
      pendingCandles := s.pendingCandles.insert s.nextHttpId target },
    [getRequest s ("https://api.gemini.com/v2/candles/" ++ target.1.toLower ++ "/" ++
      candleTimeFrame target.2)])

def pollCandlesAll : State × List SessionAction :=
  runLog requestCandle s (candleTargets s)

def scheduleCandleTimer (now : TimestampNs) : List SessionAction :=
  if (candleTargets s).isEmpty then []
  else [.scheduleTimer ⟨candleTimerId, ⟨satI64 (now.ns + satI64 (pollIntervalMs * 1000000))⟩⟩]

def requestStatsKind (target : String × PendingStatsKind) : State × List SessionAction :=
  ({ s with
      nextHttpId := s.nextHttpId + 1
      pendingStats := s.pendingStats.insert s.nextHttpId target },
    [getRequest s (match target.2 with
      | .tickerV2 => "https://api.gemini.com/v2/ticker/" ++ target.1.toLower
      | .pubTicker => "https://api.gemini.com/v1/pubticker/" ++ target.1.toLower)])

def pollStatsAll : State × List SessionAction :=
  if !s.cfg.pollStats then (s, [])
  else runLog requestStatsKind s
    ((statsTargets s).flatMap fun symbol => [(symbol, .tickerV2), (symbol, .pubTicker)])

def scheduleStatsTimer (now : TimestampNs) : List SessionAction :=
  if (statsTargets s).isEmpty then []
  else [.scheduleTimer ⟨statsTimerId, ⟨satI64 (now.ns + satI64 (pollIntervalMs * 1000000))⟩⟩]

def subscriptionStreams : Except AdapterError (List String) :=
  if s.subscriptions.isEmpty then
    .ok (s.cfg.symbols.flatMap fun symbol =>
      [symbol.toLower ++ "@trade", symbol.toLower ++ "@bookTicker"] ++
        (if s.cfg.enableL2 then [symbol.toLower ++ "@depth@100ms"] else []))
  else do
    let streams ← s.subscriptions.mapM fun item =>
      match symbolForInstrument s item.instrument with
      | none => .error (.subscription ("Gemini subscription instrument " ++
          toString item.instrument.val.toNat ++ " is not configured"))
      | some symbol => match item.channel with
          | .trades => .ok (some (symbol.toLower ++ "@trade"))
          | .quote => .ok (some (symbol.toLower ++ "@bookTicker"))
          | .l2Book _ _ => .ok (some (symbol.toLower ++ "@depth@100ms"))
          | .candles _ | .statistics24h => .ok none
          | unsupported => .error (.unsupportedCapability
              ("Gemini does not support " ++ debugUnsupported unsupported))
    .ok (distinct (streams.filterMap id))

/-! ## Events -/

/-- `next_frame` and a batch of one event.
Source: `envelope` and the `EmitBatch` pushes -/
def emit (received : FrameStamp) (instrument : Option InstrumentId)
    (exchangeTs : Option TimestampNs) (seq : Option SequenceRange) (flags : EventFlags)
    (payload : MarketEvent) : State × SessionAction :=
  let frameSeq := s.frameSeq + 1
  ({ s with frameSeq },
    .emitBatch ⟨s.cfg.session, frameSeq, [{
      schemaVersion := 1
      venue := venueId
      instrument
      connection := s.cfg.connection
      session := s.cfg.session
      frameSeq
      eventIndex := 0
      exchangeTs
      receiveTs := received.receiveTs
      sourceSequence := seq
      flags
      payload }]⟩)

/-- Every book is live.
Source: the `self.books.values().all(…)` tests -/
def allLive : Bool := s.books.toList.all fun e => e.2.sync.state = .live

/-- Source: the `websocket_required` test of `maybe_mark_live` -/
def websocketRequired : Bool :=
  s.subscriptions.any fun item => match item.channel with
    | .trades | .quote | .l2Book _ _ => true
    | _ => false

/-- Source: the tests of `maybe_mark_live` -/
def readyToMarkLive : Bool :=
  !s.live && allLive s && (s.subscriptions.isEmpty ||
    ((!websocketRequired s || s.wsDataSeen) &&
      (candleTargets s).all (fun target => decide (target ∈ s.readyCandles)) &&
      (statsTargets s).all fun symbol =>
        decide ((symbol, PendingStatsKind.tickerV2) ∈ s.readyStats ∧
          (symbol, PendingStatsKind.pubTicker) ∈ s.readyStats)))

def maybeMarkLive : State × List SessionAction :=
  if readyToMarkLive s then ({ s with live := true }, [.markLive]) else (s, [])

/-- Actions pushed before `maybe_mark_live`. -/
def thenMarkLive (actions : List SessionAction) : State × List SessionAction :=
  ((maybeMarkLive s).1, actions ++ (maybeMarkLive s).2)

def mergeStats (symbol : String) (stats : Statistics24h) (received : FrameStamp) :
    State × SessionAction :=
  let acc := s.statsAcc.getD symbol ⟨none, none, none, none, none, none⟩
  let acc : Statistics24h :=
    { open' := stats.open'.or acc.open'
      high := stats.high.or acc.high
      low := stats.low.or acc.low
      close := stats.close.or acc.close
      volume := stats.volume.or acc.volume
      quoteVolume := stats.quoteVolume.or acc.quoteVolume }
  emit { s with statsAcc := s.statsAcc.insert symbol acc } received (instrumentFor s symbol) none none
    .empty (.statistics24h acc)

/-! ## Books -/

/-- Replace the book of a symbol. -/
def setBook (symbol : String) (book : SymbolBook) : State :=
  { s with books := s.books.insert symbol book }

def invalidateBook (symbol reason : String) : State × List SessionAction :=
  match s.books[symbol]? with
  | none => (s, [])
  | some book =>
    (setBook s symbol ⟨book.sync.invalidate reason, false, none⟩,
      [.emitSystem (.bookInvalidated book.sync.instrument reason)])

/-- The session knows that data is flowing once every book is live. -/
def noteAllLive : State := if allLive s then { s with wsDataSeen := true } else s

/-- **A depth frame is adopted as a snapshot**: it has to carry one update id. -/
def applyDepthSnapshot (symbol : String) (firstUpdateId lastUpdateId : UInt64)
    (bids asks : List (Price × Quantity)) (ts : Int) (received : FrameStamp) :
    State × List SessionAction :=
  if firstUpdateId ≠ lastUpdateId then
    let (s, actions) := invalidateBook s symbol "first Gemini depth frame is not a snapshot"
    (s, actions ++ [.reconnect .protocol])
  else match s.books[symbol]? with
    | none => (s, [])
    | some book =>
      let instrument := book.sync.instrument
      let sync := book.sync.beginResync.requestSnapshot
      match sync.book.applySnapshot bids asks (some lastUpdateId) with
      | (rejected, .error err) =>
        (setBook s symbol ⟨{ sync with book := rejected }.invalidate err.display, false, none⟩,
          [.emitSystem (.bookInvalidated instrument err.display), .reconnect .protocol])
      | (loaded, .ok ()) =>
        let s := setBook s symbol ⟨{ sync with book := loaded, state := .live }, true,
          some lastUpdateId⟩
        match loaded.snapshotLevels with
        | some (bookBids, bookAsks) =>
          let (s, action) := emit s received (some instrument) (some ⟨ts⟩)
            (some ⟨firstUpdateId, lastUpdateId⟩) .snapshot
            (.bookSnapshot ⟨bookBids, bookAsks, none, none⟩)
          thenMarkLive (noteAllLive s) [action, .emitSystem (.bookResynchronized instrument)]
        | none => thenMarkLive (noteAllLive s) []

/-- `u64::saturating_add(1)`. -/
def satSucc (n : UInt64) : UInt64 := if n = 0xFFFFFFFFFFFFFFFF then n else n + 1

/-- **A depth frame follows the book** by its update ids; a frame wholly behind the book is dropped. -/
def applyDepthDelta (symbol : String) (firstUpdateId lastUpdateId : UInt64)
    (bids asks : List (Price × Quantity)) (ts : Int) (received : FrameStamp) :
    State × List SessionAction :=
  match s.books[symbol]? with
  | none => (s, [])
  | some book =>
    if book.sync.state ≠ .live then (s, [])
    else match book.lastUpdateId with
      | none => (s, [])
      | some previousUpdateId =>
        if lastUpdateId ≤ previousUpdateId then (s, [])
        else if firstUpdateId > satSucc previousUpdateId then
          (setBook s symbol ⟨book.sync.noteGap, false, none⟩,
            [.emitSystem (.sequenceGap (satSucc previousUpdateId) firstUpdateId),
              .emitSystem (.bookInvalidated book.sync.instrument "Gemini depth update gap"),
              .reconnect .sequenceGap])
        else
          let changes := levelChanges bids asks
          match book.sync.book.applyChangesAtomic changes with
          | (rejected, .error err) =>
            (setBook s symbol ⟨{ book.sync with book := rejected }.invalidate
                "live change apply failed", false, none⟩,
              [.emitSystem (.bookInvalidated book.sync.instrument
                  ("live change apply failed: " ++ err.display)),
                .reconnect .protocol])
          | (next, .ok ()) =>
            let s := setBook s symbol { book with
              sync := { book.sync with book := next }
              lastUpdateId := some lastUpdateId }
            if changes.isEmpty then (s, [])
            else
              let (s, action) := emit s received (instrumentFor s symbol) (some ⟨ts⟩)
                (some ⟨firstUpdateId, lastUpdateId⟩) .empty (.bookDelta ⟨changes, none⟩)
              (s, [action])

/-- Source: the `is_first` test of `handle_decoded` -/
def isFirst (symbol : String) : Bool := s.books[symbol]?.any fun book => !book.hasSnapshot

/-! ## Inputs -/

def handleDecoded (decoded : Decoded) (received : FrameStamp) : State × List SessionAction :=
  match decoded with
  | .depthUpdate symbol firstUpdateId lastUpdateId bids asks ts =>
    if isFirst s symbol then
      applyDepthSnapshot s symbol firstUpdateId lastUpdateId bids asks ts received
    else applyDepthDelta s symbol firstUpdateId lastUpdateId bids asks ts received
  | .trade symbol tradeId price quantity aggressor ts =>
    let (s, action) := emit s received (instrumentFor s symbol) (some ⟨ts⟩) none .empty
      (.trade ⟨price, quantity, aggressor, some ⟨tradeId⟩⟩)
    thenMarkLive { s with wsDataSeen := true } [action]
  | .quote symbol updateId bidPrice bidQty askPrice askQty ts =>
    let (s, action) := emit s received (instrumentFor s symbol) (some ⟨ts⟩)
      (some ⟨updateId, updateId⟩) .empty (.quote ⟨bidPrice, some bidQty, askPrice, some askQty⟩)
    thenMarkLive { s with wsDataSeen := true } [action]
  | .subscribeAck => (s, [.emitSystem (.subscriptionStateChanged "subscribed")])
  | .error code detail =>
    (s, [.emitSystem (.parseError
        ("Gemini WebSocket error code=" ++ C.debugCode code ++ ": " ++ detail)),
      .reconnect .protocol])
  | .candle _ | .statistics24h _ | .ignored => (s, [])
  | .unknown => (s, [.emitSystem (.unknownMessage "gemini")])

/-- A polled answer that cannot be used.
Source: the rejection branches of the `HttpResponse` arm -/
def degraded (detail : String) : State × List SessionAction :=
  ({ s with live := false }, [.emitSystem (.parseError detail), .markDegraded])

/-- Source: the `pending_stats` branch of the `HttpResponse` arm -/
def onStatsResponse (target : String × PendingStatsKind) (response : HttpResponse)
    (received : FrameStamp) : State × List SessionAction :=
  let unready := { s with readyStats := s.readyStats.filter (· ≠ target) }
  if response.status ≠ 200 then
    degraded unready ("gemini stats HTTP " ++ toString response.status.toNat)
  else
    let decoded := match target.2 with
      | .tickerV2 => C.decodeTickerRest response.body
      | .pubTicker => C.decodePubtickerRest response.body target.1
    match decoded with
    | .ok (.statistics24h stats) =>
      let ready := { s with readyStats := s.readyStats.insert target }
      let (s, action) := mergeStats ready target.1 stats received
      thenMarkLive s [action]
    | _ => degraded unready "bad gemini stats body"

/-- Source: the `pending_candles` branch of the `HttpResponse` arm -/
def onCandleResponse (target : String × CandleInterval) (response : HttpResponse)
    (received : FrameStamp) : State × List SessionAction :=
  let unready := { s with readyCandles := s.readyCandles.filter (· ≠ target) }
  if response.status ≠ 200 then
    degraded unready ("gemini candles HTTP " ++ toString response.status.toNat)
  else match C.decodeCandlesRest response.body target.2 with
    | .ok (.candle candle) =>
      let (s, action) := emit s received (instrumentFor s target.1) (some candle.startTs) none .empty
        (.candle candle)
      thenMarkLive { s with readyCandles := s.readyCandles.insert target } [action]
    | _ => degraded unready "bad gemini candles body"

/-- What `Connected` and `Disconnected` forget. -/
def forget : State :=
  { s with
    live := false
    wsDataSeen := false
    readyCandles := []
    readyStats := []
    pendingCandles := ∅
    pendingStats := ∅
    statsAcc := ∅ }

/-- Source: the `Connected` arm of `on_input` -/
def onConnected (now : TimestampNs) : Outcome State :=
  let s := { forget s with
    books := s.books.map fun _ book => ⟨book.sync.beginResync.requestSnapshot, false, none⟩ }
  match subscriptionStreams s with
  | .error e => ⟨s, [], .error e⟩
  | .ok streams =>
    let subscribe := if streams.isEmpty then [] else [.sendText (C.subscribeBody streams)]
    let (s, candles) := pollCandlesAll s
    let candleTimer := scheduleCandleTimer s now
    let (s, stats) := pollStatsAll s
    ⟨s, subscribe ++ candles ++ candleTimer ++ stats ++ scheduleStatsTimer s now ++
      [.emitSystem (.connectionStateChanged "connected")], .ok ()⟩

/-- Source: the `Timer` arm of `on_input` -/
def onTimer (timerId : UInt64) (now : TimestampNs) : State × List SessionAction :=
  if timerId = candleTimerId then
    ((pollCandlesAll s).1, (pollCandlesAll s).2 ++ scheduleCandleTimer (pollCandlesAll s).1 now)
  else if timerId = statsTimerId then
    ((pollStatsAll s).1, (pollStatsAll s).2 ++ scheduleStatsTimer (pollStatsAll s).1 now)
  else (s, [])

/-- Source: the `HttpResponse` arm of `on_input` -/
def onHttpResponse (requestId : UInt64) (response : HttpResponse) (received : FrameStamp) :
    State × List SessionAction :=
  match s.pendingStats[requestId]? with
  | some target =>
    onStatsResponse C { s with pendingStats := s.pendingStats.erase requestId } target response received
  | none => match s.pendingCandles[requestId]? with
      | some target =>
        onCandleResponse C { s with pendingCandles := s.pendingCandles.erase requestId } target
          response received
      | none => (s, [])

/-- The arms of `on_input` other than `Connected`, none of which fails. -/
def onOther : SessionInput → State × List SessionAction
  | .connected _ => (s, [])
  | .disconnected _ _ =>
    ({ forget s with books := s.books.map fun _ book => ⟨book.sync.invalidate "disconnected", false,
        none⟩ },
      .cancelTimer statsTimerId ::
        ((if s.cfg.candleIntervals.isEmpty then [] else [.cancelTimer candleTimerId]) ++
          [.emitSystem (.connectionStateChanged "disconnected")]))
  | .textFrame bytes received =>
    match C.decodeText bytes with
    | .ok decoded => handleDecoded C s decoded received
    | .error e => (s, [.emitSystem (.parseError e)])
  | .binaryFrame _ _ => (s, [.emitSystem (.unknownMessage "binary")])
  | .httpResponse requestId response received => onHttpResponse C s requestId response received
  | .pong _ _ => (s, [])
  | .timer timerId now => onTimer s timerId now
  | .control .stop => (s, [.stopSession .control])
  | .control (.resync id) =>
    if s.cfg.instrumentIds.toList.any fun e => e.2 = id then (s, [.reconnect .control]) else (s, [])
  | .control _ => (s, [])

/-- **The input handler.** -/
def onInput : SessionInput → Outcome State
  | .connected now => onConnected C s now
  | input => ⟨(onOther C s input).1, (onOther C s input).2, .ok ()⟩

/-- The session as the engine drives it. -/
def machine : SessionMachine State where
  onInput := onInput C

end GeminiSession

end Marketfeed
