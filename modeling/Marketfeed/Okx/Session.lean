import Marketfeed.Adapter.Session
import Marketfeed.Book.Sync

/-!
# The OKX session

Model of `crates/adapters/okx/src/session.rs`, shared by the spot, swap and futures venues. The book
of an instrument comes from a websocket snapshot and follows the updates by their previous sequence
id; there is no buffering. The JSON decoder, the rendered subscription and the debug text of an
error are the fields of `OkxCodec`.
-/

namespace Marketfeed

namespace OkxSession

/-- Source: `messages.rs` `LiquidationDecoded` -/
structure LiquidationDecoded where
  instId : String
  price : Price
  quantity : Quantity
  side : AggressorSide
  exchangeTsMs : Int
deriving DecidableEq

/-- Source: `messages.rs` `DecodedEvent` -/
inductive DecodedEvent
  | trade (instId tradeId : String) (price : Price) (quantity : Quantity)
      (aggressor : AggressorSide) (exchangeTsMs : Int) (seqId : Option UInt64)
  | quote (instId : String) (bidPrice : Price) (bidQty : Quantity) (askPrice : Price)
      (askQty : Quantity) (exchangeTsMs : Int) (open' high low close : Price)
      (volume quoteVolume : Quantity)
  | candle (instId : String) (candle : Candle) (exchangeTsMs : Int) (isClosed : Bool)
  | bookSnapshot (instId : String) (bids asks : List (Price × Quantity)) (seqId : UInt64)
      (exchangeTsMs checksum : Int)
  | bookUpdate (instId : String) (bids asks : List (Price × Quantity)) (prevSeqId seqId : UInt64)
      (exchangeTsMs checksum : Int)
  | markPrice (instId : String) (markPx : Price) (exchangeTsMs : Int)
  | indexPrice (instId : String) (idxPx : Price) (exchangeTsMs : Int)
  | funding (instId : String) (rate : Rate) (nextFundingTsMs : Option Int) (exchangeTsMs : Int)
  | openInterest (instId : String) (quantity : Quantity) (exchangeTsMs : Int)
  | liquidations (rows : List LiquidationDecoded)
  | subscribeAck (channel instId : Option String)
  | error (code msg : Option String)
  | ping
  | pong
  | unknown
deriving DecidableEq

/-- One subscription argument: a channel of an instrument, or of an instrument type. -/
inductive SubscribeArg
  | inst (channel instId : String)
  | instType (channel instType : String)
deriving DecidableEq

/-- The JSON and text-rendering parts of the session. -/
structure OkxCodec where
  /-- Source: `messages.rs` `decode_text` -/
  decodeText : Bytes → Except String DecodedEvent
  /-- The `subscribe` message for the given arguments. -/
  subscribeBody : List SubscribeArg → Bytes
  /-- The `{:?}` text of an optional string. -/
  debugText : Option String → String

structure OkxSessionConfig where
  symbols : List String
  instrumentIds : Std.ExtTreeMap String InstrumentId compare
  connection : ConnectionId
  session : SessionId
  enableL2 : Bool
  priceScale : Nat
  qtyScale : Nat
  bookScales : Std.ExtTreeMap String (Nat × Nat) compare
  venue : VenueId
  subscribeMarkFunding : Bool
  candleIntervals : List CandleInterval
deriving DecidableEq

/-- Source: `OkxSession` -/
structure State where
  cfg : OkxSessionConfig
  frameSeq : UInt64
  books : Std.ExtTreeMap String BookSynchronizer compare
  live : Bool
  businessEndpoint : Bool
  subscribed : Bool
deriving DecidableEq

def booksDepth : Nat := 400

def pingTimerId : UInt64 := 1

def pingIntervalMs : Int := 20000

def businessWsUrl : String := "wss://ws.okx.com:8443/ws/v5/business"

/-- Source: `OKX_SWAP_VENUE_ID`, `OKX_FUTURES_VENUE_ID` -/
def swapVenueId : VenueId := ⟨9⟩

@[inherit_doc swapVenueId]
def futuresVenueId : VenueId := ⟨10⟩

def underlyingIndexId (symbol : String) : String :=
  match symbol.splitOn "-" with
  | base :: quote :: _ => base ++ "-" ++ quote
  | _ => symbol

def derivativeInstType (venue : VenueId) : Option String :=
  if venue = swapVenueId then some "SWAP"
  else if venue = futuresVenueId then some "FUTURES"
  else none

/-- Source: `messages.rs` `candle_channel` -/
def candleChannel : CandleInterval → String
  | .m1 => "candle1m"
  | .m5 => "candle5m"
  | .m15 => "candle15m"
  | .h1 => "candle1H"
  | .d1 => "candle1D"

/-- A `u64` in decimal with an optional plus sign.
Source: `messages.rs` `trade_id_u64` -/
def tradeIdU64 (id : String) : Option UInt64 :=
  let digits := match id.toList with
    | '+' :: rest => rest
    | chars => chars
  if digits.isEmpty ∨ ¬ digits.all (·.isDigit) then none
  else
    let value := digits.foldl (fun n c => n * 10 + (c.toNat - '0'.toNat)) 0
    if value < 2 ^ 64 then some (UInt64.ofNat value) else none

def new (endpointName : String) (cfg : OkxSessionConfig) : State where
  cfg
  frameSeq := 0
  books := if cfg.enableL2 then
      cfg.instrumentIds.map fun symbol id =>
        let scales := (cfg.bookScales[symbol]?).getD (cfg.priceScale, cfg.qtyScale)
        (BookSynchronizer.new id (OrderBook.new scales.1 scales.2 (some booksDepth))
          {}).requestSnapshot
    else ∅
  live := false
  businessEndpoint := endpointName = businessWsUrl
  subscribed := false

variable (s : State)

def instrumentFor (instId : String) : Option InstrumentId := s.cfg.instrumentIds[instId]?

/-- Replace the book of an instrument. -/
def setBook (instId : String) (sync : BookSynchronizer) : State :=
  { s with books := s.books.insert instId sync }

/-- `next_frame` and one batch with the given rows, numbered from zero: instrument, venue time and
payload of each.
Source: `envelope` and the `EmitBatch` pushes -/
def emit (received : FrameStamp) (seq : Option SequenceRange) (flags : EventFlags)
    (rows : List (Option InstrumentId × Int × MarketEvent)) : State × SessionAction :=
  let frameSeq := s.frameSeq + 1
  ({ s with frameSeq },
    .emitBatch ⟨s.cfg.session, frameSeq, rows.zipIdx.map fun ((instrument, ts, payload), i) =>
      { schemaVersion := 1
        venue := s.cfg.venue
        instrument
        connection := s.cfg.connection
        session := s.cfg.session
        frameSeq
        eventIndex := i % 65536
        exchangeTs := some (msToTimestamp ts)
        receiveTs := received.receiveTs
        sourceSequence := seq
        flags
        payload }⟩)

/-- One emitted batch as the only action. -/
def emitOnly (received : FrameStamp) (seq : Option SequenceRange)
    (rows : List (Option InstrumentId × Int × MarketEvent)) : State × List SessionAction :=
  let (s, action) := emit s received seq .empty rows
  (s, [action])

def schedulePing (now : TimestampNs) : SessionAction :=
  .scheduleTimer ⟨pingTimerId, ⟨satI64 (now.ns + satI64 (pingIntervalMs * 1000000))⟩⟩

/-- Source: `subscribe_message` -/
def subscribeArgs : List SubscribeArg :=
  let perSymbol (symbol : String) : List SubscribeArg :=
    if s.businessEndpoint then
      s.cfg.candleIntervals.map fun interval => .inst (candleChannel interval) symbol
    else
      [.inst "trades" symbol, .inst "tickers" symbol] ++
        (if s.cfg.enableL2 then [.inst "books" symbol] else []) ++
        (if s.cfg.subscribeMarkFunding then
          [.inst "mark-price" symbol, .inst "index-tickers" (underlyingIndexId symbol),
            .inst "funding-rate" symbol, .inst "open-interest" symbol]
        else [])
  s.cfg.symbols.flatMap perSymbol ++
    (if !s.businessEndpoint ∧ s.cfg.subscribeMarkFunding then
      ((derivativeInstType s.cfg.venue).map fun instType =>
        SubscribeArg.instType "liquidation-orders" instType).toList
    else [])

/-! ## Books -/

/-- The pushes that give a book up, with the reconnect. -/
def faultActions (instrument : InstrumentId) (reason : String) (reconnect : ReconnectReason) :
    List SessionAction :=
  [.emitSystem (.bookInvalidated instrument reason), .resyncInstrument instrument,
    .reconnect reconnect]

def rejectLegacyChecksum (instId : String) (checksum : Int) : State × List SessionAction :=
  let mismatch := SessionAction.emitSystem (.checksumMismatch
    ("okx books checksum=" ++ toString checksum ++ " (deprecated field must be 0)"))
  match s.books[instId]? with
  | some sync =>
    (setBook s instId (sync.invalidate "legacy checksum non-zero"),
      mismatch :: faultActions sync.instrument "legacy checksum non-zero" .checksumMismatch)
  | none => (s, [mismatch, .reconnect .checksumMismatch])

/-- **A snapshot replaces the book.** The session announces readiness with its first live book. -/
def applyBookSnapshot (instId : String) (bids asks : List (Price × Quantity)) (seqId : UInt64)
    (ts : Int) (received : FrameStamp) : State × List SessionAction :=
  if !s.cfg.enableL2 then (s, [])
  else
    match s.books[instId]? with
    | none => (s, [])
    | some sync =>
      let instrument := sync.instrument
      let sync := sync.beginResync.requestSnapshot
      match sync.book.applySnapshot bids asks (some seqId) with
      | (book, .error err) =>
        (setBook s instId ({ sync with book }.invalidate err.display),
          faultActions instrument err.display .sequenceGap)
      | (book, .ok ()) =>
        let s := setBook s instId
          { sync with book, state := .live, expectedSequence := some seqId }
        let (s, action) := emit s received (some ⟨seqId, seqId⟩) .snapshot
          [(some instrument, ts, .bookSnapshot
            ⟨toBookLevels bids, toBookLevels asks, some booksDepth, none⟩)]
        let announced := [action, .emitSystem (.bookResynchronized instrument)]
        if s.live then (s, announced)
        else ({ s with live := true }, announced ++ [.markLive])

/-- **An update follows the book** by its previous sequence id; updates before the snapshot are
dropped. -/
def applyBookUpdate (instId : String) (bids asks : List (Price × Quantity))
    (prevSeqId seqId : UInt64) (ts : Int) (received : FrameStamp) : State × List SessionAction :=
  if !s.cfg.enableL2 then (s, [])
  else
    match s.books[instId]? with
    | none => (s, [])
    | some sync =>
      if sync.state ≠ .live then (s, [])
      else
        let last := sync.book.sequence.getD 0
        if prevSeqId ≠ last then
          (setBook s instId sync.noteGap,
            .emitSystem (.sequenceGap last prevSeqId) ::
              faultActions sync.instrument "books prevSeqId gap" .sequenceGap)
        else
          let changes := levelChanges bids asks
          match sync.book.applyChangesAtomic changes with
          | (book, .error err) =>
            (setBook s instId ({ sync with book }.invalidate "live delta apply failed"),
              faultActions sync.instrument ("live delta apply failed: " ++ err.display)
                .sequenceGap)
          | (book, .ok ()) =>
            let s := setBook s instId
              { sync with book := book.setSequence seqId, expectedSequence := some seqId }
            let (s, action) := emit s received (some ⟨prevSeqId, seqId⟩) .delta
              [(instrumentFor s instId, ts, .bookDelta ⟨changes, none⟩)]
            (s, [action])

/-! ## Inputs -/

def handleDecoded (C : OkxCodec) (s : State) (decoded : DecodedEvent) (received : FrameStamp) :
    State × List SessionAction :=
  match decoded with
  | .ping => (s, [.sendText "pong".toUTF8.toList])
  | .pong => (s, [])
  | .trade instId tradeId price quantity aggressor ts seqId =>
    emitOnly s received ((seqId.or (tradeIdU64 tradeId)).map fun id => ⟨id, id⟩)
      [(instrumentFor s instId, ts, .trade ⟨price, quantity, aggressor, some ⟨tradeId⟩⟩)]
  | .quote instId bidPrice bidQty askPrice askQty ts open' high low close volume quoteVolume =>
    emitOnly s received none
      [(instrumentFor s instId, ts, .quote ⟨bidPrice, some bidQty, askPrice, some askQty⟩),
        (instrumentFor s instId, ts, .statistics24h ⟨some open', some high, some low, some close,
          some volume, some quoteVolume⟩)]
  | .candle instId candle ts _ =>
    emitOnly s received none [(instrumentFor s instId, ts, .candle candle)]
  | .bookSnapshot instId bids asks seqId ts checksum =>
    if checksum ≠ 0 then rejectLegacyChecksum s instId checksum
    else applyBookSnapshot s instId bids asks seqId ts received
  | .bookUpdate instId bids asks prevSeqId seqId ts checksum =>
    if checksum ≠ 0 then rejectLegacyChecksum s instId checksum
    else applyBookUpdate s instId bids asks prevSeqId seqId ts received
  | .markPrice instId markPx ts =>
    emitOnly s received none [(instrumentFor s instId, ts, .markPrice ⟨markPx⟩)]
  | .indexPrice instId idxPx ts =>
    let instrument := (instrumentFor s instId).or
      ((s.cfg.symbols.find? (underlyingIndexId · = instId)).bind (instrumentFor s))
    emitOnly s received none [(instrument, ts, .indexPrice ⟨idxPx⟩)]
  | .funding instId rate nextFundingTsMs ts =>
    emitOnly s received none
      [(instrumentFor s instId, ts, .funding ⟨rate, nextFundingTsMs.map msToTimestamp⟩)]
  | .openInterest instId quantity ts =>
    emitOnly s received none [(instrumentFor s instId, ts, .openInterest ⟨quantity⟩)]
  | .liquidations rows =>
    if rows.isEmpty then (s, [])
    else
      emitOnly s received none (rows.map fun row =>
        (instrumentFor s row.instId, row.exchangeTsMs,
          .liquidation ⟨row.price, row.quantity, row.side⟩))
  | .subscribeAck _ _ =>
    let s := { s with subscribed := true }
    let subscribed := SessionAction.emitSystem (.subscriptionStateChanged "subscribed")
    if !s.cfg.enableL2 ∧ !s.live then ({ s with live := true }, [subscribed, .markLive])
    else (s, [subscribed])
  | .error code msg =>
    (s, [.emitSystem (.parseError
        ("okx error code=" ++ C.debugText code ++ " msg=" ++ C.debugText msg)),
      .reconnect .protocol])
  | .unknown => (s, [.emitSystem (.unknownMessage "okx")])

/-- **The input handler.** -/
def onInput (C : OkxCodec) (s : State) : SessionInput → State × List SessionAction
  | .connected now =>
    let s := { s with
      live := false
      subscribed := false
      books := s.books.map fun _ sync => sync.beginResync.requestSnapshot }
    let opening := [.sendText (C.subscribeBody (subscribeArgs s)), schedulePing now,
      .emitSystem (.connectionStateChanged "connected")]
    if s.cfg.enableL2 then (s, opening)
    else ({ s with live := true }, opening ++ [.markLive])
  | .disconnected _ _ =>
    ({ s with
        live := false
        subscribed := false
        books := s.books.map fun _ sync => sync.invalidate "disconnected" },
      [.cancelTimer pingTimerId, .emitSystem (.connectionStateChanged "disconnected")])
  | .textFrame bytes received =>
    match C.decodeText bytes with
    | .ok decoded => handleDecoded C s decoded received
    | .error e => (s, [.emitSystem (.parseError e)])
  | .binaryFrame _ _ => (s, [.emitSystem (.unknownMessage "binary")])
  | .pong _ _ => (s, [])
  | .httpResponse _ _ _ => (s, [])
  | .timer timerId now =>
    if timerId = pingTimerId then (s, [.sendText "ping".toUTF8.toList, schedulePing now])
    else (s, [])
  | .control .stop => (s, [.stopSession .control])
  | .control (.resync id) =>
    if s.cfg.enableL2 ∧ s.cfg.instrumentIds.toList.any (fun (_, iid) => iid = id) then
      (s, [.reconnect .control])
    else (s, [])
  | .control _ => (s, [])

/-- The session as the engine drives it. -/
def machine (C : OkxCodec) : SessionMachine State where
  onInput s input :=
    let (s, actions) := onInput C s input
    ⟨s, actions, .ok ()⟩

end OkxSession

end Marketfeed
