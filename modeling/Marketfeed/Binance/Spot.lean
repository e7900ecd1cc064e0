import Marketfeed.Binance.DepthMoves

/-!
# The Binance spot session

Model of `crates/adapters/binance/src/session.rs` over the depth-book core. What the text decoder
answers and how the subscription message is rendered come from a JSON library; they are the two
fields of `SpotCodec`, and everything proved here holds for every codec.
-/

namespace Marketfeed

namespace BinanceSpotSession

open BinanceSession

/-- Source: `messages.rs` `DecodedEvent` -/
inductive DecodedEvent
  | trade (symbol : String) (tradeId : UInt64) (price : Price) (quantity : Quantity)
      (aggressor : AggressorSide) (exchangeTsMs : Int)
  | quote (symbol : String) (updateId : UInt64) (bidPrice : Price) (bidQty : Quantity)
      (askPrice : Price) (askQty : Quantity)
  | ticker24h (symbol : String) (bidPrice : Price) (bidQty : Quantity) (askPrice : Price)
      (askQty : Quantity) (open' high low close : Price) (volume quoteVolume : Quantity)
      (exchangeTsMs : Int)
  | candle (symbol : String) (candle : Candle) (exchangeTsMs : Int) (isClosed : Bool)
  | depthUpdate (symbol : String) (firstUpdateId finalUpdateId : UInt64)
      (bids asks : List (Price × Quantity)) (exchangeTsMs : Int)
  | depthSnapshot (lastUpdateId : UInt64) (bids asks : List (Price × Quantity))
  | subscribeAck (id : Option UInt64)
  | unknown
deriving DecidableEq

/-- The JSON parts of the session. -/
structure SpotCodec where
  /-- Source: `messages.rs` `decode_text` -/
  decodeText : Bytes → Except String DecodedEvent
  /-- The `SUBSCRIBE` message for the given stream names. -/
  subscribeBody : List String → Bytes

def heartbeatTimerId : UInt64 := 1

def heartbeatTimeoutMs : Int := 600000

/-- The depth rules of the spot stream: `first_u` may be at most one above the last `u`, and only
events beyond the snapshot are kept. -/
def rules : DepthRules where
  venue := ⟨2⟩
  depthUrl symbol := "https://api.binance.com/api/v3/depth?symbol=" ++ symbol ++ "&limit=1000"
  keeps lastUpdateId finalU := finalU > lastUpdateId
  gap _ lastU ev := if ev.firstU > lastU + 1 then some (lastU + 1, ev.firstU) else none
  gapReason := "depth gap"
  nextExpected u := u + 1
  bridges := false
  registersRequests := false
  announcesResync := true
  authoredTimeMs times := times.eventTimeMs

lemma rules_lawful : rules.Lawful := fun _ _ _ _ _ => rfl

def scheduleHeartbeat (now : TimestampNs) : Push :=
  ⟨.scheduleTimer ⟨heartbeatTimerId, ⟨satI64 (now.ns + satI64 (heartbeatTimeoutMs * 1000000))⟩⟩, none⟩

/-- The stream names subscribed on connect. -/
def subscribeParams (cfg : BinanceSessionConfig) : List String :=
  cfg.symbols.flatMap fun s =>
    let lower := s.toLower
    [lower ++ "@trade", lower ++ "@bookTicker", lower ++ "@ticker"] ++
      (if cfg.enableL2 then [lower ++ "@depth@100ms"] else []) ++
      cfg.candleIntervals.map fun interval => lower ++ "@kline_" ++ klineStreamInterval interval

def handleDecoded (s : BinanceSession) (decoded : DecodedEvent) (received : FrameStamp) :
    BinanceSession × List Push :=
  match decoded with
  | .trade symbol tradeId price quantity aggressor ts =>
    emitUnmarked rules s (s.instrumentFor symbol) received (some ts) (some ⟨tradeId, tradeId⟩) .empty
      [.trade ⟨price, quantity, aggressor, some ⟨toString tradeId.toNat⟩⟩]
  | .quote symbol updateId bidPrice bidQty askPrice askQty =>
    emitUnmarked rules s (s.instrumentFor symbol) received none (some ⟨updateId, updateId⟩) .empty
      [.quote ⟨bidPrice, some bidQty, askPrice, some askQty⟩]
  | .ticker24h symbol bidPrice bidQty askPrice askQty open' high low close volume quoteVolume ts =>
    emitUnmarked rules s (s.instrumentFor symbol) received (some ts) none .empty
      [.quote ⟨bidPrice, some bidQty, askPrice, some askQty⟩,
        .statistics24h ⟨some open', some high, some low, some close, some volume,
          some quoteVolume⟩]
  | .candle symbol candle ts _ =>
    emitUnmarked rules s (s.instrumentFor symbol) received (some ts) none .empty [.candle candle]
  | .depthUpdate symbol firstU finalU bids asks ts =>
    -- the spot stream carries no previous `u`
    onDepthUpdate rules s symbol firstU finalU 0 bids asks ⟨some ts, none⟩ received
  | .depthSnapshot lastUpdateId bids asks =>
    match s.cfg.symbols.head? with
    | none => (s, [])
    | some symbol => applySnapshot rules s symbol lastUpdateId ⟨none, none⟩ bids asks received
  | .subscribeAck _ =>
    let subscribed : Push := ⟨.emitSystem (.subscriptionStateChanged "subscribed"), none⟩
    if s.cfg.enableL2 then (s, [subscribed])
    else ({ s with live := true }, [subscribed, ⟨.markLive, none⟩])
  | .unknown => (s, [⟨.emitSystem (.unknownMessage "binance"), none⟩])

variable (C : SpotCodec)

/-- Source: `HttpResponse` arm of `on_input`; the response belongs to the symbol that waits for it -/
def onHttpResponse (s : BinanceSession) (requestId : UInt64) (response : HttpResponse)
    (received : FrameStamp) : BinanceSession × List Push :=
  match s.books.toList.find? (fun (_, b) => b.snapshotReqId = some requestId) with
  | none => (s, [])
  | some (symbol, _) =>
    if response.status ≠ 200 then
      (s, [⟨.emitSystem (.parseError
            ("depth snapshot HTTP " ++ toString response.status.toNat)), none⟩,
        ⟨.reconnect .protocol, none⟩])
    else
      match C.decodeText response.body with
      | .ok (.depthSnapshot lastUpdateId bids asks) =>
        applySnapshot rules s symbol lastUpdateId ⟨none, none⟩ bids asks received
      | _ => (s, [⟨.emitSystem (.parseError "bad depth snapshot body"), none⟩])

/-- **The input handler.** -/
def onInput (s : BinanceSession) : SessionInput → BinanceSession × List Push
  | .connected now =>
    let s := { s with live := false }
    let opening : List Push :=
      [⟨.sendText (C.subscribeBody (subscribeParams s.cfg)), none⟩, scheduleHeartbeat now,
        ⟨.emitSystem (.connectionStateChanged "connected"), none⟩]
    if s.cfg.enableL2 then
      let (s, pushes) := requestAll rules s s.cfg.symbols
      (s, opening ++ pushes)
    else ({ s with live := true }, opening ++ [⟨.markLive, none⟩])
  | .disconnected _ _ =>
    ({ s with live := false }.invalidateAll,
      [⟨.cancelTimer heartbeatTimerId, none⟩,
        ⟨.emitSystem (.connectionStateChanged "disconnected"), none⟩])
  | .textFrame bytes received =>
    let alive := scheduleHeartbeat received.receiveTs
    match C.decodeText bytes with
    | .ok decoded =>
      let (s, pushes) := handleDecoded s decoded received
      (s, alive :: pushes)
    | .error e => (s, [alive, ⟨.emitSystem (.parseError e), none⟩])
  | .httpResponse requestId response received => onHttpResponse C s requestId response received
  | .binaryFrame _ _ => (s, [⟨.emitSystem (.unknownMessage "binary"), none⟩])
  | .pong _ _ => (s, [])
  | .timer timerId _ =>
    if timerId = heartbeatTimerId then
      (s, [⟨.emitSystem .heartbeatMissed, none⟩, ⟨.reconnect .heartbeat, none⟩])
    else (s, [])
  | .control .stop => (s, [⟨.stopSession .control, none⟩])
  | .control (.resync id) =>
    match s.cfg.instrumentIds.toList.find? (fun (_, iid) => iid = id) with
    | none => (s, [])
    | some (symbol, _) => requestDepthSnapshot rules (s.resetBuffer symbol) symbol
  | .control _ => (s, [])

/-- The symbol whose depth snapshot the input delivers: the one that waits for the response, or the
first configured one for a snapshot frame. -/
def snapshotSymbol (s : BinanceSession) : SessionInput → Option String
  | .textFrame bytes _ =>
    match C.decodeText bytes with
    | .ok (.depthSnapshot _ _ _) => s.cfg.symbols.head?
    | _ => none
  | .httpResponse requestId response _ =>
    match s.books.toList.find? (fun (_, b) => b.snapshotReqId = some requestId) with
    | none => none
    | some (symbol, _) =>
      if response.status ≠ 200 then none
      else
        match C.decodeText response.body with
        | .ok (.depthSnapshot _ _ _) => some symbol
        | _ => none
  | _ => none

/-- The session as the engine drives it. -/
def machine : SessionMachine BinanceSession where
  onInput s input :=
    let (s, pushes) := onInput C s input
    ⟨s, pushes.map (·.action), .ok ()⟩

/-- A session and everything it pushed, after any inputs. -/
def run (catalog : List Instrument) (cfg : BinanceSessionConfig) (inputs : List SessionInput) :
    BinanceSession × List Push :=
  runLog (onInput C) (BinanceSession.new rules catalog cfg) inputs

/-! ## The handler only makes moves -/

lemma handleDecoded_moves (s : BinanceSession) (hl2 : s.cfg.enableL2 = true)
    (decoded : DecodedEvent) (received : FrameStamp) :
    Moves rules (match decoded with
      | .depthSnapshot _ _ _ => s.cfg.symbols.head?
      | _ => none) s (handleDecoded s decoded received) := by
  cases decoded with
  | trade | quote | ticker24h | candle => exact emitUnmarked_moves _ _ _ _ _ _ _ (by simp)
  | depthUpdate => exact onDepthUpdate_moves rules_lawful _ _ _ _ _ _ _ _ _
  | depthSnapshot =>
    simp only [handleDecoded]
    rcases s.cfg.symbols.head? with _ | symbol
    · exact .refl s
    · exact applySnapshot_moves rules_lawful _ _ _ _ _ _ _
  | subscribeAck =>
    simp only [handleDecoded, hl2, if_true]
    exact .ofQuiet rfl rfl (by simp)
  | unknown => exact .ofQuiet rfl rfl (by simp)

lemma onHttpResponse_moves (s : BinanceSession) (requestId : UInt64) (response : HttpResponse)
    (received : FrameStamp) :
    Moves rules (snapshotSymbol C s (.httpResponse requestId response received)) s
      (onHttpResponse C s requestId response received) := by
  simp only [onHttpResponse, snapshotSymbol]
  split
  · exact .refl s
  · split_ifs
    · exact .ofQuiet rfl rfl (by simp)
    · split
      · exact applySnapshot_moves rules_lawful _ _ _ _ _ _ _
      · exact .ofQuiet rfl rfl (by simp)

/-- **Whatever the input, the books only make moves.** -/
theorem onInput_moves (s : BinanceSession) (hl2 : s.cfg.enableL2 = true) (input : SessionInput) :
    Moves rules (snapshotSymbol C s input) s (onInput C s input) := by
  cases input with
  | connected now =>
    simp only [onInput, hl2, if_true]
    refine .afterQuiet _ (by simp [scheduleHeartbeat]) ?_
    exact Moves.congr (t := { s with live := false }) rfl rfl (requestAll_moves _ s.cfg.symbols)
  | disconnected =>
    refine Moves.congr (t := { s with live := false }) rfl rfl ?_
    exact (invalidateAll_moves _).seq (.ofQuiet rfl rfl (by simp))
  | textFrame bytes received =>
    simp only [onInput, snapshotSymbol]
    rcases C.decodeText bytes with e | decoded
    · exact .ofQuiet rfl rfl (by simp [scheduleHeartbeat])
    · have hm := handleDecoded_moves s hl2 decoded received
      refine .afterQuiet [scheduleHeartbeat received.receiveTs]
        (by simp [scheduleHeartbeat]) ?_
      cases decoded <;> exact hm
  | httpResponse => exact onHttpResponse_moves C s _ _ _
  | binaryFrame => exact .ofQuiet rfl rfl (by simp)
  | pong => exact .refl s
  | timer =>
    simp only [onInput]
    split_ifs
    · exact .ofQuiet rfl rfl (by simp)
    · exact .refl s
  | control command =>
    cases command with
    | stop => exact .ofQuiet rfl rfl (by simp)
    | resync id =>
      simp only [onInput]
      split
      · exact .refl s
      · exact resetRequest_moves s _
    | subscribe | unsubscribe | replace => exact .refl s

/-- **Every run is a sequence of moves** from the session's fresh books. -/
theorem run_moves (catalog : List Instrument) (cfg : BinanceSessionConfig)
    (hl2 : cfg.enableL2 = true) (inputs : List SessionInput) :
    SessionMoves rules cfg.instrumentIds (BinanceSession.new rules catalog cfg).books
      (run C catalog cfg inputs).1.books (run C catalog cfg inputs).2 :=
  runLog_moves id (fun s => s.cfg.enableL2 = true) (onInput C) (snapshotSymbol C)
    (fun s x hs => ⟨(congrArg _ (onInput_moves C s hs x).cfg).trans hs, onInput_moves C s hs x⟩)
    (s := BinanceSession.new rules catalog cfg) hl2 inputs

end BinanceSpotSession

end Marketfeed
