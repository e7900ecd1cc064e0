import Marketfeed.Binance.Futures

/-!
# The Binance COIN-M session

Model of `crates/adapters/binance/src/coinm_session.rs`. Its depth-book code is the USD-M one; it has
one mode, never fails, and fans an index price out to every contract of the pair.
-/

namespace Marketfeed

namespace BinanceCoinmSession

open BinanceSession

/-- Source: `coinm_messages.rs` `CoinmDecoded` -/
inductive CoinmDecoded
  | aggTrade (symbol : String) (aggId : UInt64) (price : Price) (quantity : Quantity)
      (aggressor : AggressorSide) (exchangeTsMs : Int)
  | quote (symbol : String) (updateId : UInt64) (bidPrice : Price) (bidQty : Quantity)
      (askPrice : Price) (askQty : Quantity)
  | ticker24h (symbol : String) (open' high low close : Price) (volume quoteVolume : Quantity)
      (exchangeTsMs : Int)
  | markPrice (symbol : String) (mark index : Price) (fundingRate : Rate)
      (nextFundingTs : TimestampNs) (exchangeTsMs : Int)
  | indexPrice (pair : String) (price : Price) (exchangeTsMs : Int)
  | candle (symbol : String) (candle : Candle) (exchangeTsMs : Int) (isClosed : Bool)
  | depthUpdate (symbol : String) (firstUpdateId finalUpdateId prevFinalUpdateId : UInt64)
      (bids asks : List (Price × Quantity)) (exchangeTsMs : Int)
  | depthSnapshot (lastUpdateId : UInt64) (bids asks : List (Price × Quantity))
  | openInterest (symbol : String) (quantity : Quantity) (exchangeTsMs : Int)
  | forceOrder (symbol : String) (price : Price) (quantity : Quantity) (side : AggressorSide)
      (exchangeTsMs : Int)
  | subscribeAck (id : Option UInt64)
  | unknown
deriving DecidableEq

/-- The JSON parts of the session. -/
structure CoinmCodec where
  /-- Source: `coinm_messages.rs` `decode_text` -/
  decodeText : Bytes → Except String CoinmDecoded
  /-- The `SUBSCRIBE` message for the given stream names. -/
  subscribeBody : List String → Bytes

/-- The depth rules: event times on deltas, none on snapshots. -/
def rules : DepthRules :=
  futuresRules ⟨12⟩
    (fun symbol => "https://dapi.binance.com/dapi/v1/depth?symbol=" ++ symbol ++ "&limit=1000")
    true (·.eventTimeMs)

lemma rules_lawful : rules.Lawful := futuresRules_lawful _ _ _ _

/-- Source: `coinm_messages.rs` `coinm_index_pair` -/
def coinmIndexPair (symbol : String) : String := (symbol.splitOn "_").headD symbol

def requestOpenInterest : BinanceSession → String → BinanceSession × List Push :=
  allocOpenInterest fun symbol => "https://dapi.binance.com/dapi/v1/openInterest?symbol=" ++ symbol

/-- Source: `IndexPrice` arm of `handle_decoded` -/
def fanOutIndexPrice (s : BinanceSession) (pair : String) (price : Price) (ts : Int)
    (received : FrameStamp) : BinanceSession × List Push :=
  match s.cfg.symbols.filter fun symbol => (coinmIndexPair symbol).toLower = pair.toLower with
  | [] => (s, [])
  | targets =>
    let frameSeq := s.frameSeq + 1
    ({ s with frameSeq },
      [⟨.emitBatch ⟨s.cfg.session, frameSeq, targets.zipIdx.map fun (symbol, i) =>
        envelope rules s (s.instrumentFor symbol) frameSeq (i % 65536) received (some ts) none
          .empty (.indexPrice ⟨price⟩)⟩, none⟩])

def handleDecoded (s : BinanceSession) (decoded : CoinmDecoded) (received : FrameStamp) :
    BinanceSession × List Push :=
  match decoded with
  | .aggTrade symbol aggId price quantity aggressor ts =>
    emitUnmarked rules s (s.instrumentFor symbol) received (some ts) (some ⟨aggId, aggId⟩) .empty
      [.trade ⟨price, quantity, aggressor, some ⟨toString aggId.toNat⟩⟩]
  | .quote symbol updateId bidPrice bidQty askPrice askQty =>
    emitUnmarked rules s (s.instrumentFor symbol) received none (some ⟨updateId, updateId⟩) .empty
      [.quote ⟨bidPrice, some bidQty, askPrice, some askQty⟩]
  | .ticker24h symbol open' high low close volume quoteVolume ts =>
    emitUnmarked rules s (s.instrumentFor symbol) received (some ts) none .empty
      [.statistics24h ⟨some open', some high, some low, some close, some volume,
        some quoteVolume⟩]
  | .markPrice symbol mark index fundingRate nextFundingTs ts =>
    emitUnmarked rules s (s.instrumentFor symbol) received (some ts) none .empty
      [.markPrice ⟨mark⟩, .indexPrice ⟨index⟩, .funding ⟨fundingRate, some nextFundingTs⟩]
  | .indexPrice pair price ts => fanOutIndexPrice s pair price ts received
  | .candle symbol candle ts _ =>
    emitUnmarked rules s (s.instrumentFor symbol) received (some ts) none .empty [.candle candle]
  | .depthUpdate symbol firstU finalU prevU bids asks ts =>
    onDepthUpdate rules s symbol firstU finalU prevU bids asks ⟨some ts, none⟩ received
  | .depthSnapshot lastUpdateId bids asks =>
    match s.cfg.symbols.head? with
    | none => (s, [])
    | some symbol => applySnapshot rules s symbol lastUpdateId ⟨none, none⟩ bids asks received
  | .openInterest symbol quantity ts =>
    emitUnmarked rules s (s.instrumentFor symbol) received (some ts) none .empty
      [.openInterest ⟨quantity⟩]
  | .forceOrder symbol price quantity side ts =>
    emitUnmarked rules s (s.instrumentFor symbol) received (some ts) none .empty
      [.liquidation ⟨price, quantity, side⟩]
  | .subscribeAck _ =>
    let subscribed : Push := ⟨.emitSystem (.subscriptionStateChanged "subscribed"), none⟩
    if !s.cfg.enableL2 ∧ !s.live then ({ s with live := true }, [subscribed, ⟨.markLive, none⟩])
    else (s, [subscribed])
  | .unknown => (s, [⟨.emitSystem (.unknownMessage "binance-coinm"), none⟩])

variable (C : CoinmCodec)

/-- Source: `HttpResponse` arm of `on_input` -/
def onHttpResponse (s : BinanceSession) (requestId : UInt64) (response : HttpResponse)
    (received : FrameStamp) : BinanceSession × List Push :=
  match s.pendingHttp[requestId]? with
  | none => (s, [])
  | some (symbol, kind) =>
    let s := { s with pendingHttp := s.pendingHttp.erase requestId }
    if response.status ≠ 200 then
      (s, ⟨.emitSystem (.parseError ("coinm HTTP " ++ toString response.status.toNat ++ " for " ++
          kind.debug)), none⟩ ::
        (if kind = .depthSnapshot then [⟨.reconnect .protocol, none⟩] else []))
    else
      match kind with
      | .depthSnapshot =>
        match C.decodeText response.body with
        | .ok (.depthSnapshot lastUpdateId bids asks) =>
          applySnapshot rules (retireRequest s symbol) symbol lastUpdateId ⟨none, none⟩ bids
            asks received
        | _ => (s, [⟨.emitSystem (.parseError "bad coinm depth snapshot body"), none⟩])
      | .openInterest =>
        match C.decodeText response.body with
        | .ok (.openInterest symbol quantity ts) =>
          handleDecoded s (.openInterest symbol quantity ts) received
        | _ => (s, [⟨.emitSystem (.parseError "bad coinm openInterest body"), none⟩])

/-- The stream names subscribed on connect. -/
def subscribeParams (cfg : BinanceSessionConfig) : List String :=
  cfg.symbols.flatMap fun s =>
    let lower := s.toLower
    [lower ++ "@trade", lower ++ "@bookTicker", lower ++ "@ticker", lower ++ "@markPrice@1s",
      (coinmIndexPair s).toLower ++ "@indexPrice@1s", lower ++ "@forceOrder"] ++
      (if cfg.enableL2 then [lower ++ "@depth@100ms"] else []) ++
      cfg.candleIntervals.map fun interval => lower ++ "@kline_" ++ klineStreamInterval interval

/-- `poll_open_interest_all` and `schedule_oi_timer`. -/
def poll (s : BinanceSession) (now : TimestampNs) : BinanceSession × List Push :=
  let (s, pushes) := pollOpenInterestAll requestOpenInterest s s.cfg.symbols
  (s, pushes ++ [scheduleOiTimer now])

/-- **The input handler.** -/
def onInput (s : BinanceSession) : SessionInput → BinanceSession × List Push
  | .connected now =>
    let s := { s with live := false }
    let opening : List Push :=
      [⟨.sendText (C.subscribeBody (subscribeParams s.cfg)), none⟩,
        ⟨.emitSystem (.connectionStateChanged "connected"), none⟩]
    let (s, polls) := poll s now
    if s.cfg.enableL2 then
      let (s, requests) := requestAll rules s s.cfg.symbols
      (s, opening ++ polls ++ requests)
    else ({ s with live := true }, opening ++ polls ++ [⟨.markLive, none⟩])
  | .disconnected _ _ =>
    ({ s with live := false, pendingHttp := ∅ }.invalidateAll,
      [⟨.cancelTimer oiTimerId, none⟩,
        ⟨.emitSystem (.connectionStateChanged "disconnected"), none⟩])
  | .textFrame bytes received =>
    match C.decodeText bytes with
    | .ok decoded => handleDecoded s decoded received
    | .error e => (s, [⟨.emitSystem (.parseError e), none⟩])
  | .httpResponse requestId response received => onHttpResponse C s requestId response received
  | .binaryFrame _ _ => (s, [⟨.emitSystem (.unknownMessage "binary"), none⟩])
  | .pong _ _ => (s, [])
  | .timer timerId now => if timerId = oiTimerId then poll s now else (s, [])
  | .control .stop => (s, [⟨.stopSession .control, none⟩])
  | .control (.resync id) =>
    match s.cfg.instrumentIds.toList.find? (fun (_, iid) => iid = id) with
    | none => (s, [])
    | some (symbol, _) =>
      let s := s.resetBuffer symbol
      if s.cfg.enableL2 then requestDepthSnapshot rules s symbol else (s, [])
  | .control _ => (s, [])

/-- The symbol whose depth snapshot the input delivers: the one whose request is answered, or the
first configured one for a snapshot frame. -/
def snapshotSymbol (s : BinanceSession) : SessionInput → Option String
  | .textFrame bytes _ =>
    match C.decodeText bytes with
    | .ok (.depthSnapshot _ _ _) => s.cfg.symbols.head?
    | _ => none
  | .httpResponse requestId response _ =>
    match s.pendingHttp[requestId]? with
    | some (symbol, .depthSnapshot) =>
      if response.status ≠ 200 then none
      else
        match C.decodeText response.body with
        | .ok (.depthSnapshot _ _ _) => some symbol
        | _ => none
    | _ => none
  | _ => none

/-- The session as the engine drives it. -/
def machine : SessionMachine BinanceSession where
  onInput s input :=
    let (s, pushes) := onInput C s input
    ⟨s, pushes.map (·.action), .ok ()⟩

/-- A session and everything it pushed, after any inputs. -/
def run (catalog : List Instrument) (cfg : BinanceSessionConfig) (inputs : List SessionInput) :
    BinanceSession × List Push :=
  runLog (onInput C) (BinanceSession.new rules catalog cfg) inputs

/-! ## The handler only makes moves -/

variable (s : BinanceSession)

lemma fanOutIndexPrice_moves (pair : String) (price : Price) (ts : Int) (received : FrameStamp) :
    Moves rules none s (fanOutIndexPrice s pair price ts received) := by
  unfold fanOutIndexPrice
  split
  · exact .refl s
  · refine .ofQuiet rfl rfl fun p hp => ?_
    rw [List.mem_singleton.mp hp]
    refine ⟨⟨rfl, ?_⟩, by simp⟩
    rintro ⟨e, he, hbook⟩
    obtain ⟨x, -, rfl⟩ := List.mem_map.mp he
    simp [envelope] at hbook

lemma handleDecoded_moves (hl2 : s.cfg.enableL2 = true) (decoded : CoinmDecoded)
    (received : FrameStamp) :
    Moves rules (match decoded with
      | .depthSnapshot _ _ _ => s.cfg.symbols.head?
      | _ => none) s (handleDecoded s decoded received) := by
  cases decoded with
  | aggTrade | quote | ticker24h | markPrice | candle | openInterest | forceOrder =>
    exact emitUnmarked_moves _ _ _ _ _ _ _ (by simp)
  | indexPrice => exact fanOutIndexPrice_moves _ _ _ _ _
  | depthUpdate => exact onDepthUpdate_moves rules_lawful _ _ _ _ _ _ _ _ _
  | depthSnapshot =>
    simp only [handleDecoded]
    rcases s.cfg.symbols.head? with _ | symbol
    · exact .refl s
    · exact applySnapshot_moves rules_lawful _ _ _ _ _ _ _
  | subscribeAck =>
    simp only [handleDecoded, hl2, Bool.not_true, Bool.false_eq_true, false_and, if_false]
    exact .ofQuiet rfl rfl (by simp)
  | unknown => exact .ofQuiet rfl rfl (by simp)

lemma onHttpResponse_moves (s : BinanceSession) (requestId : UInt64) (response : HttpResponse)
    (received : FrameStamp) :
    Moves rules (snapshotSymbol C s (.httpResponse requestId response received)) s
      (onHttpResponse C s requestId response received) := by
  simp only [onHttpResponse, snapshotSymbol]
  rcases s.pendingHttp[requestId]? with _ | ⟨symbol, kind⟩
  · exact .refl s
  simp only
  refine Moves.congr (t := { s with pendingHttp := s.pendingHttp.erase requestId }) rfl rfl ?_
  split_ifs
  · exact .ofQuiet rfl rfl (by simp)
  · exact .ofQuiet rfl rfl (by simp)
  · rcases kind with _ | _
    · simp only
      split
      · exact (retireRequest_moves _ symbol).trans (by simp)
          (applySnapshot_moves rules_lawful _ _ _ _ _ _ _)
      · exact .ofQuiet rfl rfl (by simp)
    · simp only
      split
      · exact emitUnmarked_moves _ _ _ _ _ _ _ (by simp)
      · exact .ofQuiet rfl rfl (by simp)

lemma poll_moves (now : TimestampNs) : Moves rules none s (poll s now) := by
  have hm := pollOpenInterestAll_moves (R := rules) requestOpenInterest
    (fun s symbol => allocOpenInterest_moves _ s symbol) s.cfg.symbols s
  exact hm.seq (.ofQuiet rfl rfl (by simp [scheduleOiTimer]))

/-- **Whatever the input, the books only make moves.** -/
theorem onInput_moves (s : BinanceSession) (hl2 : s.cfg.enableL2 = true) (input : SessionInput) :
    Moves rules (snapshotSymbol C s input) s (onInput C s input) := by
  cases input with
  | connected now =>
    have hpoll := poll_moves { s with live := false } now
    have hcfg : (poll { s with live := false } now).1.cfg = s.cfg := hpoll.cfg
    simp only [onInput]
    rw [if_pos (by rw [hcfg]; exact hl2)]
    refine Moves.congr (t := { s with live := false }) rfl rfl ?_
    rw [List.append_assoc]
    exact .afterQuiet _ (by simp) (hpoll.seq (requestAll_moves _ _))
  | disconnected =>
    refine Moves.congr (t := { s with live := false, pendingHttp := ∅ }) rfl rfl ?_
    exact (invalidateAll_moves _).seq (.ofQuiet rfl rfl (by simp))
  | textFrame bytes received =>
    simp only [onInput, snapshotSymbol]
    rcases C.decodeText bytes with e | decoded
    · exact .ofQuiet rfl rfl (by simp)
    · have hm := handleDecoded_moves s hl2 decoded received
      cases decoded <;> exact hm
  | httpResponse => exact onHttpResponse_moves C s _ _ _
  | binaryFrame => exact .ofQuiet rfl rfl (by simp)
  | pong => exact .refl s
  | timer =>
    simp only [onInput]
    split_ifs
    · exact poll_moves s _
    · exact .refl s
  | control command =>
    cases command with
    | stop => exact .ofQuiet rfl rfl (by simp)
    | resync id =>
      simp only [onInput]
      split
      · exact .refl s
      · rename_i symbol _ _
        rw [if_pos (by rw [cfg_resetBuffer]; exact hl2)]
        exact resetRequest_moves s symbol
    | subscribe | unsubscribe | replace => exact .refl s

/-- **Every run is a sequence of moves** from the session's fresh books. -/
theorem run_moves (catalog : List Instrument) (cfg : BinanceSessionConfig)
    (hl2 : cfg.enableL2 = true) (inputs : List SessionInput) :
    SessionMoves rules cfg.instrumentIds (BinanceSession.new rules catalog cfg).books
      (run C catalog cfg inputs).1.books (run C catalog cfg inputs).2 :=
  runLog_moves id (fun s => s.cfg.enableL2 = true) (onInput C) (snapshotSymbol C)
    (fun s x hs => ⟨(congrArg _ (onInput_moves C s hs x).cfg).trans hs, onInput_moves C s hs x⟩)
    (s := BinanceSession.new rules catalog cfg) hl2 inputs

end BinanceCoinmSession

end Marketfeed
