import Marketfeed.Binance.Futures

/-!
# The Binance USD-M session

Model of `crates/adapters/binance/src/usdm_session.rs`, in its legacy mode and in the two routed
modes. A routed session refuses what its role does not admit with an error; an error leaves the
state as it was when the error arose. The JSON decoders and the rendered subscription are the fields
of `UsdmCodec`.

The `pristine` flag of the source is read only by an identity accessor outside the input handler and
is left out.
-/

namespace Marketfeed

namespace BinanceUsdmSession

open BinanceSession

/-- Source: `usdm_messages.rs` `UsdmDecoded` -/
inductive UsdmDecoded
  | aggTrade (symbol : String) (aggId : UInt64) (price : Price) (quantity : Quantity)
      (aggressor : AggressorSide) (exchangeTsMs : Int)
  | quote (symbol : String) (updateId : UInt64) (bidPrice : Price) (bidQty : Quantity)
      (askPrice : Price) (askQty : Quantity)
  | ticker24h (symbol : String) (bidPrice : Price) (bidQty : Quantity) (askPrice : Price)
      (askQty : Quantity) (open' high low close : Price) (volume quoteVolume : Quantity)
      (exchangeTsMs : Int)
  | candle (symbol : String) (candle : Candle) (exchangeTsMs : Int) (isClosed : Bool)
  | markPrice (symbol : String) (mark index : Price) (fundingRate : Rate)
      (nextFundingTs : TimestampNs) (exchangeTsMs : Int)
  | indexPrice (symbol : String) (price : Price) (exchangeTsMs : Int)
  | depthUpdate (symbol : String) (firstUpdateId finalUpdateId prevFinalUpdateId : UInt64)
      (bids asks : List (Price × Quantity)) (exchangeTsMs : Int)
  | depthSnapshot (lastUpdateId : UInt64) (bids asks : List (Price × Quantity))
  | openInterest (symbol : String) (quantity : Quantity) (exchangeTsMs : Int)
  | forceOrder (symbol : String) (price : Price) (quantity : Quantity) (side : AggressorSide)
      (exchangeTsMs : Int)
  | subscribeAck (id : Option UInt64)
  | ignored
  | unknown
deriving DecidableEq

/-- The JSON parts of the session. -/
structure UsdmCodec where
  /-- Source: `usdm_messages.rs` `decode_text` -/
  decodeText : Bytes → Except String UsdmDecoded
  /-- Source: `usdm_messages.rs` `decode_routed_v4_text` -/
  decodeRoutedV4Text : Bytes → Except String (UsdmDecoded × SourceTimes)
  /-- The `SUBSCRIBE` message for the given stream names. -/
  subscribeBody : List String → Bytes

/-- Source: `BinanceUsdmRouteV4` -/
inductive RouteV4
  | publicRoute
  | marketRoute
deriving DecidableEq

inductive UsdmMode
  | legacy
  | routedV4 (route : RouteV4)
deriving DecidableEq

/-- Source: `routed_v4` -/
def UsdmMode.routed : UsdmMode → Option RouteV4
  | .legacy => none
  | .routedV4 route => some route

def routedV4Symbol : String := "BNBUSDT"

/-- Source: `ROUTED_V4_PUBLIC_ENDPOINT`, `ROUTED_V4_MARKET_ENDPOINT` -/
def RouteV4.endpoint : RouteV4 → String
  | .publicRoute => "wss://fstream.binance.com/public/ws"
  | .marketRoute => "wss://fstream.binance.com/market/ws"

/-- Source: `valid_routed_source_ms`, `MAX_ROUTED_SOURCE_MS` -/
def validRoutedSourceMs (value : Int) : Bool := 0 ≤ value ∧ value ≤ (2 ^ 63 - 1) / 1000000

/-- Source: `i64::MAX as u64` -/
def maxI64 : UInt64 := 9223372036854775807

/-- The depth rules: a routed public session reports transaction times and announces no
resynchronisation. -/
def rules (mode : UsdmMode) : DepthRules :=
  futuresRules ⟨3⟩
    (fun symbol => "https://fapi.binance.com/fapi/v1/depth?symbol=" ++ symbol ++ "&limit=1000")
    (mode.routed = none)
    (fun times => if mode.routed = some .publicRoute then times.transactionTimeMs
      else times.eventTimeMs)

lemma rules_lawful (mode : UsdmMode) : (rules mode).Lawful := futuresRules_lawful _ _ _ _

/-- A USD-M session: the depth-book core with its fixed mode.
Source: `BinanceUsdmSession` -/
structure State where
  core : BinanceSession
  mode : UsdmMode
deriving DecidableEq

def new (catalog : List Instrument) (cfg : BinanceSessionConfig) : State :=
  ⟨BinanceSession.new (rules .legacy) catalog cfg, .legacy⟩

/-- The session's specification: an endpoint and its subscription items, of which only the number
is read.
Source: `crates/adapter-api/src/subscription.rs` `SessionSpec` -/
structure SessionSpec where
  endpointName : String
  subscriptionItems : Nat
deriving DecidableEq

def tryNewRoutedV4 (spec : SessionSpec) (catalog : List Instrument) (cfg : BinanceSessionConfig)
    (route : RouteV4) : Except AdapterError State :=
  if spec.endpointName ≠ route.endpoint ∨ spec.subscriptionItems ≠ 0 ∨
      cfg.symbols ≠ [routedV4Symbol] ∨ cfg.instrumentIds.size ≠ 1 ∨
      routedV4Symbol ∉ cfg.instrumentIds ∨ cfg.connection.val = 0 ∨ cfg.session.val = 0 ∨
      cfg.candleIntervals ≠ [] ∨ cfg.enableL2 ≠ decide (route = .publicRoute) then
    .error (.subscription "invalid Binance USD-M routed v4 identity or topology")
  else .ok { new catalog cfg with mode := .routedV4 route }

def validateRoutedWs (mode : UsdmMode) (decoded : UsdmDecoded) (times : SourceTimes) :
    Except AdapterError Unit :=
  let eventTime := times.eventTimeMs.any validRoutedSourceMs
  let transactionTime := times.transactionTimeMs.any validRoutedSourceMs
  match mode.routed with
  | none => .ok ()
  | some route =>
    let valid : Bool := match route, decoded with
      | .publicRoute, .quote symbol _ _ _ _ _ =>
        symbol = routedV4Symbol ∧ eventTime ∧ transactionTime
      | .publicRoute, .depthUpdate symbol firstU finalU prevU _ _ _ =>
        symbol = routedV4Symbol ∧ firstU ≤ finalU ∧ firstU ≤ maxI64 ∧ finalU ≤ maxI64 ∧
          prevU ≤ maxI64 ∧ eventTime ∧ transactionTime
      | .marketRoute, .aggTrade symbol aggId _ _ _ _ =>
        symbol = routedV4Symbol ∧ aggId ≤ maxI64 ∧ eventTime ∧ transactionTime
      | .marketRoute, .openInterest symbol _ _ => symbol = routedV4Symbol ∧ transactionTime
      | .marketRoute, .forceOrder symbol _ _ _ _ =>
        symbol = routedV4Symbol ∧ eventTime ∧ transactionTime
      | _, .subscribeAck (some 1) => true
      | _, _ => false
    if valid then .ok ()
    else .error (.protocol
      "message does not match Binance USD-M routed v4 role, symbol, or timestamp shape")

/-- A routed market session has at most one open-interest request in flight. -/
def requestOpenInterest (mode : UsdmMode) (s : BinanceSession) (symbol : String) :
    BinanceSession × List Push :=
  if mode.routed = some .marketRoute ∧
      s.pendingHttp.toList.any (fun (_, pending) => pending = (symbol, .openInterest)) then (s, [])
  else
    allocOpenInterest
      (fun symbol => "https://fapi.binance.com/fapi/v1/openInterest?symbol=" ++ symbol) s symbol

/-- What a call on the session does: the new core, the pushes, and the result. -/
abbrev Result := BinanceSession × List Push × Except AdapterError Unit

/-- A call that cannot fail. -/
def succeed (r : BinanceSession × List Push) : Result := (r.1, r.2, .ok ())

def handleDecoded (mode : UsdmMode) (s : BinanceSession) (decoded : UsdmDecoded)
    (routedTimes : Option SourceTimes) (received : FrameStamp) : Result :=
  let R := rules mode
  let transactionTime := routedTimes.bind (·.transactionTimeMs)
  match decoded with
  | .aggTrade symbol aggId price quantity aggressor ts =>
    succeed <| emitUnmarked R s (s.instrumentFor symbol) received
      (transactionTime.or (some ts)) (some ⟨aggId, aggId⟩) .empty
      [.trade ⟨price, quantity, aggressor, some ⟨toString aggId.toNat⟩⟩]
  | .candle symbol candle ts _ =>
    succeed <| emitUnmarked R s (s.instrumentFor symbol) received (some ts) none .empty
      [.candle candle]
  | .quote symbol updateId bidPrice bidQty askPrice askQty =>
    succeed <| emitUnmarked R s (s.instrumentFor symbol) received transactionTime
      (if mode.routed = none then some ⟨updateId, updateId⟩ else none) .empty
      [.quote ⟨bidPrice, some bidQty, askPrice, some askQty⟩]
  | .ticker24h symbol bidPrice bidQty askPrice askQty open' high low close volume quoteVolume ts =>
    succeed <| emitUnmarked R s (s.instrumentFor symbol) received (some ts) none .empty
      [.quote ⟨bidPrice, some bidQty, askPrice, some askQty⟩,
        .statistics24h ⟨some open', some high, some low, some close, some volume,
          some quoteVolume⟩]
  | .markPrice symbol mark index fundingRate nextFundingTs ts =>
    succeed <| emitUnmarked R s (s.instrumentFor symbol) received (some ts) none .empty
      [.markPrice ⟨mark⟩, .indexPrice ⟨index⟩, .funding ⟨fundingRate, some nextFundingTs⟩]
  | .indexPrice symbol price ts =>
    succeed <| emitUnmarked R s (s.instrumentFor symbol) received (some ts) none .empty
      [.indexPrice ⟨price⟩]
  | .depthUpdate symbol firstU finalU prevU bids asks ts =>
    succeed <| onDepthUpdate R s symbol firstU finalU prevU bids asks
      (routedTimes.getD ⟨some ts, none⟩) received
  | .depthSnapshot lastUpdateId bids asks =>
    match s.cfg.symbols.head? with
    | none => (s, [], .ok ())
    | some symbol =>
      succeed <| applySnapshot R s symbol lastUpdateId (routedTimes.getD ⟨none, none⟩) bids asks
        received
  | .openInterest symbol quantity ts =>
    succeed <| emitUnmarked R s (s.instrumentFor symbol) received (some ts) none .empty
      [.openInterest ⟨quantity⟩]
  | .forceOrder symbol price quantity side ts =>
    succeed <| emitUnmarked R s (s.instrumentFor symbol) received
      (transactionTime.or (some ts)) none .empty [.liquidation ⟨price, quantity, side⟩]
  | .subscribeAck _ =>
    let subscribed : List Push := if mode.routed = none then
      [⟨.emitSystem (.subscriptionStateChanged "subscribed"), none⟩] else []
    if !s.cfg.enableL2 ∧ !s.live then
      ({ s with live := true }, subscribed ++ [⟨.markLive, none⟩], .ok ())
    else (s, subscribed, .ok ())
  | .ignored => (s, [], .ok ())
  | .unknown =>
    if mode.routed ≠ none then
      (s, [], .error (.protocol "unknown Binance USD-M routed v4 message"))
    else (s, [⟨.emitSystem (.unknownMessage "binance-usdm"), none⟩], .ok ())

variable (C : UsdmCodec)

/-- The response body, decoded as the mode requires. -/
def decodeBody (mode : UsdmMode) (body : Bytes) :
    Except String (UsdmDecoded × Option SourceTimes) :=
  if mode.routed ≠ none then
    (C.decodeRoutedV4Text body).map fun (decoded, times) => (decoded, some times)
  else (C.decodeText body).map fun decoded => (decoded, none)

/-- A body that is not what the request asked for. -/
def badBody (mode : UsdmMode) (s : BinanceSession) (what : String) : Result :=
  if mode.routed ≠ none then (s, [], .error (.parse ("bad routed v4 " ++ what ++ " body")))
  else (s, [⟨.emitSystem (.parseError ("bad usdm " ++ what ++ " body")), none⟩], .ok ())

/-- Source: `HttpResponse` arm of `on_input`; a routed session keeps a request pending until its
response is accepted -/
def onHttpResponse (mode : UsdmMode) (s : BinanceSession) (requestId : UInt64)
    (response : HttpResponse) (received : FrameStamp) : Result :=
  match s.pendingHttp[requestId]? with
  | none =>
    if mode.routed ≠ none then
      (s, [], .error (.protocol
        ("unknown or retired routed v4 HTTP request id " ++ toString requestId.toNat)))
    else (s, [], .ok ())
  | some (symbol, kind) =>
    let retired := { s with pendingHttp := s.pendingHttp.erase requestId }
    let s := if mode.routed = none then retired else s
    if response.status ≠ 200 then
      let detail := toString response.status.toNat ++ " for " ++ kind.debug
      if mode.routed ≠ none then (s, [], .error (.protocol ("routed v4 HTTP " ++ detail)))
      else
        (s, ⟨.emitSystem (.parseError ("usdm HTTP " ++ detail)), none⟩ ::
          (if kind = .depthSnapshot then [⟨.reconnect .protocol, none⟩] else []), .ok ())
    else
      match kind with
      | .depthSnapshot =>
        match decodeBody C mode response.body with
        | .ok (.depthSnapshot lastUpdateId bids asks, routedTimes) =>
          let times := routedTimes.getD ⟨none, none⟩
          if mode.routed ≠ none ∧ (lastUpdateId > maxI64 ∨
              !times.eventTimeMs.any validRoutedSourceMs ∨
              !times.transactionTimeMs.any validRoutedSourceMs) then
            (s, [], .error (.protocol
              "routed v4 depth snapshot requires bounded E, T, and lastUpdateId"))
          else
            succeed <| applySnapshot (rules mode) (retireRequest retired symbol) symbol
              lastUpdateId times bids asks received
        | _ => badBody mode s "depth snapshot"
      | .openInterest =>
        match decodeBody C mode response.body with
        | .ok (.openInterest symbol quantity ts, routedTimes) =>
          let decoded := UsdmDecoded.openInterest symbol quantity ts
          match routedTimes.elim (.ok ()) (validateRoutedWs mode decoded) with
          | .error e => (s, [], .error e)
          | .ok () => handleDecoded mode retired decoded routedTimes received
        | _ => badBody mode s "openInterest"

/-- The stream names subscribed on connect. -/
def subscribeParams (mode : UsdmMode) (cfg : BinanceSessionConfig) : List String :=
  cfg.symbols.flatMap fun s =>
    let lower := s.toLower
    match mode.routed with
    | some .publicRoute => [lower ++ "@bookTicker", lower ++ "@depth@100ms"]
    | some .marketRoute => [lower ++ "@aggTrade", lower ++ "@forceOrder"]
    | none =>
      [lower ++ "@trade", lower ++ "@bookTicker", lower ++ "@ticker", lower ++ "@markPrice@1s",
        lower ++ "@indexPrice@1s", lower ++ "@forceOrder"] ++
        (if cfg.enableL2 then [lower ++ "@depth@100ms"] else []) ++
        cfg.candleIntervals.map fun interval => lower ++ "@kline_" ++ klineStreamInterval interval

/-- `poll_open_interest_all` and `schedule_oi_timer`, unless the route is the public one. -/
def pollUnlessPublic (mode : UsdmMode) (s : BinanceSession) (now : TimestampNs) :
    BinanceSession × List Push :=
  if mode.routed = some .publicRoute then (s, [])
  else
    let (s, pushes) := pollOpenInterestAll (requestOpenInterest mode) s s.cfg.symbols
    (s, pushes ++ [scheduleOiTimer now])

/-- A push of the legacy session only. -/
def legacyOnly (mode : UsdmMode) (action : SessionAction) : List Push :=
  if mode.routed = none then [⟨action, none⟩] else []

/-- Source: `on_input` over the depth-book core -/
def onInputCore (mode : UsdmMode) (s : BinanceSession) : SessionInput → Result
  | .connected now =>
    let s := { s with live := false }
    let opening : List Push :=
      ⟨.sendText (C.subscribeBody (subscribeParams mode s.cfg)), none⟩ ::
        legacyOnly mode (.emitSystem (.connectionStateChanged "connected"))
    let (s, polls) := pollUnlessPublic mode s now
    if s.cfg.enableL2 then
      let (s, requests) := requestAll (rules mode) s s.cfg.symbols
      (s, opening ++ polls ++ requests, .ok ())
    else ({ s with live := true }, opening ++ polls ++ [⟨.markLive, none⟩], .ok ())
  | .disconnected _ _ =>
    ({ s with live := false, pendingHttp := ∅ }.invalidateAll,
      (if mode.routed = some .publicRoute then [] else [⟨.cancelTimer oiTimerId, none⟩]) ++
        legacyOnly mode (.emitSystem (.connectionStateChanged "disconnected")), .ok ())
  | .textFrame bytes received =>
    if mode.routed ≠ none then
      match C.decodeRoutedV4Text bytes with
      | .error e => (s, [], .error (.parse e))
      | .ok (decoded, times) =>
        match validateRoutedWs mode decoded times with
        | .error e => (s, [], .error e)
        | .ok () => handleDecoded mode s decoded (some times) received
    else
      match C.decodeText bytes with
      | .ok decoded => handleDecoded mode s decoded none received
      | .error e => (s, [⟨.emitSystem (.parseError e), none⟩], .ok ())
  | .httpResponse requestId response received =>
    onHttpResponse C mode s requestId response received
  | .binaryFrame _ _ =>
    if mode.routed ≠ none then
      (s, [], .error (.protocol "binary frame is not admitted by Binance USD-M routed v4"))
    else (s, [⟨.emitSystem (.unknownMessage "binary"), none⟩], .ok ())
  | .pong _ _ => (s, [], .ok ())
  | .timer timerId now =>
    if timerId = oiTimerId then succeed (pollUnlessPublic mode s now) else (s, [], .ok ())
  | .control .stop => (s, [⟨.stopSession .control, none⟩], .ok ())
  | .control (.resync id) =>
    match s.cfg.instrumentIds.toList.find? (fun (_, iid) => iid = id) with
    | none => (s, [], .ok ())
    | some (symbol, _) =>
      let s := s.resetBuffer symbol
      let (s, requests) :=
        if mode.routed ≠ some .marketRoute ∧ s.cfg.enableL2 then
          requestDepthSnapshot (rules mode) s symbol
        else (s, [])
      let (s, polls) :=
        if mode.routed ≠ some .publicRoute then requestOpenInterest mode s symbol else (s, [])
      (s, requests ++ polls, .ok ())
  | .control _ => (s, [], .ok ())

/-- The symbol whose depth snapshot the input delivers: the one whose request is answered, or the
first configured one for a snapshot frame. -/
def snapshotSymbol (mode : UsdmMode) (s : BinanceSession) :
    SessionInput → Option String
  | .textFrame bytes _ =>
    match decodeBody C mode bytes with
    | .ok (.depthSnapshot _ _ _, _) => s.cfg.symbols.head?
    | _ => none
  | .httpResponse requestId response _ =>
    match s.pendingHttp[requestId]? with
    | some (symbol, .depthSnapshot) =>
      if response.status ≠ 200 then none
      else
        match decodeBody C mode response.body with
        | .ok (.depthSnapshot _ _ _, _) => some symbol
        | _ => none
    | _ => none
  | _ => none

/-- **The input handler.** -/
def onInput (s : State) (input : SessionInput) : State × List Push × Except AdapterError Unit :=
  let (core, pushes, result) := onInputCore C s.mode s.core input
  ({ s with core }, pushes, result)

/-- The session as the engine drives it. -/
def machine : SessionMachine State where
  onInput s input :=
    let (s, pushes, result) := onInput C s input
    ⟨s, pushes.map (·.action), result⟩

/-- A session and everything it pushed, after any inputs. -/
def run (s : State) (inputs : List SessionInput) : State × List Push :=
  runLog (fun s input => ((onInput C s input).1, (onInput C s input).2.1)) s inputs

/-- How a session comes to be. -/
inductive Built (catalog : List Instrument) (cfg : BinanceSessionConfig) : State → Prop
  | legacy : Built catalog cfg (new catalog cfg)
  | routed {spec : SessionSpec} {route : RouteV4} {s : State}
      (h : tryNewRoutedV4 spec catalog cfg route = .ok s) : Built catalog cfg s

/-! ## The handler only makes moves -/

section Moves

variable {mode : UsdmMode}

lemma requestOpenInterest_moves (s : BinanceSession) (symbol : String) :
    Moves (rules mode) none s (requestOpenInterest mode s symbol) := by
  unfold requestOpenInterest
  split_ifs
  · exact .refl s
  · exact allocOpenInterest_moves _ s symbol

lemma pollUnlessPublic_moves (mode : UsdmMode) (s : BinanceSession) (now : TimestampNs) :
    Moves (rules mode) none s (pollUnlessPublic mode s now) := by
  unfold pollUnlessPublic
  split_ifs
  · exact .refl s
  · have hm := pollOpenInterestAll_moves (R := rules mode) (requestOpenInterest mode)
      requestOpenInterest_moves s.cfg.symbols s
    exact hm.seq (.ofQuiet rfl rfl (by simp [scheduleOiTimer]))

lemma quiet_legacyOnly {action : SessionAction} (hsilent : ¬ action.ReportsBook)
    (hlive : action ≠ .markLive) : ∀ p ∈ legacyOnly mode action, p.Quiet := by
  intro p hp
  unfold legacyOnly at hp
  split_ifs at hp
  · rw [List.mem_singleton.mp hp]
    exact ⟨⟨rfl, hsilent⟩, hlive⟩
  · simp at hp

lemma handleDecoded_moves (mode : UsdmMode) (s : BinanceSession) (hl2 : s.cfg.enableL2 = true)
    (decoded : UsdmDecoded) (times : Option SourceTimes) (received : FrameStamp) :
    Moves (rules mode) (match decoded with
      | .depthSnapshot _ _ _ => s.cfg.symbols.head?
      | _ => none) s ((handleDecoded mode s decoded times received).1,
      (handleDecoded mode s decoded times received).2.1) := by
  cases decoded with
  | aggTrade | quote | ticker24h | candle | markPrice | indexPrice | openInterest | forceOrder =>
    exact emitUnmarked_moves _ _ _ _ _ _ _ (by simp)
  | depthUpdate => exact onDepthUpdate_moves (rules_lawful mode) _ _ _ _ _ _ _ _ _
  | depthSnapshot =>
    simp only [handleDecoded]
    rcases s.cfg.symbols.head? with _ | symbol
    · exact .refl s
    · exact applySnapshot_moves (rules_lawful mode) _ _ _ _ _ _ _
  | subscribeAck =>
    simp only [handleDecoded, hl2, Bool.not_true, Bool.false_eq_true, false_and, if_false]
    exact .ofQuiet rfl rfl (quiet_legacyOnly (by simp) (by simp))
  | ignored => exact .refl s
  | unknown =>
    simp only [handleDecoded]
    split_ifs
    · exact .refl s
    · exact .ofQuiet rfl rfl (by simp)

lemma badBody_moves {target : Option String} (s : BinanceSession) (what : String) :
    Moves (rules mode) target s ((badBody mode s what).1, (badBody mode s what).2.1) := by
  unfold badBody
  split_ifs
  · exact .refl s
  · exact .ofQuiet rfl rfl (by simp)

lemma onHttpResponse_moves (C : UsdmCodec) (s : BinanceSession)
    (requestId : UInt64) (response : HttpResponse) (received : FrameStamp) :
    Moves (rules mode) (snapshotSymbol C mode s (.httpResponse requestId response received)) s
      ((onHttpResponse C mode s requestId response received).1,
        (onHttpResponse C mode s requestId response received).2.1) := by
  simp only [onHttpResponse, snapshotSymbol]
  rcases s.pendingHttp[requestId]? with _ | ⟨symbol, kind⟩
  · simp only
    split_ifs
    · exact .refl s
    · exact .refl s
  simp only
  -- the request map is no part of what moves
  set retired : BinanceSession := { s with pendingHttp := s.pendingHttp.erase requestId } with hr
  set s₁ := if mode.routed = none then retired else s with hs₁
  have hbooks : s₁.books = s.books ∧ s₁.cfg = s.cfg := by
    rw [hs₁]
    split_ifs <;> exact ⟨rfl, rfl⟩
  refine Moves.congr hbooks.1 hbooks.2 ?_
  have hretired : ∀ {target r}, Moves (rules mode) target retired r →
      Moves (rules mode) target s₁ r := by
    intro target r h
    exact Moves.congr (t := retired) hbooks.1.symm hbooks.2.symm h
  split_ifs with hstatus hrouted hsnap
  · exact .refl s₁
  · exact .ofQuiet rfl rfl (by simp)
  · exact .ofQuiet rfl rfl (by simp)
  · rcases kind with _ | _
    · simp only
      split
      · split_ifs
        · exact .refl s₁
        · refine hretired ?_
          exact (retireRequest_moves retired symbol).trans (by simp)
            (applySnapshot_moves (rules_lawful mode) _ _ _ _ _ _ _)
      · exact badBody_moves s₁ _
    · simp only
      split
      · split
        · exact .refl s₁
        · exact hretired (emitUnmarked_moves _ _ _ _ _ _ _ (by simp))
      · exact badBody_moves s₁ _

/-- **Whatever the input, the books only make moves.** A routed market session keeps no books. -/
theorem onInputCore_moves (mode : UsdmMode) (hmode : mode.routed ≠ some .marketRoute) (C : UsdmCodec)
    (s : BinanceSession) (hl2 : s.cfg.enableL2 = true) (input : SessionInput) :
    Moves (rules mode) (snapshotSymbol C mode s input) s
      ((onInputCore C mode s input).1, (onInputCore C mode s input).2.1) := by
  cases input with
  | connected now =>
    have hpoll := pollUnlessPublic_moves mode { s with live := false } now
    have hcfg : (pollUnlessPublic mode { s with live := false } now).1.cfg = s.cfg := hpoll.cfg
    simp only [onInputCore]
    rw [if_pos (by rw [hcfg]; exact hl2)]
    refine Moves.congr (t := { s with live := false }) rfl rfl ?_
    rw [List.append_assoc]
    refine .afterQuiet _ ?_ (hpoll.seq (requestAll_moves _ _))
    intro p hp
    rcases List.mem_cons.mp hp with rfl | hp
    · simp
    · exact quiet_legacyOnly (by simp) (by simp) p hp
  | disconnected =>
    refine Moves.congr (t := { s with live := false, pendingHttp := ∅ }) rfl rfl ?_
    refine (invalidateAll_moves _).seq (.ofQuiet rfl rfl ?_)
    intro p hp
    rcases List.mem_append.mp hp with hp | hp
    · split_ifs at hp
      · simp at hp
      · rw [List.mem_singleton.mp hp]
        simp
    · exact quiet_legacyOnly (by simp) (by simp) p hp
  | textFrame bytes received =>
    simp only [onInputCore, snapshotSymbol, decodeBody]
    split_ifs
    · rcases C.decodeRoutedV4Text bytes with e | ⟨decoded, times⟩
      · exact .refl s
      · simp only [Except.map]
        rcases validateRoutedWs mode decoded times with e | ⟨⟩
        · exact .refl s
        · have hm := handleDecoded_moves mode s hl2 decoded (some times) received
          cases decoded <;> exact hm
    · rcases C.decodeText bytes with e | decoded
      · exact .ofQuiet rfl rfl (by simp)
      · have hm := handleDecoded_moves mode s hl2 decoded none received
        cases decoded <;> exact hm
  | httpResponse => exact onHttpResponse_moves C s _ _ _
  | binaryFrame =>
    simp only [onInputCore]
    split_ifs
    · exact .refl s
    · exact .ofQuiet rfl rfl (by simp)
  | pong => exact .refl s
  | timer =>
    simp only [onInputCore]
    split_ifs
    · exact pollUnlessPublic_moves mode s _
    · exact .refl s
  | control command =>
    cases command with
    | stop => exact .ofQuiet rfl rfl (by simp [onInputCore, Push.Quiet.iff])
    | resync id =>
      simp only [onInputCore]
      split
      · exact .refl s
      · rename_i symbol _ _
        rw [if_pos (show _ ∧ _ from ⟨hmode, by rw [cfg_resetBuffer]; exact hl2⟩)]
        have hreset := resetRequest_moves (R := rules mode) s symbol
        generalize requestDepthSnapshot (rules mode) (s.resetBuffer symbol) symbol = r at *
        refine hreset.seq ?_
        split_ifs
        · exact requestOpenInterest_moves _ symbol
        · exact .refl _
    | subscribe | unsubscribe | replace => exact .refl s

end Moves

/-- A session with books is not a routed market session, and its books start as fresh ones. -/
lemma Built.spec {catalog : List Instrument} {cfg : BinanceSessionConfig} {s : State}
    (h : Built catalog cfg s) (hl2 : cfg.enableL2 = true) :
    s.core = BinanceSession.new (rules s.mode) catalog cfg ∧
      s.mode.routed ≠ some .marketRoute := by
  cases h with
  | legacy => exact ⟨rfl, by simp [new, UsdmMode.routed]⟩
  | routed h =>
    unfold tryNewRoutedV4 at h
    split_ifs at h with hbad
    rw [← Except.ok.inj h]
    refine ⟨rfl, ?_⟩
    simp only [not_or, ne_eq, not_not] at hbad
    have hroute := hbad.2.2.2.2.2.2.2.2
    rw [hl2] at hroute
    have := of_decide_eq_true hroute.symm
    simp [UsdmMode.routed, this]

/-- **Every run is a sequence of moves** from the session's fresh books. -/
theorem run_moves {catalog : List Instrument} {cfg : BinanceSessionConfig} {s : State}
    (hs : Built catalog cfg s) (hl2 : cfg.enableL2 = true) (inputs : List SessionInput) :
    SessionMoves (rules s.mode) cfg.instrumentIds
      (BinanceSession.new (rules s.mode) catalog cfg).books (run C s inputs).1.core.books
      (run C s inputs).2 := by
  obtain ⟨hcore, hmode⟩ := hs.spec hl2
  have h := runLog_moves (R := rules s.mode) State.core
    (fun t => t.mode = s.mode ∧ t.core.cfg.enableL2 = true)
    (fun t input => ((onInput C t input).1, (onInput C t input).2.1))
    (fun t input => snapshotSymbol C t.mode t.core input) ?_
    (s := s) ⟨rfl, by rw [hcore]; exact hl2⟩ inputs
  · rw [hcore] at h
    exact h
  · rintro t input ⟨htm, htl⟩
    have hm := onInputCore_moves t.mode (by rw [htm]; exact hmode) C t.core htl input
    refine ⟨⟨htm, (congrArg _ hm.cfg).trans htl⟩, ?_⟩
    rw [← htm]
    exact hm

end BinanceUsdmSession

end Marketfeed
