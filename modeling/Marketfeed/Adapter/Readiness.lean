import Marketfeed.Binance.Coinm
import Marketfeed.Binance.Spot
import Marketfeed.Binance.Usdm
import Marketfeed.Okx.Session

/-!
# When a session announces readiness

The Binance and OKX sessions push `MarkLive` as soon as the book they have just loaded is live; they
do not look at the other books. What a step can do is said once for all of them (`Announces`): a step
that announces readiness loads the book of one symbol, its target, and leaves the others alone.
-/

namespace Marketfeed

/-- The synchronisation states of a session's books, by symbol. -/
abbrev BookStates := String → Option SyncState

/-- Every configured symbol has a live book. -/
def AllLive (ids : Std.ExtTreeMap String InstrumentId compare) (states : BookStates) : Prop :=
  ∀ symbol ∈ ids, states symbol = some .live

/-- Every configured symbol but the target has a live book. Without a target nothing is asked. -/
def OthersLive (ids : Std.ExtTreeMap String InstrumentId compare) (target : Option String)
    (states : BookStates) : Prop :=
  ∀ symbol, target = some symbol → ∀ other ∈ ids, other ≠ symbol → states other = some .live

/-- **What a step announces.** A step with a target leaves the other books alone; readiness is
announced only by such a step, and only when the target's book ends live. -/
structure Announces (target : Option String) (before after : BookStates)
    (actions : List SessionAction) : Prop where
  frame : ∀ symbol, target = some symbol → ∀ other, other ≠ symbol → after other = before other
  ready : .markLive ∈ actions → ∃ symbol, target = some symbol ∧ after symbol = some .live

variable {target : Option String} {actions : List SessionAction}

lemma Announces.allLive {ids : Std.ExtTreeMap String InstrumentId compare}
    {before after : BookStates} (h : Announces target before after actions)
    (hothers : OthersLive ids target before) (hlive : .markLive ∈ actions) : AllLive ids after := by
  obtain ⟨symbol, ht, hafter⟩ := h.ready hlive
  intro other hother
  by_cases heq : other = symbol
  · rw [heq]
    exact hafter
  · rw [h.frame symbol ht other heq]
    exact hothers symbol ht other hother heq

lemma Announces.silent {before after : BookStates} (h : .markLive ∉ actions) :
    Announces none before after actions where
  frame := fun _ ht => by cases ht
  ready := fun hlive => absurd hlive h

lemma Announces.unchanged {states : BookStates} (h : .markLive ∉ actions) :
    Announces target states states actions where
  frame := fun _ _ _ _ => rfl
  ready := fun hlive => absurd hlive h

/-- **The readiness rule of a session**: in every run, a step that pushes `MarkLive` ends with every
configured book live, if the books other than the step's target were live before it. -/
def SessionMachine.AnnouncesAllLive {σ : Type} (M : SessionMachine σ) (init : σ)
    (ids : Std.ExtTreeMap String InstrumentId compare) (states : σ → BookStates)
    (target : σ → SessionInput → Option String) : Prop :=
  ∀ (inputs : List SessionInput) (input : SessionInput),
    OthersLive ids (target (M.run init inputs) input) (states (M.run init inputs)) →
      .markLive ∈ (M.onInput (M.run init inputs) input).actions →
        AllLive ids (states (M.onInput (M.run init inputs) input).state)

/-- A session whose every step announces as `Announces` says, on the states it reaches. -/
lemma SessionMachine.announcesAllLive_of_step {σ : Type} {M : SessionMachine σ} {init : σ}
    {ids : Std.ExtTreeMap String InstrumentId compare} {states : σ → BookStates}
    {target : σ → SessionInput → Option String} (ok : σ → Prop) (h0 : ok init)
    (hstep : ∀ s input, ok s → ok (M.onInput s input).state ∧
      Announces (target s input) (states s) (states (M.onInput s input).state)
        (M.onInput s input).actions) :
    M.AnnouncesAllLive init ids states target := by
  intro inputs input hothers hlive
  have hok : ok (M.run init inputs) :=
    run_invariant' (fun s x h => (hstep s x h).1) h0 inputs
  exact (hstep _ input hok).2.allLive hothers hlive

/-! ## The Binance sessions -/

/-- The states of the books of a Binance session. -/
def BinanceSession.bookStates (s : BinanceSession) : BookStates := fun symbol =>
  s.books[symbol]?.map (·.sync.state)

/-- A function that only makes moves announces readiness only for its target. -/
lemma Moves.announces {R : DepthRules} {s : BinanceSession} {r : BinanceSession × List Push}
    (h : Moves R target s r) :
    Announces target s.bookStates r.1.bookStates (r.2.map (·.action)) where
  frame := fun symbol ht other hne => by
    simp only [BinanceSession.bookStates, h.frame symbol ht other hne]
  ready := by
    intro hlive
    obtain ⟨p, hp, hmark⟩ := List.mem_map.mp hlive
    obtain ⟨symbol, b, ht, hb, hstate⟩ := h.ready ⟨p, hp, hmark⟩
    exact ⟨symbol, ht, by simp [BinanceSession.bookStates, hb, hstate]⟩

/-! ## The OKX session -/

namespace OkxSession

variable (s : State)

/-- The states of the books of an OKX session. -/
def bookStates : BookStates := fun symbol => s.books[symbol]?.map (·.state)

/-- The symbol whose snapshot the input delivers to a session that has not announced readiness. -/
def snapshotSymbol (C : OkxCodec) (s : State) : SessionInput → Option String
  | .textFrame bytes _ =>
    match C.decodeText bytes with
    | .ok (.bookSnapshot instId _ _ _ _ checksum) =>
      if checksum ≠ 0 ∨ s.live then none else some instId
    | _ => none
  | _ => none

lemma bookStates_setBook_of_ne {instId other : String} (h : other ≠ instId)
    (sync : BookSynchronizer) : bookStates (setBook s instId sync) other = bookStates s other := by
  unfold bookStates setBook
  rw [Std.ExtTreeMap.getElem?_insert, if_neg]
  exact fun he => h (Std.LawfulEqCmp.eq_of_compare he).symm

/-- A snapshot leaves the configuration and the other books alone, and a session that announces
readiness has just made the book live. -/
lemma applyBookSnapshot_announces (instId : String) (bids asks : List (Price × Quantity))
    (seqId : UInt64) (ts : Int) (received : FrameStamp) :
    (applyBookSnapshot s instId bids asks seqId ts received).1.cfg = s.cfg ∧
      Announces (if s.live then none else some instId) (bookStates s)
        (bookStates (applyBookSnapshot s instId bids asks seqId ts received).1)
        (applyBookSnapshot s instId bids asks seqId ts received).2 := by
  obtain ⟨target, htarget⟩ : ∃ target, target = if s.live then none else some instId := ⟨_, rfl⟩
  have hset : ∀ sync symbol, target = some symbol → ∀ other, other ≠ symbol →
      bookStates (setBook s instId sync) other = bookStates s other := by
    intro sync symbol ht other hne
    rw [htarget] at ht
    split_ifs at ht
    cases ht
    exact bookStates_setBook_of_ne s hne sync
  rw [← htarget]
  unfold applyBookSnapshot
  split_ifs with hl2
  · exact ⟨rfl, .unchanged (by simp)⟩
  rcases hb : s.books[instId]? with _ | sync
  · exact ⟨rfl, .unchanged (by simp)⟩
  simp only
  rcases happ : sync.beginResync.requestSnapshot.book.applySnapshot bids asks (some seqId) with
    ⟨book, err | ⟨⟩⟩
  · exact ⟨rfl, hset _, by simp [faultActions]⟩
  · by_cases hlive : s.live = true
    · simp only [emit, setBook, hlive, if_true]
      exact ⟨trivial, hset _, by simp⟩
    · simp only [emit, setBook, hlive]
      refine ⟨rfl, hset _, fun _ => ⟨instId, ?_, by simp [bookStates]⟩⟩
      rw [htarget]
      exact if_neg hlive

lemma rejectLegacyChecksum_silent (instId : String) (checksum : Int) :
    (rejectLegacyChecksum s instId checksum).1.cfg = s.cfg ∧
      .markLive ∉ (rejectLegacyChecksum s instId checksum).2 := by
  unfold rejectLegacyChecksum
  rcases s.books[instId]? with _ | sync
  · exact ⟨rfl, by simp⟩
  · exact ⟨rfl, by simp [faultActions]⟩

lemma applyBookUpdate_silent (instId : String) (bids asks : List (Price × Quantity))
    (prevSeqId seqId : UInt64) (ts : Int) (received : FrameStamp) :
    (applyBookUpdate s instId bids asks prevSeqId seqId ts received).1.cfg = s.cfg ∧
      .markLive ∉ (applyBookUpdate s instId bids asks prevSeqId seqId ts received).2 := by
  unfold applyBookUpdate
  split_ifs with hl2
  · exact ⟨rfl, by simp⟩
  rcases s.books[instId]? with _ | sync
  · exact ⟨rfl, by simp⟩
  simp only
  split_ifs with hstate hprev
  · exact ⟨rfl, by simp⟩
  · exact ⟨rfl, by simp [faultActions]⟩
  · rcases sync.book.applyChangesAtomic (levelChanges bids asks) with ⟨book, err | ⟨⟩⟩
    · exact ⟨rfl, by simp [faultActions]⟩
    · exact ⟨rfl, by simp [emit]⟩

lemma emitOnly_silent (received : FrameStamp) (seq : Option SequenceRange)
    (rows : List (Option InstrumentId × Int × MarketEvent)) :
    (emitOnly s received seq rows).1.cfg = s.cfg ∧ .markLive ∉ (emitOnly s received seq rows).2 :=
  ⟨rfl, by simp [emitOnly, emit]⟩

/-- **What an input announces.** Only a snapshot frame has a target. -/
theorem onInput_announces (C : OkxCodec) (s : State) (hl2 : s.cfg.enableL2 = true)
    (input : SessionInput) :
    (onInput C s input).1.cfg = s.cfg ∧
      Announces (snapshotSymbol C s input) (bookStates s) (bookStates (onInput C s input).1)
        (onInput C s input).2 := by
  have hsilent : ∀ {r : State × List SessionAction}, r.1.cfg = s.cfg ∧ .markLive ∉ r.2 →
      r.1.cfg = s.cfg ∧ Announces none (bookStates s) (bookStates r.1) r.2 :=
    fun h => ⟨h.1, .silent h.2⟩
  cases input with
  | connected now =>
    simp only [onInput, hl2, if_true]
    exact ⟨trivial, .silent (by simp [schedulePing])⟩
  | disconnected => exact ⟨rfl, .silent (by simp [onInput])⟩
  | textFrame bytes received =>
    simp only [onInput, snapshotSymbol]
    rcases C.decodeText bytes with e | decoded
    · exact hsilent ⟨rfl, by simp⟩
    cases decoded with
    | bookSnapshot instId bids asks seqId ts checksum =>
      by_cases hsum : checksum = 0
      · simp only [handleDecoded, hsum, ne_eq, not_true_eq_false, false_or, if_false]
        exact applyBookSnapshot_announces s instId bids asks seqId ts received
      · simp only [handleDecoded, hsum, ne_eq, not_false_eq_true, true_or, if_true]
        exact hsilent (rejectLegacyChecksum_silent s instId checksum)
    | bookUpdate instId bids asks prevSeqId seqId ts checksum =>
      simp only [handleDecoded]
      split_ifs
      · exact hsilent (rejectLegacyChecksum_silent s instId checksum)
      · exact hsilent (applyBookUpdate_silent s instId bids asks prevSeqId seqId ts received)
    | liquidations rows =>
      simp only [handleDecoded]
      split_ifs
      · exact hsilent ⟨rfl, by simp⟩
      · exact hsilent (emitOnly_silent _ _ _ _)
    | subscribeAck =>
      simp only [handleDecoded, hl2, Bool.not_true, Bool.false_eq_true, false_and, if_false]
      exact ⟨trivial, .silent (by simp)⟩
    | ping | pong | error | unknown => exact hsilent ⟨rfl, by simp [handleDecoded]⟩
    | _ => exact hsilent (emitOnly_silent _ _ _ _)
  | timer timerId now =>
    simp only [onInput]
    split_ifs
    · exact hsilent ⟨rfl, by simp [schedulePing]⟩
    · exact hsilent ⟨rfl, by simp⟩
  | control command =>
    cases command with
    | resync id =>
      simp only [onInput]
      split_ifs
      · exact hsilent ⟨rfl, by simp⟩
      · exact hsilent ⟨rfl, by simp⟩
    | _ => exact hsilent ⟨rfl, by simp [onInput]⟩
  | _ => exact hsilent ⟨rfl, by simp [onInput]⟩

end OkxSession

/-! ## The four sessions -/

/-- **Readiness means every book, if the other books are live already.** In every run of a Binance
spot, USD-M or COIN-M session or of an OKX session with books, a step that pushes `MarkLive` ends
with the books of all configured symbols live, provided that a depth snapshot it delivers finds the
books of the other symbols live. For OKX only the snapshots of a session that has not announced
readiness matter. -/
theorem markLive_allLive (catalog : List Instrument) (cfg : BinanceSessionConfig) :
    (∀ C : BinanceSpotSession.SpotCodec, cfg.enableL2 = true →
        (BinanceSpotSession.machine C).AnnouncesAllLive
          (BinanceSession.new BinanceSpotSession.rules catalog cfg) cfg.instrumentIds
          BinanceSession.bookStates (BinanceSpotSession.snapshotSymbol C)) ∧
    (∀ (C : BinanceUsdmSession.UsdmCodec) (init : BinanceUsdmSession.State),
      BinanceUsdmSession.Built catalog cfg init → cfg.enableL2 = true →
        (BinanceUsdmSession.machine C).AnnouncesAllLive init cfg.instrumentIds
          (fun s => s.core.bookStates)
          (fun s => BinanceUsdmSession.snapshotSymbol C s.mode s.core)) ∧
    (∀ C : BinanceCoinmSession.CoinmCodec, cfg.enableL2 = true →
        (BinanceCoinmSession.machine C).AnnouncesAllLive
          (BinanceSession.new BinanceCoinmSession.rules catalog cfg) cfg.instrumentIds
          BinanceSession.bookStates (BinanceCoinmSession.snapshotSymbol C)) ∧
    ∀ (C : OkxSession.OkxCodec) (endpointName : String) (okx : OkxSession.OkxSessionConfig),
      okx.enableL2 = true →
        (OkxSession.machine C).AnnouncesAllLive (OkxSession.new endpointName okx) okx.instrumentIds
          OkxSession.bookStates (OkxSession.snapshotSymbol C) := by
  refine ⟨fun C hl2 => ?_, fun C init hinit hl2 => ?_, fun C hl2 => ?_,
    fun C endpointName okx hl2 => ?_⟩
  · refine SessionMachine.announcesAllLive_of_step (fun s => s.cfg = cfg) rfl fun s input hs => ?_
    have hm := BinanceSpotSession.onInput_moves C s (by rw [hs]; exact hl2) input
    exact ⟨hm.cfg.trans hs, hm.announces⟩
  · obtain ⟨hcore, hmode⟩ := hinit.spec hl2
    refine SessionMachine.announcesAllLive_of_step
      (fun s => s.mode.routed ≠ some .marketRoute ∧ s.core.cfg.enableL2 = true)
      ⟨hmode, by rw [hcore]; exact hl2⟩ fun s input hs => ?_
    have hm := BinanceUsdmSession.onInputCore_moves s.mode hs.1 C s.core hs.2 input
    exact ⟨⟨hs.1, (congrArg _ hm.cfg).trans hs.2⟩, hm.announces⟩
  · refine SessionMachine.announcesAllLive_of_step (fun s => s.cfg = cfg) rfl fun s input hs => ?_
    have hm := BinanceCoinmSession.onInput_moves C s (by rw [hs]; exact hl2) input
    exact ⟨hm.cfg.trans hs, hm.announces⟩
  · refine SessionMachine.announcesAllLive_of_step (fun s => s.cfg = okx) rfl fun s input hs => ?_
    obtain ⟨hcfg, ha⟩ := OkxSession.onInput_announces C s (by rw [hs]; exact hl2) input
    exact ⟨hcfg.trans hs, ha⟩

/-! ## Two symbols -/

/-- A codec that reads the one snapshot. -/
def snapshotSpotCodec : BinanceSpotSession.SpotCodec where
  decodeText := decodeAs [(BinanceSession.snapshotText,
    .depthSnapshot 10 [(⟨⟨100, 0⟩⟩, ⟨⟨1, 0⟩⟩)] [(⟨⟨101, 0⟩⟩, ⟨⟨1, 0⟩⟩)])]
  subscribeBody _ := []

@[inherit_doc snapshotSpotCodec]
def snapshotUsdmCodec : BinanceUsdmSession.UsdmCodec where
  decodeText := decodeAs [(BinanceSession.snapshotText,
    .depthSnapshot 10 [(⟨⟨100, 0⟩⟩, ⟨⟨1, 0⟩⟩)] [(⟨⟨101, 0⟩⟩, ⟨⟨1, 0⟩⟩)])]
  decodeRoutedV4Text _ := .error "legacy only"
  subscribeBody _ := []

@[inherit_doc snapshotSpotCodec]
def snapshotCoinmCodec : BinanceCoinmSession.CoinmCodec where
  decodeText := decodeAs [(BinanceSession.snapshotText,
    .depthSnapshot 10 [(⟨⟨100, 0⟩⟩, ⟨⟨1, 0⟩⟩)] [(⟨⟨101, 0⟩⟩, ⟨⟨1, 0⟩⟩)])]
  subscribeBody _ := []

/-- The snapshot of the first symbol on the `books` channel. -/
def okxSnapshotText : String :=
  "\x7b\"arg\":\x7b\"channel\":\"books\",\"instId\":\"A\"\x7d,\"action\":\"snapshot\",\"data\":[" ++
    "\x7b\"asks\":[[\"101\",\"1\",\"0\",\"1\"]],\"bids\":[[\"100\",\"1\",\"0\",\"1\"]],\"ts\":\"0\"," ++
    "\"checksum\":0,\"prevSeqId\":-1,\"seqId\":10\x7d]\x7d"

@[inherit_doc snapshotSpotCodec]
def snapshotOkxCodec : OkxSession.OkxCodec where
  decodeText := decodeAs [(okxSnapshotText,
    .bookSnapshot "A" [(⟨⟨100, 0⟩⟩, ⟨⟨1, 0⟩⟩)] [(⟨⟨101, 0⟩⟩, ⟨⟨1, 0⟩⟩)] 10 0 0)]
  subscribeBody _ := []
  debugText _ := ""

def twoIds : Std.ExtTreeMap String InstrumentId compare :=
  Std.ExtTreeMap.ofList [("A", ⟨1⟩), ("B", ⟨2⟩)] compare

def twoSymbols : BinanceSessionConfig where
  symbols := ["A", "B"]
  instrumentIds := twoIds
  connection := ⟨1⟩
  session := ⟨1⟩
  enableL2 := true
  candleIntervals := []
  priceScale := 0
  qtyScale := 0

def twoOkxSymbols : OkxSession.OkxSessionConfig where
  symbols := ["A", "B"]
  instrumentIds := twoIds
  connection := ⟨1⟩
  session := ⟨1⟩
  enableL2 := true
  priceScale := 0
  qtyScale := 0
  bookScales := ∅
  venue := ⟨8⟩
  subscribeMarkFunding := false
  candleIntervals := []

/-- The answer to a snapshot request. -/
def snapshotAnswer (requestId : UInt64) : SessionInput :=
  .httpResponse requestId ⟨200, [], utf8 BinanceSession.snapshotText⟩ ⟨⟨0⟩, 0⟩

/-- The step on the first input after a connect. -/
def afterConnect {σ : Type} (M : SessionMachine σ) (init : σ) (input : SessionInput) : Outcome σ :=
  M.onInput (M.run init [.connected ⟨0⟩]) input

/-- The outcome announces readiness while the book of the second symbol is not live. -/
def EarlyFor {σ : Type} (states : σ → BookStates) (out : Outcome σ) : Prop :=
  .markLive ∈ out.actions ∧ states out.state "B" ≠ some .live

instance {σ : Type} (states : σ → BookStates) (out : Outcome σ) : Decidable (EarlyFor states out) :=
  inferInstanceAs (Decidable (_ ∧ _))

/-- **The first book announces readiness for all.** Each of the four sessions, with two configured
symbols, pushes `MarkLive` on the snapshot of the first one while the second one still waits for
its own. The futures sessions ask for two open interests before the snapshots. -/
theorem markLive_first_book :
    "B" ∈ twoIds ∧
    EarlyFor BinanceSession.bookStates (afterConnect (BinanceSpotSession.machine snapshotSpotCodec)
      (BinanceSession.new BinanceSpotSession.rules [] twoSymbols) (snapshotAnswer 1)) ∧
    EarlyFor (fun s => s.core.bookStates)
      (afterConnect (BinanceUsdmSession.machine snapshotUsdmCodec)
        (BinanceUsdmSession.new [] twoSymbols) (snapshotAnswer 3)) ∧
    EarlyFor BinanceSession.bookStates
      (afterConnect (BinanceCoinmSession.machine snapshotCoinmCodec)
        (BinanceSession.new BinanceCoinmSession.rules [] twoSymbols) (snapshotAnswer 3)) ∧
    EarlyFor OkxSession.bookStates (afterConnect (OkxSession.machine snapshotOkxCodec)
      (OkxSession.new "" twoOkxSymbols) (.textFrame (utf8 okxSnapshotText) ⟨⟨0⟩, 0⟩)) := by
  decide +kernel

lemma mem_twoIds {symbol : String} (h : symbol ∈ twoIds) : symbol = "A" ∨ symbol = "B" := by
  unfold twoIds at h
  rw [Std.ExtTreeMap.mem_ofList] at h
  simpa using h

/-- A two-symbol spot session whose first book is live. -/
def firstBookLive : BinanceSession :=
  (BinanceSpotSession.machine snapshotSpotCodec).run
    (.new BinanceSpotSession.rules [] twoSymbols) [.connected ⟨0⟩, snapshotAnswer 1]

def secondSnapshot : Outcome BinanceSession :=
  (BinanceSpotSession.machine snapshotSpotCodec).onInput firstBookLive (snapshotAnswer 2)

/-- The condition is met by the second snapshot of a two-symbol spot session: it arrives with the
first book live, announces readiness, and both books are live. -/
theorem markLive_allLive_secondSnapshot :
    .markLive ∈ secondSnapshot.actions ∧ AllLive twoIds secondSnapshot.state.bookStates := by
  have hlive : .markLive ∈ secondSnapshot.actions := by decide +kernel
  refine ⟨hlive, (markLive_allLive [] twoSymbols).1 snapshotSpotCodec rfl
    [.connected ⟨0⟩, snapshotAnswer 1] (snapshotAnswer 2) ?_ hlive⟩
  have htarget : BinanceSpotSession.snapshotSymbol snapshotSpotCodec firstBookLive
      (snapshotAnswer 2) = some "B" := by decide +kernel
  intro symbol ht other hother hne
  cases htarget.symm.trans ht
  rcases mem_twoIds hother with rfl | rfl
  · decide +kernel
  · exact absurd rfl hne

end Marketfeed
