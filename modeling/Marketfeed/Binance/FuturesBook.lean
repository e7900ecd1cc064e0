import Marketfeed.Binance.Coinm
import Marketfeed.Binance.Usdm

/-!
# The book events of the futures sessions

`futures_book_events_unbroken` puts the pieces together for both futures sessions: whatever the
inputs and their order, with any number of snapshot requests in flight, the emitted snapshots,
deltas, gaps and invalidations of a symbol form unbroken chains.
-/

namespace Marketfeed

open BinanceSession

/-- The conclusion about one session's log: the book events of the symbol are unbroken, and they are
exactly what the actions emit. -/
def BookEventsUnbroken (cfg : BinanceSessionConfig) (symbol : String) (log : List Push) : Prop :=
  Unbroken (marks symbol log) ∧ ∀ p ∈ log, p.Faithful cfg.instrumentIds

/-- A run from fresh books that only makes moves of the futures rules. -/
lemma bookEventsUnbroken_of_moves {venue : VenueId} {depthUrl : String → String}
    {announcesResync : Bool} {authoredTimeMs : SourceTimes → Option Int} {R : DepthRules}
    (hR : R = futuresRules venue depthUrl announcesResync authoredTimeMs)
    {catalog : List Instrument} {cfg : BinanceSessionConfig} (hl2 : cfg.enableL2 = true)
    {symbol : String} {id : InstrumentId} (hid : cfg.instrumentIds[symbol]? = some id)
    {B : SymbolBooks} {log : List Push}
    (h : SessionMoves R cfg.instrumentIds (BinanceSession.new R catalog cfg).books B log) :
    BookEventsUnbroken cfg symbol log := by
  have hfresh : ∀ (symbol : String) (b : SymbolBook),
      (BinanceSession.new R catalog cfg).books[symbol]? = some b →
        cfg.instrumentIds[symbol]? = some b.sync.instrument ∧ b.sync.state ≠ .live := by
    intro symbol b hb
    obtain ⟨id, hid, rfl⟩ := books_new hl2 hb
    exact ⟨hid, state_newBook cfg catalog symbol id⟩
  have hsome : (B[symbol]?).isSome := by
    rw [h.isSome_iff]
    simp [BinanceSession.new, hl2, Std.ExtTreeMap.getElem?_map, hid]
  obtain ⟨b, hb⟩ := Option.isSome_iff_exists.mp hsome
  refine ⟨?_, h.faithful fun symbol b hb => (hfresh symbol b hb).1⟩
  subst hR
  exact unbroken_of_moves h (fun symbol b hb => (hfresh symbol b hb).2) hb

/-- **The futures book events are unbroken.** For every configured symbol of a USD-M session
(legacy or routed) or of a COIN-M session, after any inputs: the deltas after one snapshot and before
the next form a chain whose first event opens at the snapshot's id and whose later events each
continue the one before, and no delta follows a gap or an invalidation until a new snapshot. -/
theorem futures_book_events_unbroken (catalog : List Instrument) (cfg : BinanceSessionConfig)
    (hl2 : cfg.enableL2 = true) (symbol : String) (id : InstrumentId)
    (hid : cfg.instrumentIds[symbol]? = some id) (inputs : List SessionInput) :
    (∀ (C : BinanceUsdmSession.UsdmCodec) (s : BinanceUsdmSession.State),
      BinanceUsdmSession.Built catalog cfg s →
        BookEventsUnbroken cfg symbol (BinanceUsdmSession.run C s inputs).2) ∧
    ∀ C : BinanceCoinmSession.CoinmCodec,
      BookEventsUnbroken cfg symbol (BinanceCoinmSession.run C catalog cfg inputs).2 := by
  refine ⟨fun C s hs => ?_, fun C => ?_⟩
  · exact bookEventsUnbroken_of_moves rfl hl2 hid (BinanceUsdmSession.run_moves C hs hl2 inputs)
  · exact bookEventsUnbroken_of_moves rfl hl2 hid
      (BinanceCoinmSession.run_moves C catalog cfg hl2 inputs)

/-- Two events and, after a gap, a third one. -/
def futuresTexts : Fin 3 → String
  | 0 => depthText "BTCUSD_PERP" "\"U\":9,\"u\":12,\"pu\":8" "[\"99\",\"2\"]"
  | 1 => depthText "BTCUSD_PERP" "\"U\":14,\"u\":15,\"pu\":12" "[\"98\",\"3\"]"
  | 2 => depthText "BTCUSD_PERP" "\"U\":20,\"u\":21,\"pu\":19" ""

/-- A codec that reads the snapshot and the events. -/
def exampleFuturesCodec : BinanceCoinmSession.CoinmCodec where
  decodeText := decodeAs
    [(snapshotText, .depthSnapshot 10 [(⟨⟨100, 0⟩⟩, ⟨⟨1, 0⟩⟩)] [(⟨⟨101, 0⟩⟩, ⟨⟨1, 0⟩⟩)]),
      (futuresTexts 0, .depthUpdate "BTCUSD_PERP" 9 12 8 [(⟨⟨99, 0⟩⟩, ⟨⟨2, 0⟩⟩)] [] 0),
      (futuresTexts 1, .depthUpdate "BTCUSD_PERP" 14 15 12 [(⟨⟨98, 0⟩⟩, ⟨⟨3, 0⟩⟩)] [] 0),
      (futuresTexts 2, .depthUpdate "BTCUSD_PERP" 20 21 19 [] [] 0)]
  subscribeBody _ := []

def exampleFuturesConfig : BinanceSessionConfig where
  symbols := ["BTCUSD_PERP"]
  instrumentIds := Std.ExtTreeMap.ofList [("BTCUSD_PERP", ⟨1⟩)] compare
  connection := ⟨1⟩
  session := ⟨1⟩
  enableL2 := true
  candleIntervals := []
  priceScale := 0
  qtyScale := 0

/-- Connect, buffer the bridging event, receive the snapshot (the second request; the first was for
open interest), follow one event, then a gap. -/
def exampleFuturesInputs : List SessionInput :=
  [.connected ⟨0⟩, .textFrame (utf8 (futuresTexts 0)) ⟨⟨0⟩, 0⟩,
    .httpResponse 2 ⟨200, [], utf8 snapshotText⟩ ⟨⟨0⟩, 0⟩,
    .textFrame (utf8 (futuresTexts 1)) ⟨⟨0⟩, 0⟩, .textFrame (utf8 (futuresTexts 2)) ⟨⟨0⟩, 0⟩]

/-- The hypotheses are met by a run that emits a snapshot, two deltas and a gap. -/
theorem futures_book_events_unbroken_exampleInputs :
    exampleFuturesConfig.instrumentIds["BTCUSD_PERP"]? = some ⟨1⟩ ∧
      BookEventsUnbroken exampleFuturesConfig "BTCUSD_PERP"
        (BinanceCoinmSession.run exampleFuturesCodec [] exampleFuturesConfig
          exampleFuturesInputs).2 ∧
      (marks "BTCUSD_PERP" (BinanceCoinmSession.run exampleFuturesCodec [] exampleFuturesConfig
        exampleFuturesInputs).2).map (·.event?.map (·.finalU)) =
        [none, some 12, some 15, none, none] := by
  have hid : exampleFuturesConfig.instrumentIds["BTCUSD_PERP"]? = some ⟨1⟩ := by decide +kernel
  refine ⟨hid, ?_, by decide +kernel⟩
  exact (futures_book_events_unbroken [] exampleFuturesConfig rfl "BTCUSD_PERP" ⟨1⟩ hid
    exampleFuturesInputs).2 exampleFuturesCodec

end Marketfeed
