import Marketfeed.Binance.Spot

/-!
# What a live spot book holds

Two results about every run of a spot session, whatever the inputs and their order.

Both relate a book with a summary of what was pushed for its symbol, and are carried along the run
by `SessionMoves.invariant`.
-/

namespace Marketfeed

namespace BinanceSpotSession

open BinanceSession

/-! ## Covered sequences -/

/-- The last snapshot of a book with the events applied since. -/
structure Feed where
  lastUpdateId : UInt64
  events : List DepthEvent
deriving DecidableEq

namespace Feed

/-- The last applied `u`, or the snapshot's id before any event. -/
def lastU (f : Feed) : UInt64 := (f.events.getLast?.map (·.finalU)).getD f.lastUpdateId

def push (f : Feed) (ev : DepthEvent) : Feed := { f with events := f.events ++ [ev] }

@[simp] lemma lastU_push (f : Feed) (ev : DepthEvent) : (f.push ev).lastU = ev.finalU := by
  simp [lastU, push]

/-- **No id is skipped**: every id beyond the snapshot lies in the range of an applied event. -/
def Covered (f : Feed) : Prop :=
  ∀ id, f.lastUpdateId < id → id ≤ f.lastU → ∃ ev ∈ f.events, ev.firstU ≤ id ∧ id ≤ ev.finalU

/-- **Nothing stale is applied**: each applied `u` is above the sequence it found. -/
def Fresh (f : Feed) : Prop :=
  List.IsChain (· < ·) (f.lastUpdateId :: f.events.map (·.finalU))

lemma covered_push {f : Feed} (h : f.Covered) {ev : DepthEvent}
    (hgap : ev.firstU ≤ f.lastU + 1) : (f.push ev).Covered := by
  intro id hlo hhi
  rw [lastU_push] at hhi
  by_cases hold : id ≤ f.lastU
  · obtain ⟨e, he, hrange⟩ := h id hlo hold
    exact ⟨e, List.mem_append_left _ he, hrange⟩
  · -- ids above the previous `u` lie in the new event's range
    refine ⟨ev, by simp [push], ?_, hhi⟩
    grind

lemma fresh_push {f : Feed} (h : f.Fresh) {ev : DepthEvent} (hfresh : f.lastU < ev.finalU) :
    (f.push ev).Fresh := by
  unfold Fresh push at *
  rw [List.map_append, List.map_singleton, ← List.cons_append, List.isChain_append]
  refine ⟨h, by simp, fun x hx y hy => ?_⟩
  simp only [List.head?_cons, Option.mem_def, Option.some.injEq] at hy
  subst hy
  have hlast : x = f.lastU := by
    rw [List.getLast?_cons, List.getLast?_map] at hx
    simpa [lastU] using hx.symm
  rw [hlast]
  exact hfresh

end Feed

/-- The feed of a symbol after one more push. -/
def feedStep (symbol : String) (g : Option Feed) (p : Push) : Option Feed :=
  match p.mark with
  | some (sym, .snapshot lastUpdateId _) => if sym = symbol then some ⟨lastUpdateId, []⟩ else g
  | some (sym, .delta ev _) => if sym = symbol then g.map (·.push ev) else g
  | _ => g

/-- The last reported snapshot of a symbol with the events applied since. -/
def feed (symbol : String) (log : List Push) : Option Feed := log.foldl (feedStep symbol) none

lemma feedStep_other (symbol : String) (g : Option Feed) (p : Push)
    (h : ∀ m, p.mark ≠ some (symbol, m)) : feedStep symbol g p = g := by
  unfold feedStep
  split
  · rename_i sym _ _ hm
    rw [if_neg]
    rintro rfl
    exact h _ hm
  · rename_i sym _ _ hm
    rw [if_neg]
    rintro rfl
    exact h _ hm
  · rfl

/-- What a live book has in common with its feed. -/
def Follows (_symbol : String) (b : SymbolBook) (g : Option Feed) : Prop :=
  b.sync.state = .live → b.buffering = false ∧
    ∃ f, g = some f ∧ b.sync.book.sequence = some f.lastU ∧ f.Covered ∧ f.Fresh

variable {symbol : String} {b : SymbolBook}

/-- **One move keeps a book in step with its feed.** -/
theorem follows_move {ids : Std.ExtTreeMap String InstrumentId compare} {b' : SymbolBook}
    {ps : List Push} {g : Option Feed} (h : BookMove rules ids symbol b b' ps)
    (hf : Follows symbol b g) : Follows symbol b' (ps.foldl (feedStep symbol) g) := by
  intro hlive
  cases h with
  | off hstate _ _ => exact absurd hlive hstate
  | still hsync _ hbuf =>
    rw [hsync] at hlive ⊢
    rw [hbuf]
    exact hf hlive
  | bridged => exact hf hlive
  | applied ev book hlive' hfresh hfollows hbook hsync _ hbuf hp =>
    obtain ⟨hb, f, rfl, hseq, hcov, hfr⟩ := hf hlive'
    have hlast : b.lastU = f.lastU := by rw [SymbolBook.lastU, hseq]; rfl
    rw [hlast] at hfresh
    have hgap : ev.firstU ≤ f.lastU + 1 := by
      rcases hfollows with ⟨-, hg⟩ | ⟨hbr, -⟩
      · rw [hlast] at hg
        simpa [rules] using hg
      · cases hbr
    refine ⟨hbuf.trans hb, f.push ev, ?_, ?_, Feed.covered_push hcov hgap,
      Feed.fresh_push hfr hfresh⟩
    · simp [feedStep, hp.mark_eq]
    · rw [hsync, Feed.lastU_push]
      rfl
  | synced lastUpdateId _ _ hbook _ _ _ hbuf hp hqs =>
    refine ⟨hbuf, ⟨lastUpdateId, []⟩, ?_, (OrderBook.scales_buildSnapshot hbook).2.2.2, ?_, ?_⟩
    · rw [List.foldl_cons, foldl_eq_self fun g q hq => feedStep_other symbol g q (by
        simp [(hqs q hq).unmarked])]
      simp [feedStep, hp.mark_eq]
    · intro id hlo hhi
      exact absurd hlo (UInt64.not_lt.mpr hhi)
    · exact List.isChain_singleton _

lemma follows_run (C : SpotCodec) (catalog : List Instrument) (cfg : BinanceSessionConfig)
    (hl2 : cfg.enableL2 = true) (inputs : List SessionInput)
    (hb : (run C catalog cfg inputs).1.books[symbol]? = some b) :
    Follows symbol b (feed symbol (run C catalog cfg inputs).2) := by
  have hmoves := run_moves C catalog cfg hl2 inputs
  refine hmoves.invariant (δ := feedStep) (P := Follows) (g := fun _ => none) ?_ ?_ ?_ symbol b hb
  · exact fun symbol g p hp => feedStep_other symbol g p (by simp [hp.unmarked])
  · intro symbol b b' ps g hm hf
    exact ⟨follows_move hm hf, fun other hne g' => hm.foldl_other feedStep_other hne g'⟩
  · intro symbol b hb hlive
    obtain ⟨id, -, rfl⟩ := books_new hl2 hb
    exact absurd hlive (state_newBook cfg catalog symbol id)

/-- A depth event at or below the sequence of a live book changes nothing. -/
lemma onDepthUpdate_stale {s : BinanceSession} (hb : s.books[symbol]? = some b)
    (hlive : b.sync.state = .live) (hbuf : b.buffering = false) {firstU finalU prevU : UInt64}
    (hstale : finalU ≤ b.lastU) (bids asks : List (Price × Quantity)) (times : SourceTimes)
    (received : FrameStamp) :
    onDepthUpdate rules s symbol firstU finalU prevU bids asks times received = (s, []) := by
  unfold onDepthUpdate
  split_ifs
  · rfl
  · simp [hb, hlive, hbuf, rules, applyLiveDepth, hstale]

/-- **A live book is covered.** After any inputs, a live book stands at the last applied `u` (or at
the snapshot's id), every id beyond the snapshot lies in the range of an event applied since, each
event was applied above the sequence it found, and a depth frame at or below the sequence that
arrives next is not applied. -/
theorem live_book_covered (C : SpotCodec) (catalog : List Instrument) (cfg : BinanceSessionConfig)
    (hl2 : cfg.enableL2 = true) (inputs : List SessionInput) (symbol : String) (b : SymbolBook)
    (hb : (run C catalog cfg inputs).1.books[symbol]? = some b) (hlive : b.sync.state = .live) :
    ∃ f, feed symbol (run C catalog cfg inputs).2 = some f ∧
      b.sync.book.sequence = some f.lastU ∧ f.Covered ∧ f.Fresh ∧
      ∀ bytes received firstU finalU bids asks ts,
        C.decodeText bytes = .ok (.depthUpdate symbol firstU finalU bids asks ts) →
        finalU ≤ f.lastU →
        (run C catalog cfg (inputs ++ [.textFrame bytes received])).1.books[symbol]? = some b ∧
          feed symbol (run C catalog cfg (inputs ++ [.textFrame bytes received])).2 = some f := by
  obtain ⟨hbuf, f, hfeed, hseq, hcov, hfresh⟩ := follows_run C catalog cfg hl2 inputs hb hlive
  refine ⟨f, hfeed, hseq, hcov, hfresh, ?_⟩
  intro bytes received firstU finalU bids asks ts hdec hstale
  have hlast : b.lastU = f.lastU := by rw [SymbolBook.lastU, hseq]; rfl
  have hstep : onInput C (run C catalog cfg inputs).1 (.textFrame bytes received) =
      ((run C catalog cfg inputs).1, [scheduleHeartbeat received.receiveTs]) := by
    simp only [onInput, hdec, handleDecoded]
    rw [onDepthUpdate_stale hb hlive hbuf (hlast ▸ hstale)]
  have hrun : run C catalog cfg (inputs ++ [.textFrame bytes received]) =
      ((run C catalog cfg inputs).1,
        (run C catalog cfg inputs).2 ++ [scheduleHeartbeat received.receiveTs]) := by
    unfold run at hstep ⊢
    rw [runLog_concat, hstep]
  rw [hrun]
  refine ⟨hb, ?_⟩
  rw [feed, List.foldl_append]
  exact hfeed

/-- Two consecutive events. -/
def firstText : String := depthText "BTCUSDT" "\"U\":9,\"u\":12" "[\"99\",\"2\"]"

@[inherit_doc firstText]
def secondText : String := depthText "BTCUSDT" "\"U\":13,\"u\":14" "[\"100\",\"0\"]"

/-- A codec that reads the snapshot and the two events. -/
def exampleCodec : SpotCodec where
  decodeText := decodeAs
    [(snapshotText, .depthSnapshot 10 [(⟨⟨100, 0⟩⟩, ⟨⟨1, 0⟩⟩)] [(⟨⟨101, 0⟩⟩, ⟨⟨1, 0⟩⟩)]),
      (firstText, .depthUpdate "BTCUSDT" 9 12 [(⟨⟨99, 0⟩⟩, ⟨⟨2, 0⟩⟩)] [] 0),
      (secondText, .depthUpdate "BTCUSDT" 13 14 [(⟨⟨100, 0⟩⟩, ⟨⟨0, 0⟩⟩)] [] 0)]
  subscribeBody _ := []

def exampleConfig : BinanceSessionConfig where
  symbols := ["BTCUSDT"]
  instrumentIds := Std.ExtTreeMap.ofList [("BTCUSDT", ⟨1⟩)] compare
  connection := ⟨1⟩
  session := ⟨1⟩
  enableL2 := true
  candleIntervals := []
  priceScale := 0
  qtyScale := 0

/-- Connect, buffer one event, receive the snapshot, follow one live event. -/
def exampleInputs : List SessionInput :=
  [.connected ⟨0⟩, .textFrame (utf8 firstText) ⟨⟨0⟩, 0⟩,
    .httpResponse 1 ⟨200, [], utf8 snapshotText⟩ ⟨⟨0⟩, 0⟩, .textFrame (utf8 secondText) ⟨⟨0⟩, 0⟩]

/-- The hypotheses are met by a run that buffers, synchronises and follows. -/
theorem live_book_covered_exampleInputs :
    ∃ b, (run exampleCodec [] exampleConfig exampleInputs).1.books["BTCUSDT"]? = some b ∧
      b.sync.state = .live ∧ b.sync.book.sequence = some 14 ∧
      ∃ f, feed "BTCUSDT" (run exampleCodec [] exampleConfig exampleInputs).2 = some f ∧
        b.sync.book.sequence = some f.lastU ∧ f.Covered ∧ f.events.length = 2 := by
  have hany : ((run exampleCodec [] exampleConfig exampleInputs).1.books["BTCUSDT"]?.any
      fun b => b.sync.state = .live ∧ b.sync.book.sequence = some 14) = true := by
    decide +kernel
  obtain ⟨b, hb, hb'⟩ := Option.any_eq_true _ _ |>.mp hany
  obtain ⟨hlive, hseq⟩ := of_decide_eq_true hb'
  obtain ⟨f, hf, hlast, hcov, -⟩ :=
    live_book_covered exampleCodec [] exampleConfig rfl exampleInputs "BTCUSDT" b hb hlive
  refine ⟨b, hb, hlive, hseq, f, hf, hlast, hcov, ?_⟩
  have hlen : (feed "BTCUSDT" (run exampleCodec [] exampleConfig exampleInputs).2).map
      (·.events.length) = some 2 := by
    decide +kernel
  simpa [hf] using hlen

/-! ## The consumer's book -/

/-- One event, as a consumer of `id` handles it: build a book from a snapshot, apply a delta to it.
-/
def consume (scales : Nat × Nat) (id : InstrumentId) (g : Option OrderBook) (e : EventEnvelope) :
    Option OrderBook :=
  if e.instrument ≠ some id then g
  else
    match e.payload with
    | .bookSnapshot snapshot =>
      let rows (levels : List BookLevel) := levels.map fun l => (l.price, l.quantity)
      some ((OrderBook.new scales.1 scales.2 snapshot.depth).applySnapshot (rows snapshot.bids)
        (rows snapshot.asks) none).1
    | .bookDelta delta => g.map fun book => (book.applyChangesAtomic delta.changes).1
    | _ => g

/-- One action, as the consumer sees it. -/
def consumeAction (scales : Nat × Nat) (id : InstrumentId) (g : Option OrderBook) :
    SessionAction → Option OrderBook
  | .emitBatch batch => batch.events.foldl (consume scales id) g
  | _ => g

/-- **The consumer's book** after a list of emitted actions. -/
def consumerBook (scales : Nat × Nat) (id : InstrumentId) (actions : List SessionAction) :
    Option OrderBook :=
  actions.foldl (consumeAction scales id) none

lemma consumeAction_of_silent {action : SessionAction} (h : ¬ action.ReportsBook)
    (scales : Nat × Nat) (id : InstrumentId) (g : Option OrderBook) :
    consumeAction scales id g action = g := by
  rcases action with _ | _ | _ | _ | _ | _ | _ | batch | _ | _ | _ | _ | _ | _ | _
  case emitBatch =>
    refine foldl_eq_self (fun g e he => ?_) g
    unfold consume
    split_ifs
    · rfl
    · split
      · exact absurd ⟨e, he, .inl ⟨_, by assumption⟩⟩ h
      · exact absurd ⟨e, he, .inr ⟨_, by assumption⟩⟩ h
      · rfl
  all_goals rfl

lemma consumeAction_of_fault {instrument : InstrumentId} {p : Push}
    (h : p.Fault symbol instrument) (scales : Nat × Nat) (id : InstrumentId)
    (g : Option OrderBook) : consumeAction scales id g p.action = g := by
  rcases h with _ | _ | hq
  · rfl
  · rfl
  · exact consumeAction_of_silent hq.silent scales id g

/-- A reported event reaches the consumer of its instrument and no other. -/
lemma consumeAction_of_reports {instrument : Option InstrumentId} {range : SequenceRange}
    {payload : MarketEvent} {mark : String × BookMark} {p : Push}
    (h : p.Reports instrument range payload mark) (scales : Nat × Nat) (id : InstrumentId)
    (g : Option OrderBook) :
    ∃ e : EventEnvelope, e.instrument = instrument ∧ e.payload = payload ∧
      consumeAction scales id g p.action = consume scales id g e := by
  obtain ⟨session, frameSeq, env, hact, hi, hpay, -⟩ := h.action_eq
  exact ⟨env, hi, hpay, by rw [hact]; rfl⟩

section Mirror

variable (cfg : BinanceSessionConfig) (catalog : List Instrument)

/-- The consumer of a symbol's instrument after one more push. -/
def mirrorStep (symbol : String) (g : Option OrderBook) (p : Push) : Option OrderBook :=
  match cfg.instrumentIds[symbol]? with
  | some id => consumeAction (bookScales cfg catalog symbol) id g p.action
  | none => g

/-- What a book has in common with its consumer's book: always the instrument, the scales and the
depth, and while it is live everything but the sequence. -/
structure Mirrors (symbol : String) (b : SymbolBook) (g : Option OrderBook) : Prop where
  instrument : cfg.instrumentIds[symbol]? = some b.sync.instrument
  identity : b.identity = (b.sync.instrument, (bookScales cfg catalog symbol).1,
    (bookScales cfg catalog symbol).2, some 1000)
  levels : b.sync.state = .live →
    ∃ c, g = some c ∧ c.unsequenced = b.sync.book.unsequenced

variable {cfg catalog}

variable {symbol : String} {b : SymbolBook} {g : Option OrderBook}

lemma mirrorStep_eq (h : Mirrors cfg catalog symbol b g) (g' : Option OrderBook) (p : Push) :
    mirrorStep cfg catalog symbol g' p =
      consumeAction (bookScales cfg catalog symbol) b.sync.instrument g' p.action := by
  rw [mirrorStep, h.instrument]

/-- **One move keeps the consumer's book in step.** -/
theorem mirrors_move {b' : SymbolBook} {ps : List Push}
    (h : BookMove rules cfg.instrumentIds symbol b b' ps) (hm : Mirrors cfg catalog symbol b g) :
    Mirrors cfg catalog symbol b' (ps.foldl (mirrorStep cfg catalog symbol) g) := by
  have hids := hm.identity
  simp only [SymbolBook.identity, Prod.mk.injEq, true_and] at hids
  obtain ⟨hps, hqs, hdepth⟩ := hids
  cases h with
  | off hstate hid hps =>
    have hinst : b'.sync.instrument = b.sync.instrument := congrArg Prod.fst hid
    refine ⟨?_, ?_, fun hlive => absurd hlive hstate⟩
    · rw [hinst]
      exact hm.instrument
    · rw [hid, hinst]
      exact hm.identity
  | still hsync _ _ =>
    obtain ⟨hi, hid, hl⟩ := hm
    refine ⟨by rw [hsync]; exact hi, ?_, by rw [hsync]; exact hl⟩
    simpa only [SymbolBook.identity, hsync] using hid
  | bridged => exact ⟨hm.instrument, hm.identity, hm.levels⟩
  | applied ev book hlive _ _ hbook hsync _ _ hp =>
    have hheader := header_applyChangesAtomic hbook
    simp only [OrderBook.header, Prod.mk.injEq] at hheader
    refine ⟨by rw [hsync]; exact hm.instrument, ?_, fun _ => ?_⟩
    · rw [SymbolBook.identity, hsync]
      simp [OrderBook.setSequence, hheader, hps, hqs, hdepth]
    · obtain ⟨c, rfl, hc⟩ := hm.levels hlive
      obtain ⟨e, hi, hpay, heq⟩ := consumeAction_of_reports hp (bookScales cfg catalog symbol)
        b.sync.instrument (some c)
      refine ⟨(c.applyChangesAtomic ev.changes).1, ?_, ?_⟩
      · rw [List.foldl_cons, List.foldl_nil, mirrorStep_eq hm, heq]
        simp [consume, hi, hpay, hm.instrument]
      · rw [OrderBook.unsequenced_applyChangesAtomic hc, hbook, hsync]
        rfl
  | synced lastUpdateId bids asks hbook hlive hinst _ _ hp hqs' =>
    have hheader := OrderBook.scales_buildSnapshot hbook
    refine ⟨by rw [hinst]; exact hm.instrument, ?_, fun _ => ?_⟩
    · simp [SymbolBook.identity, hinst, hheader, hps, hqs, hdepth]
    · obtain ⟨e, hi, hpay, heq⟩ := consumeAction_of_reports hp (bookScales cfg catalog symbol)
        b.sync.instrument g
      refine ⟨b'.sync.book.unsequenced, ?_, rfl⟩
      have hbuilt := OrderBook.buildSnapshot_unsequenced
        (c := OrderBook.new (bookScales cfg catalog symbol).1 (bookScales cfg catalog symbol).2
          (some 1000)) hps.symm hqs.symm hdepth.symm hbook
      rw [List.foldl_cons, foldl_eq_self (fun g' q hq => by
        rw [mirrorStep_eq hm, consumeAction_of_silent (hqs' q hq).silent]), mirrorStep_eq hm, heq]
      simp [consume, hi, hpay, OrderBook.applySnapshot, toBookLevels, Function.comp_def, hbuilt]

/-- **A move leaves the consumers of other instruments alone.** -/
theorem mirrorStep_move_other (hinj : cfg.DistinctIds) {b' : SymbolBook} {ps : List Push}
    (h : BookMove rules cfg.instrumentIds symbol b b' ps) (hm : Mirrors cfg catalog symbol b g)
    {other : String} (hne : other ≠ symbol) (g' : Option OrderBook) :
    ps.foldl (mirrorStep cfg catalog other) g' = g' := by
  refine foldl_eq_self (fun g' p hp => ?_) g'
  unfold mirrorStep
  rcases hid : cfg.instrumentIds[other]? with _ | id
  · rfl
  simp only
  have hdiff : some b.sync.instrument ≠ some id := by
    intro heq
    exact hne (hinj other symbol id hid (hm.instrument.trans heq))
  have hreport : ∀ {range payload mark}, p.Reports (some b.sync.instrument) range payload mark →
      consumeAction (bookScales cfg catalog other) id g' p.action = g' := by
    intro range payload mark hr
    obtain ⟨e, hi, -, heq⟩ := consumeAction_of_reports hr (bookScales cfg catalog other) id g'
    rw [heq, consume, if_pos (hi ▸ hdiff)]
  cases h with
  | off _ _ hps => exact consumeAction_of_fault (hps p hp) _ _ _
  | still | bridged => simp at hp
  | applied _ _ _ _ _ _ _ _ _ hr =>
    rw [List.mem_singleton.mp hp] at hreport ⊢
    rw [hm.instrument] at hr
    exact hreport hr
  | synced _ _ _ _ _ _ _ _ hr hqs =>
    rcases List.mem_cons.mp hp with rfl | hp
    · exact hreport hr
    · exact consumeAction_of_silent (hqs p hp).silent _ _ _

/-- **The consumer holds the session's book.** With one instrument id per symbol, after any inputs
and for every live book, a consumer that builds a book from the last emitted snapshot of the
instrument and applies every later emitted delta holds the same bids and asks. -/
theorem live_book_mirrored (C : SpotCodec) (catalog : List Instrument) (cfg : BinanceSessionConfig)
    (hl2 : cfg.enableL2 = true) (hinj : cfg.DistinctIds)
    (inputs : List SessionInput) (symbol : String) (b : SymbolBook)
    (hb : (run C catalog cfg inputs).1.books[symbol]? = some b) (hlive : b.sync.state = .live) :
    ∃ id c, cfg.instrumentIds[symbol]? = some id ∧
      consumerBook (bookScales cfg catalog symbol) id
        ((run C catalog cfg inputs).2.map (·.action)) = some c ∧
      c.bids = b.sync.book.bids ∧ c.asks = b.sync.book.asks := by
  have hmirror : Mirrors cfg catalog symbol b
      ((run C catalog cfg inputs).2.foldl (mirrorStep cfg catalog symbol) none) := by
    have hmoves := run_moves C catalog cfg hl2 inputs
    refine hmoves.invariant (δ := mirrorStep cfg catalog) (P := Mirrors cfg catalog)
      (g := fun _ => none) ?_ ?_ ?_ symbol b hb
    · intro symbol g p hq
      unfold mirrorStep
      split
      · exact consumeAction_of_silent hq.silent _ _ _
      · rfl
    · intro symbol b b' ps g hmove hm
      exact ⟨mirrors_move hmove hm, fun other hne g' =>
        mirrorStep_move_other hinj hmove hm hne g'⟩
    · intro symbol b hb
      obtain ⟨id, hid, rfl⟩ := books_new hl2 hb
      exact ⟨hid, rfl, fun h => absurd h (state_newBook cfg catalog symbol id)⟩
  obtain ⟨c, hc, heq⟩ := hmirror.levels hlive
  have hbids : c.unsequenced.bids = b.sync.book.unsequenced.bids := by rw [heq]
  have hasks : c.unsequenced.asks = b.sync.book.unsequenced.asks := by rw [heq]
  refine ⟨b.sync.instrument, c, hmirror.instrument, ?_, hbids, hasks⟩
  rw [consumerBook, List.foldl_map, ← hc]
  congr 1
  funext g p
  rw [mirrorStep_eq hmirror]

/-- The hypotheses are met by the run above, whose consumer then holds one bid and one ask. -/
theorem live_book_mirrored_exampleInputs :
    ∃ b, (run exampleCodec [] exampleConfig exampleInputs).1.books["BTCUSDT"]? = some b ∧
      b.sync.state = .live ∧ ∃ id c, exampleConfig.instrumentIds["BTCUSDT"]? = some id ∧
        consumerBook (bookScales exampleConfig [] "BTCUSDT") id
          ((run exampleCodec [] exampleConfig exampleInputs).2.map (·.action)) = some c ∧
        c.bids = b.sync.book.bids ∧ c.asks = b.sync.book.asks ∧ c.bids.toList = [(99, 2)] := by
  have hany : ((run exampleCodec [] exampleConfig exampleInputs).1.books["BTCUSDT"]?.any
      fun b => b.sync.state = .live ∧ b.sync.book.bids.toList = [(99, 2)]) = true := by
    decide +kernel
  obtain ⟨b, hb, hb'⟩ := Option.any_eq_true _ _ |>.mp hany
  obtain ⟨hlive, hbids⟩ := of_decide_eq_true hb'
  obtain ⟨id, c, hid, hc, hcb, hca⟩ := live_book_mirrored exampleCodec [] exampleConfig rfl (by
      intro s s' id hs hs'
      simp only [exampleConfig, Std.ExtTreeMap.ofList_singleton,
        Std.ExtTreeMap.getElem?_insert, Std.ExtTreeMap.getElem?_empty] at hs hs'
      split_ifs at hs hs' with h h'
      exact (Std.LawfulEqCmp.eq_of_compare h).symm.trans (Std.LawfulEqCmp.eq_of_compare h'))
    exampleInputs "BTCUSDT" b hb hlive
  exact ⟨b, hb, hlive, id, c, hid, hc, hcb, hca, hcb ▸ hbids⟩

end Mirror

end BinanceSpotSession

end Marketfeed
