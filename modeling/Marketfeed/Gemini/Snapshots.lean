import Marketfeed.Gemini.Session

/-!
# Which depth frame becomes the book

A Gemini depth frame is a snapshot if it is the first of its symbol on the connection; nothing on the
wire says so. The session goes by a flag of the book and by the frame's two update ids, and the flag
is taken back whenever the book is given up.
-/

namespace Marketfeed

namespace GeminiSession

/-! ## Frames and snapshots -/

/-- The symbol of a depth frame. -/
def depthSymbol (C : GeminiCodec) : SessionInput → Option String
  | .textFrame bytes _ => match C.decodeText bytes with
      | .ok (.depthUpdate symbol _ _ _ _ _) => some symbol
      | _ => none
  | _ => none

/-- A depth frame that carries a single update id, as a snapshot does. -/
def singleId (C : GeminiCodec) : SessionInput → Bool
  | .textFrame bytes _ => match C.decodeText bytes with
      | .ok (.depthUpdate _ firstUpdateId lastUpdateId _ _ _) => firstUpdateId = lastUpdateId
      | _ => false
  | _ => false

/-- The event is a book snapshot. -/
def isSnapshot (envelope : EventEnvelope) : Bool :=
  match envelope.payload with
  | .bookSnapshot _ => true
  | _ => false

/-- The book snapshots among the events an action emits. -/
def actionSnapshots : SessionAction → List EventEnvelope
  | .emitBatch batch => batch.events.filter isSnapshot
  | _ => []

/-- The book snapshots among the events emitted. -/
def snapshotEvents (actions : List SessionAction) : List EventEnvelope :=
  actions.flatMap actionSnapshots

/-- What happens on a connection: the inputs before the next `Connected`. -/
def onConnection (inputs : List SessionInput) : List SessionInput :=
  inputs.takeWhile fun input => match input with
    | .connected _ => false
    | _ => true

/-- The book snapshots a session emits in answer to the depth frames of a symbol. -/
def snapshotsOf (C : GeminiCodec) (symbol : String) (s : State) (inputs : List SessionInput) :
    List EventEnvelope :=
  (runLog (fun s input => ((onInput C s input).state,
    if depthSymbol C input = some symbol then snapshotEvents (onInput C s input).actions else []))
    s inputs).2

/-- **No second snapshot is offered.** When a depth frame of a symbol that has had one already finds
the book without a snapshot, it does not carry a single update id. -/
def Unambiguous (C : GeminiCodec) (s : State) (inputs : List SessionInput) : Prop :=
  ∀ before input after symbol, inputs = before ++ input :: after → depthSymbol C input = some symbol →
    (∃ earlier ∈ before, depthSymbol C earlier = some symbol) →
      isFirst ((machine C).run s before) symbol = true → singleId C input = false

/-- The event lists the book that the rows of a depth frame make, and nothing else. The scales and the
depth are those of the book that the session holds for the symbol. -/
def BuiltFrom (s : State) (symbol : String) (envelope : EventEnvelope)
    (bids asks : List (Price × Quantity)) (id : UInt64) : Prop :=
  ∃ (held : SymbolBook) (book : OrderBook) (levels : List BookLevel × List BookLevel),
    s.books[symbol]? = some held ∧
      (OrderBook.new held.sync.book.priceScale held.sync.book.qtyScale
        held.sync.book.depth).buildSnapshot bids asks (some id) = .ok book ∧
      book.snapshotLevels = some levels ∧
      envelope.payload = .bookSnapshot ⟨levels.1, levels.2, none, none⟩

/-! ## What a step can emit -/

@[simp] lemma snapshotEvents_cons (action : SessionAction) (actions : List SessionAction) :
    snapshotEvents (action :: actions) = actionSnapshots action ++ snapshotEvents actions := rfl

@[simp] lemma snapshotEvents_append (actions actions' : List SessionAction) :
    snapshotEvents (actions ++ actions') = snapshotEvents actions ++ snapshotEvents actions' :=
  List.flatMap_append

section Silent

variable (C : GeminiCodec) (s : State) (now : TimestampNs) (received : FrameStamp)

@[simp] lemma snapshotEvents_thenMarkLive (actions : List SessionAction) :
    snapshotEvents (thenMarkLive s actions).2 = snapshotEvents actions := by
  have hlive : snapshotEvents (maybeMarkLive s).2 = [] := by
    unfold maybeMarkLive
    split <;> rfl
  rw [thenMarkLive, snapshotEvents_append, hlive, List.append_nil]

/-- Polling asks for answers and emits nothing. -/
lemma snapshotEvents_runLog {ι : Type} {step : State → ι → State × List SessionAction}
    (h : ∀ s x, snapshotEvents (step s x).2 = []) (xs : List ι) :
    snapshotEvents (runLog step s xs).2 = [] := by
  refine runLog_invariant (P := fun _ log => snapshotEvents log = []) ?_ rfl xs
  intro s log x hlog
  rw [snapshotEvents_append, hlog, h]
  rfl

@[simp] lemma snapshotEvents_pollCandlesAll : snapshotEvents (pollCandlesAll s).2 = [] :=
  snapshotEvents_runLog _ (fun _ _ => rfl) _

@[simp] lemma snapshotEvents_pollStatsAll : snapshotEvents (pollStatsAll s).2 = [] := by
  unfold pollStatsAll
  split
  · rfl
  · exact snapshotEvents_runLog _ (fun _ _ => rfl) _

@[simp] lemma snapshotEvents_scheduleCandleTimer :
    snapshotEvents (scheduleCandleTimer s now) = [] := by
  unfold scheduleCandleTimer
  split <;> rfl

@[simp] lemma snapshotEvents_scheduleStatsTimer :
    snapshotEvents (scheduleStatsTimer s now) = [] := by
  unfold scheduleStatsTimer
  split <;> rfl

lemma snapshotEvents_onConnected : snapshotEvents (onConnected C s now).actions = [] := by
  unfold onConnected
  dsimp only
  split
  · rfl
  · simp only [snapshotEvents_append, snapshotEvents_pollCandlesAll, snapshotEvents_pollStatsAll,
      snapshotEvents_scheduleCandleTimer, snapshotEvents_scheduleStatsTimer]
    split <;> rfl

lemma snapshotEvents_onTimer (timerId : UInt64) :
    snapshotEvents (onTimer s timerId now).2 = [] := by
  unfold onTimer
  split_ifs
  · simp
  · simp
  · rfl

lemma snapshotEvents_onStatsResponse (target : String × PendingStatsKind)
    (response : HttpResponse) : snapshotEvents (onStatsResponse C s target response received).2 = [] := by
  unfold onStatsResponse
  split
  · rfl
  · dsimp only
    split
    · exact snapshotEvents_thenMarkLive _ _
    · rfl

lemma snapshotEvents_onCandleResponse (target : String × CandleInterval)
    (response : HttpResponse) :
    snapshotEvents (onCandleResponse C s target response received).2 = [] := by
  unfold onCandleResponse
  split
  · rfl
  · dsimp only
    split
    · exact snapshotEvents_thenMarkLive _ _
    · rfl

lemma snapshotEvents_onHttpResponse (requestId : UInt64) (response : HttpResponse) :
    snapshotEvents (onHttpResponse C s requestId response received).2 = [] := by
  unfold onHttpResponse
  split
  · exact snapshotEvents_onStatsResponse _ _ _ _ _
  · split
    · exact snapshotEvents_onCandleResponse _ _ _ _ _
    · rfl

variable (symbol : String) (firstUpdateId lastUpdateId : UInt64) (bids asks : List (Price × Quantity))
  (ts : Int)

lemma snapshotEvents_applyDepthDelta : snapshotEvents
    (applyDepthDelta s symbol firstUpdateId lastUpdateId bids asks ts received).2 = [] := by
  unfold applyDepthDelta
  dsimp only
  repeat' split
  all_goals rfl

/-- **A frame taken for a snapshot** is adopted if it carries a single update id and its rows make a
book; the event then lists that book. -/
theorem applyDepthSnapshot_cases :
    snapshotEvents (applyDepthSnapshot s symbol firstUpdateId lastUpdateId bids asks ts received).2 = [] ∨
      firstUpdateId = lastUpdateId ∧ ∃ envelope, BuiltFrom s symbol envelope bids asks lastUpdateId ∧
        snapshotEvents (applyDepthSnapshot s symbol firstUpdateId lastUpdateId bids asks ts received).2 =
          [envelope] := by
  unfold applyDepthSnapshot
  split
  · left
    unfold invalidateBook
    dsimp only
    split <;> rfl
  rename_i hsingle
  split
  · exact .inl rfl
  rename_i book hbook
  dsimp only
  split
  · exact .inl rfl
  rename_i loaded hload
  split
  · rename_i bookBids bookAsks hlevels
    have hbuild := OrderBook.applySnapshot_eq_ok.mp hload
    refine .inr ⟨not_not.mp hsingle, _, ?_, snapshotEvents_thenMarkLive _ _⟩
    exact ⟨book, loaded, (bookBids, bookAsks), hbook, hbuild, hlevels, rfl⟩
  · exact .inl (snapshotEvents_thenMarkLive _ _)

end Silent

lemma onInput_textFrame {C : GeminiCodec} {s : State} {bytes : Bytes} {received : FrameStamp}
    {decoded : Decoded} (hdecode : C.decodeText bytes = .ok decoded) :
    (onInput C s (.textFrame bytes received)).actions = (handleDecoded C s decoded received).2 := by
  show (onOther C s (.textFrame bytes received)).2 = _
  simp only [onOther]
  rw [hdecode]

/-- **What a step that emits a book snapshot has been handed**: a depth frame with a single update id,
for a book without a snapshot. It emits one, made of the frame's rows. -/
theorem adoption_cases (C : GeminiCodec) (s : State) (input : SessionInput) :
    snapshotEvents (onInput C s input).actions = [] ∨
      ∃ bytes received symbol id bids asks ts envelope, input = .textFrame bytes received ∧
        C.decodeText bytes = .ok (.depthUpdate symbol id id bids asks ts) ∧
        isFirst s symbol = true ∧ BuiltFrom s symbol envelope bids asks id ∧
        snapshotEvents (onInput C s input).actions = [envelope] := by
  cases input with
  | connected now => exact .inl (snapshotEvents_onConnected C s now)
  | disconnected reason now =>
    left
    show snapshotEvents (_ :: (_ ++ _)) = []
    rw [snapshotEvents_cons, snapshotEvents_append]
    split <;> rfl
  | textFrame bytes received =>
    rcases hdecode : C.decodeText bytes with e | decoded
    · left
      show snapshotEvents (onOther C s (.textFrame bytes received)).2 = []
      simp only [onOther]
      rw [hdecode]
      rfl
    rw [onInput_textFrame hdecode]
    cases decoded with
    | depthUpdate symbol firstUpdateId lastUpdateId bids asks ts =>
      simp only [handleDecoded]
      split_ifs with hfirst
      · rcases applyDepthSnapshot_cases s received symbol firstUpdateId lastUpdateId bids asks ts
          with hnone | ⟨rfl, envelope, hbuilt, hsome⟩
        · exact .inl hnone
        · exact .inr ⟨bytes, received, symbol, firstUpdateId, bids, asks, ts, envelope, rfl, hdecode,
            hfirst, hbuilt, hsome⟩
      · exact .inl (snapshotEvents_applyDepthDelta _ _ _ _ _ _ _ _)
    | trade symbol tradeId price quantity aggressor ts
    | quote symbol updateId bidPrice bidQty askPrice askQty ts =>
      exact .inl (snapshotEvents_thenMarkLive _ _)
    | _ => exact .inl rfl
  | binaryFrame bytes received | pong payload received => exact .inl rfl
  | httpResponse requestId response received =>
    exact .inl (snapshotEvents_onHttpResponse C s received requestId response)
  | timer timerId now => exact .inl (snapshotEvents_onTimer s now timerId)
  | control command =>
    left
    cases command with
    | resync id =>
      show snapshotEvents (if s.cfg.instrumentIds.toList.any fun e => e.2 = id then
        (s, [SessionAction.reconnect .control]) else (s, [])).2 = []
      split <;> rfl
    | _ => rfl

/-! ## A connection -/

variable {C : GeminiCodec} {s : State} {inputs : List SessionInput}

/-- On a connection without ambiguous frames, a step that emits a book snapshot has been handed the
first depth frame of its symbol. -/
lemma adopts_first (h : Unambiguous C s inputs) {before after : List SessionInput}
    {input : SessionInput} (hsplit : inputs = before ++ input :: after) {envelope : EventEnvelope}
    (hmem : envelope ∈ snapshotEvents (onInput C ((machine C).run s before) input).actions) :
    ∃ bytes received symbol id bids asks ts, input = .textFrame bytes received ∧
      C.decodeText bytes = .ok (.depthUpdate symbol id id bids asks ts) ∧
      (∀ earlier ∈ before, depthSymbol C earlier ≠ some symbol) ∧
      BuiltFrom ((machine C).run s before) symbol envelope bids asks id := by
  rcases adoption_cases C ((machine C).run s before) input with
    hnone | ⟨bytes, received, symbol, id, bids, asks, ts, envelope', rfl, hdecode, hfirst, hbuilt, hone⟩
  · rw [hnone] at hmem
    exact absurd hmem List.not_mem_nil
  · rw [hone, List.mem_singleton] at hmem
    subst hmem
    refine ⟨bytes, received, symbol, id, bids, asks, ts, rfl, hdecode, ?_, hbuilt⟩
    intro earlier hearlier hsymbol
    have hthis : depthSymbol C (.textFrame bytes received) = some symbol := by
      simp only [depthSymbol, hdecode]
    have hsingle : singleId C (.textFrame bytes received) = true := by
      simp only [singleId, hdecode, decide_true]
    have hdouble := h before _ after symbol hsplit hthis ⟨earlier, hearlier, hsymbol⟩ hfirst
    cases hsingle.symm.trans hdouble

/-- Without a depth frame there is no snapshot. -/
lemma snapshotsOf_eq_nil {symbol : String} (h : ∀ input ∈ inputs, depthSymbol C input ≠ some symbol) :
    snapshotsOf C symbol s inputs = [] := by
  induction inputs generalizing s with
  | nil => rfl
  | cons input inputs ih =>
    rw [snapshotsOf, runLog_cons, if_neg (h input List.mem_cons_self), List.nil_append]
    exact ih fun other hother => h other (List.mem_cons_of_mem input hother)

/-- The states of a run do not depend on what is collected from it. -/
lemma runLog_state (symbol : String) (s : State) (inputs : List SessionInput) :
    (runLog (fun s input => ((onInput C s input).state,
      if depthSymbol C input = some symbol then snapshotEvents (onInput C s input).actions else []))
      s inputs).1 = (machine C).run s inputs := by
  induction inputs generalizing s with
  | nil => rfl
  | cons input inputs ih =>
    rw [runLog_cons]
    exact ih _

/-- **At most one snapshot for each symbol.** -/
theorem length_snapshotsOf_le (h : Unambiguous C s inputs) (symbol : String) :
    (snapshotsOf C symbol s inputs).length ≤ 1 := by
  induction inputs using List.reverseRecOn with
  | nil => exact Nat.zero_le 1
  | append_singleton before input ih =>
    have hbefore : Unambiguous C s before := by
      intro before' input' after symbol' hsplit
      refine h before' input' (after ++ [input]) symbol' ?_
      rw [hsplit, List.append_assoc, List.cons_append]
    rw [snapshotsOf, runLog_concat, runLog_state, List.length_append, ← snapshotsOf]
    dsimp only
    by_cases hsymbol : depthSymbol C input = some symbol
    · rw [if_pos hsymbol]
      rcases adoption_cases C ((machine C).run s before) input with
        hnone | ⟨_, _, _, _, _, _, _, envelope, -, -, -, -, hone⟩
      · rw [hnone]
        exact ih hbefore
      · -- The frame is the first of its symbol, so nothing has been collected before it.
        have hmem : envelope ∈ snapshotEvents (onInput C ((machine C).run s before) input).actions := by
          rw [hone]
          exact List.mem_singleton_self envelope
        obtain ⟨bytes, received, other, id, bids, asks, ts, rfl, hdecode, hfresh, -⟩ :=
          adopts_first h rfl hmem
        have hother : depthSymbol C (.textFrame bytes received) = some other := by
          simp only [depthSymbol, hdecode]
        obtain rfl : symbol = other := Option.some.inj (hsymbol.symm.trans hother)
        rw [snapshotsOf_eq_nil hfresh, hone]
        exact le_refl 1
    · rw [if_neg hsymbol]
      exact ih hbefore

/-- **The book is adopted once for each symbol, from its first depth frame.** On a connection on which
no depth frame with a single update id finds a book that has been given up, every book snapshot is
made of the rows of the first depth frame of its symbol, and there is at most one for each symbol. -/
theorem one_snapshot_per_connection (C : GeminiCodec) (s : State) (now : TimestampNs)
    (inputs : List SessionInput)
    (hclear : Unambiguous C (onInput C s (.connected now)).state (onConnection inputs)) :
    (∀ symbol, (snapshotsOf C symbol (onInput C s (.connected now)).state
        (onConnection inputs)).length ≤ 1) ∧
      ∀ before input after, onConnection inputs = before ++ input :: after →
        ∀ envelope ∈ snapshotEvents (onInput C
            ((machine C).run (onInput C s (.connected now)).state before) input).actions,
          ∃ bytes received symbol id bids asks ts, input = .textFrame bytes received ∧
            C.decodeText bytes = .ok (.depthUpdate symbol id id bids asks ts) ∧
            (∀ earlier ∈ before, depthSymbol C earlier ≠ some symbol) ∧
            BuiltFrom ((machine C).run (onInput C s (.connected now)).state before) symbol envelope
              bids asks id :=
  ⟨length_snapshotsOf_le hclear, fun _ _ _ hsplit _ hmem => adopts_first hclear hsplit hmem⟩

/-! ## Two connections -/

/-- One symbol with a book, and no polling. -/
def demoSession : State :=
  new [] {
    symbols := ["BTCUSD"]
    instrumentIds := (∅ : Std.ExtTreeMap String InstrumentId compare).insert "BTCUSD" ⟨1⟩
    connection := ⟨1⟩
    session := ⟨1⟩
    enableL2 := true
    candleIntervals := []
    pollStats := false
    priceScale := 2
    qtyScale := 8 }

/-- A depth frame with the given update ids. The frame 10 has both sides, the others one bid, which
crosses the book in frame 11. -/
def demoText (first last : Nat) : String :=
  "\x7b\"e\":\"depthUpdate\",\"E\":0,\"s\":\"BTCUSD\",\"U\":" ++ toString first ++ ",\"u\":" ++
    toString last ++ ",\"b\":[[\"" ++ (if last = 11 then "102" else "100") ++ "\",\"1\"]],\"a\":[" ++
    (if last = 10 then "[\"101\",\"1\"]" else "") ++ "]\x7d"

/-- What it is read as. -/
def demoDecoded (first last : Nat) : Decoded :=
  .depthUpdate "BTCUSD" (.ofNat first) (.ofNat last)
    [(⟨⟨if last = 11 then 102 else 100, 0⟩⟩, ⟨⟨1, 0⟩⟩)]
    (if last = 10 then [(⟨⟨101, 0⟩⟩, ⟨⟨1, 0⟩⟩)] else []) 0

/-- A codec that reads some depth frames. -/
def demoCodec : GeminiCodec where
  decodeText := decodeAs ([(5, 6), (7, 7), (10, 10), (11, 11), (12, 12), (13, 13), (13, 15), (14, 14),
    (20, 20)].map fun (first, last) => (demoText first last, demoDecoded first last))
  decodeTickerRest _ := .error ""
  decodePubtickerRest _ _ := .error ""
  decodeCandlesRest _ _ := .error ""
  subscribeBody _ := []
  debugCode _ := ""

def demoFrame (first last : Nat) : SessionInput := .textFrame (utf8 (demoText first last)) ⟨⟨0⟩, 0⟩

/-- The number of snapshots the session emits on a connection with these frames. -/
def demoSnapshots (frames : List SessionInput) : Nat :=
  (snapshotsOf demoCodec "BTCUSD" (onInput demoCodec demoSession (.connected ⟨0⟩)).state
    (onConnection frames)).length

/-- **A delta taken for a snapshot.** After a gap, after a delta that crosses the book and after a
first frame that was no snapshot, the session asks for a new connection; on the old one the next frame
with a single update id becomes the whole book. -/
theorem gap_frame_adopted :
    demoSnapshots [demoFrame 10 10, demoFrame 13 13, demoFrame 14 14] = 2 ∧
      demoSnapshots [demoFrame 10 10, demoFrame 11 11, demoFrame 12 12] = 2 ∧
      demoSnapshots [demoFrame 5 6] = 0 ∧ demoSnapshots [demoFrame 5 6, demoFrame 7 7] = 1 := by
  decide +kernel

/-- A snapshot and a gap, after which nothing with a single update id arrives. -/
theorem one_snapshot_per_connection_demo :
    demoSnapshots [demoFrame 10 10, demoFrame 13 15, .connected ⟨0⟩, demoFrame 20 20] ≤ 1 := by
  refine (one_snapshot_per_connection demoCodec demoSession ⟨0⟩
    [demoFrame 10 10, demoFrame 13 15, .connected ⟨0⟩, demoFrame 20 20] ?_).1 "BTCUSD"
  intro before input after symbol hsplit hsymbol hearlier hfirst
  have hinputs : onConnection
      [demoFrame 10 10, demoFrame 13 15, .connected ⟨0⟩, demoFrame 20 20] =
        [demoFrame 10 10, demoFrame 13 15] := rfl
  rw [hinputs] at hsplit
  rcases before with _ | ⟨first, _ | ⟨second, before⟩⟩
  · obtain ⟨earlier, hmem, -⟩ := hearlier
    exact absurd hmem List.not_mem_nil
  · obtain ⟨-, hinput⟩ := List.cons.inj hsplit
    obtain ⟨rfl, -⟩ := List.cons.inj hinput
    decide
  · simp at hsplit

end GeminiSession

end Marketfeed
