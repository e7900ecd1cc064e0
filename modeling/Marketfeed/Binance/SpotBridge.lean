import Marketfeed.Binance.SpotBook

/-!
# Where a spot snapshot may fall

A depth snapshot is taken while events are buffered, and its id may fall anywhere in their range. If the
buffered events are contiguous, every update id is in one of them or behind, so the remaining ones
follow on the snapshot. The session's own check asks for more: that the id lies inside the first
remaining event. An id that is the last one of an event, with more behind it, fails the check.
-/

namespace Marketfeed

namespace BinanceSpotSession

open BinanceSession

/-! ## Contiguous buffers -/

/-- Each event is a range, and starts right after the previous one. -/
def Contiguous (events : List DepthEvent) : Prop :=
  (∀ ev ∈ events, ev.firstU ≤ ev.finalU) ∧
    events.IsChain fun ev next => next.firstU.toNat = ev.finalU.toNat + 1

instance (events : List DepthEvent) : Decidable (Contiguous events) :=
  inferInstanceAs (Decidable ((∀ ev ∈ events, ev.firstU ≤ ev.finalU) ∧ List.IsChain _ events))

/-- The events a snapshot does not cover. -/
def remaining (lastUpdateId : UInt64) (events : List DepthEvent) : List DepthEvent :=
  events.filter fun ev => lastUpdateId < ev.finalU

/-- The id is the last one of an event that is not the last event. -/
def AtBoundary (lastUpdateId : UInt64) (events : List DepthEvent) : Prop :=
  ∃ ev ∈ events.dropLast, ev.finalU = lastUpdateId

instance (lastUpdateId : UInt64) (events : List DepthEvent) :
    Decidable (AtBoundary lastUpdateId events) :=
  inferInstanceAs (Decidable (∃ ev ∈ events.dropLast, ev.finalU = lastUpdateId))

variable {ev : DepthEvent} {events : List DepthEvent}

lemma Contiguous.tail (h : Contiguous (ev :: events)) : Contiguous events :=
  ⟨fun e he => h.1 e (List.mem_cons_of_mem _ he), h.2.tail⟩

/-- The event behind another one, and where it starts. -/
lemma Contiguous.next {next : DepthEvent} (h : Contiguous (ev :: next :: events)) :
    next.firstU.toNat = ev.finalU.toNat + 1 ∧ next.firstU.toNat ≤ next.finalU.toNat :=
  ⟨h.2.rel, h.1 next (List.mem_cons_of_mem _ List.mem_cons_self)⟩

variable {lastUpdateId : UInt64}

/-- Nothing is covered once the first event is not. -/
lemma remaining_eq_self (h : Contiguous (ev :: events)) (hlt : lastUpdateId < ev.finalU) :
    remaining lastUpdateId (ev :: events) = ev :: events := by
  induction events generalizing ev with
  | nil => exact List.filter_cons_of_pos (by simpa using hlt)
  | cons next events ih =>
    obtain ⟨hnext, hle⟩ := h.next
    have hlt' : lastUpdateId < next.finalU := by
      rw [UInt64.lt_iff_toNat_lt] at hlt ⊢
      omega
    unfold remaining at ih ⊢
    rw [List.filter_cons_of_pos (by simpa using hlt), ih h.tail hlt']

/-- The events an id up to `last` does not cover follow on it: each ends beyond what was applied and
starts at most one behind it. -/
def Joins : UInt64 → List DepthEvent → Prop
  | _, [] => True
  | last, ev :: rest => last < ev.finalU ∧ ev.firstU.toNat ≤ last.toNat + 1 ∧ Joins ev.finalU rest

variable {last : UInt64}

lemma Contiguous.joins (h : Contiguous events)
    (hfirst : ∀ ev ∈ events.head?, last < ev.finalU ∧ ev.firstU.toNat ≤ last.toNat + 1) :
    Joins last events := by
  induction events generalizing last with
  | nil => trivial
  | cons ev events ih =>
    obtain ⟨hlt, hle⟩ := hfirst ev rfl
    refine ⟨hlt, hle, ih h.tail ?_⟩
    rcases events with _ | ⟨next, events⟩
    · simp
    · obtain ⟨hnext, hle'⟩ := h.next
      rintro _ ⟨⟩
      exact ⟨UInt64.lt_iff_toNat_lt.mpr (by omega), by omega⟩

/-- An id inside the first event is at no boundary. -/
lemma not_atBoundary_of_lt (h : Contiguous (ev :: events)) (hlt : lastUpdateId < ev.finalU) :
    ¬ AtBoundary lastUpdateId (ev :: events) := by
  rintro ⟨e, hmem, heq⟩
  have hrest : e ∈ remaining lastUpdateId (ev :: events) := by
    rw [remaining_eq_self h hlt]
    exact List.mem_of_mem_dropLast hmem
  have hbeyond := of_decide_eq_true (List.mem_filter.mp hrest).2
  exact absurd hbeyond (heq ▸ UInt64.lt_irrefl _)

/-- **What a snapshot inside the buffer leaves**: at a boundary the first remaining event starts behind
the id. Anywhere else it starts at the id or before, and the remaining events follow on it. -/
theorem remaining_of_contiguous (h : Contiguous events)
    (hfirst : ∀ ev ∈ events.head?, ev.firstU ≤ lastUpdateId) :
    if AtBoundary lastUpdateId events then
      ∃ first ∈ (remaining lastUpdateId events).head?, lastUpdateId < first.firstU
    else (∀ first ∈ (remaining lastUpdateId events).head?, first.firstU ≤ lastUpdateId) ∧
      Joins lastUpdateId (remaining lastUpdateId events) := by
  induction events with
  | nil => simp [AtBoundary, remaining, Joins]
  | cons ev events ih =>
    have hstart : ev.firstU ≤ lastUpdateId := hfirst ev rfl
    by_cases hlt : lastUpdateId < ev.finalU
    · rw [if_neg (not_atBoundary_of_lt h hlt), remaining_eq_self h hlt]
      have hle := UInt64.le_iff_toNat_le.mp hstart
      refine ⟨?_, h.joins ?_⟩
      · rintro _ ⟨⟩
        exact hstart
      · rintro _ ⟨⟩
        exact ⟨hlt, by omega⟩
    · have hskip : remaining lastUpdateId (ev :: events) = remaining lastUpdateId events :=
        List.filter_cons_of_neg (by simpa using hlt)
      rw [hskip]
      rcases events with _ | ⟨next, events⟩
      · simp [AtBoundary, remaining, Joins]
      · obtain ⟨hnext, hle⟩ := h.next
        have hge := UInt64.not_lt.mp hlt
        rw [UInt64.le_iff_toNat_le] at hge
        by_cases heq : ev.finalU = lastUpdateId
        · -- The next event starts one behind the id, and is not covered.
          rw [if_pos ⟨ev, by simp, heq⟩, remaining_eq_self h.tail
            (UInt64.lt_iff_toNat_lt.mpr (by rw [← heq]; omega))]
          exact ⟨next, rfl, UInt64.lt_iff_toNat_lt.mpr (by rw [← heq]; omega)⟩
        · have hne : ev.finalU.toNat ≠ lastUpdateId.toNat := fun hsame =>
            heq (UInt64.toNat_inj.mp hsame)
          have hiff : AtBoundary lastUpdateId (ev :: next :: events) ↔
              AtBoundary lastUpdateId (next :: events) := by
            simp [AtBoundary, heq]
          have hnext' : ∀ e ∈ (next :: events).head?, e.firstU ≤ lastUpdateId := by
            rintro _ ⟨⟩
            exact UInt64.le_iff_toNat_le.mpr (by omega)
          simpa only [hiff] using ih h.tail hnext'

/-! ## Draining what remains -/

/-- The book after the changes of some events, each as one transaction. -/
def applyEvents : OrderBook → List DepthEvent → Except BookError OrderBook
  | book, [] => .ok book
  | book, ev :: rest =>
    match book.applyChangesAtomic ev.changes with
    | (_, .error e) => .error e
    | (book, .ok ()) => applyEvents (book.setSequence ev.finalU) rest

/-- The event whose changes a push reports. -/
def appliedEvent (p : Push) : Option DepthEvent :=
  match p.mark with
  | some (_, .delta ev _) => some ev
  | _ => none

/-- The actions that take a book out of service. -/
def Withdraws : SessionAction → Bool
  | .emitSystem (.bookInvalidated _ _) => true
  | .reconnect _ => true
  | _ => false

variable {s : BinanceSession} {symbol : String}

/-- A live book applies an event that follows on it. -/
lemma applyLiveDepth_of_follows {b : SymbolBook} {book : OrderBook} (enforce : Bool)
    (received : FrameStamp) (hb : s.books[symbol]? = some b)
    (hseq : b.sync.book.sequence = some last) (hlt : last < ev.finalU)
    (hfirst : ev.firstU.toNat ≤ last.toNat + 1)
    (happ : b.sync.book.applyChangesAtomic ev.changes = (book, .ok ())) :
    ∃ s' p, applyLiveDepth rules s symbol ev enforce received = (s', [p]) ∧
      s'.books[symbol]? = some { b with
        sync := { b.sync with
          book := book.setSequence ev.finalU
          expectedSequence := some (ev.finalU + 1) } } ∧
      appliedEvent p = some ev ∧ Withdraws p.action = false := by
  have hlast : b.lastU = last := by rw [SymbolBook.lastU, hseq, Option.getD_some]
  have hbound := UInt64.lt_iff_toNat_lt.mp hlt
  have hmax := ev.finalU.toNat_lt
  have hsucc : (last + 1).toNat = last.toNat + 1 := by
    rw [UInt64.toNat_add, UInt64.toNat_one, Nat.mod_eq_of_lt (by omega)]
  have hgap : rules.gap enforce last ev = none := by
    refine if_neg (UInt64.not_lt.mpr (UInt64.le_iff_toNat_le.mpr ?_))
    rw [hsucc]
    exact hfirst
  unfold applyLiveDepth
  simp only [hb, hlast, UInt64.not_le.mpr hlt, if_false, hgap, happ]
  exact ⟨_, _, rfl, by simp [emit, setBook, rules], rfl, rfl⟩

/-- **The drain applies every event that follows**, and the book stays live. -/
theorem drainDepth_of_joins (received : FrameStamp) {pending : List DepthEvent} {b : SymbolBook}
    {final : OrderBook} (enforce : Bool) (hb : s.books[symbol]? = some b)
    (hlive : b.sync.state = .live) (hseq : b.sync.book.sequence = some last)
    (hjoins : Joins last pending) (happ : applyEvents b.sync.book pending = .ok final) :
    ∃ s' pushes b', drainDepth rules symbol received enforce s pending = (s', pushes, true) ∧
      s'.books[symbol]? = some b' ∧ b'.sync.state = .live ∧ b'.sync.book = final ∧
      b'.depthBuffer = b.depthBuffer ∧ b'.buffering = b.buffering ∧
      pushes.filterMap appliedEvent = pending ∧ ∀ p ∈ pushes, Withdraws p.action = false := by
  induction pending generalizing s b last enforce with
  | nil =>
    cases happ
    exact ⟨s, [], b, rfl, hb, hlive, rfl, rfl, rfl, rfl, by simp⟩
  | cons ev rest ih =>
    obtain ⟨hlt, hfirst, hjoins⟩ := hjoins
    unfold applyEvents at happ
    split at happ
    · cases happ
    · rename_i book hbook
      obtain ⟨s₁, p, hrun, hb₁, hevent, hquiet⟩ :=
        applyLiveDepth_of_follows enforce received hb hseq hlt hfirst hbook
      obtain ⟨s', pushes, b', hdrain, hb', hlive', hfinal, hbuffer, hbuffering, hevents, hpushes⟩ :=
        ih true hb₁ hlive rfl hjoins happ
      refine ⟨s', p :: pushes, b', ?_, hb', hlive', hfinal, hbuffer, hbuffering, ?_, ?_⟩
      · unfold drainDepth
        simp [hrun, hb₁, hlive, hdrain]
      · rw [List.filterMap_cons_some hevent, hevents]
      · simpa [hquiet] using hpushes

/-! ## The snapshot -/

/-- **A snapshot that bridges the buffer**: the book is live and holds what the remaining events made of
the snapshot, they and no others were applied, in order, and nothing took a book out of service. -/
structure Bridged (symbol : String) (lastUpdateId : UInt64) (events : List DepthEvent)
    (final : OrderBook) (out : BinanceSession × List Push) : Prop where
  book : ∃ b, out.1.books[symbol]? = some b ∧ b.sync.state = .live ∧ b.sync.book = final ∧
    b.depthBuffer = [] ∧ b.buffering = false
  live : out.1.live = true
  applied : out.2.filterMap appliedEvent = remaining lastUpdateId events
  announced : ∃ p ∈ out.2, p.action = .markLive
  quiet : ∀ p ∈ out.2, Withdraws p.action = false

/-- A snapshot that is installed over events that follow on it. -/
lemma installSnapshot_bridged {held : SymbolBook} {bids asks : List (Price × Quantity)}
    {loaded final : OrderBook} (times : SourceTimes) (received : FrameStamp)
    (hloaded : held.sync.book.buildSnapshot bids asks (some lastUpdateId) = .ok loaded)
    (hheld : held.depthBuffer = remaining lastUpdateId events)
    (hjoins : Joins lastUpdateId held.depthBuffer)
    (happ : applyEvents loaded held.depthBuffer = .ok final) :
    Bridged symbol lastUpdateId events final
      (installSnapshot rules s symbol held lastUpdateId times bids asks received) := by
  have hsnapshot : held.sync.beginResync.requestSnapshot.book.applySnapshot bids asks
      (some lastUpdateId) = (loaded, .ok ()) := by
    have hsame : held.sync.beginResync.requestSnapshot.book.buildSnapshot bids asks
        (some lastUpdateId) = .ok loaded := hloaded
    rw [OrderBook.applySnapshot, hsame]
  have hseq : loaded.sequence = some lastUpdateId := (OrderBook.scales_buildSnapshot hloaded).2.2.2
  unfold installSnapshot
  simp only [hsnapshot]
  generalize hs₁ : emit rules (s.setBook symbol (installed rules held lastUpdateId loaded)) _ _ _ _ _ _ =
    emitted
  have hb : emitted.1.books[symbol]? = some (installed rules held lastUpdateId loaded) := by
    rw [← hs₁]
    simp [emit, setBook]
  have haction : Withdraws emitted.2 = false := by
    rw [← hs₁]
    rfl
  obtain ⟨s', pushes, b', hdrain, hb', hlive, hfinal, hbuffer, hbuffering, hevents, hpushes⟩ :=
    drainDepth_of_joins received false hb rfl hseq hjoins happ
  simp only [hdrain]
  refine ⟨⟨b', hb', hlive, hfinal, hbuffer, hbuffering⟩, rfl, ?_, ?_, ?_⟩
  · change (pushes ++ [(⟨.markLive, none⟩ : Push)]).filterMap appliedEvent = _
    rw [List.filterMap_append, hevents, hheld]
    exact List.append_nil _
  · exact ⟨⟨.markLive, none⟩, by simp, rfl⟩
  · intro p hp
    simp only [rules, if_true, List.cons_append, List.nil_append, List.mem_cons, List.mem_append,
      List.not_mem_nil, or_false] at hp
    rcases hp with rfl | rfl | hp | rfl
    · exact haction
    · rfl
    · exact hpushes p hp
    · rfl

/-- **A snapshot that is not older than a contiguous buffer bridges it iff its id is at no boundary**
between two buffered events. -/
theorem bridged_iff {s : BinanceSession} {symbol : String} {b : SymbolBook} {lastUpdateId : UInt64}
    {bids asks : List (Price × Quantity)} {loaded final : OrderBook} (times : SourceTimes)
    (received : FrameStamp) (hb : s.books[symbol]? = some b)
    (hcontiguous : Contiguous b.depthBuffer)
    (hfirst : ∀ ev ∈ b.depthBuffer.head?, ev.firstU ≤ lastUpdateId)
    (hloaded : b.sync.book.buildSnapshot bids asks (some lastUpdateId) = .ok loaded)
    (happ : applyEvents loaded (remaining lastUpdateId b.depthBuffer) = .ok final) :
    Bridged symbol lastUpdateId b.depthBuffer final
        (applySnapshot rules s symbol lastUpdateId times bids asks received) ↔
      ¬ AtBoundary lastUpdateId b.depthBuffer := by
  have hrest := remaining_of_contiguous hcontiguous hfirst
  have hnotOld : b.depthBuffer.head?.any (fun first => lastUpdateId < first.firstU) = false := by
    rcases hhead : b.depthBuffer.head? with _ | first
    · rfl
    · simpa using UInt64.not_lt.mpr (hfirst first hhead)
  have hkept : (b.depthBuffer.filter fun e => rules.keeps lastUpdateId e.finalU) =
      remaining lastUpdateId b.depthBuffer := rfl
  unfold applySnapshot
  simp only [hb, hnotOld, hkept, Bool.false_eq_true, if_false]
  by_cases hboundary : AtBoundary lastUpdateId b.depthBuffer
  · rw [if_pos hboundary] at hrest
    obtain ⟨first, hhead, hlt⟩ := hrest
    rw [Option.mem_def] at hhead
    have hnot : ¬ (first.firstU ≤ lastUpdateId ∧ first.finalU ≥ lastUpdateId) := fun h =>
      UInt64.not_lt.mpr h.1 hlt
    have hbridge : (remaining lastUpdateId b.depthBuffer).head?.any (fun first =>
        !(first.firstU ≤ lastUpdateId ∧ first.finalU ≥ lastUpdateId)) = true := by
      simp only [hhead, Option.any_some, hnot, decide_false, Bool.not_false]
    refine iff_of_false (fun hbridged => ?_) (not_not.mpr hboundary)
    rw [if_pos hbridge] at hbridged
    have hreconnect := hbridged.quiet ⟨.reconnect .sequenceGap, none⟩ (by simp [faultPushes])
    cases hreconnect
  · rw [if_neg hboundary] at hrest
    obtain ⟨hinside, hjoins⟩ := hrest
    refine iff_of_true ?_ hboundary
    have hbridge : (remaining lastUpdateId b.depthBuffer).head?.any (fun first =>
        !(first.firstU ≤ lastUpdateId ∧ first.finalU ≥ lastUpdateId)) = false := by
      rcases hhead : (remaining lastUpdateId b.depthBuffer).head? with _ | first
      · rfl
      · have hmem := List.mem_of_mem_head? hhead
        have hbeyond : lastUpdateId < first.finalU :=
          of_decide_eq_true (List.mem_filter.mp hmem).2
        simpa using ⟨hinside first hhead, UInt64.le_of_lt hbeyond⟩
    simp only [hbridge, Bool.false_eq_true, if_false]
    exact installSnapshot_bridged times received hloaded rfl hjoins happ

/-- A session that has buffered the events `[9, 12]` and `[13, 14]`. -/
def exampleBuffered : BinanceSession :=
  (run exampleCodec [] exampleConfig
    [.connected ⟨0⟩, .textFrame (utf8 firstText) ⟨⟨0⟩, 0⟩,
      .textFrame (utf8 secondText) ⟨⟨0⟩, 0⟩]).1

/-- That session after a snapshot. -/
def exampleSnapshot (lastUpdateId : UInt64) : BinanceSession × List Push :=
  applySnapshot rules exampleBuffered "BTCUSDT" lastUpdateId ⟨none, none⟩ [(⟨⟨100, 0⟩⟩, ⟨⟨1, 0⟩⟩)]
    [(⟨⟨101, 0⟩⟩, ⟨⟨1, 0⟩⟩)] ⟨⟨0⟩, 0⟩

/-- The snapshot by itself, and with the events it does not cover. -/
def exampleLoaded (b : SymbolBook) (lastUpdateId : UInt64) : Except BookError OrderBook := do
  let loaded ← b.sync.book.buildSnapshot [(⟨⟨100, 0⟩⟩, ⟨⟨1, 0⟩⟩)] [(⟨⟨101, 0⟩⟩, ⟨⟨1, 0⟩⟩)]
    (some lastUpdateId)
  applyEvents loaded (remaining lastUpdateId b.depthBuffer)

/-- **A snapshot at the end of a buffered event**: the events are contiguous, everything applies, and
the event `[13, 14]` follows on the snapshot 12. The session invalidates the book and reconnects. -/
theorem snapshot_at_boundary :
    ∃ b, exampleBuffered.books["BTCUSDT"]? = some b ∧ Contiguous b.depthBuffer ∧
      b.depthBuffer.map (fun ev => (ev.firstU, ev.finalU)) = [(9, 12), (13, 14)] ∧
      (exampleLoaded b 12).isOk = true ∧
      (exampleSnapshot 12).1.books["BTCUSDT"]?.any (fun b' => b'.sync.state = .invalid) = true ∧
      (exampleSnapshot 12).2.map (fun p => Withdraws p.action) = [true, false, true] := by
  have hany : exampleBuffered.books["BTCUSDT"]?.any (fun b => Contiguous b.depthBuffer ∧
      b.depthBuffer.map (fun ev => (ev.firstU, ev.finalU)) = [(9, 12), (13, 14)] ∧
      (exampleLoaded b 12).isOk = true) = true := by
    decide +kernel
  obtain ⟨b, hb, hfacts⟩ := (Option.any_eq_true _ _).mp hany
  obtain ⟨hcontiguous, hranges, hok⟩ := of_decide_eq_true hfacts
  exact ⟨b, hb, hcontiguous, hranges, hok, by decide +kernel, by decide +kernel⟩

/-- A snapshot inside the first event is accepted, and both events are applied. -/
theorem bridged_iff_example :
    ∃ b final, exampleBuffered.books["BTCUSDT"]? = some b ∧
      ¬ AtBoundary 10 b.depthBuffer ∧ (remaining 10 b.depthBuffer).length = 2 ∧
      Bridged "BTCUSDT" 10 b.depthBuffer final (exampleSnapshot 10) := by
  have hany : exampleBuffered.books["BTCUSDT"]?.any (fun b => Contiguous b.depthBuffer ∧
      (b.depthBuffer.head?.all fun ev => ev.firstU ≤ 10) = true ∧
      (exampleLoaded b 10).isOk = true ∧ ¬ AtBoundary 10 b.depthBuffer ∧
      (remaining 10 b.depthBuffer).length = 2) = true := by
    decide +kernel
  obtain ⟨b, hb, hfacts⟩ := (Option.any_eq_true _ _).mp hany
  obtain ⟨hcontiguous, hfirst, hok, hboundary, hlength⟩ := of_decide_eq_true hfacts
  obtain ⟨final, hfinal⟩ : ∃ final, exampleLoaded b 10 = .ok final := by
    rcases h : exampleLoaded b 10 with e | final
    · rw [h] at hok
      cases hok
    · exact ⟨final, rfl⟩
  obtain ⟨loaded, hloaded, happ⟩ := bind_eq_ok.mp hfinal
  have hhead : ∀ ev ∈ b.depthBuffer.head?, ev.firstU ≤ 10 := fun ev hev => by
    simpa [Option.mem_def.mp hev] using hfirst
  exact ⟨b, final, hb, hboundary, hlength,
    (bridged_iff _ _ hb hcontiguous hhead hloaded happ).mpr hboundary⟩

end BinanceSpotSession

end Marketfeed
