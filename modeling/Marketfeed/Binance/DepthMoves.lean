import Marketfeed.Binance.Depth
import Marketfeed.Lib.Alarm

/-!
# What a step can do to a book

Every input of a Binance session changes its books by a short list of moves. This file names the
moves of one book (`BookMove`), lifts them to the session's map of books (`SessionMoves`), shows
that the functions of the depth-book core only make such moves, and gives the rule by which a fact
about moves becomes a fact about every run (`SessionMoves.invariant`).

The moves say exactly what the sequence, mirror and chain results need, and no more: a move to a
book that is not live says nothing about what that book then holds.
-/

namespace Marketfeed

open BinanceSession

/-- Actions that report on a book: snapshots, deltas, gaps and invalidations. -/
@[simp] def SessionAction.ReportsBook : SessionAction → Prop
  | .emitBatch batch => ∃ e ∈ batch.events,
      (∃ s, e.payload = .bookSnapshot s) ∨ ∃ d, e.payload = .bookDelta d
  | .emitSystem (.sequenceGap _ _) => True
  | .emitSystem (.bookInvalidated _ _) => True
  | _ => False

namespace Push

/-- A push that concerns no book. -/
structure Silent (p : Push) : Prop where
  unmarked : p.mark = none
  silent : ¬ p.action.ReportsBook

/-- A push that concerns no book and does not announce readiness. -/
structure Quiet (p : Push) : Prop extends p.Silent where
  notLive : p.action ≠ .markLive

@[simp] lemma Quiet.iff {p : Push} :
    p.Quiet ↔ p.mark = none ∧ ¬ p.action.ReportsBook ∧ p.action ≠ .markLive :=
  ⟨fun h => ⟨h.unmarked, h.silent, h.notLive⟩, fun h => ⟨⟨h.1, h.2.1⟩, h.2.2⟩⟩

/-- A push of a book that is being given up. -/
inductive Fault (symbol : String) (instrument : InstrumentId) : Push → Prop
  | gap (expected actual : UInt64) :
      Fault symbol instrument ⟨.emitSystem (.sequenceGap expected actual), some (symbol, .gap)⟩
  | invalidated (reason : String) :
      Fault symbol instrument
        ⟨.emitSystem (.bookInvalidated instrument reason), some (symbol, .invalidated)⟩
  | quiet {p : Push} : p.Quiet → Fault symbol instrument p

/-- A push that reports one book event in a batch of its own. -/
structure Reports (instrument : Option InstrumentId) (range : SequenceRange) (payload : MarketEvent)
    (mark : String × BookMark) (p : Push) : Prop where
  mark_eq : p.mark = some mark
  action_eq : ∃ session frameSeq env, p.action = .emitBatch ⟨session, frameSeq, [env]⟩ ∧
    env.instrument = instrument ∧ env.payload = payload ∧ env.sourceSequence = some range

end Push

/-- What no move changes about a book: its instrument, its scales and its depth. -/
def SymbolBook.identity (b : SymbolBook) : InstrumentId × Nat × Nat × Option Nat :=
  (b.sync.instrument, b.sync.book.priceScale, b.sync.book.qtyScale, b.sync.book.depth)

section Moves

variable (R : DepthRules) (ids : Std.ExtTreeMap String InstrumentId compare) (symbol : String)

/-- **One move of one book.** -/
inductive BookMove : SymbolBook → SymbolBook → List Push → Prop
  /-- The book is, or stays, given up. -/
  | off {b b' : SymbolBook} {ps : List Push} (hstate : b'.sync.state ≠ .live)
      (hid : b'.identity = b.identity) (hps : ∀ p ∈ ps, p.Fault symbol b.sync.instrument) :
      BookMove b b' ps
  /-- Only the buffered events change. -/
  | still {b b' : SymbolBook} (hsync : b'.sync = b.sync)
      (hbridge : b'.awaitingBridge = b.awaitingBridge) (hbuf : b'.buffering = b.buffering) :
      BookMove b b' []
  /-- An event that ends exactly at the snapshot bridges it without a change. -/
  | bridged {b : SymbolBook} (hbridge : b.awaitingBridge = true) :
      BookMove b { b with awaitingBridge := false } []
  /-- An event is applied and reported: it continues the previous one, or bridges the snapshot. -/
  | applied {b b' : SymbolBook} (ev : DepthEvent) (book : OrderBook) {p : Push}
      (hlive : b.sync.state = .live) (hfresh : b.lastU < ev.finalU)
      (hfollows : ((R.bridges = true → b.awaitingBridge = false) ∧ R.gap true b.lastU ev = none) ∨
        (R.bridges = true ∧ b.awaitingBridge = true ∧ ev.firstU ≤ b.lastU))
      (hbook : b.sync.book.applyChangesAtomic ev.changes = (book, .ok ()))
      (hsync : b'.sync = { b.sync with
        book := book.setSequence ev.finalU, expectedSequence := some (R.nextExpected ev.finalU) })
      (hbridge : R.bridges = true → b'.awaitingBridge = false) (hbuf : b'.buffering = b.buffering)
      (hp : p.Reports ids[symbol]? ⟨ev.firstU, ev.finalU⟩ (.bookDelta ⟨ev.changes, none⟩)
        (symbol, .delta ev ⟨ev.changes, none⟩)) :
      BookMove b b' [p]
  /-- A snapshot is applied and reported. On the futures sessions the next event has to bridge. -/
  | synced {b b' : SymbolBook} (lastUpdateId : UInt64) (bids asks : List (Price × Quantity))
      {p : Push} {qs : List Push}
      (hbook : b.sync.book.buildSnapshot bids asks (some lastUpdateId) = .ok b'.sync.book)
      (hlive : b'.sync.state = .live) (hinstrument : b'.sync.instrument = b.sync.instrument)
      (hbridge : R.bridges = true → b'.awaitingBridge = true) (hbuf : b'.buffering = false)
      (hp : p.Reports (some b.sync.instrument) ⟨lastUpdateId, lastUpdateId⟩
        (.bookSnapshot ⟨toBookLevels bids, toBookLevels asks, some 1000, none⟩)
        (symbol, .snapshot lastUpdateId ⟨toBookLevels bids, toBookLevels asks, some 1000, none⟩))
      (hqs : ∀ q ∈ qs, q.Quiet) : BookMove b b' (p :: qs)

/-- Several moves of one book. -/
inductive BookMoves : SymbolBook → SymbolBook → List Push → Prop
  | refl (b : SymbolBook) : BookMoves b b []
  | step {b b' b'' : SymbolBook} {ps qs : List Push} (h : BookMoves b b' ps)
      (hm : BookMove R ids symbol b' b'' qs) : BookMoves b b'' (ps ++ qs)

end Moves

section Session

variable (R : DepthRules) (ids : Std.ExtTreeMap String InstrumentId compare)

/-- **The moves of a session's books**, with everything pushed on the way. -/
inductive SessionMoves : SymbolBooks → SymbolBooks → List Push → Prop
  | refl (B : SymbolBooks) : SessionMoves B B []
  | silent {B B' : SymbolBooks} {ps qs : List Push} (h : SessionMoves B B' ps)
      (hqs : ∀ q ∈ qs, q.Silent) : SessionMoves B B' (ps ++ qs)
  | book {B B' : SymbolBooks} {ps qs : List Push} (h : SessionMoves B B' ps) {symbol : String}
      {b b' : SymbolBook} (hb : B'[symbol]? = some b) (hm : BookMove R ids symbol b b' qs) :
      SessionMoves B (B'.insert symbol b') (ps ++ qs)
  | each {B B' : SymbolBooks} {ps : List Push} (h : SessionMoves B B' ps)
      {f : SymbolBook → SymbolBook} (hm : ∀ symbol b, BookMove R ids symbol b (f b) []) :
      SessionMoves B (B'.map fun _ => f) ps

end Session

variable {R : DepthRules} {ids : Std.ExtTreeMap String InstrumentId compare}

variable {symbol : String} {b b' : SymbolBook} {ps : List Push}

lemma BookMoves.single (h : BookMove R ids symbol b b' ps) : BookMoves R ids symbol b b' ps :=
  .step (.refl b) h

variable {qs : List Push}

lemma BookMoves.trans {b'' : SymbolBook} (h : BookMoves R ids symbol b b' ps)
    (h' : BookMoves R ids symbol b' b'' qs) : BookMoves R ids symbol b b'' (ps ++ qs) := by
  induction h' with
  | refl => simpa using h
  | step _ hm ih => simpa [List.append_assoc] using ih.step hm

variable {B B' : SymbolBooks}

lemma SessionMoves.trans {B'' : SymbolBooks} (h : SessionMoves R ids B B' ps)
    (h' : SessionMoves R ids B' B'' qs) : SessionMoves R ids B B'' (ps ++ qs) := by
  induction h' with
  | refl => simpa using h
  | silent _ hqs ih => simpa [List.append_assoc] using ih.silent hqs
  | book _ hb hm ih => simpa [List.append_assoc] using ih.book hb hm
  | each _ hm ih => exact ih.each hm

lemma insert_self (hb : B[symbol]? = some b) : B.insert symbol b = B := by
  refine Std.ExtTreeMap.ext_getElem? fun k => ?_
  rw [getElem?_insert_key]
  split_ifs with hk
  · rw [← hk, hb]
  · rfl

lemma insert_insert {c : SymbolBook} : (B.insert symbol b).insert symbol c = B.insert symbol c := by
  refine Std.ExtTreeMap.ext_getElem? fun k => ?_
  simp only [getElem?_insert_key]
  split_ifs <;> rfl

/-- The moves of one book inside the session. -/
lemma SessionMoves.ofBook (hb : B[symbol]? = some b) (hm : BookMoves R ids symbol b b' ps) :
    SessionMoves R ids B (B.insert symbol b') ps := by
  induction hm with
  | refl =>
    rw [insert_self hb]
    exact .refl B
  | step _ hm ih =>
    have hstep := ih.book Std.ExtTreeMap.getElem?_insert_self hm
    rwa [insert_insert] at hstep

lemma SessionMoves.ofSilent (B : SymbolBooks) (hps : ∀ p ∈ ps, p.Silent) :
    SessionMoves R ids B B ps := by
  simpa using (SessionMoves.refl B).silent hps

/-! ## The invariant rule -/

/-- The pushes of a move concern no other symbol. -/
lemma BookMove.mark_symbol (h : BookMove R ids symbol b b' ps) {p : Push} (hp : p ∈ ps)
    {other : String} {m : BookMark} (hm : p.mark = some (other, m)) : other = symbol := by
  cases h with
  | off _ _ hps =>
    cases hps p hp with
    | gap | invalidated => simp_all
    | quiet hq => simp [hq.unmarked] at hm
  | still | bridged => simp at hp
  | applied _ _ _ _ _ _ _ _ _ hr =>
    rw [List.mem_singleton.mp hp, hr.mark_eq] at hm
    simp_all
  | synced _ _ _ _ _ _ _ _ hr hqs =>
    rcases List.mem_cons.mp hp with rfl | hp
    · rw [hr.mark_eq] at hm
      simp_all
    · simp [(hqs p hp).unmarked] at hm

/-- A summary that reads only the marks of its own symbol ignores the moves of other books. -/
lemma BookMove.foldl_other {γ : Type} {δ : String → γ → Push → γ}
    (hδ : ∀ symbol g (p : Push), (∀ m, p.mark ≠ some (symbol, m)) → δ symbol g p = g)
    (h : BookMove R ids symbol b b' ps) {other : String} (hne : other ≠ symbol) (g : γ) :
    ps.foldl (δ other) g = g :=
  foldl_eq_self (fun g p hp => hδ other g p fun _ hm => hne (h.mark_symbol hp hm)) g

/-- **From moves to runs.** Let `δ` summarise, per symbol, what was pushed, and let `P` relate a book
with the summary of its symbol. If every move keeps `P` and leaves the summaries of the other
symbols alone, then `P` is kept by every sequence of moves of the session. -/
theorem SessionMoves.invariant {γ : Type} {δ : String → γ → Push → γ}
    {P : String → SymbolBook → γ → Prop}
    (hsilent : ∀ symbol g (p : Push), p.Silent → δ symbol g p = g)
    (hmove : ∀ symbol b b' ps g, BookMove R ids symbol b b' ps → P symbol b g →
      P symbol b' (ps.foldl (δ symbol) g) ∧
        ∀ other, other ≠ symbol → ∀ g', ps.foldl (δ other) g' = g')
    (h : SessionMoves R ids B B' ps) {g : String → γ}
    (h0 : ∀ symbol b, B[symbol]? = some b → P symbol b (g symbol)) :
    ∀ symbol b, B'[symbol]? = some b → P symbol b (ps.foldl (δ symbol) (g symbol)) := by
  induction h with
  | refl => exact h0
  | silent _ hqs ih =>
    intro symbol b hb
    rw [List.foldl_append, foldl_eq_self fun g q hq => hsilent symbol g q (hqs q hq)]
    exact ih symbol b hb
  | book _ hb hm ih =>
    intro other c hc
    obtain ⟨hP, hskip⟩ := hmove _ _ _ _ _ hm (ih _ _ hb)
    rw [List.foldl_append]
    rw [getElem?_insert_key] at hc
    split_ifs at hc with he
    · subst he
      cases hc
      exact hP
    · rw [hskip other (Ne.symm he) _]
      exact ih other c hc
  | each _ hm ih =>
    intro symbol c hc
    rw [Std.ExtTreeMap.getElem?_map] at hc
    obtain ⟨b, hb, rfl⟩ := Option.map_eq_some_iff.mp hc
    exact (hmove symbol b _ [] _ (hm symbol b) (ih symbol b hb)).1

/-- The moves of a session neither add nor remove a book. -/
lemma SessionMoves.isSome_iff (h : SessionMoves R ids B B' ps) (symbol : String) :
    (B'[symbol]?).isSome ↔ (B[symbol]?).isSome := by
  induction h with
  | refl => rfl
  | silent _ _ ih => exact ih
  | book _ hb _ ih =>
    rw [← ih, getElem?_insert_key]
    split_ifs with he
    · rw [← he, hb]
      simp
    · rfl
  | each _ _ ih =>
    rw [Std.ExtTreeMap.getElem?_map, Option.isSome_map]
    exact ih

/-! ## What the pushes say -/

/-- A condition on books that every move keeps holds after any moves; the pushes on the way have
every property that moves from such books give their pushes. -/
lemma SessionMoves.forall_push {Q : Push → Prop} {P : String → SymbolBook → Prop}
    (hsilent : ∀ p : Push, p.Silent → Q p)
    (hmove : ∀ symbol b b' ps, BookMove R ids symbol b b' ps → P symbol b →
      P symbol b' ∧ ∀ p ∈ ps, Q p) (h : SessionMoves R ids B B' ps)
    (h0 : ∀ symbol b, B[symbol]? = some b → P symbol b) :
    (∀ symbol b, B'[symbol]? = some b → P symbol b) ∧ ∀ p ∈ ps, Q p := by
  induction h with
  | refl => exact ⟨h0, by simp⟩
  | silent _ hqs ih =>
    exact ⟨ih.1, fun p hp => (List.mem_append.mp hp).elim (ih.2 p) fun hq =>
      hsilent p (hqs p hq)⟩
  | book _ hb hm ih =>
    obtain ⟨hP, hQ⟩ := hmove _ _ _ _ hm (ih.1 _ _ hb)
    refine ⟨fun other c hc => ?_, fun p hp => (List.mem_append.mp hp).elim (ih.2 p) (hQ p)⟩
    rw [getElem?_insert_key] at hc
    split_ifs at hc with he
    · rw [← he, ← Option.some.inj hc]
      exact hP
    · exact ih.1 other c hc
  | each _ hm ih =>
    refine ⟨fun symbol c hc => ?_, ih.2⟩
    rw [Std.ExtTreeMap.getElem?_map] at hc
    obtain ⟨b, hb, rfl⟩ := Option.map_eq_some_iff.mp hc
    exact (hmove symbol b _ [] (hm symbol b) (ih.1 symbol b hb)).1

/-- **A push means what its mark says**: a marked push emits the book event of that symbol's
instrument, and an unmarked one emits no book event. -/
def Push.Faithful (ids : Std.ExtTreeMap String InstrumentId compare) (p : Push) : Prop :=
  match p.mark with
  | none => ¬ p.action.ReportsBook
  | some (symbol, .snapshot lastUpdateId snapshot) =>
    p.Reports ids[symbol]? ⟨lastUpdateId, lastUpdateId⟩ (.bookSnapshot snapshot)
      (symbol, .snapshot lastUpdateId snapshot)
  | some (symbol, .delta ev delta) =>
    p.Reports ids[symbol]? ⟨ev.firstU, ev.finalU⟩ (.bookDelta delta) (symbol, .delta ev delta)
  | some (_, .gap) => ∃ expected actual, p.action = .emitSystem (.sequenceGap expected actual)
  | some (symbol, .invalidated) =>
    ∃ id reason, ids[symbol]? = some id ∧ p.action = .emitSystem (.bookInvalidated id reason)

/-- Every push of a session whose books carry the configured instruments is faithful. -/
lemma SessionMoves.faithful (h : SessionMoves R ids B B' ps)
    (h0 : ∀ (symbol : String) (b : SymbolBook), B[symbol]? = some b →
      ids[symbol]? = some b.sync.instrument) : ∀ p ∈ ps, p.Faithful ids := by
  have hq : ∀ p : Push, p.Silent → p.Faithful ids := by
    intro p hp
    unfold Push.Faithful
    rw [hp.unmarked]
    exact hp.silent
  refine (h.forall_push (P := fun symbol b => ids[symbol]? = some b.sync.instrument) hq ?_ h0).2
  intro symbol b b' ps hm hb
  cases hm with
  | off _ hid hps =>
    refine ⟨?_, fun p hp => ?_⟩
    · rw [hb, show b'.sync.instrument = b.sync.instrument from congrArg Prod.fst hid]
    · rcases hps p hp with ⟨expected, actual⟩ | reason | hquiet
      · exact ⟨expected, actual, rfl⟩
      · exact ⟨_, reason, hb, rfl⟩
      · exact hq p hquiet.toSilent
  | still hsync _ _ => exact ⟨by rw [hb, hsync], by simp⟩
  | bridged _ => exact ⟨hb, by simp⟩
  | applied ev _ _ _ _ _ hsync _ _ hr =>
    refine ⟨by rw [hb, hsync], fun p hp => ?_⟩
    rw [List.mem_singleton.mp hp]
    unfold Push.Faithful
    rw [hr.mark_eq]
    exact hr
  | synced lastUpdateId _ _ _ _ hinst _ _ hr hqs =>
    refine ⟨by rw [hb, hinst], fun p hp => ?_⟩
    rcases List.mem_cons.mp hp with rfl | hp
    · unfold Push.Faithful
      rw [hr.mark_eq]
      rw [← hb] at hr
      exact hr
    · exact hq p (hqs p hp).toSilent

/-! ## The core functions only make moves -/

/-- On sessions without a bridge the continuity check ignores its flag. -/
def DepthRules.Lawful (R : DepthRules) : Prop :=
  R.bridges = false → ∀ e e' l ev, R.gap e l ev = R.gap e' l ev

lemma fault_of_mem_faultPushes {instrument : InstrumentId} {reason : String} {p : Push}
    (hp : p ∈ faultPushes symbol instrument reason) : p.Fault symbol instrument := by
  simp only [faultPushes, List.mem_cons, List.not_mem_nil, or_false] at hp
  rcases hp with rfl | rfl | rfl
  · exact .invalidated reason
  · exact .quiet (by simp)
  · exact .quiet (by simp)

lemma quiet_requestHttp (r : HttpRequestSpec) : (⟨.requestHttp r, none⟩ : Push).Quiet :=
  (by simp)

/-- Emitting changes only the frame counter. -/
lemma books_emit (R : DepthRules) (s : BinanceSession) (instrument : Option InstrumentId)
    (received : FrameStamp) (ts : Option Int) (seq : Option SequenceRange) (flags : EventFlags)
    (payloads : List MarketEvent) :
    (emit R s instrument received ts seq flags payloads).1.books = s.books ∧
      (emit R s instrument received ts seq flags payloads).1.cfg = s.cfg :=
  ⟨rfl, rfl⟩

/-- A transaction keeps the scales and the depth. -/
lemma header_applyChangesAtomic {b b' : OrderBook} {changes : List BookChange}
    {r : Except BookError Unit} (h : b.applyChangesAtomic changes = (b', r)) :
    b'.header = b.header := by
  rcases OrderBook.applyChangesAtomic_cases b changes with ⟨e, he⟩ | ⟨ws, -, -, -, he⟩ <;>
    rw [he] at h <;> cases h
  · rfl
  · rw [OrderBook.header_trimDepth, OrderBook.header_putLevels]

variable {s : BinanceSession}

/-- **Applying one event is a move**, from the book with its bridge flag still set when the event is
the one that bridges. -/
theorem applyLiveDepth_moves (hR : R.Lawful) (bv : SymbolBook) (ev : DepthEvent) (enforce : Bool)
    (hb : s.books[symbol]? = some b) (hlive : b.sync.state = .live)
    (hbv : b = { bv with awaitingBridge := b.awaitingBridge })
    (hmode : (bv = b ∧ (R.bridges = true → b.awaitingBridge = false) ∧
          (R.bridges = true → enforce = true)) ∨
        (R.bridges = true ∧ bv.awaitingBridge = true ∧ b.awaitingBridge = false ∧
          ev.firstU ≤ b.lastU)) (received : FrameStamp) :
    ∃ b', (applyLiveDepth R s symbol ev enforce received).1.books = s.books.insert symbol b' ∧
      (applyLiveDepth R s symbol ev enforce received).1.cfg = s.cfg ∧
      (b'.sync.state = .live → R.bridges = true → b'.awaitingBridge = false) ∧
      BookMoves R s.cfg.instrumentIds symbol bv b'
        (applyLiveDepth R s symbol ev enforce received).2 := by
  have hsync : bv.sync = b.sync := by rw [hbv]
  have hbuf : bv.buffering = b.buffering := by rw [hbv]
  have hawait : R.bridges = true → b.awaitingBridge = false := by
    rcases hmode with ⟨-, h, -⟩ | ⟨-, -, h, -⟩
    · exact h
    · exact fun _ => h
  unfold applyLiveDepth
  simp only [hb]
  by_cases hstale : ev.finalU ≤ b.lastU
  · -- a stale event: nothing, or the bridge flag is used up
    simp only [hstale, if_true]
    refine ⟨b, (insert_self hb).symm, trivial, fun _ => hawait, ?_⟩
    rcases hmode with ⟨rfl, -⟩ | ⟨-, hbr, hbf, -⟩
    · exact .refl _
    · rw [hbv, hbf]
      exact .single (.bridged hbr)
  · simp only [hstale, if_false]
    rcases hgap : R.gap enforce b.lastU ev with _ | ⟨expected, actual⟩
    · rcases happ : b.sync.book.applyChangesAtomic ev.changes with ⟨book', _ | _⟩
      · -- the book refuses the changes
        refine ⟨_, rfl, rfl, by rintro ⟨⟩, .single (.off (by rintro ⟨⟩) ?_ ?_)⟩
        · have hh := header_applyChangesAtomic happ
          simp only [OrderBook.header, Prod.mk.injEq] at hh
          simp [SymbolBook.identity, BookSynchronizer.invalidate, BookSynchronizer.clearBuffer,
            OrderBook.setValidity, hh, hsync]
        · rw [hsync]
          exact fun p hp => fault_of_mem_faultPushes hp
      · refine ⟨_, rfl, rfl, fun _ => hawait, .single (.applied ev book'
          (hsync ▸ hlive) ?_ ?_ (by rw [hsync]; exact happ) (by rw [hsync]) hawait hbuf.symm ⟨rfl, ?_⟩)⟩
        · rw [SymbolBook.lastU, hsync]
          exact UInt64.not_le.mp hstale
        · have hl : bv.lastU = b.lastU := by rw [SymbolBook.lastU, hsync, SymbolBook.lastU]
          rw [hl]
          rcases hmode with ⟨rfl, haw, henf⟩ | ⟨hbr, hbt, -, hle⟩
          · refine .inl ⟨haw, ?_⟩
            rcases hbr : R.bridges with _ | _
            · rw [hR hbr true enforce, hgap]
            · rw [← henf hbr, hgap]
          · exact .inr ⟨hbr, hbt, hle⟩
        · exact ⟨_, _, _, rfl, rfl, rfl, rfl⟩
    · refine ⟨_, rfl, rfl, by rintro ⟨⟩, .single (.off (by rintro ⟨⟩) ?_ ?_)⟩
      · rw [SymbolBook.identity, SymbolBook.identity, hsync]
        rfl
      · rw [hsync]
        intro p hp
        rcases List.mem_cons.mp hp with rfl | hp
        · exact .gap _ _
        · exact fault_of_mem_faultPushes hp

/-- **The drain is a sequence of moves**, and a drain that ran to its end leaves the book live. -/
theorem drainDepth_moves (hR : R.Lawful) (received : FrameStamp) (pending : List DepthEvent)
    (enforce : Bool) {bv : SymbolBook} (hb : s.books[symbol]? = some b)
    (hlive : b.sync.state = .live) (hbv : b = { bv with awaitingBridge := b.awaitingBridge })
    (hmode : (bv = b ∧ (pending ≠ [] → R.bridges = true → b.awaitingBridge = false) ∧
          (pending ≠ [] → R.bridges = true → enforce = true)) ∨
        (R.bridges = true ∧ bv.awaitingBridge = true ∧ b.awaitingBridge = false ∧
          ∃ ev rest, pending = ev :: rest ∧ ev.firstU ≤ b.lastU)) :
    ∃ b', (drainDepth R symbol received enforce s pending).1.books = s.books.insert symbol b' ∧
      (drainDepth R symbol received enforce s pending).1.cfg = s.cfg ∧
      ((drainDepth R symbol received enforce s pending).2.2 = true → b'.sync.state = .live) ∧
      BookMoves R s.cfg.instrumentIds symbol bv b'
        (drainDepth R symbol received enforce s pending).2.1 := by
  induction pending generalizing s b bv enforce with
  | nil =>
    rcases hmode with ⟨rfl, -⟩ | ⟨-, -, -, ev, rest, hnil, -⟩
    · exact ⟨bv, (insert_self hb).symm, rfl, fun _ => hlive, .refl _⟩
    · cases hnil
  | cons ev rest ih =>
    obtain ⟨b₁, hbooks, hcfg, hawait, hmoves⟩ := applyLiveDepth_moves hR bv ev enforce hb
      hlive hbv (by
        rcases hmode with ⟨h1, h2, h3⟩ | ⟨h1, h2, h3, ev', rest', heq, hle⟩
        · exact Or.inl ⟨h1, h2 (by simp), h3 (by simp)⟩
        · cases heq
          exact .inr ⟨h1, h2, h3, hle⟩) received
    unfold drainDepth
    rcases happ : applyLiveDepth R s symbol ev enforce received with ⟨s₁, ps⟩
    simp only [happ] at hbooks hcfg hmoves ⊢
    have hb₁ : s₁.books[symbol]? = some b₁ := by simp [hbooks]
    simp only [hb₁]
    by_cases hl : b₁.sync.state = .live
    · obtain ⟨b₂, hbooks₂, hcfg₂, hdone, hmoves₂⟩ := ih true hb₁ hl rfl
        (.inl ⟨rfl, fun _ => hawait hl, fun _ _ => rfl⟩)
      simp only [hl, ne_eq, not_true_eq_false, if_false]
      refine ⟨b₂, ?_, hcfg₂.trans hcfg, hdone, ?_⟩
      · rw [hbooks₂, hbooks, insert_insert]
      · rw [hcfg] at hmoves₂
        exact hmoves.trans hmoves₂
    · simp only [hl, ne_eq, not_false_eq_true, if_true]
      exact ⟨b₁, hbooks, hcfg, by simp, hmoves⟩

/-- The moves of a book do not announce readiness: only the end of a snapshot does. -/
lemma BookMove.notLive (h : BookMove R ids symbol b b' ps) : ∀ p ∈ ps, p.action ≠ .markLive := by
  have hreports : ∀ {i range payload mark} {p : Push}, p.Reports i range payload mark →
      p.action ≠ .markLive := by
    intro i range payload mark p hr
    obtain ⟨session, frameSeq, env, haction, -⟩ := hr.action_eq
    rw [haction]
    exact nofun
  intro p hp
  cases h with
  | off _ _ hps =>
    rcases hps p hp with _ | _ | hq
    · exact nofun
    · exact nofun
    · exact hq.notLive
  | still | bridged => simp at hp
  | applied _ _ _ _ _ _ _ _ _ hr =>
    rw [List.mem_singleton.mp hp]
    exact hreports hr
  | synced _ _ _ _ _ _ _ _ hr hqs =>
    rcases List.mem_cons.mp hp with rfl | hp
    · exact hreports hr
    · exact (hqs p hp).notLive

lemma BookMoves.notLive (h : BookMoves R ids symbol b b' ps) : ∀ p ∈ ps, p.action ≠ .markLive := by
  induction h with
  | refl => simp
  | step _ hm ih => exact fun p hp => (List.mem_append.mp hp).elim (ih p) (hm.notLive p)

/-- **What a session function may do**: moves of its books, with the configuration kept. A function
that works on the book of one symbol, its `target`, leaves the other books alone; readiness is
announced only then, and only when that book ends live. -/
structure Moves (R : DepthRules) (target : Option String) (s : BinanceSession)
    (r : BinanceSession × List Push) : Prop where
  books : SessionMoves R s.cfg.instrumentIds s.books r.1.books r.2
  cfg : r.1.cfg = s.cfg
  frame : ∀ symbol, target = some symbol → ∀ other : String, other ≠ symbol →
    r.1.books[other]? = s.books[other]?
  ready : (∃ p ∈ r.2, p.action = .markLive) →
    ∃ (symbol : String) (b : SymbolBook), target = some symbol ∧ r.1.books[symbol]? = some b ∧
      b.sync.state = .live

variable {target : Option String} {s' : BinanceSession}

lemma Moves.ofQuiet (hs : s'.books = s.books) (hc : s'.cfg = s.cfg) (hps : ∀ p ∈ ps, p.Quiet) :
    Moves R target s (s', ps) where
  books := by
    rw [hs]
    exact .ofSilent _ fun p hp => (hps p hp).toSilent
  cfg := hc
  frame := fun _ _ _ _ => by rw [hs]
  ready := fun ⟨p, hp, hmark⟩ => absurd hmark (hps p hp).notLive

variable {r : BinanceSession × List Push}

/-- Only the books and the configuration matter. -/
lemma Moves.congr {t : BinanceSession} (hb : t.books = s.books) (hc : t.cfg = s.cfg)
    (h : Moves R target t r) : Moves R target s r := by
  obtain ⟨hm, hcfg, hframe, hready⟩ := h
  rw [hb, hc] at hm
  rw [hb] at hframe
  exact ⟨hm, hcfg.trans hc, hframe, hready⟩

lemma Moves.refl (s : BinanceSession) : Moves R target s (s, []) :=
  .ofQuiet rfl rfl (by simp)

lemma Moves.trans {s'' : BinanceSession} (h : Moves R target s (s', ps))
    (hps : ∀ p ∈ ps, p.action ≠ .markLive) (h' : Moves R target s' (s'', qs)) :
    Moves R target s (s'', ps ++ qs) where
  books := by
    have hm := h'.books
    rw [h.cfg] at hm
    exact h.books.trans hm
  cfg := h'.cfg.trans h.cfg
  frame := fun symbol ht other hne => (h'.frame symbol ht other hne).trans (h.frame symbol ht other hne)
  ready := by
    rintro ⟨p, hp, hmark⟩
    rcases List.mem_append.mp hp with hp | hp
    · exact absurd hmark (hps p hp)
    · exact h'.ready ⟨p, hp, hmark⟩

/-- The function announces no readiness without a target. -/
lemma Moves.noLive (h : Moves R none s r) : ∀ p ∈ r.2, p.action ≠ .markLive := by
  intro p hp hmark
  obtain ⟨symbol, b, ht, -⟩ := h.ready ⟨p, hp, hmark⟩
  cases ht

/-- Functions without a target may follow each other. -/
lemma Moves.seq {s'' : BinanceSession} (h : Moves R none s (s', ps))
    (h' : Moves R none s' (s'', qs)) : Moves R none s (s'', ps ++ qs) :=
  h.trans h.noLive h'

/-- Quiet pushes may precede any function. -/
lemma Moves.afterQuiet (ps : List Push) (hps : ∀ p ∈ ps, p.Quiet)
    (h : Moves R target s (s', qs)) : Moves R target s (s', ps ++ qs) :=
  (Moves.ofQuiet rfl rfl hps).trans (fun p hp => (hps p hp).notLive) h

/-- The moves of one book, by a function with that book as its target or without a target. -/
lemma Moves.ofBook (ht : ∀ other ∈ target, other = symbol) (hb : s.books[symbol]? = some b)
    (hs : r.1.books = s.books.insert symbol b') (hc : r.1.cfg = s.cfg)
    (hm : BookMoves R s.cfg.instrumentIds symbol b b' r.2) : Moves R target s r where
  books := by
    rw [hs]
    exact .ofBook hb hm
  cfg := hc
  frame := by
    intro _ htarget other hne
    rw [ht _ htarget] at hne
    rw [hs, getElem?_insert_key, if_neg hne.symm]
  ready := fun ⟨p, hp, hmark⟩ => absurd hmark (hm.notLive p hp)

lemma Moves.ofMove (ht : ∀ other ∈ target, other = symbol) (hb : s.books[symbol]? = some b)
    (hs : r.1.books = s.books.insert symbol b') (hc : r.1.cfg = s.cfg)
    (hm : BookMove R s.cfg.instrumentIds symbol b b' r.2) : Moves R target s r :=
  .ofBook ht hb hs hc (.single hm)

/-- A function that leaves its target live may announce readiness at its end. -/
lemma Moves.markLive (h : Moves R (some symbol) s (s', ps)) (hb : s'.books[symbol]? = some b)
    (hlive : b.sync.state = .live) : Moves R (some symbol) s (s', ps ++ [⟨.markLive, none⟩]) where
  books := h.books.silent (by simpa using ⟨rfl, id⟩)
  cfg := h.cfg
  frame := h.frame
  ready := fun _ => ⟨symbol, b, rfl, hb, hlive⟩

/-- A batch without snapshots and deltas is quiet. -/
lemma emitUnmarked_moves {R R' : DepthRules} (s : BinanceSession)
    (instrument : Option InstrumentId) (received : FrameStamp) (ts : Option Int)
    (seq : Option SequenceRange) (flags : EventFlags) (payloads : List MarketEvent)
    (hpay : ∀ m ∈ payloads, (∀ x, m ≠ .bookSnapshot x) ∧ ∀ x, m ≠ .bookDelta x) :
    Moves R target s (emitUnmarked R' s instrument received ts seq flags payloads) := by
  refine .ofQuiet rfl rfl fun p hp => ?_
  rw [List.mem_singleton.mp hp]
  refine ⟨⟨rfl, ?_⟩, by simp⟩
  rintro ⟨e, he, hbook⟩
  obtain ⟨⟨m, i⟩, hm, rfl⟩ := List.mem_map.mp he
  have hmem : m ∈ payloads := (List.mem_zipIdx' hm).2 ▸ List.getElem_mem _
  rcases hbook with ⟨x, hx⟩ | ⟨x, hx⟩
  · exact (hpay m hmem).1 x hx
  · exact (hpay m hmem).2 x hx

lemma requestDepthSnapshot_moves (s : BinanceSession) (symbol : String) :
    Moves R (some symbol) s (requestDepthSnapshot R s symbol) := by
  unfold requestDepthSnapshot
  rcases hb : s.books[symbol]? with _ | b
  · exact .refl s
  · refine .ofMove (by simp) hb rfl rfl (.off (by rintro ⟨⟩) rfl fun p hp => ?_)
    rw [List.mem_singleton.mp hp]
    exact .quiet (quiet_requestHttp _)

lemma cfg_resetBuffer (s : BinanceSession) (symbol : String) :
    (s.resetBuffer symbol).cfg = s.cfg := by
  unfold resetBuffer
  split <;> rfl

/-- Dropping the buffer and asking again is one move of the book. -/
lemma resetRequest_moves (s : BinanceSession) (symbol : String) :
    Moves R none s (requestDepthSnapshot R (s.resetBuffer symbol) symbol) := by
  unfold requestDepthSnapshot resetBuffer
  rcases hb : s.books[symbol]? with _ | b
  · simp only [hb]
    exact .refl s
  · simp only [setBook, Std.ExtTreeMap.getElem?_insert_self]
    refine .ofMove (by simp) hb insert_insert rfl (.off (by rintro ⟨⟩) rfl fun p hp => ?_)
    rw [List.mem_singleton.mp hp]
    exact .quiet (quiet_requestHttp _)

lemma requestAll_moves (s : BinanceSession) (symbols : List String) :
    Moves R none s (requestAll R s symbols) := by
  induction symbols generalizing s with
  | nil => exact .refl s
  | cons symbol rest ih =>
    exact (resetRequest_moves s symbol).seq (ih _)

lemma invalidateAll_moves (s : BinanceSession) : Moves R none s (s.invalidateAll, []) := by
  exact ⟨(SessionMoves.refl _).each fun _ _ => .off (by rintro ⟨⟩) rfl (by simp), rfl, by simp, by simp⟩

/-- **A depth event only makes moves.** -/
theorem onDepthUpdate_moves (hR : R.Lawful) (s : BinanceSession) (symbol : String)
    (firstU finalU prevU : UInt64) (bids asks : List (Price × Quantity)) (times : SourceTimes)
    (received : FrameStamp) :
    Moves R none s (onDepthUpdate R s symbol firstU finalU prevU bids asks times received) := by
  unfold onDepthUpdate
  split_ifs with hl2
  · exact .refl s
  · rcases hb : s.books[symbol]? with _ | b
    · exact .refl s
    · simp only
      set ev : DepthEvent := ⟨firstU, finalU, prevU, bids, asks, times, depthBytesLen bids asks,
        received.monoNs⟩
      by_cases hbuf : b.buffering ∨ b.sync.state ≠ .live
      · rw [if_pos hbuf]
        rcases hpush : b.pushDepth ev with reason | b'
        · exact .ofMove (by simp) hb rfl rfl (.off (by rintro ⟨⟩) rfl fun p hp => fault_of_mem_faultPushes hp)
        · refine .ofMove (by simp) hb rfl rfl (.still ?_ ?_ ?_) <;>
          · unfold SymbolBook.pushDepth at hpush
            extract_lets at hpush
            split_ifs at hpush
            cases hpush
            rfl
      · rw [if_neg hbuf]
        have hlive : b.sync.state = .live := by
          by_contra h
          exact hbuf (.inr h)
        by_cases hbr : R.bridges = true ∧ b.awaitingBridge = true
        · rw [if_pos hbr]
          split_ifs with hold hfar
          · exact .refl s
          · refine .ofMove (by simp) hb rfl rfl (.off (by rintro ⟨⟩) rfl fun p hp => ?_)
            rcases List.mem_cons.mp hp with rfl | hp
            · exact .gap _ _
            · exact fault_of_mem_faultPushes hp
          · -- the bridging event, applied to the book with its flag cleared
            have hb₁ : (s.setBook symbol { b with awaitingBridge := false }).books[symbol]? =
                some { b with awaitingBridge := false } := by simp [setBook]
            obtain ⟨b', hbooks, hcfg, -, hmoves⟩ := applyLiveDepth_moves hR b ev false hb₁
              hlive rfl (.inr ⟨hbr.1, hbr.2, rfl, UInt64.not_lt.mp hfar⟩) received
            exact .ofBook (by simp) hb (hbooks.trans insert_insert) hcfg hmoves
        · rw [if_neg hbr]
          have haw : R.bridges = true → b.awaitingBridge = false := by
            intro h
            simpa [h] using hbr
          obtain ⟨b', hbooks, hcfg, -, hmoves⟩ := applyLiveDepth_moves hR b ev true hb
            hlive rfl (.inl ⟨rfl, haw, fun _ => rfl⟩) received
          exact .ofBook (by simp) hb hbooks hcfg hmoves

/-- The pushes of one emitted event. -/
lemma reports_emit (R : DepthRules) (s : BinanceSession) (instrument : Option InstrumentId)
    (received : FrameStamp) (ts : Option Int) (range : SequenceRange) (flags : EventFlags)
    (payload : MarketEvent) (mark : String × BookMark) :
    Push.Reports instrument range payload mark
      ⟨(emit R s instrument received ts (some range) flags [payload]).2, some mark⟩ :=
  ⟨rfl, _, _, _, rfl, rfl, rfl, rfl⟩

/-- **An accepted snapshot only makes moves**: it replaces the book, and the buffered events
follow, of which the first bridges it. -/
theorem installSnapshot_moves (hR : R.Lawful) {held : SymbolBook} (hb : s.books[symbol]? = some b)
    (hheld : held.sync = b.sync) {lastUpdateId : UInt64}
    (hbridge : ∀ ev rest, held.depthBuffer = ev :: rest → ev.firstU ≤ lastUpdateId)
    (times : SourceTimes) (bids asks : List (Price × Quantity)) (received : FrameStamp) :
    Moves R (some symbol) s (installSnapshot R s symbol held lastUpdateId times bids asks received) := by
  unfold installSnapshot
  rcases OrderBook.applySnapshot_cases held.sync.beginResync.requestSnapshot.book bids asks
    (some lastUpdateId) with ⟨next, hnext, happ⟩ | ⟨err, -, happ⟩
  · simp only [happ]
    -- the book the drain starts from, and the same book before a buffered event bridges it
    set real := installed R held lastUpdateId next with hreal
    have hlastU : real.lastU = lastUpdateId := by
      show next.sequence.getD 0 = lastUpdateId
      rw [(OrderBook.scales_buildSnapshot hnext).2.2.2]
      rfl
    have hmode : (({ real with awaitingBridge := R.bridges } : SymbolBook) = real ∧
          (held.depthBuffer ≠ [] → R.bridges = true → real.awaitingBridge = false) ∧
          (held.depthBuffer ≠ [] → R.bridges = true → false = true)) ∨
        (R.bridges = true ∧ R.bridges = true ∧ real.awaitingBridge = false ∧
          ∃ ev rest, held.depthBuffer = ev :: rest ∧ ev.firstU ≤ real.lastU) := by
      have haw : real.awaitingBridge = (R.bridges && held.depthBuffer.isEmpty) := rfl
      rcases hk : held.depthBuffer with _ | ⟨ev, rest⟩
      · refine Or.inl ⟨?_, by simp, by simp⟩
        rw [hk, List.isEmpty_nil, Bool.and_true] at haw
        rw [← haw]
      · rw [hk, List.isEmpty_cons, Bool.and_false] at haw
        rcases hbr : R.bridges with _ | _
        · exact Or.inl ⟨by rw [← haw], by simp, by simp⟩
        · refine .inr ⟨rfl, rfl, haw, ev, rest, rfl, ?_⟩
          rw [hlastU]
          exact hbridge ev rest hk
    rw [show held.sync.instrument = b.sync.instrument by rw [hheld]]
    set action := emit R (s.setBook symbol real) (some b.sync.instrument) received
      (R.authoredTimeMs times) (some ⟨lastUpdateId, lastUpdateId⟩) .snapshot
      [.bookSnapshot ⟨toBookLevels bids, toBookLevels asks, some 1000, none⟩] with haction
    have hsynced : BookMove R s.cfg.instrumentIds symbol b { real with awaitingBridge := R.bridges }
        (⟨action.2, some (symbol, .snapshot lastUpdateId
          ⟨toBookLevels bids, toBookLevels asks, some 1000, none⟩)⟩ ::
          (if R.announcesResync then
            [⟨.emitSystem (.bookResynchronized b.sync.instrument), none⟩] else [])) := by
      refine .synced lastUpdateId bids asks ?_ rfl (by rw [hreal, ← hheld]; rfl) (fun h => h) rfl (reports_emit ..) ?_
      · rw [← hheld]
        exact hnext
      · intro q hq
        split_ifs at hq
        · rw [List.mem_singleton.mp hq]
          exact (by simp)
        · simp at hq
    have hb₁ : action.1.books[symbol]? = some real := by simp [haction, books_emit, setBook]
    obtain ⟨b', hbooks, hcfg, hdone, hmoves⟩ :=
      drainDepth_moves hR received held.depthBuffer false hb₁ rfl rfl hmode
    have hins : action.1.books.insert symbol b' = s.books.insert symbol b' := insert_insert
    rcases hdrain : drainDepth R symbol received false action.1 held.depthBuffer with
      ⟨s', ps, completed⟩
    rw [hdrain, hins] at hbooks
    rw [hdrain] at hcfg hdone hmoves
    have hrun := (BookMoves.single hsynced).trans hmoves
    rcases completed with _ | _
    · exact .ofBook (by simp) hb hbooks hcfg hrun
    · refine .markLive (b := b') (.ofBook (by simp) hb hbooks hcfg hrun) ?_ (hdone rfl)
      rw [show s'.books = _ from hbooks]
      exact Std.ExtTreeMap.getElem?_insert_self
  · simp only [happ]
    refine .ofMove (by simp) hb rfl rfl (.off (by rintro ⟨⟩) ?_ ?_)
    · rw [SymbolBook.identity, SymbolBook.identity, ← hheld]
      rfl
    · intro p hp
      rcases List.mem_pair.mp hp with rfl | rfl
      · rw [hheld]
        exact .invalidated _
      · exact .quiet (by simp)

/-- **A snapshot only makes moves**: it is fetched again, refused, or installed. -/
theorem applySnapshot_moves (hR : R.Lawful) (s : BinanceSession) (symbol : String)
    (lastUpdateId : UInt64) (times : SourceTimes) (bids asks : List (Price × Quantity))
    (received : FrameStamp) :
    Moves R (some symbol) s (applySnapshot R s symbol lastUpdateId times bids asks received) := by
  unfold applySnapshot
  rcases hb : s.books[symbol]? with _ | b
  · exact .refl s
  · simp only
    split_ifs with hold hbridge
    · exact requestDepthSnapshot_moves s symbol
    · exact .ofMove (by simp) hb rfl rfl (.off (by rintro ⟨⟩) rfl fun p hp => fault_of_mem_faultPushes hp)
    · refine installSnapshot_moves hR hb (by rfl) (fun ev rest hk => ?_) times bids asks received
      have hkept : b.depthBuffer.filter (fun e => R.keeps lastUpdateId e.finalU) = ev :: rest := hk
      rw [hkept] at hbridge
      simp only [List.head?_cons, Option.any_some, Bool.not_eq_true, Bool.not_eq_false',
        decide_eq_true_eq] at hbridge
      exact hbridge.1

/-! ## Whole runs -/

/-- **A run only makes moves** if each of its steps does. The session may carry more state than the
depth-book core, and the steps may rely on a condition `ok` they keep. -/
theorem runLog_moves {σ ι : Type} (core : σ → BinanceSession) (ok : σ → Prop)
    (step : σ → ι → σ × List Push) (target : σ → ι → Option String)
    (hstep : ∀ s x, ok s →
      ok (step s x).1 ∧ Moves R (target s x) (core s) (core (step s x).1, (step s x).2))
    {s : σ} (h0 : ok s) (xs : List ι) :
    SessionMoves R (core s).cfg.instrumentIds (core s).books (core (runLog step s xs).1).books
      (runLog step s xs).2 := by
  have hrun : ok (runLog step s xs).1 ∧ (core (runLog step s xs).1).cfg = (core s).cfg ∧
      SessionMoves R (core s).cfg.instrumentIds (core s).books (core (runLog step s xs).1).books
        (runLog step s xs).2 := by
    apply runLog_invariant (P := fun s' log => ok s' ∧ (core s').cfg = (core s).cfg ∧
      SessionMoves R (core s).cfg.instrumentIds (core s).books (core s').books log) ?_
      ⟨h0, rfl, .refl _⟩
    rintro s' log x ⟨hok, hc, hm⟩
    obtain ⟨hok', h⟩ := hstep s' x hok
    have hm' := h.books
    rw [hc] at hm'
    exact ⟨hok', h.cfg.trans hc, hm.trans hm'⟩
  exact hrun.2.2

/-- A fresh session has one book per configured instrument, none of them live. -/
lemma books_new {catalog : List Instrument} {cfg : BinanceSessionConfig}
    (hl2 : cfg.enableL2 = true) (hb : (BinanceSession.new R catalog cfg).books[symbol]? = some b) :
    ∃ id, cfg.instrumentIds[symbol]? = some id ∧ b = newBook R cfg catalog symbol id := by
  simp only [BinanceSession.new, hl2, if_true, Std.ExtTreeMap.getElem?_map] at hb
  obtain ⟨id, hid, rfl⟩ := Option.map_eq_some_iff.mp hb
  exact ⟨id, hid, rfl⟩

lemma state_newBook (cfg : BinanceSessionConfig) (catalog : List Instrument) (symbol : String)
    (id : InstrumentId) : (newBook R cfg catalog symbol id).sync.state ≠ .live := by
  simp [newBook, BookSynchronizer.requestSnapshot]

end Marketfeed
