import Marketfeed.Binance.DepthMoves

/-!
# What the two futures sessions share

The USD-M and COIN-M sessions (`crates/adapters/binance/src/usdm_session.rs`, `coinm_session.rs`)
use the same continuity rule (the previous event's `u`, sent as `pu`), the same bridging rule and
the same open-interest polling; `futuresRules` and the polling functions below are both sessions'.

The second half is about any session that follows `futuresRules`. Its book events, read symbol by
symbol, form unbroken chains: `unbroken_of_moves`. The proof carries one relation between
neighbouring events (`Link`) along the run and reads the chains off it at the end.
-/

namespace Marketfeed

open BinanceSession

/-- The depth rules of the futures streams.
Source: `usdm_session.rs`, `coinm_session.rs` `on_depth_update`, `apply_live_depth`,
`apply_snapshot` -/
def futuresRules (venue : VenueId) (depthUrl : String → String) (announcesResync : Bool)
    (authoredTimeMs : SourceTimes → Option Int) : DepthRules where
  venue
  depthUrl
  keeps lastUpdateId finalU := finalU ≥ lastUpdateId
  gap enforcePrevU lastU ev :=
    if enforcePrevU ∧ ev.prevU ≠ lastU then some (lastU, ev.prevU) else none
  gapReason := "pu discontinuity"
  nextExpected u := u
  bridges := true
  registersRequests := true
  announcesResync
  authoredTimeMs

lemma futuresRules_lawful (venue : VenueId) (depthUrl : String → String) (announcesResync : Bool)
    (authoredTimeMs : SourceTimes → Option Int) :
    (futuresRules venue depthUrl announcesResync authoredTimeMs).Lawful := by
  intro h
  cases h

/-! ## Open-interest polling -/

/-- Source: `OI_TIMER_ID` of both specification files -/
def oiTimerId : UInt64 := 2

/-- Source: `OI_POLL_INTERVAL_MS` of both specification files -/
def oiPollIntervalMs : Int := 60000

def scheduleOiTimer (now : TimestampNs) : Push :=
  ⟨.scheduleTimer ⟨oiTimerId, ⟨satI64 (now.ns + satI64 (oiPollIntervalMs * 1000000))⟩⟩, none⟩

/-- Source: `alloc_http` and the push of `request_open_interest` -/
def allocOpenInterest (url : String → String) (s : BinanceSession) (symbol : String) :
    BinanceSession × List Push :=
  ({ s with
      nextHttpId := s.nextHttpId + 1
      pendingHttp := s.pendingHttp.insert s.nextHttpId (symbol, .openInterest) },
    [⟨.requestHttp ⟨s.nextHttpId, .get, url symbol, [], none⟩, none⟩])

/-- Source: `poll_open_interest_all`, with the session's own `request_open_interest` -/
def pollOpenInterestAll (request : BinanceSession → String → BinanceSession × List Push)
    (s : BinanceSession) : List String → BinanceSession × List Push
  | [] => (s, [])
  | symbol :: rest =>
    let (s, pushes) := request s symbol
    let (s, more) := pollOpenInterestAll request s rest
    (s, pushes ++ more)

/-- `if let Some(book) = self.books.get_mut(&symbol) { book.snapshot_req_id = None; }` -/
def retireRequest (s : BinanceSession) (symbol : String) : BinanceSession :=
  match s.books[symbol]? with
  | none => s
  | some book => s.setBook symbol { book with snapshotReqId := none }

section Moves

variable {R : DepthRules}

lemma allocOpenInterest_moves (url : String → String) (s : BinanceSession) (symbol : String) :
    Moves R none s (allocOpenInterest url s symbol) :=
  .ofQuiet rfl rfl (by simp)

/-- A request that keeps the books and pushes only requests may be repeated. -/
lemma pollOpenInterestAll_moves (request : BinanceSession → String → BinanceSession × List Push)
    (hreq : ∀ s symbol, Moves R none s (request s symbol)) (symbols : List String)
    (s : BinanceSession) : Moves R none s (pollOpenInterestAll request s symbols) := by
  induction symbols generalizing s with
  | nil => exact .refl s
  | cons symbol rest ih => exact (hreq s symbol).seq (ih (request s symbol).1)

lemma retireRequest_moves (s : BinanceSession) (symbol : String) :
    Moves R (some symbol) s (retireRequest s symbol, []) := by
  unfold retireRequest
  rcases hb : s.books[symbol]? with _ | b
  · exact .refl s
  · exact .ofMove (by simp) hb rfl rfl (.still rfl rfl rfl)

end Moves

/-! ## Unbroken chains -/

/-- The book events pushed for a symbol, in order. -/
def marks (symbol : String) (log : List Push) : List BookMark :=
  log.filterMap fun p => p.mark.bind fun (other, m) => if other = symbol then some m else none

namespace BookMark

def IsSnapshot : BookMark → Prop
  | .snapshot _ _ => True
  | _ => False

/-- A sequence gap or an invalidation. -/
def IsFault : BookMark → Prop
  | .gap => True
  | .invalidated => True
  | _ => False

/-- The depth event behind a delta. -/
def event? : BookMark → Option DepthEvent
  | .delta ev _ => some ev
  | _ => none

end BookMark

/-- `ev` continues `e`: its `pu` is the `u` of `e`, and its own `u` is larger. -/
def Continues (e ev : DepthEvent) : Prop := ev.prevU = e.finalU ∧ e.finalU < ev.finalU

/-- `ev` may come first after a snapshot with the id `lastUpdateId`. -/
def Opens (lastUpdateId : UInt64) (ev : DepthEvent) : Prop :=
  lastUpdateId < ev.finalU ∧ (ev.firstU ≤ lastUpdateId ∨ ev.prevU = lastUpdateId)

/-- The events after one snapshot: the first opens, every later one continues. -/
def ChainFrom (lastUpdateId : UInt64) (events : List DepthEvent) : Prop :=
  (∀ ev, events.head? = some ev → Opens lastUpdateId ev) ∧ events.IsChain Continues

/-- **Unbroken book events**: between one snapshot and the next the deltas form a chain, and there
is no delta after a fault, nor at the start, until a snapshot. -/
structure Unbroken (ms : List BookMark) : Prop where
  chain : ∀ before lastUpdateId snapshot segment after,
    ms = before ++ .snapshot lastUpdateId snapshot :: segment ++ after →
    (∀ m ∈ segment, ¬ m.IsSnapshot) → ChainFrom lastUpdateId (segment.filterMap (·.event?))
  silent : ∀ before fault segment after, fault.IsFault → ms = before ++ fault :: segment ++ after →
    (∀ m ∈ segment, ¬ m.IsSnapshot) → segment.filterMap (·.event?) = []
  start : ∀ segment after, ms = segment ++ after → (∀ m ∈ segment, ¬ m.IsSnapshot) →
    segment.filterMap (·.event?) = []

/-- What a book event requires of the one before it. -/
def Link : BookMark → BookMark → Prop
  | .snapshot lastUpdateId _, .delta ev _ => Opens lastUpdateId ev
  | .delta e _, .delta ev _ => Continues e ev
  | .gap, .delta _ _ => False
  | .invalidated, .delta _ _ => False
  | _, _ => True

/-- What links say about the deltas up to the next snapshot. -/
def After (m : BookMark) (events : List DepthEvent) : Prop :=
  match m with
  | .snapshot lastUpdateId _ => ChainFrom lastUpdateId events
  | .delta e _ => (e :: events).IsChain Continues
  | _ => events = []

lemma after_nil (m : BookMark) : After m [] := by
  rcases m with _ | _ | _ | _
  · exact ⟨by simp, List.isChain_nil⟩
  · exact List.isChain_singleton _
  · exact rfl
  · exact rfl

variable {m : BookMark}

lemma after_of_isChain {segment : List BookMark} (h : (m :: segment).IsChain Link)
    (hseg : ∀ m ∈ segment, ¬ m.IsSnapshot) : After m (segment.filterMap (·.event?)) := by
  induction segment generalizing m with
  | nil => exact after_nil m
  | cons m' segment ih =>
    obtain ⟨hlink, hrest⟩ := List.isChain_cons_cons.mp h
    have ih := ih hrest fun x hx => hseg x (List.mem_cons_of_mem _ hx)
    rcases m' with _ | ⟨ev, d⟩ | _ | _
    · exact absurd trivial (hseg _ List.mem_cons_self)
    · -- a delta has to be admitted by `m`
      rcases m with _ | ⟨e, _⟩ | _ | _
      · exact ⟨fun e he => Option.some.inj he ▸ hlink, ih⟩
      · exact List.isChain_cons_cons.mpr ⟨hlink, ih⟩
      · exact hlink.elim
      · exact hlink.elim
    all_goals
      -- after a fault there are no deltas left
      rw [List.filterMap_cons_none rfl, show segment.filterMap (·.event?) = [] from ih]
      exact after_nil m

/-- The chains can be read off the links between neighbours. -/
lemma unbroken_of_isChain {ms : List BookMark} (h : ms.IsChain Link)
    (hhead : ∀ m, ms.head? = some m → m.event? = none) : Unbroken ms where
  chain before lastUpdateId snapshot segment after hms hseg := by
    rw [hms] at h
    exact after_of_isChain (h.left_of_append.right_of_append) hseg
  silent before fault segment after hfault hms hseg := by
    rw [hms] at h
    have hafter := after_of_isChain (h.left_of_append.right_of_append) hseg
    rcases fault with _ | _ | _ | _
    · exact hfault.elim
    · exact hfault.elim
    · exact hafter
    · exact hafter
  start segment after hms hseg := by
    rw [hms] at h hhead
    rcases segment with _ | ⟨m, segment⟩
    · rfl
    · have hm := hhead m rfl
      have hafter := after_of_isChain h.left_of_append fun x hx => hseg x (List.mem_cons_of_mem _ hx)
      rcases m with _ | _ | _ | _
      · exact absurd trivial (hseg _ List.mem_cons_self)
      · cases hm
      · exact hafter
      · exact hafter

/-! ## The chains along a run -/

/-- The book events of a symbol after one more push. -/
def markStep (symbol : String) (ms : List BookMark) (p : Push) : List BookMark :=
  ms ++ marks symbol [p]

lemma foldl_markStep (symbol : String) (ms : List BookMark) (ps : List Push) :
    ps.foldl (markStep symbol) ms = ms ++ marks symbol ps := by
  induction ps generalizing ms with
  | nil => simp [marks]
  | cons p ps ih =>
    rw [List.foldl_cons, ih, markStep, List.append_assoc]
    congr 1
    exact (List.filterMap_append (l := [p])).symm

lemma marks_of_unmarked {symbol : String} {ps : List Push} (h : ∀ p ∈ ps, p.mark = none) :
    marks symbol ps = [] := by
  refine List.filterMap_eq_nil_iff.mpr fun p hp => ?_
  rw [h p hp]
  rfl

lemma marks_of_mark {symbol : String} {p : Push} {qs : List Push}
    (h : p.mark = some (symbol, m)) (hqs : ∀ q ∈ qs, q.mark = none) :
    marks symbol (p :: qs) = [m] := by
  rw [marks, List.filterMap_cons_some (b := m) (by simp [h])]
  exact congrArg _ (marks_of_unmarked hqs)

lemma markStep_other (symbol : String) (ms : List BookMark) (p : Push)
    (h : ∀ m, p.mark ≠ some (symbol, m)) : markStep symbol ms p = ms := by
  have hnil : marks symbol [p] = [] := by
    rcases hm : p.mark with _ | ⟨other, m⟩
    · exact marks_of_unmarked (by simpa using hm)
    · have hne : other ≠ symbol := fun heq => h m (heq ▸ hm)
      simp [marks, hm, hne]
  rw [markStep, hnil, List.append_nil]

/-- Where a live book stands after its last event. -/
def StandsAt (b : SymbolBook) : BookMark → Prop
  | .snapshot lastUpdateId _ => b.sync.book.sequence = some lastUpdateId
  | .delta ev _ => b.sync.book.sequence = some ev.finalU ∧ b.awaitingBridge = false
  | _ => False

lemma StandsAt.congr {b b' : SymbolBook} (h : StandsAt b m) (hsync : b'.sync = b.sync)
    (hbridge : b.awaitingBridge = false → b'.awaitingBridge = false) : StandsAt b' m := by
  unfold StandsAt at h ⊢
  rw [hsync]
  rcases m with _ | _ | _ | _
  · exact h
  · exact ⟨h.1, hbridge h.2⟩
  · exact h
  · exact h

/-- What a book has in common with the events pushed for it. -/
structure Chained (symbol : String) (b : SymbolBook) (ms : List BookMark) : Prop where
  links : ms.IsChain Link
  head : ∀ m, ms.head? = some m → m.event? = none
  stands : b.sync.state = .live → ∃ m, ms.getLast? = some m ∧ StandsAt b m

/-- Appending events that are no deltas keeps the links. -/
lemma links_append {ms ms' : List BookMark} (h : ms.IsChain Link)
    (hhead : ∀ m, ms.head? = some m → m.event? = none) (hms' : ∀ m ∈ ms', m.event? = none) :
    (ms ++ ms').IsChain Link ∧ ∀ m, (ms ++ ms').head? = some m → m.event? = none := by
  have hlink : ∀ x, ∀ y ∈ ms', Link x y := by
    intro x y hy
    have hy := hms' y hy
    rcases y with _ | _ | _ | _
    · rcases x with _ | _ | _ | _ <;> trivial
    · cases hy
    · rcases x with _ | _ | _ | _ <;> trivial
    · rcases x with _ | _ | _ | _ <;> trivial
  refine ⟨List.isChain_append.mpr ⟨h, ?_, fun x _ y hy => hlink x y (List.mem_of_mem_head? hy)⟩, ?_⟩
  · exact (List.pairwise_of_forall_mem_list fun x _ y hy => hlink x y hy).isChain
  · intro m hm
    rcases ms with _ | ⟨x, ms⟩
    · exact hms' m (List.mem_of_mem_head? hm)
    · exact hhead m hm

section Run

variable {venue : VenueId} {depthUrl : String → String} {announcesResync : Bool}
  {authoredTimeMs : SourceTimes → Option Int}

/-- **One move keeps the links.** -/
theorem chained_move {ids : Std.ExtTreeMap String InstrumentId compare} {symbol : String}
    {b b' : SymbolBook} {ps : List Push} {ms : List BookMark}
    (h : BookMove (futuresRules venue depthUrl announcesResync authoredTimeMs) ids symbol b b' ps)
    (hc : Chained symbol b ms) : Chained symbol b' (ps.foldl (markStep symbol) ms) := by
  obtain ⟨hlinks, hhead, hstands⟩ := hc
  rw [foldl_markStep]
  cases h with
  | off hstate _ hps =>
    have hnone : ∀ m ∈ marks symbol ps, m.event? = none := by
      intro m hm
      obtain ⟨p, hp, hpm⟩ := List.mem_filterMap.mp hm
      rcases hps p hp with _ | _ | hq
      · simp only [Option.bind_some, if_true, Option.some.injEq] at hpm
        rw [← hpm]
        rfl
      · simp only [Option.bind_some, if_true, Option.some.injEq] at hpm
        rw [← hpm]
        rfl
      · rw [hq.unmarked] at hpm
        cases hpm
    obtain ⟨hl, hh⟩ := links_append hlinks hhead hnone
    exact ⟨hl, hh, fun hlive => absurd hlive hstate⟩
  | still hsync hbridge _ =>
    rw [marks_of_unmarked (by simp), List.append_nil]
    refine ⟨hlinks, hhead, fun hlive => ?_⟩
    obtain ⟨m, hm, hat⟩ := hstands (hsync ▸ hlive)
    exact ⟨m, hm, hat.congr hsync fun h => hbridge.trans h⟩
  | bridged _ =>
    rw [marks_of_unmarked (by simp), List.append_nil]
    refine ⟨hlinks, hhead, fun hlive => ?_⟩
    obtain ⟨m, hm, hat⟩ := hstands hlive
    exact ⟨m, hm, hat.congr rfl fun _ => rfl⟩
  | applied ev book hlive hfresh hfollows _ hsync hbridge _ hp =>
    rw [marks_of_mark hp.mark_eq (by simp)]
    obtain ⟨m, hm, hat⟩ := hstands hlive
    -- the new event is linked to the last one
    have hlink : Link m (.delta ev ⟨ev.changes, none⟩) := by
      rcases m with ⟨lastUpdateId, snapshot⟩ | ⟨e, d⟩ | _ | _
      · have hlast : b.lastU = lastUpdateId := by rw [SymbolBook.lastU, hat]; rfl
        rw [hlast] at hfresh hfollows
        refine ⟨hfresh, ?_⟩
        rcases hfollows with ⟨-, hgap⟩ | ⟨-, -, hle⟩
        · exact Or.inr (by simpa [futuresRules] using hgap)
        · exact .inl hle
      · have hlast : b.lastU = e.finalU := by rw [SymbolBook.lastU, hat.1]; rfl
        rw [hlast] at hfresh hfollows
        refine ⟨?_, hfresh⟩
        rcases hfollows with ⟨-, hgap⟩ | ⟨-, hbt, -⟩
        · simpa [futuresRules] using hgap
        · rw [hat.2] at hbt
          cases hbt
      · exact hat.elim
      · exact hat.elim
    refine ⟨List.isChain_append.mpr ⟨hlinks, List.isChain_singleton _, ?_⟩, ?_, fun _ => ?_⟩
    · intro x hx y hy
      rw [hm] at hx
      rw [← Option.some.inj hx, ← Option.some.inj hy]
      exact hlink
    · intro x hx
      rcases ms with _ | ⟨y, ms⟩
      · cases hm
      · exact hhead x hx
    · refine ⟨_, List.getLast?_concat, ?_, hbridge rfl⟩
      rw [hsync]
      rfl
  | synced lastUpdateId bids asks hbook _ _ _ _ hp hqs =>
    rw [marks_of_mark hp.mark_eq fun q hq => (hqs q hq).unmarked]
    have hnone : ∀ m ∈ [BookMark.snapshot lastUpdateId
        ⟨toBookLevels bids, toBookLevels asks, some 1000, none⟩], m.event? = none := by
      simp [BookMark.event?]
    obtain ⟨hl, hh⟩ := links_append hlinks hhead hnone
    refine ⟨hl, hh, fun _ => ⟨_, List.getLast?_concat, ?_⟩⟩
    exact (OrderBook.scales_buildSnapshot hbook).2.2.2

/-- **The book events of every symbol are unbroken**, in any session that follows the futures rules
from books that are not live. -/
theorem unbroken_of_moves {ids : Std.ExtTreeMap String InstrumentId compare} {B B' : SymbolBooks}
    {log : List Push}
    (h : SessionMoves (futuresRules venue depthUrl announcesResync authoredTimeMs) ids B B' log)
    (h0 : ∀ (symbol : String) (b : SymbolBook), B[symbol]? = some b → b.sync.state ≠ .live)
    {symbol : String} {b : SymbolBook} (hb : B'[symbol]? = some b) : Unbroken (marks symbol log) := by
  have hchained : Chained symbol b (log.foldl (markStep symbol) []) := by
    refine h.invariant (δ := markStep) (P := Chained) (g := fun _ => []) ?_ ?_ ?_ symbol b hb
    · exact fun symbol ms p hq => markStep_other symbol ms p (by simp [hq.unmarked])
    · intro symbol b b' ps ms hm hc
      exact ⟨chained_move hm hc, fun other hne ms' => hm.foldl_other markStep_other hne ms'⟩
    · intro symbol b hb
      exact ⟨List.isChain_nil, by simp, fun hlive => absurd hlive (h0 symbol b hb)⟩
  rw [foldl_markStep, List.nil_append] at hchained
  exact unbroken_of_isChain hchained.links hchained.head

end Run

end Marketfeed
