import Marketfeed.Analytics.FlowAccount
import Marketfeed.Lib.Periods

/-!
# What a builder counts over its calls

Over any sequence of trades, clock ticks and finishes, accepted or not, the candles a builder returns
and the one it still holds account for every accepted trade exactly once.
-/

namespace Marketfeed

/-! ## What the calls do -/

namespace CandleFlowBuilder

variable {s : CandleFlowBuilder} {es : List FlowEntry} {e : FlowEntry} {trade : TradeInput}
  {target : Int}

/-- **What an admitted trade is**: one of the instrument, not late, with a place on the grid; its
candle starts within range. -/
structure Admitted (s : CandleFlowBuilder) (trade : TradeInput) (e : FlowEntry) (target : Int) :
    Prop where
  instrument : trade.instrument = s.instrument
  late : ∀ last, s.lastTimestampNs = some last → last ≤ trade.timestampNs
  entry : s.grid.entryOf trade = some e
  timestamp : e.timestampNs = trade.timestampNs
  onGrid : e.OnGrid s.grid
  start : target = periodStart trade.timestampNs s.time.anchorNs s.time.candleNs
  start_fits : i64Min ≤ target ∧ target ≤ i64Max

variable {timestampNs : Int}

lemma admission_ok (hvalid : s.grid.Valid) (h : s.admission trade = .ok (e, target)) :
    s.Admitted trade e target := by
  unfold admission at h
  rw [check_eq_ok, not_not] at h
  obtain ⟨hinstrument, h⟩ := h
  simp only [bind_eq_ok] at h
  obtain ⟨_, hlate, bucket, hbucket, tick, htick, price, hprice, units, hunits, start, hstart,
    h⟩ := h
  cases h
  obtain ⟨hpos, hfits, rfl⟩ := GridSpec.priceAtTick_eq_ok.mp hprice
  obtain ⟨hstartfits, rfl⟩ := periodStartChecked_eq_ok.mp hstart
  refine ⟨hinstrument, rejectBefore_eq_ok.mp hlate, ?_, rfl, ?_, rfl, hstartfits⟩
  · unfold GridSpec.entryOf
    rw [hbucket, htick, hunits]
    rfl
  · refine ⟨(GridSpec.quantityUnits_eq_ok.mp hunits).1, rfl, ?_⟩
    obtain ⟨tick', htick', rfl⟩ := GridSpec.priceBucket_eq_ok.mp hbucket
    cases htick.symm.trans htick'
    exact (hvalid.bucket_mul_le tick).trans hfits.2

/-- A builder whose candle has just been opened. -/
def opened (s : CandleFlowBuilder) (target : Int) : CandleFlowBuilder :=
  { s with candleStart := some target }

/-- **What an accepted trade does**: it starts a candle, ends one and starts the next, or goes on
with the one that is there. -/
inductive Ingested (s : CandleFlowBuilder) (e : FlowEntry) (target : Int) :
    Option CandleFlow → CandleFlowBuilder → Prop
  | start (hstart : s.candleStart = none) (hpassed : s.PreflightPassed e) :
      Ingested s e target none (noteTime e.timestampNs ((s.opened target).added e))
  | roll {current : Int} {flow : CandleFlow} (hstart : s.candleStart = some current)
      (hlt : current < target) (hflow : s.snapshot .final = .ok flow)
      (hpassed : (empty s.instrument s.grid s.time s.config).PreflightPassed e) :
      Ingested s e target (some flow) (noteTime e.timestampNs
        (((empty s.instrument s.grid s.time s.config).opened target).added e))
  | stay (hstart : s.candleStart = some target) (hpassed : s.PreflightPassed e) :
      Ingested s e target none (noteTime e.timestampNs (s.added e))

/-- **What holds of every builder that can be reached**, with the trades of its candle. -/
structure Sound (s : CandleFlowBuilder) (es : List FlowEntry) : Prop where
  grid : s.grid.Valid
  time : s.time.Valid
  config : s.config.validate = .ok ()
  accounts : s.Accounts es
  order : InOrder es
  late : ∀ e ∈ es, ∃ last, s.lastTimestampNs = some last ∧ e.timestampNs ≤ last
  idle : s.candleStart = none → es = []
  active : ∀ startTs, s.candleStart = some startTs → es ≠ []
  period : ∀ startTs, s.candleStart = some startTs →
    ∀ e ∈ es, periodStart e.timestampNs s.time.anchorNs s.time.candleNs = startTs
  sources_le : s.sources.size ≤ s.config.maxSources
  levels_le : ∀ (source : FlowSource) (acc : SourceAccumulator), s.sources[source]? = some acc →
    acc.levels.size ≤ s.config.maxLevelsPerSource
  trades_le : s.tradeCount ≤ s.config.maxTradesPerCandle

lemma accounts_empty (instrument : InstrumentId) (grid : GridSpec) (time : TimeframeSpec)
    (config : FlowConfig) : (empty instrument grid time config).Accounts [] := by
  have hnone : ∀ source : FlowSource,
      (empty instrument grid time config).sources[source]? = none := fun _ =>
    Std.ExtTreeMap.getElem?_empty
  refine ⟨fun e he => absurd he List.not_mem_nil, by decide, rfl, rfl, rfl, rfl, ?_, ?_⟩
  · intro source
    exact iff_of_true (hnone source) rfl
  · intro source acc hacc
    exact absurd ((hnone source).symm.trans hacc).symm (Option.some_ne_none acc)

lemma new_eq_ok {instrument : InstrumentId} {grid : GridSpec} {time : TimeframeSpec}
    {config : FlowConfig} {s : CandleFlowBuilder} :
    new instrument grid time config = .ok s ↔
      (grid.Valid ∧ time.Valid ∧ config.validate = .ok ()) ∧
        s = empty instrument grid time config := by
  unfold new
  rw [seq_eq_ok, seq_eq_ok, seq_eq_ok, Except.ok.injEq, and_assoc, and_assoc, eq_comm (b := s)]
  exact Iff.rfl

lemma FlowConfig.validate_eq_ok {c : FlowConfig} :
    c.validate = .ok () ↔ 0 < c.maxSources ∧ 0 < c.maxLevelsPerSource ∧ 0 < c.maxTradesPerCandle := by
  unfold FlowConfig.validate
  rw [check_eq_ok, check_eq_ok, check_eq_ok, and_iff_left rfl, Nat.pos_iff_ne_zero,
    Nat.pos_iff_ne_zero, Nat.pos_iff_ne_zero]

lemma sound_empty (instrument : InstrumentId) {grid : GridSpec} {time : TimeframeSpec}
    {config : FlowConfig} (hgrid : grid.Valid) (htime : time.Valid)
    (hconfig : config.validate = .ok ()) : (empty instrument grid time config).Sound [] where
  grid := hgrid
  time := htime
  config := hconfig
  accounts := accounts_empty instrument grid time config
  order := List.Pairwise.nil
  late e he := absurd he List.not_mem_nil
  idle _ := rfl
  active _ h := absurd h.symm (Option.some_ne_none _)
  period _ h := absurd h.symm (Option.some_ne_none _)
  sources_le := Nat.zero_le _
  levels_le source acc h := by
    have hnone : (empty instrument grid time config).sources[source]? = none :=
      Std.ExtTreeMap.getElem?_empty
    exact absurd (hnone.symm.trans h).symm (Option.some_ne_none acc)
  trades_le := Nat.zero_le _

/-- The clock moves forward. -/
lemma Sound.noteTime (h : s.Sound es)
    (hlate : ∀ last, s.lastTimestampNs = some last → last ≤ timestampNs) :
    (noteTime timestampNs s).Sound es where
  __ := h
  accounts := { h.accounts with }
  late e he := by
    obtain ⟨last, hlast, hle⟩ := h.late e he
    exact ⟨timestampNs, rfl, hle.trans (hlate last hlast)⟩

/-- The candle is over. -/
lemma Sound.clearActive (h : s.Sound es) : s.clearActive.Sound [] :=
  have hempty := sound_empty s.instrument h.grid h.time h.config
  { hempty with
    accounts := { hempty.accounts with }
    late := fun _ he => absurd he List.not_mem_nil }

/-- **A trade is added** to the candle that is there, or to one that has just been opened. -/
theorem Sound.added (h : s.Sound es) (hadmitted : s.Admitted trade e target)
    (hpassed : s.PreflightPassed e)
    (hstart : s.candleStart = none ∨ s.candleStart = some target) :
    (CandleFlowBuilder.noteTime e.timestampNs ((s.opened target).added e)).Sound (es ++ [e]) := by
  have hfits := h.accounts.fits hadmitted.onGrid.units_pos hpassed
  have haccounts := h.accounts.added hadmitted.onGrid hfits.total_le
  have htime : ∀ e' ∈ es, e'.timestampNs ≤ e.timestampNs := by
    intro e' he'
    obtain ⟨last, hlast, hle⟩ := h.late e' he'
    rw [hadmitted.timestamp]
    exact hle.trans (hadmitted.late last hlast)
  refine
    { h with
      accounts := { haccounts with }
      order := ?_
      late := ?_
      idle := fun hnone => absurd hnone (Option.some_ne_none _)
      active := fun _ _ => List.append_ne_nil_of_right_ne_nil _ (List.cons_ne_nil e [])
      period := ?_
      sources_le := ?_
      levels_le := ?_
      trades_le := hpassed.trades }
  · refine List.pairwise_append.mpr ⟨h.order, List.pairwise_singleton _ _, ?_⟩
    intro e' he' e'' he''
    rw [List.mem_singleton.mp he'']
    exact htime e' he'
  · intro e' he'
    refine ⟨e.timestampNs, rfl, ?_⟩
    rcases List.mem_append.mp he' with he' | he'
    · exact htime e' he'
    · rw [List.mem_singleton.mp he']
  · rintro startTs ⟨⟩ e' he'
    rcases List.mem_append.mp he' with he' | he'
    · rcases hstart with hnone | hsome
      · rw [h.idle hnone] at he'
        exact absurd he' List.not_mem_nil
      · exact h.period target hsome e' he'
    · rw [List.mem_singleton.mp he', hadmitted.timestamp]
      exact hadmitted.start.symm
  · exact OrdMap.size_insert_le h.sources_le hpassed.source
  · intro source acc hacc
    change (s.added e).sources[source]? = some acc at hacc
    rw [s.getElem?_added] at hacc
    split_ifs at hacc with hs
    · cases hacc
      have hpos := (FlowConfig.validate_eq_ok.mp h.config).2.1
      unfold sourceEntry SourceAccumulator.added
      rcases hold : s.sources[e.source]? with _ | old
      · exact OrdMap.size_insert_le hpos.le fun _ => hpos
      · exact OrdMap.size_insert_le (h.levels_le e.source old hold) (hpassed.level old hold)
    · exact h.levels_le source acc hacc

/-! ### The calls -/

lemma Accounts.opened (h : s.Accounts es) (target : Int) : (s.opened target).Accounts es :=
  { h with }

/-- The builder after the first trade of a candle. -/
def started (e : FlowEntry) (target : Int) (s : CandleFlowBuilder) : CandleFlowBuilder :=
  noteTime e.timestampNs ((s.opened target).added e)

lemma performs_startCandle (h : s.Accounts es) (hunits : 0 < e.units) (target : Int) :
    Performs (startCandle e target) s (s.preflightAdd e >>= fun _ => .ok ((), started e target s)) := by
  refine .get (.lift ?_)
  rintro ⟨⟩ hpreflight
  have hrun := (h.opened target).run_applyAdd (h.fits hunits (preflightAdd_ok hpreflight))
  exact .of_run (run_seq_of_ok hrun)

lemma performs_continueCandle (h : s.Accounts es) (hunits : 0 < e.units) :
    Performs (continueCandle e) s
      (s.preflightAdd e >>= fun _ => .ok ((), noteTime e.timestampNs (s.added e))) := by
  refine .get (.lift ?_)
  rintro ⟨⟩ hpreflight
  exact .of_run (run_seq_of_ok (h.run_applyAdd (h.fits hunits (preflightAdd_ok hpreflight))))

/-- The builder that takes the place of one whose candle is over. -/
def restarted (e : FlowEntry) (target : Int) (s : CandleFlowBuilder) :
    Except AnalyticsError CandleFlowBuilder := do
  let fresh ← new s.instrument s.grid s.time s.config
  fresh.preflightAdd e
  .ok (started e target fresh)

lemma replacement_eq (s : CandleFlowBuilder) (hunits : 0 < e.units) (target : Int) :
    s.replacement e target = s.restarted e target := by
  unfold replacement restarted
  rcases hfresh : new s.instrument s.grid s.time s.config with err | fresh
  · rfl
  · obtain ⟨-, rfl⟩ := new_eq_ok.mp hfresh
    have haccounts := accounts_empty s.instrument s.grid s.time s.config
    rcases (performs_startCandle haccounts hunits target).cases with ⟨⟨⟩, hy, hrun⟩ | ⟨err, hy, hrun⟩
    · simp only [bind, Except.bind, hrun, hy]
    · simp only [bind, Except.bind, hrun, hy]

/-- **What ingesting a trade does to the builder**, if it does not fail. -/
def ingested (trade : TradeInput) (s : CandleFlowBuilder) :
    Except AnalyticsError (Option CandleFlow × CandleFlowBuilder) := do
  let admitted ← s.admission trade
  match s.candleStart with
  | none => do
    s.preflightAdd admitted.1
    .ok (none, started admitted.1 admitted.2 s)
  | some current =>
    if admitted.2 > current then do
      let finalized ← s.snapshot .final
      let next ← s.restarted admitted.1 admitted.2
      .ok (some finalized, next)
    else if admitted.2 < current then .error (.lateTrade trade.timestampNs current)
    else do
      s.preflightAdd admitted.1
      .ok (none, noteTime admitted.1.timestampNs (s.added admitted.1))

/-- **Ingesting a trade happens as a whole or not at all.** -/
theorem Sound.run_ingest (h : s.Sound es) (trade : TradeInput) :
    (ingest trade).run s = (atomically (ingested trade)).run s := by
  apply Performs.run_eq_atomically
  refine .get (.lift ?_)
  rintro ⟨e, target⟩ hadmission
  have hunits := (admission_ok h.grid hadmission).onGrid.units_pos
  rcases s.candleStart with _ | current
  · exact .seq (performs_startCandle h.accounts hunits target) fun _ _ => rfl
  · dsimp only
    split_ifs
    · refine .lift fun flow _ => ?_
      rw [replacement_eq s hunits]
      exact .lift fun next _ => .of_run rfl
    · exact .throw _
    · exact .seq (performs_continueCandle h.accounts hunits) fun _ _ => rfl

variable {out : Option CandleFlow} {s' : CandleFlowBuilder}

/-- A trade that was accepted was accepted in one of the three ways. -/
lemma ingested_eq_ok (hvalid : s.grid.Valid) (hrun : s.ingested trade = .ok (out, s')) :
    ∃ e target, s.Admitted trade e target ∧ s.Ingested e target out s' := by
  obtain ⟨⟨e, target⟩, hadmission, hrun⟩ := bind_eq_ok.mp hrun
  refine ⟨e, target, admission_ok hvalid hadmission, ?_⟩
  rcases hstart : s.candleStart with _ | current
  · rw [hstart] at hrun
    obtain ⟨⟨⟩, hpreflight, hrun⟩ := bind_eq_ok.mp hrun
    cases hrun
    exact .start hstart (preflightAdd_ok hpreflight)
  · rw [hstart] at hrun
    dsimp only at hrun
    split_ifs at hrun with hgt hlt
    · obtain ⟨flow, hflow, hrun⟩ := bind_eq_ok.mp hrun
      obtain ⟨next, hnext, hrun⟩ := bind_eq_ok.mp hrun
      cases hrun
      obtain ⟨fresh, hfresh, hnext⟩ := bind_eq_ok.mp hnext
      obtain ⟨-, rfl⟩ := new_eq_ok.mp hfresh
      obtain ⟨⟨⟩, hpreflight, hnext⟩ := bind_eq_ok.mp hnext
      cases hnext
      exact .roll hstart hgt hflow (preflightAdd_ok hpreflight)
    · obtain ⟨⟨⟩, hpreflight, hrun⟩ := bind_eq_ok.mp hrun
      cases hrun
      have heq : current = target := by omega
      subst heq
      exact .stay hstart (preflightAdd_ok hpreflight)

/-- **Ingesting a trade**: it is accepted in one of the three ways, or nothing has changed. -/
theorem Sound.ends_ingest (h : s.Sound es) (trade : TradeInput) :
    Ends (ingest trade) s
      (fun out s' => ∃ e target, s.Admitted trade e target ∧ s.Ingested e target out s')
      fun _ s' => s' = s :=
  Ends.of_atomically (h.run_ingest trade) (fun _ _ hok => ingested_eq_ok h.grid hok) fun _ _ => rfl

/-- The trades of the candle after an accepted trade. -/
lemma Sound.ingested (h : s.Sound es) (hadmitted : s.Admitted trade e target)
    (hingested : s.Ingested e target out s') :
    s'.Sound (if out.isSome then [e] else es ++ [e]) := by
  rcases hingested with ⟨hstart, hpassed⟩ | ⟨hstart, hlt, hflow, hpassed⟩ | ⟨hstart, hpassed⟩
  · exact h.added hadmitted hpassed (.inl hstart)
  · have hempty := sound_empty s.instrument h.grid h.time h.config
    have hfresh : (empty s.instrument s.grid s.time s.config).Admitted trade e target :=
      { hadmitted with late := fun _ hlast => absurd hlast.symm (Option.some_ne_none _) }
    exact hempty.added hfresh hpassed (.inl rfl)
  · have hopened : s.opened target = s := by
      rw [CandleFlowBuilder.opened, ← hstart]
    have hadded := h.added hadmitted hpassed (.inr hstart)
    rw [hopened] at hadded
    exact hadded

/-- **What a clock tick does**: it ends the candle whose period is over, or it only moves the clock. -/
inductive Ticked (s : CandleFlowBuilder) (timestampNs : Int) :
    Option CandleFlow → CandleFlowBuilder → Prop
  | idle (hstart : s.candleStart = none) : Ticked s timestampNs none (noteTime timestampNs s)
  | within {current : Int} (hstart : s.candleStart = some current)
      (hle : periodStart timestampNs s.time.anchorNs s.time.candleNs ≤ current) :
      Ticked s timestampNs none (noteTime timestampNs s)
  | over {current : Int} {flow : CandleFlow} (hstart : s.candleStart = some current)
      (hlt : current < periodStart timestampNs s.time.anchorNs s.time.candleNs)
      (hflow : s.snapshot .final = .ok flow) :
      Ticked s timestampNs (some flow) (noteTime timestampNs s.clearActive)

/-- What a clock tick does to the builder, if it does not fail. -/
def advanced (timestampNs : Int) (s : CandleFlowBuilder) :
    Except AnalyticsError (Option CandleFlow × CandleFlowBuilder) := do
  s.rejectLate timestampNs
  match s.candleStart with
  | none => .ok (none, noteTime timestampNs s)
  | some current => do
    let target ← s.time.checkedCandleStart timestampNs
    if target > current then do
      let finalized ← s.snapshot .final
      .ok (some finalized, noteTime timestampNs s.clearActive)
    else .ok (none, noteTime timestampNs s)

/-- **A clock tick happens as a whole or not at all.** -/
theorem run_advanceTo (timestampNs : Int) (s : CandleFlowBuilder) :
    (advanceTo timestampNs).run s = (atomically (advanced timestampNs)).run s := by
  apply Performs.run_eq_atomically
  refine .get (.lift fun _ _ => ?_)
  rcases s.candleStart with _ | current
  · exact .of_run rfl
  · refine .lift fun target _ => ?_
    split_ifs
    · exact .lift fun flow _ => .of_run rfl
    · exact .of_run rfl

lemma advanced_eq_ok (h : s.advanced timestampNs = .ok (out, s')) :
    (∀ last, s.lastTimestampNs = some last → last ≤ timestampNs) ∧ s.Ticked timestampNs out s' := by
  obtain ⟨⟨⟩, hlate, h⟩ := bind_eq_ok.mp h
  refine ⟨rejectBefore_eq_ok.mp hlate, ?_⟩
  rcases hstart : s.candleStart with _ | current
  · rw [hstart] at h
    cases h
    exact .idle hstart
  · rw [hstart] at h
    obtain ⟨target, htarget, h⟩ := bind_eq_ok.mp h
    obtain ⟨-, rfl⟩ := periodStartChecked_eq_ok.mp htarget
    split_ifs at h with hgt
    · obtain ⟨flow, hflow, h⟩ := bind_eq_ok.mp h
      cases h
      exact .over hstart hgt hflow
    · cases h
      exact .within hstart (not_lt.mp hgt)

lemma ends_advanceTo (s : CandleFlowBuilder) (timestampNs : Int) :
    Ends (advanceTo timestampNs) s
      (fun out s' => (∀ last, s.lastTimestampNs = some last → last ≤ timestampNs) ∧
        s.Ticked timestampNs out s')
      fun _ s' => s' = s :=
  Ends.of_atomically (run_advanceTo timestampNs s) (fun _ _ hok => advanced_eq_ok hok) fun _ _ => rfl

/-- What finishing does to the builder, if it does not fail. -/
def finished (s : CandleFlowBuilder) :
    Except AnalyticsError (Option CandleFlow × CandleFlowBuilder) :=
  match s.candleStart with
  | none => .ok (none, s)
  | some _ => do
    let finalized ← s.snapshot .final
    .ok (some finalized, s.clearActive)

lemma run_finish (s : CandleFlowBuilder) : finish.run s = (atomically finished).run s := by
  apply Performs.run_eq_atomically
  refine .get ?_
  unfold finished
  rcases s.candleStart with _ | current
  · exact .of_run rfl
  · exact .lift fun flow _ => .of_run rfl

lemma ends_finish (s : CandleFlowBuilder) :
    Ends finish s
      (fun out s' => (s.candleStart = none ∧ out = none ∧ s' = s) ∨
        ∃ flow, s.candleStart ≠ none ∧ s.snapshot .final = .ok flow ∧ out = some flow ∧
          s' = s.clearActive)
      fun _ s' => s' = s := by
  refine Ends.of_atomically (run_finish s) ?_ fun _ _ => rfl
  intro out s' hok
  unfold finished at hok
  rcases hstart : s.candleStart with _ | current
  · rw [hstart] at hok
    cases hok
    exact .inl ⟨rfl, rfl, rfl⟩
  · rw [hstart] at hok
    obtain ⟨flow, hflow, hok⟩ := bind_eq_ok.mp hok
    cases hok
    exact .inr ⟨flow, Option.some_ne_none current, hflow, rfl, rfl⟩

/-! ### The builder's own check -/

lemma validateLevel_eq_ok {l : LevelAccumulator} (h : l.sides.Balanced l.totalUnits)
    (hle : l.totalUnits ≤ i128Max) {sum : Int} (hsum : 0 ≤ sum)
    (hfits : sum + l.totalUnits ≤ i128Max) : validateLevel sum l = .ok (sum + l.totalUnits) := by
  obtain ⟨hbuy, hsell, hunknown, htotal⟩ := h
  unfold validateLevel
  rw [if_neg (by omega), checkedI128_of_le (by omega) (by omega), Option.bind_some,
    checkedI128_of_le (by omega) (by omega), htotal, checkedI128_of_le (by omega) hfits]
  show (if l.totalUnits ≠ l.totalUnits then _ else _) = _
  rw [if_neg (not_not.mpr rfl)]
  rfl

lemma validateSource_eq_ok {scale : Nat} {acc : SourceAccumulator} {ts : List FlowEntry}
    (hacc : acc.Accounts scale ts) (hpos : ∀ e ∈ ts, 0 < e.units) (hle : unitsOf ts ≤ i128Max)
    {sum : Int} (hsum : 0 ≤ sum) (hfits : sum + unitsOf ts ≤ i128Max) :
    validateSource sum acc = .ok (sum + unitsOf ts) := by
  have hsides := sidesOf_balanced hpos
  have hnonneg := unitsOf_nonneg hpos
  have hlevel : ∀ entry ∈ acc.levels.toList, entry.2.totalUnits = unitsOf (ofBucket entry.1 ts) ∧
      entry.2.sides = sidesOf (ofBucket entry.1 ts) := by
    intro entry hentry
    have hlevel : levelOf (ofBucket entry.1 ts) = some entry.2 := by
      rw [← hacc.levels]
      exact OrdMap.mem_toList.mp hentry
    obtain ⟨hs, ht, -⟩ := levelOf_getD (ofBucket entry.1 ts) 0
    rw [hlevel] at hs ht
    exact ⟨ht, hs⟩
  have hmem : ∀ {bucket : Int} {e : FlowEntry}, e ∈ ofBucket bucket ts → 0 < e.units := by
    intro bucket e he
    exact hpos e (List.mem_filter.mp he).1
  have htotal : (acc.levels.toList.map fun entry => entry.2.totalUnits).sum = unitsOf ts := by
    have hmap : acc.levels.toList.map (fun entry => entry.2.totalUnits) =
        (bucketsOf ts).map fun bucket => unitsOf (ofBucket bucket ts) := by
      rw [← keys_levels hacc, List.map_map]
      exact List.map_congr_left fun entry hentry => (hlevel entry hentry).1
    rw [hmap]
    refine unitsOf_partition (·.bucket) (Finset.sort_nodup _ _) ?_
    intro e he
    exact forall_bucketsOf.mp (fun bucket hbucket => hbucket) e he
  have hfold : acc.levels.toList.foldlM (fun sum entry => validateLevel sum entry.2) 0 =
      .ok (unitsOf ts) := by
    rw [← htotal, ← zero_add (acc.levels.toList.map fun entry => entry.2.totalUnits).sum]
    refine foldlM_add_eq_ok i128Max ?_ ?_ le_rfl ?_
    · intro entry hentry
      rw [(hlevel entry hentry).1]
      exact unitsOf_nonneg fun e he => hmem he
    · intro entry hentry sum hsum hfits
      obtain ⟨ht, hs⟩ := hlevel entry hentry
      refine validateLevel_eq_ok ?_ ?_ hsum hfits
      · rw [hs, ht]
        exact sidesOf_balanced fun e he => hmem he
      · rw [ht]
        exact (unitsOf_filter_le hpos _).trans hle
    · rw [zero_add, htotal]
      exact hle
  unfold validateSource
  rw [hacc.total, hacc.sides, hfold, checkedI128_of_le (by omega) hfits]
  rw [if_neg]
  · show (if unitsOf ts ≠ unitsOf ts then _ else _) = _
    rw [if_neg (not_not.mpr rfl)]
    rfl
  · obtain ⟨hbuy, hsell, hunknown, -⟩ := hsides
    omega

/-- **A builder that can be reached passes its own check.** -/
theorem Sound.validate (h : s.Sound es) : s.validate = .ok () := by
  have hpos : ∀ e ∈ es, 0 < e.units := fun e he => (h.accounts.onGrid e he).units_pos
  have hsource : ∀ entry ∈ s.sources.toList,
      entry.2.Accounts s.grid.priceScale (ofSource entry.1 es) := by
    intro entry hentry
    exact h.accounts.present entry.1 entry.2 (OrdMap.mem_toList.mp hentry)
  have hcapacity : s.validateCapacity = .ok () := by
    unfold validateCapacity
    rw [check_eq_ok, check_eq_ok, check_eq_ok, check_eq_ok]
    refine ⟨not_lt.mpr h.sources_le, ?_, not_lt.mpr h.trades_le, ?_, rfl⟩
    · rw [List.any_eq_true]
      rintro ⟨entry, hentry, hlt⟩
      have hle := h.levels_le entry.1 entry.2 (OrdMap.mem_toList.mp hentry)
      exact absurd (decide_eq_true_eq.mp hlt) (not_lt.mpr hle)
    · rw [h.accounts.total]
      exact not_lt.mpr (unitsOf_nonneg hpos)
  have htotal : (s.sources.toList.map fun entry => unitsOf (ofSource entry.1 es)).sum =
      unitsOf es := by
    have hmap : s.sources.toList.map (fun entry => unitsOf (ofSource entry.1 es)) =
        (sourcesOf es).map fun source => unitsOf (ofSource source es) := by
      rw [← h.accounts.keys_sources, List.map_map]
      rfl
    rw [hmap]
    refine unitsOf_partition (·.source) (Finset.sort_nodup _ _) ?_
    intro e he
    exact forall_sourcesOf.mp (fun source hsource => hsource) e he
  have hfold : s.sources.toList.foldlM (fun sum entry => validateSource sum entry.2) 0 =
      .ok (unitsOf es) := by
    rw [← htotal, ← zero_add (s.sources.toList.map fun entry => unitsOf (ofSource entry.1 es)).sum]
    refine foldlM_add_eq_ok i128Max ?_ ?_ le_rfl ?_
    · intro entry _
      exact unitsOf_nonneg fun e he => hpos e (List.mem_filter.mp he).1
    · intro entry hentry sum hsum hfits
      refine validateSource_eq_ok (hsource entry hentry) ?_ ?_ hsum hfits
      · intro e he
        exact hpos e (List.mem_filter.mp he).1
      · exact (unitsOf_filter_le hpos _).trans h.accounts.total_le
    · rw [zero_add, htotal]
      exact h.accounts.total_le
  have htotals : s.validateTotals (unitsOf es) = .ok () := by
    unfold validateTotals
    rw [check_eq_ok, check_eq_ok]
    refine ⟨not_not.mpr h.accounts.total.symm, ?_, rfl⟩
    rintro ⟨hnone, hstate⟩
    have hes := h.idle (Option.isNone_iff_eq_none.mp hnone)
    subst hes
    have hsize : s.sources.size = 0 := by
      have hkeys := h.accounts.keys_sources
      rw [← Std.ExtTreeMap.length_toList, ← List.length_map Prod.fst, hkeys]
      simp [sourcesOf]
    rw [hsize, h.accounts.count, h.accounts.total] at hstate
    rcases hstate with hne | hne | hne
    · exact hne rfl
    · exact hne rfl
    · exact hne rfl
  unfold CandleFlowBuilder.validate
  refine bind_eq_ok.mpr ⟨(), h.grid, bind_eq_ok.mpr ⟨(), h.time, bind_eq_ok.mpr ⟨(), h.config, ?_⟩⟩⟩
  exact bind_eq_ok.mpr ⟨(), hcapacity, bind_eq_ok.mpr ⟨_, hfold, htotals⟩⟩

end CandleFlowBuilder

/-! ## Runs -/

/-- The builder of candle flows. -/
def candleFlows : PeriodBuilder AnalyticsError CandleFlowBuilder TradeInput CandleFlow where
  ingest := CandleFlowBuilder.ingest
  advanceTo := CandleFlowBuilder.advanceTo
  finish := CandleFlowBuilder.finish
  liveSnapshot := CandleFlowBuilder.liveSnapshot
  clock := CandleFlowBuilder.lastTimestampNs
  time := TradeInput.timestampNs

/-- A builder with the trades it accepted and the candles it returned. -/
structure FlowRun where
  builder : CandleFlowBuilder
  accepted : List TradeInput
  candles : List CandleFlow

namespace FlowRun

/-- The run after a call that ended. -/
def ended (r : FlowRun) (trades : List TradeInput) :
    EStateM.Result AnalyticsError CandleFlowBuilder (Option CandleFlow) → FlowRun
  | .ok out builder => ⟨builder, r.accepted ++ trades, r.candles ++ out.toList⟩
  | .error _ builder => ⟨builder, r.accepted, r.candles⟩

def step (r : FlowRun) (call : PeriodBuilder.Call TradeInput) : FlowRun :=
  r.ended call.items ((candleFlows.perform call).run r.builder)

end FlowRun

/-- What is counted of some trades. -/
def entriesOf (g : GridSpec) (trades : List TradeInput) : List FlowEntry := trades.filterMap g.entryOf

section Candles

variable (instrument : InstrumentId) (grid : GridSpec) (time : TimeframeSpec)

/-- **The candle that some trades make**; it starts with the period of the first of them. -/
def candleOf (state : FlowState) (trades : List TradeInput) : CandleFlow :=
  candleFlow instrument grid time
    (periodStart ((trades.head?.map (·.timestampNs)).getD 0) time.anchorNs time.candleNs) state
    (entriesOf grid trades)

/-- The trade is counted on the grid at its exact price and quantity. -/
def Placed (trade : TradeInput) : Prop :=
  ∃ e, grid.entryOf trade = some e ∧ e.price.fixed.toRat = trade.price.fixed.toRat ∧
    (⟨e.units, grid.quantityScale⟩ : Fixed).toRat = trade.quantity.fixed.toRat

/-- **A candle's trades**: there are some, each has its place on the grid, and the candle contains its
timestamp. -/
structure Group (trades : List TradeInput) : Prop where
  nonempty : trades ≠ []
  placed : ∀ trade ∈ trades, Placed grid trade
  within : ∀ trade ∈ trades,
    (candleOf instrument grid time .final trades).startTs ≤ trade.timestampNs ∧
      trade.timestampNs < (candleOf instrument grid time .final trades).endTs

end Candles

variable {g : GridSpec} {trade : TradeInput}

lemma entryOf_eq_some {e : FlowEntry} :
    g.entryOf trade = some e ↔ ∃ bucket tick units, g.priceBucket trade.price = .ok bucket ∧
      g.priceTick trade.price = .ok tick ∧ g.quantityUnits trade.quantity = .ok units ∧
      e = ⟨trade.source, bucket, ⟨⟨tick * g.tickSize.coefficient, g.priceScale⟩⟩, units,
        trade.aggressor, trade.timestampNs⟩ := by
  unfold GridSpec.entryOf
  rcases g.priceBucket trade.price with _ | bucket
  · simp [Except.toOption]
  · rcases g.priceTick trade.price with _ | tick
    · simp [Except.toOption]
    · rcases g.quantityUnits trade.quantity with _ | units
      · simp [Except.toOption]
      · simp [Except.toOption, eq_comm]

lemma timestampNs_of_entry {e : FlowEntry} (h : g.entryOf trade = some e) :
    e.timestampNs = trade.timestampNs := by
  obtain ⟨bucket, tick, units, -, -, -, rfl⟩ := entryOf_eq_some.mp h
  rfl

lemma placed_of_entry (hvalid : g.Valid) (h : (g.entryOf trade).isSome) : Placed g trade := by
  obtain ⟨e, he⟩ := Option.isSome_iff_exists.mp h
  obtain ⟨bucket, tick, units, -, htick, hunits, rfl⟩ := entryOf_eq_some.mp he
  refine ⟨_, he, ?_, ?_⟩
  · exact (Fixed.toRat_rescale_exactOnly ((GridSpec.priceTick_eq_ok hvalid).mp htick).2).2
  · exact (Fixed.toRat_rescale_exactOnly (GridSpec.quantityUnits_eq_ok.mp hunits).2).2

/-- What a builder is for. -/
def CandleFlowBuilder.spec (s : CandleFlowBuilder) : InstrumentId × GridSpec × TimeframeSpec :=
  (s.instrument, s.grid, s.time)

/-- **What holds of a run**, with the trades of each returned candle and of the live one. -/
structure Counted (instrument : InstrumentId) (grid : GridSpec) (time : TimeframeSpec) (r : FlowRun)
    (groups : List (List TradeInput)) (live : List TradeInput) : Prop where
  spec : r.builder.spec = (instrument, grid, time)
  accepted : r.accepted = groups.flatten ++ live
  candles : r.candles = groups.map (candleOf instrument grid time .final)
  group : ∀ trades ∈ groups, Group instrument grid time trades
  placed : ∀ trade ∈ live, (grid.entryOf trade).isSome
  sound : r.builder.Sound (entriesOf grid live)

namespace Counted

variable {instrument : InstrumentId} {grid : GridSpec} {time : TimeframeSpec} {r : FlowRun}
  {groups : List (List TradeInput)} {live : List TradeInput}

variable (h : Counted instrument grid time r groups live)

include h

lemma instrument_eq : r.builder.instrument = instrument := congrArg (·.1) h.spec

lemma grid_eq : r.builder.grid = grid := congrArg (·.2.1) h.spec

lemma time_eq : r.builder.time = time := congrArg (·.2.2) h.spec

variable {startTs : Int}

/-- The live candle contains the timestamps of its trades. -/
lemma period (hstart : r.builder.candleStart = some startTs) {trade : TradeInput}
    (htrade : trade ∈ live) :
    periodStart trade.timestampNs time.anchorNs time.candleNs = startTs := by
  obtain ⟨e, he⟩ := Option.isSome_iff_exists.mp (h.placed trade htrade)
  have hmem : e ∈ entriesOf grid live := List.mem_filterMap.mpr ⟨trade, htrade, he⟩
  have hperiod := h.sound.period startTs hstart e hmem
  rw [timestampNs_of_entry he, h.time_eq] at hperiod
  exact hperiod

lemma live_ne_nil (hstart : r.builder.candleStart = some startTs) : live ≠ [] := by
  rintro rfl
  exact h.sound.active startTs hstart rfl

/-- Without a candle there are no live trades. -/
lemma idle (hstart : r.builder.candleStart = none) : live = [] := by
  have hnil := h.sound.idle hstart
  rcases live with _ | ⟨trade, rest⟩
  · rfl
  · obtain ⟨e, he⟩ := Option.isSome_iff_exists.mp (h.placed trade List.mem_cons_self)
    have hmem : e ∈ entriesOf grid (trade :: rest) :=
      List.mem_filterMap.mpr ⟨trade, List.mem_cons_self, he⟩
    rw [hnil] at hmem
    exact absurd hmem List.not_mem_nil

/-- The live candle starts with the period of its first trade. -/
lemma startTs_eq (hstart : r.builder.candleStart = some startTs) (state : FlowState) :
    (candleOf instrument grid time state live).startTs = startTs := by
  rcases live with _ | ⟨trade, rest⟩
  · exact absurd rfl (h.live_ne_nil hstart)
  · exact h.period hstart List.mem_cons_self

variable {flow : CandleFlow}

/-- **A snapshot of the live candle is the candle its trades make.** -/
theorem snapshot_eq (hstart : r.builder.candleStart = some startTs) {state : FlowState}
    (hflow : r.builder.snapshot state = .ok flow) :
    flow = candleOf instrument grid time state live := by
  obtain ⟨-, -, rfl⟩ :=
    (h.sound.accounts.snapshot_eq_ok h.sound.grid h.sound.order hstart).mp hflow
  have hstart' := h.startTs_eq hstart state
  rw [h.instrument_eq, h.grid_eq, h.time_eq, ← hstart']
  rfl

/-- The trades of a candle that has been closed. -/
lemma group_live (hstart : r.builder.candleStart = some startTs) :
    Group instrument grid time live := by
  have hvalid : grid.Valid := h.grid_eq ▸ h.sound.grid
  have hpos : 0 < time.candleNs := h.time_eq ▸ h.sound.time.candle_pos
  refine ⟨h.live_ne_nil hstart, fun trade htrade => placed_of_entry hvalid (h.placed trade htrade), ?_⟩
  intro trade htrade
  have hend : (candleOf instrument grid time .final live).endTs =
      (candleOf instrument grid time .final live).startTs + time.candleNs := rfl
  rw [hend, h.startTs_eq hstart .final, ← h.period hstart htrade]
  exact ⟨periodStart_le hpos, lt_periodStart_add hpos⟩

/-- A call that returned no candle. -/
lemma noted {more : List TradeInput} (hplaced : ∀ trade ∈ more, (grid.entryOf trade).isSome)
    {builder : CandleFlowBuilder}
    (hsound : builder.Sound (entriesOf grid live ++ entriesOf grid more))
    (hsame : builder.spec = r.builder.spec) :
    Counted instrument grid time (r.ended more (.ok none builder)) groups (live ++ more) where
  spec := hsame.trans h.spec
  accepted := by
    show r.accepted ++ more = _
    rw [h.accepted, List.append_assoc]
  candles := (List.append_nil _).trans h.candles
  group := h.group
  placed trade htrade := (List.mem_append.mp htrade).elim (h.placed trade) (hplaced trade)
  sound := by
    rw [entriesOf, List.filterMap_append]
    exact hsound

/-- A call that closed the live candle, and started the next one with `next`. -/
lemma closed (hstart : r.builder.candleStart = some startTs)
    (hflow : r.builder.snapshot .final = .ok flow) (next : List TradeInput)
    (hplaced : ∀ trade ∈ next, (grid.entryOf trade).isSome) {builder : CandleFlowBuilder}
    (hsound : builder.Sound (entriesOf grid next)) (hsame : builder.spec = r.builder.spec) :
    Counted instrument grid time (r.ended next (.ok (some flow) builder)) (groups ++ [live])
      next where
  spec := hsame.trans h.spec
  accepted := by
    show r.accepted ++ next = (groups ++ [live]).flatten ++ next
    rw [h.accepted, List.flatten_append, List.flatten_singleton]
  candles := by
    show r.candles ++ [flow] = _
    rw [List.map_append, List.map_singleton, h.candles, h.snapshot_eq hstart hflow]
  group trades htrades := by
    rcases List.mem_append.mp htrades with htrades | htrades
    · exact h.group trades htrades
    · rw [List.mem_singleton.mp htrades]
      exact h.group_live hstart
  placed := hplaced
  sound := hsound

/-- A clock tick or a finish that took no trade. -/
lemma idled {builder : CandleFlowBuilder} (hsound : builder.Sound (entriesOf grid live))
    (hsame : builder.spec = r.builder.spec) :
    Counted instrument grid time (r.ended [] (.ok none builder)) groups (live ++ []) :=
  h.noted (by simp) (by simpa [entriesOf] using hsound) hsame

lemma ingest (trade : TradeInput) :
    ∃ groups' live', Counted instrument grid time (r.step (.ingest trade)) groups' live' := by
  simp only [FlowRun.step, candleFlows, PeriodBuilder.perform, PeriodBuilder.Call.items]
  rcases (h.sound.ends_ingest trade).cases with
    ⟨out, builder, hrun, e, target, hadmitted, hingested⟩ | ⟨err, builder, hrun, rfl⟩
  · rw [hrun]
    have hsound := h.sound.ingested hadmitted hingested
    have hentry : grid.entryOf trade = some e := h.grid_eq ▸ hadmitted.entry
    have hone : entriesOf grid [trade] = [e] := by
      rw [entriesOf, List.filterMap_cons_some hentry, List.filterMap_nil]
    have hplaced : ∀ t ∈ [trade], (grid.entryOf t).isSome := by
      intro t ht
      rw [List.mem_singleton.mp ht, hentry]
      rfl
    rw [← hone] at hsound
    rcases hingested with ⟨hstart, hpassed⟩ | ⟨hstart, hlt, hflow, hpassed⟩ | ⟨hstart, hpassed⟩
    · exact ⟨_, _, h.noted hplaced hsound rfl⟩
    · exact ⟨_, _, h.closed hstart hflow [trade] hplaced hsound rfl⟩
    · exact ⟨_, _, h.noted hplaced hsound rfl⟩
  · rw [hrun]
    exact ⟨groups, live, h⟩

lemma advanceTo (timestampNs : Int) :
    ∃ groups' live', Counted instrument grid time (r.step (.advanceTo timestampNs)) groups' live' := by
  simp only [FlowRun.step, candleFlows, PeriodBuilder.perform, PeriodBuilder.Call.items]
  rcases (CandleFlowBuilder.ends_advanceTo r.builder timestampNs).cases with
    ⟨out, builder, hrun, hlate, hticked⟩ | ⟨err, builder, hrun, rfl⟩
  · rw [hrun]
    have hsound := h.sound.noteTime hlate
    rcases hticked with hstart | ⟨hstart, hle⟩ | ⟨hstart, hlt, hflow⟩
    · exact ⟨_, _, h.idled hsound rfl⟩
    · exact ⟨_, _, h.idled hsound rfl⟩
    · exact ⟨_, _, h.closed hstart hflow [] (by simp) (h.sound.clearActive.noteTime hlate) rfl⟩
  · rw [hrun]
    exact ⟨groups, live, h⟩

lemma finish : ∃ groups' live', Counted instrument grid time (r.step .finish) groups' live' := by
  simp only [FlowRun.step, candleFlows, PeriodBuilder.perform, PeriodBuilder.Call.items]
  rcases (CandleFlowBuilder.ends_finish r.builder).cases with
    ⟨out, builder, hrun, hends⟩ | ⟨err, builder, hrun, rfl⟩
  · rw [hrun]
    rcases hends with ⟨-, rfl, rfl⟩ | ⟨flow, hstart, hflow, rfl, rfl⟩
    · exact ⟨_, _, h.idled h.sound rfl⟩
    · obtain ⟨startTs, hstart⟩ := Option.ne_none_iff_exists'.mp hstart
      exact ⟨_, _, h.closed hstart hflow [] (by simp) h.sound.clearActive rfl⟩
  · rw [hrun]
    exact ⟨groups, live, h⟩

end Counted

/-- **Every accepted trade is counted in exactly one candle.** After any calls on a new builder, the
accepted trades are, in order, those of the returned candles and those of the live one. Each returned
candle is the one its trades make, contains their timestamps, and counts them at their exact prices and
quantities; so is, whenever it can be produced, a snapshot of the live one, whose accumulators hold the
sums in any case. The builder passes its own check. -/
theorem flow_accounts {instrument : InstrumentId} {grid : GridSpec} {time : TimeframeSpec}
    {config : FlowConfig} {builder : CandleFlowBuilder}
    (hnew : CandleFlowBuilder.new instrument grid time config = .ok builder)
    (calls : List (PeriodBuilder.Call TradeInput)) :
    let r := run FlowRun.step ⟨builder, [], []⟩ calls
    ∃ (groups : List (List TradeInput)) (live : List TradeInput),
      r.accepted = groups.flatten ++ live ∧
      r.candles = groups.map (candleOf instrument grid time .final) ∧
      (∀ trades ∈ groups, Group instrument grid time trades) ∧
      (live ≠ [] → Group instrument grid time live) ∧
      r.builder.Accounts (entriesOf grid live) ∧
      (∀ state flow, r.builder.snapshot state = .ok flow →
        flow = candleOf instrument grid time state live) ∧
      r.builder.validate = .ok () := by
  obtain ⟨⟨hgrid, htime, hconfig⟩, rfl⟩ := CandleFlowBuilder.new_eq_ok.mp hnew
  intro r
  have hcounted : ∃ groups live, Counted instrument grid time r groups live := by
    refine run_invariant' (P := fun r => ∃ groups live, Counted instrument grid time r groups live)
      ?_ ?_ calls
    · rintro r call ⟨groups, live, h⟩
      rcases call with trade | timestampNs | _
      · exact h.ingest trade
      · exact h.advanceTo timestampNs
      · exact h.finish
    · exact ⟨[], [], rfl, rfl, rfl, by simp, by simp,
        CandleFlowBuilder.sound_empty instrument hgrid htime hconfig⟩
  obtain ⟨groups, live, h⟩ := hcounted
  refine ⟨groups, live, h.accepted, h.candles, h.group, ?_, h.grid_eq ▸ h.sound.accounts, ?_,
    h.sound.validate⟩
  · intro hlive
    rcases hstart : r.builder.candleStart with _ | startTs
    · exact absurd (h.idle hstart) hlive
    · exact h.group_live hstart
  · intro state flow hflow
    rcases hstart : r.builder.candleStart with _ | startTs
    · rw [CandleFlowBuilder.snapshot, hstart] at hflow
      cases hflow
    · exact h.snapshot_eq hstart hflow

/-- Ticks of one, in buckets of `levelsPerBucket`. -/
def exampleGrid (levelsPerBucket : Nat) : GridSpec := ⟨0, 0, ⟨1, 0⟩, levelsPerBucket⟩

/-- Candles and TPOs of ten nanoseconds, sessions of twenty. -/
def exampleTime : TimeframeSpec := ⟨10, 10, 20, 0, 20⟩

def exampleFlowConfig : FlowConfig := ⟨2, 8, 8⟩

/-- A buy of two units. -/
def exampleTrade (timestampNs price : Int) : TradeInput where
  instrument := ⟨1⟩
  source := ⟨⟨1⟩, .spot⟩
  timestampNs := timestampNs
  price := ⟨⟨price, 0⟩⟩
  quantity := ⟨⟨2, 0⟩⟩
  aggressor := .buy

/-- Two trades of one candle, a trade that is late, a tick into the next candle and a trade in it. -/
def exampleFlowCalls : List (PeriodBuilder.Call TradeInput) :=
  [.ingest (exampleTrade 1 20), .ingest (exampleTrade 9 25), .ingest (exampleTrade 5 20),
    .advanceTo 12, .ingest (exampleTrade 13 30)]

/-- They on a new builder. -/
def exampleFlowRun : FlowRun :=
  run FlowRun.step ⟨.empty ⟨1⟩ (exampleGrid 10) exampleTime exampleFlowConfig, [], []⟩ exampleFlowCalls

/-- One candle is returned and one is live; the late trade is in neither. -/
theorem flow_accounts_example :
    (exampleFlowRun.accepted.map (·.timestampNs) = [1, 9, 13] ∧
      exampleFlowRun.candles.map (fun c => (c.startTs, c.endTs, c.tradeCount, c.totalVolume)) =
        [(0, 10, 2, ⟨⟨4, 0⟩⟩)]) ∧
    ∃ (groups : List (List TradeInput)) (live : List TradeInput),
      exampleFlowRun.accepted = groups.flatten ++ live ∧
      exampleFlowRun.candles = groups.map (candleOf ⟨1⟩ (exampleGrid 10) exampleTime .final) := by
  refine ⟨by decide +kernel, ?_⟩
  obtain ⟨groups, live, haccepted, hcandles, -⟩ :=
    @flow_accounts ⟨1⟩ (exampleGrid 10) exampleTime exampleFlowConfig _ rfl exampleFlowCalls
  exact ⟨groups, live, haccepted, hcandles⟩

end Marketfeed
