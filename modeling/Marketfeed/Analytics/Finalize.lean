import Marketfeed.Analytics.Atomicity

/-!
# Accepted trades that cannot be snapshotted

A trade is admitted by its tick, which has to be one or more. A snapshot converts its bucket back to a
price, and that has to be one or more as well. With more than one tick to a bucket the two differ: a
trade below the first bucket is accepted, and from then on every snapshot fails until the builder is
thrown away.
-/

namespace Marketfeed

open PeriodBuilder (Finalizable)

/-! ## Buckets with a price -/

/-- The price is at least one bucket. -/
def GridSpec.ReachesBucket (g : GridSpec) (price : Price) : Prop :=
  (g.bucketPrice 1).fixed.toRat ≤ price.fixed.toRat

lemma GridSpec.reachesBucket_iff {g : GridSpec} (h : g.Valid) {price : Price} {bucket : Int}
    (hbucket : g.priceBucket price = .ok bucket) : g.ReachesBucket price ↔ 0 < bucket := by
  obtain ⟨tick, htick, rfl⟩ := GridSpec.priceBucket_eq_ok.mp hbucket
  obtain ⟨-, hrescale⟩ := (GridSpec.priceTick_eq_ok h).mp htick
  have hprice := (Fixed.toRat_rescale_exactOnly hrescale).2
  unfold ReachesBucket bucketPrice
  rw [← hprice, ← not_lt, Fixed.toRat_lt_toRat, not_lt, one_mul, mul_comm g.tickSize.coefficient,
    mul_le_mul_iff_of_pos_right h.tick_pos, ← Int.add_one_le_iff, zero_add,
    Int.le_ediv_iff_mul_le h.levels_pos, one_mul]

/-! ## Candle flows -/

namespace CandleFlowBuilder

variable {s : CandleFlowBuilder} {es : List FlowEntry}

/-- Without a bucket zero a candle has a snapshot, unless its end overflows. -/
lemma Sound.upToOverflow_snapshot (h : s.Sound es) (hpos : ∀ e ∈ es, 0 < e.bucket) {start : Int}
    (hstart : s.candleStart = some start) (state : FlowState) : UpToOverflow (s.snapshot state) := by
  by_cases hend : i64Min ≤ start + s.time.candleNs ∧ start + s.time.candleNs ≤ i64Max
  · rw [(h.accounts.snapshot_eq_ok h.grid h.order hstart).mpr ⟨hend, hpos, rfl⟩]
    exact .ok _
  · have hnone : checkedI64 (start + s.time.candleNs) = none :=
      Option.eq_none_iff_forall_ne_some.mpr fun x hx => hend (checkedI64_eq_some.mp hx).1
    unfold snapshot
    rw [hstart]
    dsimp only
    rw [hnone]
    exact .error trivial

variable {trade : TradeInput}

/-- The checks before a builder's candle is looked at are those of a fresh builder, and the clock's. -/
lemma admission_of_fresh {r : FlowEntry × Int} (hlate : s.rejectLate trade.timestampNs = .ok ())
    (h : (empty s.instrument s.grid s.time s.config).admission trade = .ok r) :
    s.admission trade = .ok r := by
  unfold admission at h ⊢
  rw [hlate]
  exact h

/-- A trade of a later candle ends the current one, or fails as its snapshot does. -/
lemma Sound.ingested_later (h : s.Sound es) {start : Int} (hstart : s.candleStart = some start)
    (hlater : start < periodStart trade.timestampNs s.time.anchorNs s.time.candleNs)
    (hlate : s.rejectLate trade.timestampNs = .ok ())
    (hfresh : completes (ingest trade) (empty s.instrument s.grid s.time s.config) = true) :
    ∃ next, s.ingested trade = (fun flow => (some flow, next)) <$> s.snapshot .final := by
  have hempty := sound_empty s.instrument h.grid h.time h.config
  have hnew : new s.instrument s.grid s.time s.config =
      .ok (empty s.instrument s.grid s.time s.config) := new_eq_ok.mpr ⟨⟨h.grid, h.time, h.config⟩, rfl⟩
  obtain ⟨out, next, hrun⟩ := completes_iff.mp hfresh
  rw [hempty.run_ingest, run_atomically_ok_iff] at hrun
  obtain ⟨⟨e, target⟩, hadmission, hrun⟩ := bind_eq_ok.mp hrun
  obtain ⟨⟨⟩, hpreflight, -⟩ := bind_eq_ok.mp hrun
  have htarget := (admission_ok h.grid (admission_of_fresh hlate hadmission)).start
  have hgt : target > start := htarget ▸ hlater
  refine ⟨started e target (empty s.instrument s.grid s.time s.config), ?_⟩
  unfold CandleFlowBuilder.ingested restarted
  rw [admission_of_fresh hlate hadmission, hstart, hnew]
  simp only [bind, Except.bind, hpreflight, if_pos hgt]
  rcases s.snapshot .final with err | flow <;> rfl

/-- The candle builder can be snapshotted and finalized, unless something overflows. -/
lemma Sound.finalizable (h : s.Sound es) (hpos : ∀ e ∈ es, 0 < e.bucket) :
    candleFlows.Finalizable AnalyticsError.IsOverflow (empty s.instrument s.grid s.time s.config)
      (fun trade => ∃ start, s.candleStart = some start ∧
        start < periodStart trade.timestampNs s.time.anchorNs s.time.candleNs) s where
  live := by
    change UpToOverflow s.liveSnapshot
    unfold liveSnapshot
    rcases hstart : s.candleStart with _ | start
    · exact FailsOnly.ok none
    · exact FailsOnly.map _ (h.upToOverflow_snapshot hpos hstart .live)
  finish := by
    refine Ends.of_atomically (run_finish s) (fun _ _ _ => trivial) ?_
    unfold finished
    rcases hstart : s.candleStart with _ | start
    · exact FailsOnly.ok _
    · exact FailsOnly.bind (h.upToOverflow_snapshot hpos hstart .final) fun _ _ => .ok _
  advanceTo timestampNs hlate := by
    refine Ends.of_atomically (run_advanceTo timestampNs s) (fun _ _ _ => trivial) ?_
    unfold CandleFlowBuilder.advanced
    rw [show s.rejectLate timestampNs = _ from rejectBefore_eq_ok.mpr hlate]
    refine FailsOnly.bind (.ok ()) fun _ _ => ?_
    rcases hstart : s.candleStart with _ | start
    · exact FailsOnly.ok _
    · refine FailsOnly.bind (upToOverflow_orOverflow _ _) fun target _ => ?_
      split_ifs with hgt
      · exact FailsOnly.bind (h.upToOverflow_snapshot hpos hstart .final) fun _ _ => .ok _
      · exact FailsOnly.ok _
  ingest trade hlate hlater hfresh := by
    obtain ⟨start, hstart, hlt⟩ := hlater
    obtain ⟨next, hnext⟩ := h.ingested_later hstart hlt (rejectBefore_eq_ok.mpr hlate) hfresh
    exact PeriodBuilder.ends_of_roll (h.run_ingest trade) hnext
      (h.upToOverflow_snapshot hpos hstart .final)

/-- What a builder is set up with. -/
def setup (s : CandleFlowBuilder) : InstrumentId × GridSpec × TimeframeSpec × FlowConfig :=
  (s.instrument, s.grid, s.time, s.config)

/-- An accepted trade that reaches a bucket leaves all trades of the candle in one. -/
lemma Sound.ingest_reaching (h : s.Sound es) (hpos : ∀ e ∈ es, 0 < e.bucket)
    (hreaches : s.grid.ReachesBucket trade.price) {out : Option CandleFlow}
    {s' : CandleFlowBuilder} (hrun : (ingest trade).run s = .ok out s') :
    s'.setup = s.setup ∧ ∃ es', s'.Sound es' ∧ ∀ e ∈ es', 0 < e.bucket := by
  rw [h.run_ingest, run_atomically_ok_iff] at hrun
  obtain ⟨e, target, hadmitted, hingested⟩ := ingested_eq_ok h.grid hrun
  obtain ⟨bucket, _, _, hbucket, -, -, rfl⟩ := entryOf_eq_some.mp hadmitted.entry
  have hbucketPos : 0 < bucket := (GridSpec.reachesBucket_iff h.grid hbucket).mp hreaches
  refine ⟨?_, _, h.ingested hadmitted hingested, ?_⟩
  · rcases hingested with _ | _ | _ <;> rfl
  · split_ifs
    · simpa using hbucketPos
    · simpa [or_imp, forall_and] using ⟨hpos, hbucketPos⟩

end CandleFlowBuilder

/-! ## Session profiles -/

namespace SessionProfileBuilder

variable {s : SessionProfileBuilder}

/-- Without a bucket zero a session has a profile, unless something overflows. -/
lemma Sound.upToOverflow_closedSnapshot (h : s.Sound) (hpos : ∀ b ∈ s.buckets, 0 < b)
    (hstart : s.sessionStart ≠ none) (state : ProfileState) (basis : ValueAreaBasis) :
    UpToOverflow (s.closedSnapshot state basis) := by
  unfold closedSnapshot
  rcases (ends_closeCurrentTpo s).cases with
    ⟨⟨⟩, s', hrun, -, rfl⟩ | ⟨err, s', hrun, -, -, hoverflow⟩
  · rw [hrun]
    refine h.closed.levels.upToOverflow_snapshot ?_ ?_ state basis
    · rw [closed_sessionStart]
      exact hstart
    · rw [buckets, closed_volumeByLevel]
      exact hpos
  · rw [hrun]
    exact .error hoverflow

/-- A session that cannot be closed has overflown. -/
lemma Sound.isOverflow_of_closeFailed (h : s.Sound) (hpos : ∀ b ∈ s.buckets, 0 < b)
    (hstart : s.sessionStart ≠ none) {err : AnalyticsError} {s' : SessionProfileBuilder}
    (hfailed : s.CloseFailed err s') : err.IsOverflow := by
  rcases hfailed with ⟨-, hoverflow, -⟩ | ⟨hclosable, herr, -⟩
  · exact hoverflow
  · refine h.upToOverflow_closedSnapshot hpos hstart .final s.config.basis err ?_
    rw [closedSnapshot, run_closeCurrentTpo hclosable]
    exact herr

variable {timestampNs : Int} {price : Price} {quantity : Quantity} {e : ProfileEntry}

lemma admission_of_fresh (hlate : s.rejectLate timestampNs = .ok ())
    (h : (empty s.grid s.time s.config).admission timestampNs price quantity = .ok e) :
    s.admission timestampNs price quantity = .ok e := by
  unfold admission at h ⊢
  rw [hlate]
  exact h

/-- A trade of a later session ends the current one, or fails as its profile does. -/
lemma Sound.ingested_later (h : s.Sound) {start : Int} (hstart : s.sessionStart = some start)
    (hlater : start < periodStart timestampNs s.time.anchorNs s.time.sessionNs)
    (hlate : s.rejectLate timestampNs = .ok ())
    (hfresh : completes (ingest timestampNs price quantity) (empty s.grid s.time s.config) = true) :
    ∃ next, s.ingested timestampNs price quantity = (fun p => (some p, next)) <$> s.finalizedClone := by
  have hnew : new s.grid s.time s.config = .ok (empty s.grid s.time s.config) :=
    new_eq_ok.mpr ⟨⟨h.grid, h.time, h.config⟩, rfl⟩
  obtain ⟨out, next, hrun⟩ := completes_iff.mp hfresh
  rw [run_ingest, run_atomically_ok_iff] at hrun
  obtain ⟨e, hadmission, hrun⟩ := bind_eq_ok.mp hrun
  obtain ⟨⟨⟩, hpreflight, -⟩ := bind_eq_ok.mp hrun
  have hadmission' := admission_of_fresh hlate hadmission
  obtain ⟨-, -, rfl, he⟩ := admission_ok h.grid hadmission'
  have hgt : e.session > start := he.session ▸ hlater
  refine ⟨SessionProfileBuilder.started e (empty s.grid s.time s.config), ?_⟩
  unfold SessionProfileBuilder.ingested restarted
  rw [hadmission', hstart, hnew]
  simp only [bind, Except.bind, hpreflight, if_pos hgt]
  rcases s.finalizedClone with err | p <;> rfl

/-- The profile builder can be snapshotted and finalized, unless something overflows. -/
lemma Sound.finalizable (h : s.Sound) (hpos : ∀ b ∈ s.buckets, 0 < b) :
    sessionProfiles.Finalizable AnalyticsError.IsOverflow (empty s.grid s.time s.config)
      (fun trade => ∃ start, s.sessionStart = some start ∧
        start < periodStart trade.timestampNs s.time.anchorNs s.time.sessionNs) s where
  live := by
    change UpToOverflow s.liveSnapshot
    unfold liveSnapshot liveSnapshotWithBasis
    rcases hstart : s.sessionStart with _ | start
    · exact .ok none
    · refine FailsOnly.map _ (h.upToOverflow_closedSnapshot hpos ?_ .live _)
      rw [hstart]
      exact Option.some_ne_none start
  finish := by
    refine (ends_finish s).mono (fun _ _ _ => trivial) ?_
    rintro err s' ⟨hstart, hfailed⟩
    exact h.isOverflow_of_closeFailed hpos hstart hfailed
  advanceTo timestampNs hlate := by
    refine (ends_advanceTo s timestampNs).mono (fun _ _ _ => trivial) ?_
    intro err s' hfailed
    rcases hfailed with herr | ⟨-, herr⟩ | ⟨hstart, herr⟩ | ⟨hstart, -, -, hfailed⟩
    · cases (rejectBefore_eq_ok.mpr hlate).symm.trans herr
    · exact herr
    · obtain ⟨start, hstart⟩ := Option.ne_none_iff_exists'.mp hstart
      obtain ⟨-, last, -, -, htpo⟩ := h.period start hstart
      cases (currentTpo_eq_ok.mpr htpo).symm.trans herr
    · refine h.isOverflow_of_closeFailed hpos ?_ hfailed
      rw [hstart]
      exact Option.some_ne_none _
  ingest trade hlate hlater hfresh := by
    obtain ⟨start, hstart, hlt⟩ := hlater
    obtain ⟨next, hnext⟩ := h.ingested_later hstart hlt (rejectBefore_eq_ok.mpr hlate) hfresh
    refine PeriodBuilder.ends_of_roll (run_ingest _ _ _ s) hnext
      (h.upToOverflow_closedSnapshot hpos ?_ .final _)
    rw [hstart]
    exact Option.some_ne_none start

/-- What a builder is set up with. -/
def setup (s : SessionProfileBuilder) : GridSpec × TimeframeSpec × ProfileConfig :=
  (s.grid, s.time, s.config)

/-- Adding a trade opens no other bucket than its own. -/
lemma buckets_added (hpos : ∀ b ∈ s.buckets, 0 < b) (he : 0 < e.bucket) :
    ∀ b ∈ (added e s).buckets, 0 < b := by
  intro b hb
  obtain ⟨v, hv⟩ := mem_buckets.mp hb
  rw [getElem?_added] at hv
  split_ifs at hv with heq
  · exact heq ▸ he
  · exact hpos b (mem_buckets.mpr ⟨v, hv⟩)

lemma movedTpo_setup {target current : Int} {moved : SessionProfileBuilder}
    (h : s.movedTpo target current = .ok moved) : moved.setup = s.setup := by
  unfold movedTpo at h
  split_ifs at h with hlt
  · obtain ⟨⟨⟩, -, h⟩ := bind_eq_ok.mp h
    cases h
    simp only [setup, closed_grid, closed_time, closed_config]
  · cases h
    rfl

/-- An accepted trade that reaches a bucket leaves the session without a bucket zero. -/
lemma Sound.ingest_reaching (h : s.Sound) (hpos : ∀ b ∈ s.buckets, 0 < b) {trade : ProfileTrade}
    (hreaches : s.grid.ReachesBucket trade.price) {out : Option SessionProfile}
    {s' : SessionProfileBuilder} (hrun : (sessionProfiles.ingest trade).run s = .ok out s') :
    s'.setup = s.setup ∧ s'.Sound ∧ ∀ b ∈ s'.buckets, 0 < b := by
  change (ingest trade.timestampNs trade.price trade.quantity).run s = _ at hrun
  rw [run_ingest, run_atomically_ok_iff] at hrun
  obtain ⟨e, hadmission, hingested⟩ := (ingested_eq_ok_iff h.grid h.time h.config).mp hrun
  obtain ⟨-, hpriceBucket, -⟩ := admission_ok h.grid hadmission
  have hbucket : 0 < e.bucket := (GridSpec.reachesBucket_iff h.grid hpriceBucket).mp hreaches
  have hsound := h.ingested hrun
  rcases hingested with ⟨hstart, -⟩ | ⟨-, -, -, -⟩ | ⟨hstart, htpo, -, -, hmoved⟩
  · exact ⟨rfl, hsound, buckets_added (s := startSession e s) hpos hbucket⟩
  · refine ⟨rfl, hsound, buckets_added (s := startSession e (empty s.grid s.time s.config)) ?_ hbucket⟩
    intro b hb
    obtain ⟨v, hv⟩ := mem_buckets.mp hb
    exact absurd (Std.ExtTreeMap.getElem?_empty.symm.trans hv).symm (Option.some_ne_none v)
  · obtain ⟨-, hvolume⟩ := movedTpo_frame hmoved
    refine ⟨(movedTpo_setup hmoved : _ = s.setup), hsound, buckets_added ?_ hbucket⟩
    rw [buckets, hvolume]
    exact hpos

end SessionProfileBuilder

/-! ## Over all runs -/

/-- **An accepted trade can be snapshotted and finalized** if it is at least one bucket: after any
trades of which each was accepted and is, a snapshot, a finish, a tick of the clock and a trade of a
later period all succeed on either builder, or fail with an overflow. -/
theorem accepted_finalizable {instrument : InstrumentId} {grid : GridSpec} {time : TimeframeSpec}
    {flowConfig : FlowConfig} {profileConfig : ProfileConfig} {flow : CandleFlowBuilder}
    {profile : SessionProfileBuilder}
    (hflow : CandleFlowBuilder.new instrument grid time flowConfig = .ok flow)
    (hprofile : SessionProfileBuilder.new grid time profileConfig = .ok profile) :
    (∀ (trades : List TradeInput) outs s, (∀ trade ∈ trades, grid.ReachesBucket trade.price) →
      (trades.mapM candleFlows.ingest).run flow = .ok outs s →
      candleFlows.Finalizable AnalyticsError.IsOverflow flow
        (fun trade => ∃ start, s.candleStart = some start ∧
          start < periodStart trade.timestampNs time.anchorNs time.candleNs) s) ∧
    ∀ (trades : List ProfileTrade) outs s, (∀ trade ∈ trades, grid.ReachesBucket trade.price) →
      (trades.mapM sessionProfiles.ingest).run profile = .ok outs s →
      sessionProfiles.Finalizable AnalyticsError.IsOverflow profile
        (fun trade => ∃ start, s.sessionStart = some start ∧
          start < periodStart trade.timestampNs time.anchorNs time.sessionNs) s := by
  obtain ⟨⟨hgrid, htime, hconfig⟩, rfl⟩ := CandleFlowBuilder.new_eq_ok.mp hflow
  obtain ⟨⟨-, -, hconfig'⟩, rfl⟩ := SessionProfileBuilder.new_eq_ok.mp hprofile
  constructor
  · intro trades outs s hreaches hrun
    obtain ⟨hsetup, es, h, hpos⟩ := mapM_invariant
      (P := fun s : CandleFlowBuilder => s.setup = (instrument, grid, time, flowConfig) ∧
        ∃ es, s.Sound es ∧ ∀ e ∈ es, 0 < e.bucket)
      (fun trade htrade s out s' hs hrun => by
        obtain ⟨hsetup, es, h, hpos⟩ := hs
        have hgrid : s.grid = grid := congrArg (fun setup => setup.2.1) hsetup
        obtain ⟨hsetup', hnext⟩ := h.ingest_reaching hpos (hgrid.symm ▸ hreaches trade htrade) hrun
        exact ⟨hsetup'.trans hsetup, hnext⟩)
      ⟨rfl, [], CandleFlowBuilder.sound_empty instrument hgrid htime hconfig, by simp⟩ hrun
    cases hsetup
    exact h.finalizable hpos
  · intro trades outs s hreaches hrun
    obtain ⟨hsetup, h, hpos⟩ := mapM_invariant
      (P := fun s : SessionProfileBuilder => s.setup = (grid, time, profileConfig) ∧
        s.Sound ∧ ∀ b ∈ s.buckets, 0 < b)
      (fun trade htrade s out s' hs hrun => by
        obtain ⟨hsetup, h, hpos⟩ := hs
        have hgrid : s.grid = grid := congrArg Prod.fst hsetup
        obtain ⟨hsetup', hnext⟩ := h.ingest_reaching hpos (hgrid.symm ▸ hreaches trade htrade) hrun
        exact ⟨hsetup'.trans hsetup, hnext⟩)
      ⟨rfl, SessionProfileBuilder.sound_empty hgrid htime hconfig', by
        intro b hb
        obtain ⟨v, hv⟩ := SessionProfileBuilder.mem_buckets.mp hb
        exact absurd (Std.ExtTreeMap.getElem?_empty.symm.trans hv).symm (Option.some_ne_none v)⟩ hrun
    cases hsetup
    exact h.finalizable hpos

/-- A candle builder with buckets of ten ticks, after one trade. -/
def exampleCandle (price : Int) : CandleFlowBuilder :=
  run candleFlows.step (.empty ⟨1⟩ (exampleGrid 10) exampleTime exampleFlowConfig)
    [.ingest (exampleTrade 1 price)]

/-- **A trade at half a bucket is accepted and poisons both builders**: their snapshots fail, they
cannot be finished, and neither a tick nor a trade of a later period gets past it. -/
theorem accepted_poisons :
    (exampleGrid 10).Valid ∧
    (exampleCandle 5).tradeCount = 1 ∧ (exampleProfile 5).totalVolumeUnits = 2 ∧
    (exampleCandle 5).liveSnapshot.isOk = false ∧ (exampleProfile 5).liveSnapshot.isOk = false ∧
    completes candleFlows.finish (exampleCandle 5) = false ∧
    completes sessionProfiles.finish (exampleProfile 5) = false ∧
    completes (candleFlows.advanceTo 40) (exampleCandle 5) = false ∧
    completes (sessionProfiles.advanceTo 40) (exampleProfile 5) = false ∧
    completes (candleFlows.ingest (exampleTrade 40 20)) (exampleCandle 5) = false ∧
    completes (sessionProfiles.ingest (exampleProfileTrade 40 20)) (exampleProfile 5) = false := by
  decide +kernel

/-- A builder that has taken these trades. -/
def afterTrades {σ τ ω : Type} (B : PeriodBuilder AnalyticsError σ τ ω) (s : σ) (trades : List τ) : σ :=
  endState (trades.mapM B.ingest) s

def emptyCandle : CandleFlowBuilder := .empty ⟨1⟩ (exampleGrid 10) exampleTime exampleFlowConfig

def emptyProfile : SessionProfileBuilder := .empty (exampleGrid 10) exampleTime exampleProfileConfig

/-- A builder with an item of a later period: it can be snapshotted and finished, the clock can tick to
the item, and the item returns the period, up to overflows. -/
def Closes {σ τ ω : Type} (B : PeriodBuilder AnalyticsError σ τ ω) (x : τ) (s : σ) : Prop :=
  FailsOnly AnalyticsError.IsOverflow (B.liveSnapshot s) ∧
  Ends B.finish s (fun _ _ => True) (fun e _ => e.IsOverflow) ∧
  Ends (B.advanceTo (B.time x)) s (fun _ _ => True) (fun e _ => e.IsOverflow) ∧
  Ends (B.ingest x) s (fun out _ => out.isSome = true) fun e _ => e.IsOverflow

lemma closes_of_finalizable {σ τ ω : Type} {B : PeriodBuilder AnalyticsError σ τ ω} {fresh s : σ}
    {later : τ → Prop} (h : B.Finalizable AnalyticsError.IsOverflow fresh later s) {x : τ} {t : Int}
    (hclock : B.clock s = some t) (hle : t ≤ B.time x) (hlater : later x)
    (hfresh : completes (B.ingest x) fresh = true) : Closes B x s := by
  have hlate : B.NotLate s (B.time x) := by
    intro last hlast
    cases hclock.symm.trans hlast
    exact hle
  exact ⟨h.live, h.finish, h.advanceTo _ hlate, h.ingest x hlate hlater hfresh⟩

/-- Trades at two and at three and a half buckets can be snapshotted and finalized. -/
theorem accepted_finalizable_example :
    Closes candleFlows (exampleTrade 40 20)
      (afterTrades candleFlows emptyCandle [exampleTrade 1 20, exampleTrade 3 35]) ∧
    Closes sessionProfiles (exampleProfileTrade 40 20)
      (afterTrades sessionProfiles emptyProfile [exampleProfileTrade 1 20, exampleProfileTrade 3 35]) := by
  have hreaches : (exampleGrid 10).ReachesBucket ⟨⟨20, 0⟩⟩ ∧ (exampleGrid 10).ReachesBucket ⟨⟨35, 0⟩⟩ := by
    unfold GridSpec.ReachesBucket
    decide +kernel
  obtain ⟨hcandle, hprofile⟩ := @accepted_finalizable ⟨1⟩ (exampleGrid 10) exampleTime
    exampleFlowConfig exampleProfileConfig emptyCandle emptyProfile rfl rfl
  obtain ⟨outs, hrun⟩ := exists_run_of_completes (show completes ([exampleTrade 1 20,
    exampleTrade 3 35].mapM candleFlows.ingest) emptyCandle = true by decide +kernel)
  obtain ⟨outs', hrun'⟩ := exists_run_of_completes (show completes ([exampleProfileTrade 1 20,
    exampleProfileTrade 3 35].mapM sessionProfiles.ingest) emptyProfile = true by decide +kernel)
  have h := hcandle [exampleTrade 1 20, exampleTrade 3 35] outs _ (List.forall_mem_cons.mpr ⟨hreaches.1,
    List.forall_mem_singleton.mpr hreaches.2⟩) hrun
  have h' := hprofile [exampleProfileTrade 1 20, exampleProfileTrade 3 35] outs' _ (List.forall_mem_cons.mpr ⟨hreaches.1,
    List.forall_mem_singleton.mpr hreaches.2⟩) hrun'
  constructor
  · refine closes_of_finalizable h (t := 3) ?_ ?_ ⟨0, ?_, ?_⟩ ?_ <;> decide +kernel
  · refine closes_of_finalizable h' (t := 3) ?_ ?_ ⟨0, ?_, ?_⟩ ?_ <;> decide +kernel

end Marketfeed
