import Marketfeed.Analytics.ProfileCalls
import Marketfeed.Lib.Periods

/-!
# What holds of every session profile builder

The invariant of a builder over any calls, failed ones included: its volumes are those of positive
trades on the grid and add up, its TPO counts are of buckets that have traded, and while a session is
open its start and that of the TPO period are those of the last timestamp.
-/

namespace Marketfeed

/-- **What an admitted trade is**: a positive quantity in a bucket whose price fits, with the session
and the TPO period of its timestamp. -/
structure ProfileEntry.OnGrid (g : GridSpec) (t : TimeframeSpec) (e : ProfileEntry) : Prop where
  units_pos : 0 < e.units
  bucket_nonneg : 0 ≤ e.bucket
  bucket_fits : e.bucket * (g.tickSize.coefficient * g.levelsPerBucket) ≤ i128Max
  price_pos : 0 < e.price.fixed.coefficient
  price_fits : e.price.fixed.coefficient ≤ i128Max
  session : e.session = periodStart e.timestampNs t.anchorNs t.sessionNs
  session_fits : i64Min ≤ e.session
  tpo : e.tpo = periodStart e.timestampNs t.anchorNs t.tpoNs

namespace SessionProfileBuilder

variable {s : SessionProfileBuilder} {e : ProfileEntry}

variable {timestampNs : Int} {price : Price}

lemma admission_ok (hvalid : s.grid.Valid) {quantity : Quantity}
    (h : s.admission timestampNs price quantity = .ok e) :
    s.rejectLate timestampNs = .ok () ∧ s.grid.priceBucket price = .ok e.bucket ∧
      e.timestampNs = timestampNs ∧ e.OnGrid s.grid s.time := by
  unfold admission at h
  simp only [bind_eq_ok] at h
  obtain ⟨⟨⟩, hlate, bucket, hbucket, tick, htick, onGrid, hprice, units, hunits, session,
    hsession, tpo, htpo, h⟩ := h
  cases h
  obtain ⟨hpos, hfits, rfl⟩ := GridSpec.priceAtTick_eq_ok.mp hprice
  obtain ⟨hsessionFits, rfl⟩ := periodStartChecked_eq_ok.mp hsession
  obtain ⟨-, rfl⟩ := periodStartChecked_eq_ok.mp htpo
  obtain ⟨tick', htick', rfl⟩ := GridSpec.priceBucket_eq_ok.mp hbucket
  cases htick.symm.trans htick'
  refine ⟨hlate, hbucket, rfl, (GridSpec.quantityUnits_eq_ok.mp hunits).1, ?_, ?_, ?_, hfits.2, rfl,
    hsessionFits.1, rfl⟩
  · exact Int.ediv_nonneg hpos.le hvalid.levels_pos.le
  · exact (hvalid.bucket_mul_le tick).trans hfits.2
  · exact mul_pos hpos hvalid.tick_pos

/-! ## What is counted -/

/-- **The counters of a session.** -/
structure Levels (s : SessionProfileBuilder) : Prop where
  level : ∀ (b : Int) (v : Int), s.volumeByLevel[b]? = some v →
    0 ≤ b ∧ b * (s.grid.tickSize.coefficient * s.grid.levelsPerBucket) ≤ i128Max ∧ 0 < v
  total : s.totalVolumeUnits = OrdMap.total id s.volumeByLevel
  high : ∀ p, s.sessionHigh = some p → 0 < p.fixed.coefficient ∧ p.fixed.coefficient ≤ i128Max
  low : ∀ p, s.sessionLow = some p → 0 < p.fixed.coefficient ∧ p.fixed.coefficient ≤ i128Max
  counted : ∀ (b : Int) (n : Nat), s.tpoByLevel[b]? = some n → s.volumeByLevel[b]? ≠ none
  current : ∀ b ∈ s.currentTpoLevels, s.volumeByLevel[b]? ≠ none
  extremes : s.currentTpoLevels = ∅ → s.currentTpoHigh = none ∧ s.currentTpoLow = none

lemma levels_empty (grid : GridSpec) (time : TimeframeSpec) (config : ProfileConfig) :
    (empty grid time config).Levels where
  level _ v h := absurd (Std.ExtTreeMap.getElem?_empty.symm.trans h).symm (Option.some_ne_none v)
  total := rfl
  high p h := absurd h.symm (Option.some_ne_none p)
  low p h := absurd h.symm (Option.some_ne_none p)
  counted _ n h := absurd (Std.ExtTreeMap.getElem?_empty.symm.trans h).symm (Option.some_ne_none n)
  current b h := absurd h (Finset.notMem_empty b)
  extremes _ := ⟨rfl, rfl⟩

/-- What is counted does not depend on the times. -/
lemma Levels.retime (h : s.Levels) (sessionStart currentTpoStart lastTimestampNs : Option Int) :
    Levels { s with
      sessionStart := sessionStart
      currentTpoStart := currentTpoStart
      lastTimestampNs := lastTimestampNs } :=
  { h with }

lemma Levels.total_nonneg (h : s.Levels) : 0 ≤ s.totalVolumeUnits := by
  rw [h.total]
  refine List.sum_nonneg fun v hv => ?_
  obtain ⟨⟨b, w⟩, hmem, rfl⟩ := List.mem_map.mp hv
  exact (h.level b w (OrdMap.mem_toList.mp hmem)).2.2.le

/-- What the volumes are after a trade. -/
lemma getElem?_added (e : ProfileEntry) (s : SessionProfileBuilder) (b : Int) :
    (added e s).volumeByLevel[b]? =
      if e.bucket = b then some (s.volumeByLevel[e.bucket]?.getD 0 + e.units)
      else s.volumeByLevel[b]? :=
  OrdMap.getElem?_insert ..

lemma added_ne_none {b : Int} (h : s.volumeByLevel[b]? ≠ none) :
    (added e s).volumeByLevel[b]? ≠ none := by
  rw [getElem?_added]
  split_ifs
  · exact Option.some_ne_none _
  · exact h

/-- The highest price is one that was there or the new one. -/
lemma raiseHigh_eq_some {high : Option Price} {p : Price} (h : raiseHigh high price = some p) :
    high = some p ∨ p = price := by
  unfold raiseHigh maxPrice at h
  rcases high with _ | current <;> grind

lemma lowerLow_eq_some {low : Option Price} {p : Price} (h : lowerLow low price = some p) :
    low = some p ∨ p = price := by
  unfold lowerLow minPrice at h
  rcases low with _ | current <;> grind

/-- **A trade is counted.** -/
theorem Levels.added (h : s.Levels) {t : TimeframeSpec} (he : e.OnGrid s.grid t) :
    (added e s).Levels where
  level b v hv := by
    rw [getElem?_added] at hv
    split_ifs at hv with hb
    · subst hb
      cases hv
      refine ⟨he.bucket_nonneg, he.bucket_fits, ?_⟩
      rcases hold : s.volumeByLevel[e.bucket]? with _ | w
      · rw [Option.getD_none, zero_add]
        exact he.units_pos
      · rw [Option.getD_some]
        exact add_pos (h.level _ w hold).2.2 he.units_pos
    · exact h.level b v hv
  total := by
    have hinsert := OrdMap.total_insert id s.volumeByLevel e.bucket
      (s.volumeByLevel[e.bucket]?.getD 0 + e.units)
    have helim : s.volumeByLevel[e.bucket]?.elim 0 id = s.volumeByLevel[e.bucket]?.getD 0 := by
      rcases s.volumeByLevel[e.bucket]? with _ | w <;> rfl
    have htotal := h.total
    rw [helim, id_eq] at hinsert
    show s.totalVolumeUnits + e.units = OrdMap.total id
      (s.volumeByLevel.insert e.bucket (s.volumeByLevel[e.bucket]?.getD 0 + e.units))
    omega
  high p hp := by
    rcases raiseHigh_eq_some hp with hp | rfl
    · exact h.high p hp
    · exact ⟨he.price_pos, he.price_fits⟩
  low p hp := by
    rcases lowerLow_eq_some hp with hp | rfl
    · exact h.low p hp
    · exact ⟨he.price_pos, he.price_fits⟩
  counted b n hn := added_ne_none (h.counted b n hn)
  current b hb := by
    rcases Finset.mem_insert.mp hb with rfl | hb
    · rw [getElem?_added, if_pos rfl]
      exact Option.some_ne_none _
    · exact added_ne_none (h.current b hb)
  extremes hempty := absurd hempty (Finset.insert_ne_empty _ _)

/-- **A TPO period is closed.** -/
theorem Levels.closed (h : s.Levels) : s.closed.Levels := by
  unfold SessionProfileBuilder.closed
  split_ifs with hempty
  · exact { h with extremes := fun _ => ⟨rfl, rfl⟩ }
  · refine { h with counted := ?_, current := ?_, extremes := fun _ => ⟨rfl, rfl⟩ }
    · intro b n hn
      change (scores s.currentBuckets s.tpoByLevel)[b]? = some n at hn
      rw [getElem?_scores s.nodup_currentBuckets] at hn
      split_ifs at hn with hb
      · exact h.current b (mem_currentBuckets.mp hb)
      · exact h.counted b n hn
    · exact fun b hb => absurd hb (Finset.notMem_empty b)

/-- The TPO counts after some buckets have scored. -/
lemma total_scores (bs : List Int) (counts : OrdMap Int Nat) :
    OrdMap.total (fun n : Nat => (n : Int)) (scores bs counts) =
      OrdMap.total (fun n : Nat => (n : Int)) counts + bs.length := by
  induction bs generalizing counts with
  | nil =>
    rw [List.length_nil]
    exact (add_zero _).symm
  | cons b bs ih =>
    have hinsert := OrdMap.total_insert (fun n : Nat => (n : Int)) counts b
      (counts[b]?.getD 0 + 1)
    have helim : counts[b]?.elim 0 (fun n : Nat => (n : Int)) = (counts[b]?.getD 0 : Nat) := by
      rcases counts[b]? with _ | w <;> rfl
    have hrest := ih (counts.insert b (counts[b]?.getD 0 + 1))
    rw [helim] at hinsert
    rw [List.length_cons]
    change OrdMap.total (fun n : Nat => (n : Int))
      (scores bs (counts.insert b (counts[b]?.getD 0 + 1))) = _
    omega

/-! ## The invariant -/

/-- **What holds of every builder that can be reached.** -/
structure Sound (s : SessionProfileBuilder) : Prop where
  grid : s.grid.Valid
  time : s.time.Valid
  config : s.config.validate = .ok ()
  levels : s.Levels
  period : ∀ start, s.sessionStart = some start → i64Min ≤ start ∧ ∃ last,
    s.lastTimestampNs = some last ∧ start = periodStart last s.time.anchorNs s.time.sessionNs ∧
      s.currentTpoStart = some (periodStart last s.time.anchorNs s.time.tpoNs)
  idle : s.sessionStart = none → s = s.clearActive

lemma sound_empty {grid : GridSpec} {time : TimeframeSpec} {config : ProfileConfig}
    (hgrid : grid.Valid) (htime : time.Valid) (hconfig : config.validate = .ok ()) :
    (empty grid time config).Sound where
  grid := hgrid
  time := htime
  config := hconfig
  levels := levels_empty grid time config
  period start h := absurd h.symm (Option.some_ne_none start)
  idle _ := rfl

/-- A builder without a session, at any time. -/
lemma Sound.clearActive (h : s.Sound) : s.clearActive.Sound where
  __ := h
  levels := (levels_empty s.grid s.time s.config).retime _ _ _
  period start hstart := absurd hstart.symm (Option.some_ne_none start)
  idle _ := rfl

lemma Sound.noteIdle (h : s.Sound) (hstart : s.sessionStart = none) (timestampNs : Int) :
    (noteTime timestampNs s).Sound where
  __ := h
  levels := h.levels.retime _ _ _
  period start hsome := absurd (hstart.symm.trans hsome).symm (Option.some_ne_none start)
  idle _ := by
    rw [h.idle hstart]
    rfl

lemma Sound.closed (h : s.Sound) : s.closed.Sound where
  grid := by
    rw [closed_grid]
    exact h.grid
  time := by
    rw [closed_time]
    exact h.time
  config := by
    rw [closed_config]
    exact h.config
  levels := h.levels.closed
  period := by
    obtain ⟨-, htime, -, hsession, -, -, -, -, htpo, hlast⟩ := s.closed_frame
    rw [htime, hsession, htpo, hlast]
    exact h.period
  idle hstart := by
    rw [closed_sessionStart] at hstart
    rw [clearActive_closed, h.idle hstart]
    rfl

/-- **The first trade of a session.** -/
theorem Sound.started (h : s.Sound) (he : e.OnGrid s.grid s.time) : (started e s).Sound where
  __ := h
  levels := by
    have hstart : (startSession e s).Levels := h.levels.retime _ _ _
    exact (hstart.added he).retime _ _ _
  period start hsome := by
    cases hsome
    exact ⟨he.session_fits, e.timestampNs, rfl, he.session, congrArg some he.tpo⟩
  idle hnone := absurd hnone (Option.some_ne_none _)

/-- What is in the same session at a later time. -/
lemma periodStart_eq_of_within {last anchorNs durationNs : Int} (hpos : 0 < durationNs)
    (hle : last ≤ timestampNs)
    (hwithin : timestampNs < periodStart last anchorNs durationNs + durationNs) :
    periodStart timestampNs anchorNs durationNs = periodStart last anchorNs durationNs := by
  have hmono : periodStart last anchorNs durationNs ≤ periodStart timestampNs anchorNs durationNs :=
    periodStart_mono hpos hle
  have hstart : periodStart timestampNs anchorNs durationNs ≤ timestampNs := periodStart_le hpos
  unfold periodStart at *
  -- Both are multiples of the duration, less than one duration apart.
  have hlt : (timestampNs - anchorNs) / durationNs * durationNs <
      ((last - anchorNs) / durationNs + 1) * durationNs := by
    rw [add_mul, one_mul]
    omega
  have hquot := lt_of_mul_lt_mul_right hlt hpos.le
  have hquot' : (last - anchorNs) / durationNs ≤ (timestampNs - anchorNs) / durationNs :=
    Int.ediv_le_ediv hpos (sub_le_sub_right hle anchorNs)
  rw [show (timestampNs - anchorNs) / durationNs = (last - anchorNs) / durationNs by omega]

/-- **A later time in the same session**, with the TPO period closed if it is over. -/
theorem Sound.moved (h : s.Sound) {start last current : Int}
    (hstart : s.sessionStart = some start) (hlast : s.lastTimestampNs = some last)
    (hle : last ≤ timestampNs)
    (hsession : periodStart timestampNs s.time.anchorNs s.time.sessionNs = start)
    (hcurrent : s.currentTpoStart = some current) {moved : SessionProfileBuilder}
    (hmoved : s.movedTpo (periodStart timestampNs s.time.anchorNs s.time.tpoNs) current = .ok moved) :
    (noteTime timestampNs moved).Sound ∧ moved.grid = s.grid ∧ moved.time = s.time ∧
      moved.sessionStart = s.sessionStart := by
  obtain ⟨hmin, last', hlast', -, htpo⟩ := h.period start hstart
  cases hlast.symm.trans hlast'
  cases hcurrent.symm.trans htpo
  have hmono : periodStart last s.time.anchorNs s.time.tpoNs ≤
      periodStart timestampNs s.time.anchorNs s.time.tpoNs := periodStart_mono h.time.tpo_pos hle
  unfold movedTpo at hmoved
  split_ifs at hmoved with hlt
  · obtain ⟨⟨⟩, -, hmoved⟩ := bind_eq_ok.mp hmoved
    cases hmoved
    have hclosed := h.closed
    refine ⟨{ hclosed with levels := hclosed.levels.retime _ _ _, period := ?_, idle := ?_ },
      closed_grid, closed_time, closed_sessionStart⟩
    · intro start' hstart'
      have hsame : some start' = some start :=
        hstart'.symm.trans (closed_sessionStart.trans hstart)
      cases hsame
      refine ⟨hmin, timestampNs, rfl, ?_, ?_⟩
      · show start = periodStart timestampNs s.closed.time.anchorNs s.closed.time.sessionNs
        rw [closed_time]
        exact hsession.symm
      · show some _ = some (periodStart timestampNs s.closed.time.anchorNs s.closed.time.tpoNs)
        rw [closed_time]
    · intro hnone
      have hnone' : s.sessionStart = none := closed_sessionStart.symm.trans hnone
      exact absurd (hnone'.symm.trans hstart).symm (Option.some_ne_none start)
  · cases hmoved
    refine ⟨⟨h.grid, h.time, h.config, h.levels.retime _ _ _, ?_, ?_⟩, rfl, rfl, rfl⟩
    · intro start' hstart'
      cases hstart.symm.trans hstart'
      refine ⟨hmin, timestampNs, rfl, hsession.symm, ?_⟩
      show s.currentTpoStart = _
      rw [htpo, le_antisymm hmono (not_lt.mp hlt)]
      rfl
    · intro hnone
      exact absurd (Eq.trans (Eq.symm hnone) hstart).symm (Option.some_ne_none start)

/-! ## The calls -/

variable {s' : SessionProfileBuilder}

/-- **A trade keeps the invariant.** -/
theorem Sound.ingested (h : s.Sound) {quantity : Quantity} {out : Option SessionProfile}
    (hrun : s.ingested timestampNs price quantity = .ok (out, s')) : s'.Sound := by
  obtain ⟨e, hadmission, hingested⟩ := (ingested_eq_ok_iff h.grid h.time h.config).mp hrun
  obtain ⟨hlate, -, rfl, he⟩ := admission_ok h.grid hadmission
  rcases hingested with ⟨hstart, -⟩ | ⟨-, -, -, -⟩ | ⟨hstart, htpo, -, -, hmoved⟩
  · exact h.started he
  · exact (sound_empty h.grid h.time h.config).started he
  · obtain ⟨-, last, hlast, -⟩ := h.period _ hstart
    rw [he.tpo] at hmoved
    obtain ⟨hsound, hgrid, htime, hsame⟩ := h.moved hstart hlast
      (rejectBefore_eq_ok.mp hlate last hlast) he.session.symm htpo hmoved
    have he' : e.OnGrid _ _ := hgrid.symm ▸ htime.symm ▸ he
    refine ⟨hsound.grid, hsound.time, hsound.config,
      ((hsound.levels.retime none none none).added he').retime _ _ _, hsound.period, ?_⟩
    intro hnone
    rw [show _ = none from hsame.symm.trans hnone] at hstart
    exact absurd hstart.symm (Option.some_ne_none _)

/-- **A clock tick keeps the invariant.** -/
theorem Sound.advanced (h : s.Sound) (hlate : s.rejectLate timestampNs = .ok ())
    {out : Option SessionProfile} (hrun : s.Advanced timestampNs out s') : s'.Sound := by
  rcases hrun with hstart | ⟨hstart, hend, hpast, hp⟩ |
    ⟨hstart, hend, hwithin, htarget, hcurrent, hmoved⟩
  · exact h.noteIdle hstart timestampNs
  · exact h.clearActive.noteIdle rfl timestampNs
  · obtain ⟨-, last, hlast, rfl, -⟩ := h.period _ hstart
    have hle := rejectBefore_eq_ok.mp hlate last hlast
    obtain ⟨-, rfl⟩ := periodStartChecked_eq_ok.mp htarget
    exact (h.moved hstart hlast hle (periodStart_eq_of_within h.time.session_pos hle hwithin)
      (currentTpo_eq_ok.mp hcurrent) hmoved).1

lemma Sound.closeFailed (h : s.Sound) {err : AnalyticsError} (hfailed : s.CloseFailed err s') :
    s'.Sound := by
  rcases hfailed with ⟨-, -, rfl⟩ | ⟨-, -, rfl⟩
  · exact h
  · exact h.closed

end SessionProfileBuilder

/-! ## Runs -/

/-- The arguments of `ingest`. -/
structure ProfileTrade where
  timestampNs : Int
  price : Price
  quantity : Quantity
deriving DecidableEq

/-- The builder of session profiles. -/
def sessionProfiles : PeriodBuilder AnalyticsError SessionProfileBuilder ProfileTrade SessionProfile where
  ingest trade := SessionProfileBuilder.ingest trade.timestampNs trade.price trade.quantity
  advanceTo := SessionProfileBuilder.advanceTo
  finish := SessionProfileBuilder.finish
  liveSnapshot := SessionProfileBuilder.liveSnapshot
  clock := SessionProfileBuilder.lastTimestampNs
  time := ProfileTrade.timestampNs

/-- **Every call keeps the invariant.** -/
theorem SessionProfileBuilder.Sound.step {s : SessionProfileBuilder} (h : s.Sound)
    (call : PeriodBuilder.Call ProfileTrade) : (sessionProfiles.step s call).Sound := by
  apply Ends.endState (P := Sound)
  rcases call with ⟨timestampNs, price, quantity⟩ | timestampNs | _
  · refine Ends.of_atomically (run_ingest timestampNs price quantity s) ?_ fun _ _ => h
    exact fun out s' hok => h.ingested hok
  · refine (ends_advanceTo s timestampNs).mono ?_ ?_
    · rintro out s' ⟨hlate, hadvanced⟩
      exact h.advanced hlate hadvanced
    · intro err s' hfailed
      rcases hfailed with herr | ⟨-, herr⟩ | ⟨-, herr⟩ | ⟨-, -, -, hfailed⟩
      · exact h
      · exact h
      · exact h
      · exact h.closeFailed hfailed
  · refine (ends_finish s).mono ?_ ?_
    · rintro out s' (⟨-, -, rfl⟩ | ⟨-, p, -, -, rfl⟩)
      · exact h
      · exact h.clearActive
    · rintro err s' ⟨-, hfailed⟩
      exact h.closeFailed hfailed

end Marketfeed
