import Marketfeed.Analytics.BubbleTiers

/-!
# Thresholds that move with the strength

An adaptive threshold is blended of the history and of the strength under test. The weight of the
strength is at most one in a configuration that was validated, so the threshold rises no faster than
the strength, and what reaches it still does so with more strength (`thresholdUnits_upward`). So more
strength never ends at a lower tier (`qualification_upward`).
-/

namespace Marketfeed

/-- Source: `AdaptiveThreshold::new` and `validate` -/
def AdaptiveThreshold.validate (config : AdaptiveThreshold) : Except AnalyticsError Unit :=
  let bps := [("custom_percentile_bps", config.customPercentileBps),
    ("outlier_cap_percentile_bps", config.outlierCapPercentileBps),
    ("spike_adaptation_bps", config.spikeAdaptationBps)]
  match bps.find? (fun field => field.2 > 10000) with
  | some field => .error (.invalidConfig field.1 "must be between 0 and 10,000")
  | none =>
    if config.minimumSamples = 0 ∨ config.calibrationCandles = 0 then
      .error (.invalidConfig "adaptive history"
        "minimum_samples and calibration_candles must be positive")
    else if config.minimumFloor.any (·.fixed.coefficient ≤ 0) then
      .error (.invalidConfig "minimum_floor" "must be positive when configured")
    else .ok ()

lemma AdaptiveThreshold.spike_le {config : AdaptiveThreshold} (h : config.validate = .ok ()) :
    config.spikeAdaptationBps ≤ 10000 := by
  by_contra hgt
  unfold validate at h
  dsimp only at h
  split at h
  · cases h
  · next hnone =>
      rw [List.find?_eq_none] at hnone
      exact hnone ("spike_adaptation_bps", config.spikeAdaptationBps) (by simp)
        (by simpa using hgt)

namespace BubbleDetector

/-- What `BubbleDetector::new` asks of the thresholds. -/
def ValidThresholds (d : BubbleDetector) : Prop :=
  ∀ tier config, (d.config.filter tier).threshold = .adaptive config → config.validate = .ok ()

/-- The strength has at most the whole weight. -/
def SpikeAtMostOne : ThresholdBaseline → Prop
  | .adaptive _ _ _ _ spikeWeightBps => spikeWeightBps ≤ 10000
  | _ => True

lemma spikeAtMostOne_of_baseline {d : BubbleDetector} (hvalid : d.ValidThresholds)
    {tier : BubbleTier} {segment : MarketSegment} {baseline : ThresholdBaseline}
    (h : d.thresholdBaseline (d.config.filter tier) segment = .ok baseline) :
    SpikeAtMostOne baseline := by
  unfold thresholdBaseline at h
  split at h
  · cases h
    trivial
  · obtain ⟨units, -, h⟩ := bind_eq_ok.mp h
    cases hu : toU128 "converting manual threshold" units with
    | error err => rw [hu] at h; cases h
    | ok threshold => rw [hu] at h; cases h; trivial
  · next config hconfig =>
      have hle := AdaptiveThreshold.spike_le (hvalid tier config hconfig)
      dsimp only at h
      split at h
      on_goal 2 => obtain ⟨units, -, h⟩ := bind_eq_ok.mp h
      all_goals
        obtain ⟨floor, -, h⟩ := bind_eq_ok.mp h
        obtain ⟨samples, -, h⟩ := bind_eq_ok.mp h
        split at h
        · cases h
          trivial
        · obtain ⟨cap, -, h⟩ := bind_eq_ok.mp h
          obtain ⟨historical, -, h⟩ := bind_eq_ok.mp h
          cases h
          exact hle

lemma weightedBps_eq_ok {left leftBps right rightBps w : Nat}
    (h : weightedBps left leftBps right rightBps = .ok w) :
    w = (left * leftBps + right * rightBps) / 10000 := by
  obtain ⟨value, hvalue, h⟩ := Option.bind_eq_some_iff.mp (orOverflow_eq_ok.mp h)
  obtain ⟨other, hother, h⟩ := Option.bind_eq_some_iff.mp h
  obtain ⟨total, htotal, rfl⟩ := Option.map_eq_some_iff.mp h
  have hsame {x y : Nat} (h : checkedU128 x = some y) : y = x := by
    unfold checkedU128 at h
    split_ifs at h
    exact (Option.some.inj h).symm
  rw [hsame htotal, hsame hvalue, hsame hother]

/-- **Qualification is upward closed.** -/
theorem thresholdUnits_upward {baseline : ThresholdBaseline} (hspike : SpikeAtMostOne baseline)
    {s s' t : Nat} {o : Option Nat} (h : thresholdUnits s baseline = .ok (some t)) (hreach : t ≤ s)
    (hle : s ≤ s') (h' : thresholdUnits s' baseline = .ok o) : ∃ t', o = some t' ∧ t' ≤ s' := by
  cases baseline with
  | off => cases h
  | manual threshold | floorOnly threshold =>
    cases h
    cases h'
    exact ⟨t, rfl, hreach.trans hle⟩
  | adaptive floor cap historical historicalWeightBps spikeWeightBps =>
    obtain ⟨w, hw, h⟩ := bind_eq_ok.mp h
    obtain ⟨w', hw', h'⟩ := bind_eq_ok.mp h'
    cases h
    cases h'
    refine ⟨_, rfl, max_le ?_ ((le_max_right _ _).trans (hreach.trans hle))⟩
    rw [weightedBps_eq_ok hw'] 
    have hw := weightedBps_eq_ok hw
    -- the strength adds at most what it grew by
    have hgrow : min s' cap * spikeWeightBps ≤
        min s cap * spikeWeightBps + (s' - s) * 10000 := by
      calc min s' cap * spikeWeightBps ≤ (min s cap + (s' - s)) * spikeWeightBps :=
            Nat.mul_le_mul_right _ (by omega)
        _ = min s cap * spikeWeightBps + (s' - s) * spikeWeightBps := Nat.add_mul _ _ _
        _ ≤ min s cap * spikeWeightBps + (s' - s) * 10000 :=
            Nat.add_le_add_left (Nat.mul_le_mul_left _ hspike) _
    have hws : w ≤ s := (le_max_left _ _).trans hreach
    omega

variable {d : BubbleDetector} {candle candle' : CandleFlow} {key key' : CandidateKey}

/-- Where a search succeeds, the threshold of a tier it looks at was computed. -/
lemma exists_thresholdUnits {tier : BubbleTier} {tiers : List BubbleTier}
    {o : Option OrderFlowBubble} (h : d.choose candle key (tier :: tiers) = .ok o)
    {aggregate : Aggregate} {strength : Nat}
    (hs : d.strengthFor candle key tier = .ok (some (aggregate, strength))) :
    ∃ baseline threshold, d.thresholdBaseline (d.config.filter tier) key.segment = .ok baseline ∧
      thresholdUnits strength baseline = .ok threshold := by
  obtain ⟨found, hfound, h⟩ := bind_eq_ok.mp h
  cases hs.symm.trans hfound
  obtain ⟨baseline, hbaseline, h⟩ := bind_eq_ok.mp h
  obtain ⟨threshold, hthreshold, -⟩ := bind_eq_ok.mp h
  exact ⟨baseline, threshold, hbaseline, hthreshold⟩

/-- At every tier that looks at the first bucket, the second has at least its strength. -/
def Stronger (d : BubbleDetector) (candle : CandleFlow) (key : CandidateKey) (candle' : CandleFlow)
    (key' : CandidateKey) : Prop :=
  key'.segment = key.segment ∧
  ∀ tier a s, d.strengthFor candle key tier = .ok (some (a, s)) →
    ∃ a' s', d.strengthFor candle' key' tier = .ok (some (a', s')) ∧ s ≤ s'

/-- A tier that was reached is reached, or one before it. -/
lemma choose_stronger (hvalid : d.ValidThresholds) (hmore : d.Stronger candle key candle' key')
    {tiers : List BubbleTier} {bubble : OrderFlowBubble} {o : Option OrderFlowBubble}
    (h : d.choose candle key tiers = .ok (some bubble)) (h' : d.choose candle' key' tiers = .ok o) :
    ∃ bubble' before after, o = some bubble' ∧ tiers = before ++ bubble'.tier :: after ∧
      bubble.tier ∈ bubble'.tier :: after := by
  induction tiers with
  | nil => cases h
  | cons tier tiers ih =>
    rcases choose_cons h with ⟨-, hrest, -⟩ | ⟨hreaches, _, _, _, _, -, hbubble, ho, -⟩
    · rcases choose_cons h' with ⟨-, hrest', -⟩ | ⟨-, _, _, _, bubble', -, hbubble', rfl, -⟩
      · obtain ⟨bubble', before, after, rfl, rfl, hmem⟩ := ih hrest hrest'
        exact ⟨bubble', tier :: before, after, rfl, rfl, hmem⟩
      · obtain ⟨rfl, -⟩ := materialize_eq_ok hbubble'
        obtain ⟨before, after, rfl, -⟩ := (choose_eq_some hrest).highest
        exact ⟨bubble', [], _, rfl, rfl, by simp⟩
    · cases ho
      obtain ⟨rfl, -⟩ := materialize_eq_ok hbubble
      rcases choose_cons h' with ⟨hnot, -⟩ | ⟨-, _, _, _, bubble', -, hbubble', rfl, -⟩
      · obtain ⟨_, s, baseline, t, hs, hb, ht, hle⟩ := hreaches
        obtain ⟨a', s', hs', hless⟩ := hmore.2 _ _ _ hs
        obtain ⟨baseline', threshold, hb', ht'⟩ := exists_thresholdUnits h' hs'
        rw [hmore.1] at hb'
        cases hb.symm.trans hb'
        obtain ⟨t', rfl, hle'⟩ :=
          thresholdUnits_upward (spikeAtMostOne_of_baseline hvalid hb) ht hle hless ht'
        exact absurd ⟨a', s', baseline, t', hs', hmore.1 ▸ hb, ht', hle'⟩ hnot
      · obtain ⟨htier, -⟩ := materialize_eq_ok hbubble'
        exact ⟨bubble', [], tiers, rfl, by rw [htier]; rfl, by simp [htier]⟩

/-- The tiers are tried from the highest on. -/
lemma activeTiers_sorted (d : BubbleDetector) (phase : DetectionPhase) :
    (d.activeTiers phase).Pairwise fun a b => b.priority ≤ a.priority := by
  have hall : [BubbleTier.f3, .f2, .f1].Pairwise fun a b => b.priority ≤ a.priority := by decide
  unfold activeTiers
  split
  · exact hall.sublist (List.take_sublist _ _)
  · exact hall

/-- **More strength, no lower tier.** What reaches its threshold still does so with more strength;
hence a bucket that is at least as strong as another for every tier ends at its tier or a higher
one. -/
theorem qualification_upward (hvalid : d.ValidThresholds) :
    (∀ tier segment baseline s s' t o,
      d.thresholdBaseline (d.config.filter tier) segment = .ok baseline →
      thresholdUnits s baseline = .ok (some t) → t ≤ s → s ≤ s' →
      thresholdUnits s' baseline = .ok o → ∃ t', o = some t' ∧ t' ≤ s') ∧
    ∀ candle key candle' key' phase cache cache' bubble o after after',
      d.Stronger candle key candle' key' → d.CacheSound cache → d.CacheSound cache' →
      d.tryTiers candle key (d.activeTiers phase) cache = .ok (some bubble, after) →
      d.tryTiers candle' key' (d.activeTiers phase) cache' = .ok (o, after') →
      ∃ bubble', o = some bubble' ∧ bubble.tier.priority ≤ bubble'.tier.priority := by
  constructor
  · intro tier segment baseline s s' t o hb ht hle hless ht'
    exact thresholdUnits_upward (spikeAtMostOne_of_baseline hvalid hb) ht hle hless ht'
  · intro candle key candle' key' phase cache cache' bubble o after after' hmore hc hc' h h'
    obtain ⟨bubble', before, rest, rfl, htiers, hmem⟩ :=
      choose_stronger hvalid hmore (tryTiers_eq_ok hc h).1 (tryTiers_eq_ok hc' h').1
    refine ⟨bubble', rfl, ?_⟩
    have hsorted := d.activeTiers_sorted phase
    rw [htiers, List.pairwise_append, List.pairwise_cons] at hsorted
    rcases List.mem_cons.mp hmem with heq | hlater
    · rw [heq]
    · exact hsorted.2.1.1 _ hlater

/-- With an adaptive threshold around 12, a bucket of volume 13 and one of volume 20 are above it. A
bucket of volume 6 ends at the second tier, one of volume 13 at the highest. -/
theorem qualification_upward_blend :
    (∃ t', thresholdUnits 20 (.adaptive 0 12 12 5000 5000) = .ok (some t') ∧ t' ≤ 20) ∧
    ∃ weak strong after after',
      (blendDetector .full).tryTiers (exampleCandle [exampleLevel 20 6]) ⟨.spot, 20⟩ [.f3, .f2, .f1]
        (fun _ _ => none) = .ok (some weak, after) ∧
      (blendDetector .full).tryTiers (exampleCandle [exampleLevel 20 13]) ⟨.spot, 20⟩ [.f3, .f2, .f1]
        (fun _ _ => none) = .ok (some strong, after') ∧
      weak.tier = .f2 ∧ weak.tier.priority ≤ strong.tier.priority := by
  have hvalid : (blendDetector .full).ValidThresholds := by
    intro tier config h
    cases tier <;> cases h
    rfl
  have hbaseline : (blendDetector .full).thresholdBaseline ((blendDetector .full).config.filter .f3)
      .spot = .ok (.adaptive 0 12 12 5000 5000) := by decide +kernel
  obtain ⟨hupward, htiers⟩ := qualification_upward hvalid
  obtain ⟨t', ht', hle⟩ := hupward .f3 .spot _ 13 20 12 (some 12) hbaseline
    rfl (by decide) (by decide) rfl
  refine ⟨⟨t', ht' ▸ rfl, hle⟩, ?_⟩
  have hmore : (blendDetector .full).Stronger (exampleCandle [exampleLevel 20 6]) ⟨.spot, 20⟩
      (exampleCandle [exampleLevel 20 13]) ⟨.spot, 20⟩ := by
    have hweak : ∀ tier, (blendDetector .full).strengthFor (exampleCandle [exampleLevel 20 6])
        ⟨.spot, 20⟩ tier = .ok (some (⟨.spot, 20, [⟨1⟩], 6, 0, 0, 6⟩, 6)) := by
      rintro (_ | _ | _) <;> decide +kernel
    have hstrong : ∀ tier, (blendDetector .full).strengthFor (exampleCandle [exampleLevel 20 13])
        ⟨.spot, 20⟩ tier = .ok (some (⟨.spot, 20, [⟨1⟩], 13, 0, 0, 13⟩, 13)) := by
      rintro (_ | _ | _) <;> decide +kernel
    refine ⟨rfl, fun tier a s h => ⟨_, _, hstrong tier, ?_⟩⟩
    cases (hweak tier).symm.trans h
    decide
  have hbubble (volume : Int) (tier : BubbleTier) (h : (·.1.map (·.tier)) <$>
      (blendDetector .full).tryTiers (exampleCandle [exampleLevel 20 volume]) ⟨.spot, 20⟩
        [.f3, .f2, .f1] (fun _ _ => none) = .ok (some tier)) :
      ∃ bubble after, (blendDetector .full).tryTiers (exampleCandle [exampleLevel 20 volume])
        ⟨.spot, 20⟩ [.f3, .f2, .f1] (fun _ _ => none) = .ok (some bubble, after) ∧
          bubble.tier = tier := by
    rcases hrun : (blendDetector .full).tryTiers (exampleCandle [exampleLevel 20 volume]) ⟨.spot, 20⟩
      [.f3, .f2, .f1] (fun _ _ => none) with e | ⟨_ | bubble, after⟩ <;> rw [hrun] at h <;> cases h
    exact ⟨bubble, after, rfl, rfl⟩
  obtain ⟨weak, after, hweak, htier⟩ := hbubble 6 .f2 (by decide +kernel)
  obtain ⟨strong, after', hstrong, -⟩ := hbubble 13 .f3 (by decide +kernel)
  obtain ⟨_, ho, hpriority⟩ := htiers _ _ _ _ .final _ _ _ _ _ _ hmore cacheSound_empty
    cacheSound_empty hweak hstrong
  cases ho
  exact ⟨weak, strong, after, after', hweak, hstrong, htier, hpriority⟩

end BubbleDetector

end Marketfeed
