import Marketfeed.Analytics.Bubbles

/-!
# One tier for each bucket

Without its cache `tryTiers` is a search through a list of tiers (`choose`), which looks at the next
tier only where the ones before were not reached. So leaving out the lowest tiers takes away the
bubbles of these tiers and changes no other, through both sorts and the limits
(`detect_live_restricts`).
-/

namespace Marketfeed.BubbleDetector

variable (d : BubbleDetector) {candle : CandleFlow} {key : CandidateKey}

/-! ## Without the cache -/

/-- What `tryTiers` finds. -/
def choose (candle : CandleFlow) (key : CandidateKey) :
    List BubbleTier → Except AnalyticsError (Option OrderFlowBubble)
  | [] => .ok none
  | tier :: tiers => do
    match ← d.strengthFor candle key tier with
    | none => choose candle key tiers
    | some (aggregate, strength) => do
      let baseline ← d.thresholdBaseline (d.config.filter tier) key.segment
      match ← thresholdUnits strength baseline with
      | none => choose candle key tiers
      | some threshold =>
        if threshold ≤ strength then do
          let bubble ← d.materialize candle tier aggregate strength threshold
          .ok (some bubble)
        else choose candle key tiers

/-- The strength of a bucket reaches the threshold of a tier. -/
def Reaches (candle : CandleFlow) (key : CandidateKey) (tier : BubbleTier) : Prop :=
  ∃ aggregate strength baseline threshold,
    d.strengthFor candle key tier = .ok (some (aggregate, strength)) ∧
    d.thresholdBaseline (d.config.filter tier) key.segment = .ok baseline ∧
    thresholdUnits strength baseline = .ok (some threshold) ∧ threshold ≤ strength

/-- The cache has what would be computed. -/
def CacheSound (cache : Baselines) : Prop :=
  ∀ tier segment baseline, cache tier segment = some baseline →
    d.thresholdBaseline (d.config.filter tier) segment = .ok baseline

variable {d}

variable {cache : Baselines} {tier : BubbleTier}

lemma cacheSound_empty : d.CacheSound fun _ _ => none := fun _ _ _ hsome => (by cases hsome)

lemma cachedBaseline_eq_ok (hcache : d.CacheSound cache) {segment : MarketSegment}
    {r : ThresholdBaseline × Baselines} (h : d.cachedBaseline cache tier segment = .ok r) :
    d.thresholdBaseline (d.config.filter tier) segment = .ok r.1 ∧ d.CacheSound r.2 := by
  unfold cachedBaseline at h
  split at h
  · next baseline hsome =>
      cases h
      exact ⟨hcache _ _ _ hsome, hcache⟩
  · obtain ⟨baseline, hbaseline, h⟩ := bind_eq_ok.mp h
    cases h
    refine ⟨hbaseline, fun tier' segment' baseline' hfound => ?_⟩
    dsimp only at hfound
    split_ifs at hfound with hkey
    · obtain ⟨rfl, rfl⟩ := hkey
      cases hfound
      exact hbaseline
    · exact hcache _ _ _ hfound

variable {tiers : List BubbleTier}

/-- One step of the search, whether the tier is reached or not. -/
lemma choose_cons {o : Option OrderFlowBubble} (h : d.choose candle key (tier :: tiers) = .ok o) :
    (¬ d.Reaches candle key tier ∧ d.choose candle key tiers = .ok o ∧
      ∀ more, d.choose candle key (tier :: more) = d.choose candle key more) ∨
    (d.Reaches candle key tier ∧ ∃ aggregate strength threshold bubble,
      d.strengthFor candle key tier = .ok (some (aggregate, strength)) ∧
      d.materialize candle tier aggregate strength threshold = .ok bubble ∧ o = some bubble ∧
      ∀ more, d.choose candle key (tier :: more) = .ok (some bubble)) := by
  obtain ⟨found, hfound, h⟩ := bind_eq_ok.mp h
  have hunique {aggregate : Aggregate} {strength : Nat} {x : Option (Aggregate × Nat)}
      (hx : d.strengthFor candle key tier = .ok x)
      (hs : d.strengthFor candle key tier = .ok (some (aggregate, strength))) :
      x = some (aggregate, strength) := Except.ok.inj (hx.symm.trans hs)
  cases found with
  | none =>
    refine .inl ⟨?_, h, fun more => ?_⟩
    · rintro ⟨aggregate, strength, -, -, hs, -⟩
      cases hunique hfound hs
    · rw [choose, hfound]
      rfl
  | some found =>
    obtain ⟨aggregate, strength⟩ := found
    obtain ⟨baseline, hbaseline, h⟩ := bind_eq_ok.mp h
    obtain ⟨threshold, hthreshold, h⟩ := bind_eq_ok.mp h
    have hnot (hlt : ∀ t, threshold = some t → ¬ t ≤ strength) : ¬ d.Reaches candle key tier := by
      rintro ⟨_, _, baseline', t, hs, hb, ht, hle⟩
      cases hunique hfound hs
      cases hbaseline.symm.trans hb
      exact hlt t (Except.ok.inj (hthreshold.symm.trans ht)) hle
    cases threshold with
    | none =>
      refine .inl ⟨hnot fun t ht => (by cases ht), h, fun more => ?_⟩
      rw [choose, hfound]
      simp only [bind, Except.bind, hbaseline, hthreshold]
    | some threshold =>
      dsimp only at h
      split_ifs at h with hle
      · obtain ⟨bubble, hbubble, h⟩ := bind_eq_ok.mp h
        cases h
        refine .inr ⟨⟨_, _, _, _, hfound, hbaseline, hthreshold, hle⟩, aggregate, strength,
          threshold, bubble, hfound, hbubble, rfl, fun more => ?_⟩
        rw [choose, hfound]
        simp only [bind, Except.bind, hbaseline, hthreshold, if_pos hle, hbubble]
      · refine .inl ⟨hnot fun t ht => ?_, h, fun more => ?_⟩
        · cases ht
          exact hle
        · rw [choose, hfound]
          simp only [bind, Except.bind, hbaseline, hthreshold, if_neg hle]

/-- **The cache changes nothing.** -/
theorem tryTiers_eq_ok (hcache : d.CacheSound cache) {r : Option OrderFlowBubble × Baselines}
    (h : d.tryTiers candle key tiers cache = .ok r) :
    d.choose candle key tiers = .ok r.1 ∧ d.CacheSound r.2 := by
  induction tiers generalizing cache with
  | nil =>
    cases h
    exact ⟨rfl, hcache⟩
  | cons tier tiers ih =>
    obtain ⟨found, hfound, h⟩ := bind_eq_ok.mp h
    rw [choose, hfound]
    cases found with
    | none => exact ih hcache h
    | some found =>
      obtain ⟨aggregate, strength⟩ := found
      obtain ⟨⟨baseline, cache'⟩, hcached, h⟩ := bind_eq_ok.mp h
      obtain ⟨hbaseline, hcache'⟩ := cachedBaseline_eq_ok hcache hcached
      obtain ⟨threshold, hthreshold, h⟩ := bind_eq_ok.mp h
      dsimp only at hbaseline hthreshold
      simp only [bind, Except.bind, hbaseline, hthreshold]
      cases threshold with
      | none => exact ih hcache' h
      | some threshold =>
        dsimp only at h ⊢
        split_ifs at h ⊢
        · obtain ⟨bubble, hbubble, h⟩ := bind_eq_ok.mp h
          cases h
          rw [hbubble]
          exact ⟨rfl, hcache'⟩
        · exact ih hcache' h

/-- The bubble of a bucket, where the search succeeds. -/
def chosen (d : BubbleDetector) (candle : CandleFlow) (tiers : List BubbleTier) (key : CandidateKey) :
    Option OrderFlowBubble :=
  (d.choose candle key tiers).toOption.join

variable {keys : List CandidateKey} {bubbles : List OrderFlowBubble}

lemma scanKeys_eq_ok (hcache : d.CacheSound cache)
    (h : d.scanKeys candle tiers keys cache = .ok bubbles) :
    bubbles = keys.filterMap (d.chosen candle tiers) ∧
      ∀ key ∈ keys, d.choose candle key tiers = .ok (d.chosen candle tiers key) := by
  induction keys generalizing cache bubbles with
  | nil =>
    cases h
    exact ⟨rfl, fun _ hmem => absurd hmem List.not_mem_nil⟩
  | cons key keys ih =>
    obtain ⟨⟨o, cache'⟩, htry, h⟩ := bind_eq_ok.mp h
    obtain ⟨hchoose, hcache'⟩ := tryTiers_eq_ok hcache htry
    obtain ⟨rest, hrest, h⟩ := bind_eq_ok.mp h
    cases h
    have hchosen : d.chosen candle tiers key = o := by
      rw [chosen, hchoose]
      rfl
    obtain ⟨rfl, hall⟩ := ih hcache' hrest
    refine ⟨?_, List.forall_mem_cons.mpr ⟨hchosen.symm ▸ hchoose, hall⟩⟩
    rw [List.filterMap_cons, hchosen]
    cases o <;> rfl

/-! ## Fewer tiers -/

lemma materialize_eq_ok {aggregate : Aggregate} {strength threshold : Nat}
    {bubble : OrderFlowBubble}
    (h : d.materialize candle tier aggregate strength threshold = .ok bubble) :
    bubble.tier = tier ∧ bubble.segment = aggregate.segment ∧
      d.grid.priceAt aggregate.bucket = .ok bubble.anchorPrice := by
  unfold materialize at h
  simp only [bind_eq_ok] at h
  obtain ⟨_, -, _, -, _, -, _, -, price, hprice, _, -, _, -, _, -, _, -, _, -, h⟩ := h
  cases h
  exact ⟨rfl, rfl, hprice⟩

lemma addLevel_eq_ok {g : GridSpec} {venue : VenueId} {a a' : Aggregate} {level : PriceLevelFlow}
    (h : Aggregate.addLevel g venue a level = .ok a') :
    a'.segment = a.segment ∧ a'.bucket = a.bucket := by
  obtain ⟨bucket, -, h⟩ := bind_eq_ok.mp h
  split_ifs at h
  · cases h
    exact ⟨rfl, rfl⟩
  · simp only [bind_eq_ok] at h
    obtain ⟨_, -, _, -, _, -, _, -, _, -, _, -, _, -, _, -, h⟩ := h
    cases h
    exact ⟨rfl, rfl⟩

/-- An aggregate is that of its key. -/
lemma strengthFor_eq_some {aggregate : Aggregate} {strength : Nat}
    (h : d.strengthFor candle key tier = .ok (some (aggregate, strength))) :
    aggregate.segment = key.segment ∧ aggregate.bucket = key.bucket := by
  unfold strengthFor at h
  dsimp only at h
  split_ifs at h
  · cases h
  obtain ⟨a, ha, h⟩ := bind_eq_ok.mp h
  have hkey : a.segment = key.segment ∧ a.bucket = key.bucket := by
    obtain ⟨sums, hsums, ha⟩ := bind_eq_ok.mp ha
    cases ha
    change sums.segment = key.segment ∧ sums.bucket = key.bucket
    refine foldlM_invariant (P := fun a : Aggregate => a.segment = key.segment ∧ a.bucket = key.bucket)
      ?_ ⟨rfl, rfl⟩ hsums
    intro a source _ a' hinv hstep
    split_ifs at hstep
    · cases hstep
      exact hinv
    · refine foldlM_invariant (P := fun a : Aggregate => a.segment = key.segment ∧ a.bucket = key.bucket)
        ?_ hinv hstep
      intro b level _ b' hinv hadd
      obtain ⟨hsegment, hbucket⟩ := addLevel_eq_ok hadd
      exact ⟨hsegment.trans hinv.1, hbucket.trans hinv.2⟩
  split_ifs at h
  · cases h
  obtain ⟨strength', -, h⟩ := bind_eq_ok.mp h
  split_ifs at h
  · cases h
  cases h
  exact hkey

/-- The bubble of a bucket stands at the first tier that is reached. -/
structure StandsFor (d : BubbleDetector) (candle : CandleFlow) (tiers : List BubbleTier)
    (key : CandidateKey) (bubble : OrderFlowBubble) : Prop where
  segment : bubble.segment = key.segment
  price : d.grid.priceAt key.bucket = .ok bubble.anchorPrice
  highest : ∃ before after, tiers = before ++ bubble.tier :: after ∧
    d.Reaches candle key bubble.tier ∧ ∀ tier ∈ before, ¬ d.Reaches candle key tier

lemma choose_eq_some {bubble : OrderFlowBubble}
    (h : d.choose candle key tiers = .ok (some bubble)) : d.StandsFor candle tiers key bubble := by
  induction tiers with
  | nil => cases h
  | cons tier tiers ih =>
    rcases choose_cons h with ⟨hnot, hrest, -⟩ | ⟨hreaches, a, strength, threshold, b, hs, hb, ho, -⟩
    · obtain ⟨hsegment, hprice, before, after, rfl, hreaches, hbefore⟩ := ih hrest
      exact ⟨hsegment, hprice, tier :: before, after, rfl, hreaches,
        List.forall_mem_cons.mpr ⟨hnot, hbefore⟩⟩
    · cases ho
      obtain ⟨rfl, hsegment, hprice⟩ := materialize_eq_ok hb
      obtain ⟨hkey, hbucket⟩ := strengthFor_eq_some hs
      exact ⟨hsegment.trans hkey, hbucket ▸ hprice, [], tiers, rfl, hreaches,
        fun _ hmem => absurd hmem List.not_mem_nil⟩

/-- The search through more tiers finds the same, or something at one of the tiers that came on. -/
lemma choose_append {more : List BubbleTier} (hdisjoint : ∀ tier ∈ more, tier ∉ tiers)
    {o o' : Option OrderFlowBubble} (h : d.choose candle key tiers = .ok o)
    (h' : d.choose candle key (tiers ++ more) = .ok o') : o = o'.filter (·.tier ∈ tiers) := by
  have hcases : (∃ b, o = some b ∧ o' = some b) ∨
      (o = none ∧ d.choose candle key more = .ok o') := by
    clear hdisjoint
    induction tiers with
    | nil =>
      cases h
      exact .inr ⟨rfl, h'⟩
    | cons tier tiers ih =>
      rcases choose_cons h with ⟨-, hrest, hskip⟩ | ⟨-, _, _, _, b, -, -, rfl, hall⟩
      · exact ih hrest ((hskip (tiers ++ more)).symm.trans h')
      · exact .inl ⟨b, rfl, Except.ok.inj (h'.symm.trans (hall (tiers ++ more)))⟩
  rcases hcases with ⟨b, rfl, rfl⟩ | ⟨rfl, hmore⟩
  · obtain ⟨before, after, rfl, -⟩ := (choose_eq_some h).highest
    exact (Option.filter_some_pos (by simp)).symm
  · cases o' with
    | none => rfl
    | some b =>
      obtain ⟨before, after, rfl, -⟩ := (choose_eq_some hmore).highest
      exact (Option.filter_some_neg (by simpa using hdisjoint b.tier (by simp))).symm

lemma scanKeys_append {more : List BubbleTier} (hdisjoint : ∀ tier ∈ more, tier ∉ tiers)
    {bubbles' : List OrderFlowBubble}
    (h : d.scanKeys candle tiers keys (fun _ _ => none) = .ok bubbles)
    (h' : d.scanKeys candle (tiers ++ more) keys (fun _ _ => none) = .ok bubbles') :
    bubbles = bubbles'.filter (·.tier ∈ tiers) := by
  obtain ⟨rfl, hall⟩ := scanKeys_eq_ok cacheSound_empty h
  obtain ⟨rfl, hall'⟩ := scanKeys_eq_ok cacheSound_empty h'
  rw [List.filter_filterMap]
  exact List.filterMap_congr fun key hkey => choose_append hdisjoint (hall key hkey) (hall' key hkey)

/-! ## The output -/

lemma tier_of_mem_row {b : OrderFlowBubble} (h : b ∈ d.row bubbles tier) :
    b ∈ bubbles ∧ b.tier = tier := by
  have hmem := (mem_sortOn rowOrder).mp (List.mem_of_mem_take h)
  simpa using hmem

/-- Leaving out tiers leaves out their rows. -/
lemma filter_row (tiers : List BubbleTier) (bubbles : List OrderFlowBubble) (tier : BubbleTier) :
    (d.row bubbles tier).filter (·.tier ∈ tiers) = d.row (bubbles.filter (·.tier ∈ tiers)) tier := by
  by_cases hmem : tier ∈ tiers
  · have hsame : (bubbles.filter (·.tier ∈ tiers)).filter (·.tier = tier) =
        bubbles.filter (·.tier = tier) := by
      rw [List.filter_filter]
      refine List.filter_congr fun b _ => ?_
      by_cases htier : b.tier = tier <;> simp [htier, hmem]
    rw [row, row, hsame, List.filter_eq_self]
    intro b hb
    rw [(tier_of_mem_row hb).2]
    exact decide_eq_true hmem
  · have hnone : (bubbles.filter (·.tier ∈ tiers)).filter (·.tier = tier) = [] := by
      rw [List.filter_filter, List.filter_eq_nil_iff]
      intro b _ hb
      have : b.tier = tier ∧ b.tier ∈ tiers := by simpa using hb
      exact hmem (this.1 ▸ this.2)
    have hempty : d.row (bubbles.filter (·.tier ∈ tiers)) tier = [] := by
      rw [row, hnone]
      exact List.take_nil
    rw [hempty, List.filter_eq_nil_iff]
    intro b hb
    rw [(tier_of_mem_row hb).2]
    simpa using hmem

/-- The bubbles of a detection stand for different buckets. -/
structure OnePerBucket (d : BubbleDetector) (candle : CandleFlow) (tiers : List BubbleTier)
    (bubbles : List OrderFlowBubble) : Prop where
  stands : ∃ keys, candidateKeys candle d.grid = .ok keys ∧
    ∀ b ∈ bubbles, ∃ key ∈ keys, d.StandsFor candle tiers key b
  distinct : bubbles.Pairwise fun b c => ¬ (b.segment = c.segment ∧ b.anchorPrice = c.anchorPrice)

lemma scanKeys_onePerBucket (hgrid : d.grid.Valid)
    (hkeys : candidateKeys candle d.grid = .ok keys)
    (h : d.scanKeys candle tiers keys (fun _ _ => none) = .ok bubbles) :
    d.OnePerBucket candle tiers bubbles := by
  have hnodup : keys.Nodup := by
    obtain ⟨lists, -, hlists⟩ := bind_eq_ok.mp hkeys
    cases hlists
    exact (perm_sortOn _ _).nodup_iff.mpr (List.nodup_dedup _)
  obtain ⟨rfl, hall⟩ := scanKeys_eq_ok cacheSound_empty h
  have hstands {key : CandidateKey} (hkey : key ∈ keys) {b : OrderFlowBubble}
      (hb : d.chosen candle tiers key = some b) : d.StandsFor candle tiers key b :=
    choose_eq_some (hb ▸ hall key hkey)
  refine ⟨⟨keys, hkeys, ?_⟩, ?_⟩
  · intro b hb
    obtain ⟨key, hkey, hb⟩ := List.mem_filterMap.mp hb
    exact ⟨key, hkey, hstands hkey hb⟩
  · rw [List.pairwise_filterMap]
    refine hnodup.imp_of_mem fun {key key'} hkey hkey' hne b hb c hc => ?_
    rintro ⟨hsegment, hprice⟩
    obtain ⟨hseg, hp, -⟩ := hstands hkey hb
    obtain ⟨hseg', hp', -⟩ := hstands hkey' hc
    rw [hprice, GridSpec.priceAt_eq_ok hgrid] at hp
    rw [GridSpec.priceAt_eq_ok hgrid] at hp'
    have hsize := (mul_pos hgrid.tick_pos hgrid.levels_pos).ne'
    have hbucket : key.bucket = key'.bucket :=
      mul_right_cancel₀ hsize (congrArg (·.fixed.coefficient) (hp.2.2.symm.trans hp'.2.2))
    have hsame : key.segment = key'.segment := hseg.symm.trans (hsegment.trans hseg')
    cases key
    cases key'
    exact hne (CandidateKey.mk.injEq .. ▸ ⟨hsame, hbucket⟩)

variable {phase : DetectionPhase} {out : List OrderFlowBubble}

lemma unmerged_eq_ok (h : d.unmerged candle phase = .ok out) : ∃ keys bubbles,
      candidateKeys candle d.grid = .ok keys ∧
      d.scanKeys candle (d.activeTiers phase) keys (fun _ _ => none) = .ok bubbles ∧
      out = d.row bubbles .f3 ++ d.row bubbles .f2 ++ d.row bubbles .f1 := by
  obtain ⟨keys, hkeys, h⟩ := bind_eq_ok.mp h
  obtain ⟨bubbles, hbubbles, h⟩ := bind_eq_ok.mp h
  cases h
  exact ⟨keys, bubbles, hkeys, hbubbles, rfl⟩

/-- The rows are made of the bubbles found, each at most once. -/
lemma rows_subperm (bubbles : List OrderFlowBubble) :
    (d.row bubbles .f3 ++ d.row bubbles .f2 ++ d.row bubbles .f1).Subperm bubbles := by
  have hrow (tier : BubbleTier) : (d.row bubbles tier).Subperm (bubbles.filter (·.tier = tier)) :=
    (List.take_sublist _ _).subperm.trans (perm_sortOn _ _).subperm
  have hrows := ((hrow .f3).append (hrow .f2)).append (hrow .f1)
  refine hrows.trans (List.Perm.subperm ?_)
  clear hrows hrow
  rw [List.append_assoc]
  induction bubbles with
  | nil => exact .refl _
  | cons b bubbles ih =>
    rw [List.filter_cons, List.filter_cons, List.filter_cons]
    rcases hb : b.tier with _ | _ | _
    · rw [← List.append_assoc] at ih ⊢
      exact List.perm_middle.trans (ih.cons b)
    · exact List.perm_middle.trans (ih.cons b)
    · exact ih.cons b

lemma OnePerBucket.subperm (h : d.OnePerBucket candle tiers bubbles)
    (hsub : out.Subperm bubbles) : d.OnePerBucket candle tiers out := by
  obtain ⟨⟨keys, hkeys, hstands⟩, hdistinct⟩ := h
  refine ⟨⟨keys, hkeys, fun b hb => hstands b (hsub.subset hb)⟩, ?_⟩
  obtain ⟨out', hperm, hsublist⟩ := hsub
  refine (hperm.pairwise_iff ?_).mp (hdistinct.sublist hsublist)
  rintro b c hne ⟨hsegment, hprice⟩
  exact hne ⟨hsegment.symm, hprice.symm⟩

/-- Without a merge, the output is the rows, sorted. -/
lemma detect_of_not_merging (h : d.detect candle phase = .ok out)
    (hnot : d.defersMerging phase = true ∨ [BubbleTier.f1, .f2, .f3].any d.config.merge.enabled = false) :
    ∃ rows, d.unmerged candle phase = .ok rows ∧ out = sortOn outputOrder rows := by
  obtain ⟨rows, hrows, h⟩ := bind_eq_ok.mp h
  refine ⟨rows, hrows, ?_⟩
  rw [if_neg] at h
  · cases h
    rfl
  · rintro ⟨hdefers, hany⟩
    rcases hnot with hnot | hnot
    · exact hdefers hnot
    · cases hnot.symm.trans hany

lemma onePerBucket_of_unmerged (hgrid : d.grid.Valid) {rows : List OrderFlowBubble}
    (h : d.unmerged candle phase = .ok rows) :
    d.OnePerBucket candle (d.activeTiers phase) (sortOn outputOrder rows) := by
  obtain ⟨keys, bubbles, hkeys, hbubbles, rfl⟩ := unmerged_eq_ok h
  exact (scanKeys_onePerBucket hgrid hkeys hbubbles).subperm
    ((perm_sortOn _ _).subperm.trans (rows_subperm bubbles))

/-- The detector in full performance and without merging. -/
def fullUnmerged (d : BubbleDetector) : BubbleDetector :=
  { d with config := { d.config with performance := .full, merge := .disabled } }

lemma tryTiers_fullUnmerged (tiers : List BubbleTier) (cache : Baselines) :
    d.fullUnmerged.tryTiers candle key tiers cache = d.tryTiers candle key tiers cache := by
  induction tiers generalizing cache with
  | nil => rfl
  | cons tier tiers ih =>
    rw [tryTiers, tryTiers]
    simp only [ih]
    rfl

lemma scanKeys_fullUnmerged (tiers : List BubbleTier) (keys : List CandidateKey) (cache : Baselines) :
    d.fullUnmerged.scanKeys candle tiers keys cache = d.scanKeys candle tiers keys cache := by
  induction keys generalizing cache with
  | nil => rfl
  | cons key keys ih =>
    rw [scanKeys, scanKeys, tryTiers_fullUnmerged]
    simp only [ih]

/-- **Live detection with fewer tiers is final detection restricted to them**: the same bubbles in the
same order, whenever both succeed. In both, a bucket yields at most one bubble, at the highest active
tier whose threshold its strength reaches. -/
theorem detect_live_restricts {n : Nat} (hgrid : d.grid.Valid)
    (hperformance : d.config.performance = .high n true) {live final : List OrderFlowBubble}
    (hlive : d.detect candle .live = .ok live)
    (hfinal : d.fullUnmerged.detect candle .final = .ok final) :
    live = final.filter (·.tier ∈ [BubbleTier.f3, .f2, .f1].take n) ∧
      d.OnePerBucket candle ([BubbleTier.f3, .f2, .f1].take n) live ∧
      d.fullUnmerged.OnePerBucket candle [.f3, .f2, .f1] final := by
  have htiers : d.activeTiers .live = [BubbleTier.f3, .f2, .f1].take n := by
    unfold activeTiers
    rw [hperformance]
  have hdefers : d.defersMerging .live = true := by
    unfold defersMerging
    rw [hperformance]
  obtain ⟨rows, hrows, rfl⟩ := detect_of_not_merging hlive (.inl hdefers)
  obtain ⟨rows', hrows', rfl⟩ := detect_of_not_merging hfinal (.inr rfl)
  have hgrid' : d.fullUnmerged.grid.Valid := hgrid
  refine ⟨?_, htiers ▸ onePerBucket_of_unmerged hgrid hrows, onePerBucket_of_unmerged hgrid' hrows'⟩
  obtain ⟨keys, bubbles, hkeys, hbubbles, rfl⟩ := unmerged_eq_ok hrows
  obtain ⟨keys', bubbles', hkeys', hbubbles', rfl⟩ := unmerged_eq_ok hrows'
  cases hkeys.symm.trans hkeys'
  have hall : [BubbleTier.f3, .f2, .f1].take n ++ [BubbleTier.f3, .f2, .f1].drop n =
      d.fullUnmerged.activeTiers .final := List.take_append_drop n _
  rw [scanKeys_fullUnmerged, ← hall] at hbubbles'
  rw [htiers] at hbubbles
  have hdisjoint : ∀ tier ∈ [BubbleTier.f3, .f2, .f1].drop n, tier ∉ [BubbleTier.f3, .f2, .f1].take n :=
    fun tier hdrop htake => List.disjoint_take_drop (by decide) le_rfl htake hdrop
  rw [filter_sortOn, List.filter_append, List.filter_append, scanKeys_append hdisjoint hbubbles hbubbles']
  exact congrArg (sortOn outputOrder) (congrArg₂ _ (congrArg₂ _ (filter_row _ _ _).symm
    (filter_row _ _ _).symm) (filter_row _ _ _).symm)

/-! ## A candle of two buckets -/

/-- A filter with a manual threshold. -/
def exampleFilter (threshold : Int) : BubbleFilter where
  mode := .volume
  threshold := .manual ⟨⟨threshold, 0⟩⟩
  sources := ⟨[], []⟩
  maxBubblesPerCandle := 8
  style := ⟨.circle, 8, 48, ⟨⟨100, 0⟩⟩, ⟨⟨100, 0⟩⟩, .off⟩

/-- A detector for volumes of one, five and ten. -/
def exampleDetector (performance : PerformanceMode) (merge : MergeConfig) : BubbleDetector where
  grid := ⟨0, 0, ⟨1, 0⟩, 1⟩
  config :=
    { filter := fun
        | .f1 => exampleFilter 1
        | .f2 => exampleFilter 5
        | .f3 => exampleFilter 10
      merge, performance }
  history := []

/-- A level that was only bought. -/
def exampleLevel (price volume : Int) : PriceLevelFlow :=
  ⟨⟨⟨price, 0⟩⟩, ⟨⟨volume, 0⟩⟩, ⟨⟨0, 0⟩⟩, ⟨⟨0, 0⟩⟩, ⟨⟨volume, 0⟩⟩, ⟨volume, 0⟩, 1, 1, 1⟩

/-- A spot candle of some levels. -/
def exampleCandle (levels : List PriceLevelFlow) : CandleFlow where
  schemaVersion := 1
  state := .final
  instrument := ⟨1⟩
  startTs := 0
  endTs := 10
  high := none
  low := none
  totalVolume := ⟨⟨0, 0⟩⟩
  tradeCount := 1
  sources := [⟨⟨⟨1⟩, .spot⟩, none, none, ⟨⟨0, 0⟩⟩, ⟨⟨0, 0⟩⟩, ⟨⟨0, 0⟩⟩, ⟨⟨0, 0⟩⟩, ⟨0, 0⟩, 1, levels⟩]

/-- The detector with an adaptive highest tier, half of which is its history: a candle of one bucket. -/
def blendDetector (performance : PerformanceMode) : BubbleDetector :=
  let plain := exampleDetector performance .disabled
  { plain with
    config.filter := fun
      | .f3 => { exampleFilter 10 with threshold := .adaptive ⟨.custom, 5000, none, 1, 1, 10000, 5000⟩ }
      | tier => plain.config.filter tier
    history := [exampleCandle [exampleLevel 20 12]] }

/-- Two buckets above the history and one below; the second one finds the baseline in the cache. -/
def threeBuckets : CandleFlow :=
  exampleCandle [exampleLevel 20 13, exampleLevel 21 14, exampleLevel 22 6]

/-- With one live tier, only the two greater buckets have a bubble. -/
theorem detect_live_restricts_example : ∃ live final,
    (blendDetector (.high 1 true)).detect threeBuckets .live = .ok live ∧
    (blendDetector (.high 1 true)).fullUnmerged.detect threeBuckets .final = .ok final ∧
    final.map (·.tier) = [.f3, .f3, .f2] ∧
    live = final.filter (·.tier ∈ [BubbleTier.f3, .f2, .f1].take 1) := by
  obtain ⟨live, hlive⟩ : ∃ live, (blendDetector (.high 1 true)).detect threeBuckets .live = .ok live :=
    ⟨_, rfl⟩
  obtain ⟨final, hfinal⟩ : ∃ final,
      (blendDetector (.high 1 true)).fullUnmerged.detect threeBuckets .final = .ok final := ⟨_, rfl⟩
  refine ⟨live, final, hlive, hfinal, ?_, (detect_live_restricts (n := 1) (by decide) rfl hlive hfinal).1⟩
  have htiers : (·.map (·.tier)) <$>
      (blendDetector (.high 1 true)).fullUnmerged.detect threeBuckets .final =
        .ok [BubbleTier.f3, .f3, .f2] := by decide +kernel
  rw [hfinal] at htiers
  exact Except.ok.inj htiers

end Marketfeed.BubbleDetector
