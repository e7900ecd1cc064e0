import Marketfeed.Analytics.BubbleTiers
import Mathlib.Data.List.SplitBy

/-!
# Merging bubbles

`merge` walks over the bubbles sorted by segment, direction and price and joins neighbours. Its groups
are the runs of the sorted list in which each bubble is `linked` to the next (`mergeSorted_eq_ok`).
-/

namespace Marketfeed.BubbleDetector

variable {d : BubbleDetector} {candle : CandleFlow}

/-! ## Bubbles before a merge -/

/-- **A bubble as a detection makes it**: of one bucket, with volumes at the scale of the grid and the
direction of its delta. -/
structure IsUnmerged (g : GridSpec) (b : OrderFlowBubble) : Prop where
  anchor : ∃ bucket, 0 < bucket ∧ b.anchorPrice = g.bucketPrice bucket
  fits : b.anchorPrice.fixed.coefficient ≤ i128Max
  low : b.lowPrice = b.anchorPrice
  high : b.highPrice = b.anchorPrice
  buy : 0 ≤ b.buyVolume.fixed.coefficient ∧ b.buyVolume.fixed.scale = g.quantityScale
  sell : 0 ≤ b.sellVolume.fixed.coefficient ∧ b.sellVolume.fixed.scale = g.quantityScale
  unknown : 0 ≤ b.unknownVolume.fixed.coefficient ∧ b.unknownVolume.fixed.scale = g.quantityScale
  total : 0 ≤ b.totalVolume.fixed.coefficient ∧ b.totalVolume.fixed.scale = g.quantityScale
  strength : b.strength.scale = g.quantityScale
  direction : b.direction =
    .ofDelta (b.buyVolume.fixed.coefficient - b.sellVolume.fixed.coefficient)
  count : b.mergedCount = 1

/-- The bubbles of a candle: at most one for each bucket. -/
structure AreUnmerged (g : GridSpec) (bubbles : List OrderFlowBubble) : Prop where
  each : ∀ b ∈ bubbles, IsUnmerged g b
  distinct : bubbles.Pairwise fun b c => ¬ (b.segment = c.segment ∧ b.anchorPrice = c.anchorPrice)

variable {g : GridSpec} {units : Int} {q : Quantity}

lemma quantityAt_eq_ok (h : g.quantityAt units = .ok q) :
    q.fixed.coefficient = units ∧ 0 ≤ q.fixed.coefficient ∧ q.fixed.scale = g.quantityScale := by
  unfold GridSpec.quantityAt at h
  split_ifs at h with hneg
  cases h
  exact ⟨rfl, not_lt.mp hneg, rfl⟩

variable {b : OrderFlowBubble}

lemma isUnmerged_of_materialize (hgrid : d.grid.Valid) {tier : BubbleTier} {a : Aggregate}
    {strength threshold : Nat} (h : d.materialize candle tier a strength threshold = .ok b) :
    IsUnmerged d.grid b := by
  unfold materialize at h
  simp only [bind_eq_ok] at h
  obtain ⟨delta, hdelta, _, -, _, -, _, -, price, hprice, buy, hbuy, sell, hsell, unknown,
    hunknown, total, htotal, _, -, h⟩ := h
  cases h
  obtain ⟨hpos, hfits, rfl⟩ := (GridSpec.priceAt_eq_ok hgrid).mp hprice
  obtain ⟨hbuyUnits, hbuy⟩ := quantityAt_eq_ok hbuy
  obtain ⟨hsellUnits, hsell⟩ := quantityAt_eq_ok hsell
  unfold Aggregate.deltaUnits at hdelta
  rw [orOverflow_eq_ok, checkedI128_eq_some, ← hbuyUnits, ← hsellUnits] at hdelta
  exact ⟨⟨_, hpos, rfl⟩, hfits, rfl, rfl, hbuy, hsell, (quantityAt_eq_ok hunknown).2,
    (quantityAt_eq_ok htotal).2, rfl, congrArg BubbleDirection.ofDelta hdelta.2, rfl⟩

lemma isUnmerged_of_choose (hgrid : d.grid.Valid) {key : CandidateKey} {tiers : List BubbleTier}
    (h : d.choose candle key tiers = .ok (some b)) : IsUnmerged d.grid b := by
  induction tiers with
  | nil => cases h
  | cons tier tiers ih =>
    rcases choose_cons h with ⟨-, hrest, -⟩ | ⟨-, _, _, _, b', -, hb, ho, -⟩
    · exact ih hrest
    · cases ho
      exact isUnmerged_of_materialize hgrid hb

/-- **What a detection has before it merges.** -/
theorem areUnmerged (hgrid : d.grid.Valid) {phase : DetectionPhase} {rows : List OrderFlowBubble}
    (h : d.unmerged candle phase = .ok rows) : AreUnmerged d.grid rows := by
  obtain ⟨keys, bubbles, hkeys, hbubbles, rfl⟩ := unmerged_eq_ok h
  have hone := (scanKeys_onePerBucket hgrid hkeys hbubbles).subperm (rows_subperm (d := d) bubbles)
  refine ⟨fun b hb => ?_, hone.distinct⟩
  obtain ⟨rfl, hall⟩ := scanKeys_eq_ok cacheSound_empty hbubbles
  obtain ⟨key, hkey, hchosen⟩ := List.mem_filterMap.mp ((rows_subperm _).subset hb)
  exact isUnmerged_of_choose hgrid (hchosen ▸ hall key hkey)

/-! ## The groups -/

/-- The bucket of an anchor price. -/
lemma IsUnmerged.priceBucket_eq_ok (hgrid : g.Valid) (hb : IsUnmerged g b) :
    ∃ bucket, g.priceBucket b.anchorPrice = .ok bucket ∧ 0 < bucket ∧ bucket ≤ i128Max ∧
      b.anchorPrice = g.bucketPrice bucket := by
  obtain ⟨bucket, hpos, hprice⟩ := hb.anchor
  have hlevels := hgrid.levels_pos
  have htick : g.priceTick b.anchorPrice = .ok (bucket * g.levelsPerBucket) := by
    rw [GridSpec.priceTick_eq_ok hgrid, hprice]
    refine ⟨mul_pos hpos hlevels, ?_⟩
    rw [Fixed.rescale, if_pos (show g.priceScale = (g.bucketPrice bucket).fixed.scale from rfl)]
    refine congrArg Except.ok (congrArg (Fixed.mk · _) ?_)
    ring
  refine ⟨bucket, GridSpec.priceBucket_eq_ok.mpr ⟨_, htick, ?_⟩, hpos, ?_, hprice⟩
  · exact (Int.mul_ediv_cancel _ hlevels.ne').symm
  · have hfits := hb.fits
    rw [hprice] at hfits
    exact (le_mul_of_one_le_right hpos.le (mul_pos hgrid.tick_pos hlevels)).trans hfits

variable (d) in
/-- The bucket of a bubble. -/
def bucketOf (b : OrderFlowBubble) : Int := (d.grid.priceBucket b.anchorPrice).toOption.getD 0

variable (d) in
/-- Two bubbles that come after one another in the merge order are merged. -/
def linked (a b : OrderFlowBubble) : Bool :=
  d.config.merge.enabled a.tier ∧ d.config.merge.enabled b.tier ∧ a.segment = b.segment ∧
    a.direction = b.direction ∧ (d.bucketOf a - d.bucketOf b).natAbs ≤ d.config.merge.maxDistanceBuckets

lemma continues_eq_ok {a : OrderFlowBubble} {answer : Bool} (h : d.continues a b = .ok answer)
    (ha : d.config.merge.enabled a.tier) : d.linked a b = answer := by
  unfold continues at h
  split_ifs at h with hguard
  · cases h
    refine decide_eq_false ?_
    rintro ⟨-, hb, hsegment, hdirection, -⟩
    rcases hguard with hne | hne | hne
    · exact hne hsegment
    · exact hne hdirection
    · exact hne hb
  · simp only [bind_eq_ok] at h
    obtain ⟨previous, hprevious, next, hnext, distance, hdistance, n, hn, h⟩ := h
    cases h
    rw [orOverflow_eq_ok, Option.bind_eq_some_iff] at hdistance
    obtain ⟨difference, hdifference, hdistance⟩ := hdistance
    rw [checkedI128_eq_some] at hdifference hdistance
    obtain ⟨-, rfl⟩ := hdifference
    obtain ⟨-, rfl⟩ := hdistance
    unfold toU128 at hn
    rw [orOverflow_eq_ok, if_pos (Int.natCast_nonneg _), Option.some.injEq, Int.toNat_natCast] at hn
    have hbuckets : d.bucketOf a = previous ∧ d.bucketOf b = next := by
      rw [bucketOf, bucketOf, hprevious, hnext]
      exact ⟨rfl, rfl⟩
    simp only [not_or, not_not] at hguard
    rw [linked, hbuckets.1, hbuckets.2, ← hn]
    refine decide_eq_decide.mpr ?_
    rw [and_iff_right ha, and_iff_right hguard.2.2, and_iff_right hguard.1, and_iff_right hguard.2.1]

variable {group : List OrderFlowBubble}

/-- A group is a run of linked bubbles, as long as it can be. -/
lemma takeGroup_linked {previous : OrderFlowBubble}
    (hprevious : d.config.merge.enabled previous.tier)
    {bubbles rest : List OrderFlowBubble} (h : d.takeGroup previous bubbles = .ok (group, rest)) :
    (previous :: group).IsChain (fun a b => d.linked a b) ∧
      ∀ a ∈ (previous :: group).getLast?, ∀ b ∈ rest.head?, d.linked a b = false := by
  induction bubbles generalizing previous group rest with
  | nil =>
    cases h
    exact ⟨.singleton _, fun _ _ b hb => (by cases hb)⟩
  | cons next bubbles ih =>
    rw [takeGroup] at h
    obtain ⟨answer, hanswer, h⟩ := bind_eq_ok.mp h
    have hlinked := continues_eq_ok hanswer hprevious
    cases answer with
    | true =>
      obtain ⟨⟨group', rest'⟩, hr, h⟩ := bind_eq_ok.mp h
      cases h
      have hnext : d.config.merge.enabled next.tier := (of_decide_eq_true hlinked).2.1
      obtain ⟨hchain, hend⟩ := ih hnext hr
      exact ⟨List.isChain_cons_cons.mpr ⟨hlinked, hchain⟩, by rwa [List.getLast?_cons_cons]⟩
    | false =>
      cases h
      refine ⟨.singleton _, ?_⟩
      rintro _ ⟨⟩ _ ⟨⟩
      exact hlinked

/-- What is put out for a group. -/
def Emits (d : BubbleDetector) (group : List OrderFlowBubble) (b : OrderFlowBubble) : Prop :=
  group = [b] ∨ ∃ first others, group = first :: others ∧ others ≠ [] ∧ d.mergeGroup first others = .ok b

variable {first : OrderFlowBubble} {others : List OrderFlowBubble}

lemma emits_singleton : d.Emits [first] b ↔ b = first := by
  constructor
  · rintro (h | ⟨_, _, h, hothers, -⟩)
    · exact (List.cons.inj h).1.symm
    · exact absurd (List.cons.inj h).2.symm hothers
  · rintro rfl
    exact .inl rfl

lemma emits_cons (hothers : others ≠ []) :
    d.Emits (first :: others) b ↔ d.mergeGroup first others = .ok b := by
  constructor
  · rintro (h | ⟨_, _, h, -, hmerge⟩)
    · exact absurd (List.cons.inj h).2 hothers
    · cases h
      exact hmerge
  · exact fun hmerge => .inr ⟨first, others, rfl, hothers, hmerge⟩

lemma splitBy_takeGroup (hfirst : d.config.merge.enabled first.tier)
    {rest rest' : List OrderFlowBubble} (h : d.takeGroup first rest = .ok (others, rest')) :
    (first :: rest).splitBy d.linked = (first :: others) :: rest'.splitBy d.linked := by
  obtain ⟨hchain, hend⟩ := takeGroup_linked hfirst h
  rw [← d.takeGroup_eq_ok h, ← List.cons_append, List.splitBy_append hend,
    List.splitBy_of_isChain (List.cons_ne_nil _ _) hchain]
  rfl

/-- A bubble of a disabled tier is a group of its own. -/
lemma splitBy_disabled (hfirst : ¬ d.config.merge.enabled first.tier)
    (rest : List OrderFlowBubble) :
    (first :: rest).splitBy d.linked = [first] :: rest.splitBy d.linked := by
  have hend : ∀ a ∈ [first].getLast?, ∀ b ∈ rest.head?, d.linked a b = false := by
    rintro _ ⟨⟩ b _
    exact decide_eq_false fun hlinked => hfirst hlinked.1
  rw [← List.singleton_append, List.splitBy_append hend,
    List.splitBy_of_isChain (List.cons_ne_nil _ _) (.singleton _)]
  rfl

/-- The distance of two bubbles of a detection can be computed. -/
lemma continues_returns (hgrid : d.grid.Valid) {a : OrderFlowBubble} (ha : IsUnmerged d.grid a)
    (hb : IsUnmerged d.grid b) : ∃ answer, d.continues a b = .ok answer := by
  obtain ⟨x, hx, hx', hxfits, -⟩ := ha.priceBucket_eq_ok hgrid
  obtain ⟨y, hy, hy', hyfits, -⟩ := hb.priceBucket_eq_ok hgrid
  have hmin : i128Min ≤ -i128Max := by decide
  unfold continues
  split_ifs
  · exact ⟨_, rfl⟩
  · refine ⟨_, bind_eq_ok.mpr ⟨x, hx, bind_eq_ok.mpr ⟨y, hy, bind_eq_ok.mpr ⟨((x - y).natAbs : Int), ?_,
      bind_eq_ok.mpr ⟨(x - y).natAbs, ?_, rfl⟩⟩⟩⟩⟩
    · refine orOverflow_eq_ok.mpr (Option.bind_eq_some_iff.mpr ⟨x - y, ?_, ?_⟩) <;>
        exact checkedI128_eq_some.mpr ⟨⟨by omega, by omega⟩, rfl⟩
    · exact orOverflow_eq_ok.mpr (if_pos (Int.natCast_nonneg _))

lemma takeGroup_returns (hgrid : d.grid.Valid) {bubbles : List OrderFlowBubble}
    (hall : ∀ x ∈ first :: bubbles, IsUnmerged d.grid x) : ∃ r, d.takeGroup first bubbles = .ok r := by
  induction bubbles generalizing first with
  | nil => exact ⟨_, rfl⟩
  | cons next bubbles ih =>
    have hrest := (List.forall_mem_cons.mp hall).2
    obtain ⟨answer, hanswer⟩ :=
      continues_returns hgrid (hall first List.mem_cons_self) (hrest next List.mem_cons_self)
    obtain ⟨⟨others, rest⟩, hr⟩ := ih hrest
    cases answer with
    | true => exact ⟨_, bind_eq_ok.mpr ⟨true, hanswer, bind_eq_ok.mpr ⟨_, hr, rfl⟩⟩⟩
    | false => exact ⟨_, bind_eq_ok.mpr ⟨false, hanswer, rfl⟩⟩

/-- **The groups of a merge are the runs of linked bubbles**, and it returns if every one of them can
be put out. -/
theorem mergeSorted_eq_ok (hgrid : d.grid.Valid) {bubbles out : List OrderFlowBubble}
    (hall : ∀ x ∈ bubbles, IsUnmerged d.grid x) :
    d.mergeSorted bubbles = .ok out ↔ List.Forall₂ d.Emits (bubbles.splitBy d.linked) out := by
  have hrest {first : OrderFlowBubble} {rest others rest' : List OrderFlowBubble}
      (hall : ∀ x ∈ first :: rest, IsUnmerged d.grid x)
      (h : d.takeGroup first rest = .ok (others, rest')) : ∀ x ∈ rest', IsUnmerged d.grid x :=
    fun x hx => hall x (List.mem_cons_of_mem _ (d.takeGroup_eq_ok h ▸ List.mem_append_right _ hx))
  fun_induction mergeSorted d bubbles generalizing out with
  | case1 => simp [eq_comm]
  | case2 first rest henabled e he =>
    obtain ⟨r, hr⟩ := takeGroup_returns hgrid hall
    cases he.symm.trans hr
  | case3 first rest henabled rest' _ hgroup =>
    rename_i ih
    simp only [splitBy_takeGroup henabled hgroup, List.forall₂_cons_left_iff, emits_singleton,
      ← ih (hrest hall hgroup)]
    simp +zetaDelta [bind_eq_ok, @eq_comm _ out]
  | case4 first rest henabled others rest' hgroup _ hothers =>
    rename_i ih
    simp only [splitBy_takeGroup henabled hgroup, List.forall₂_cons_left_iff, emits_cons hothers,
      ← ih (hrest hall hgroup)]
    simp +zetaDelta [bind_eq_ok, @eq_comm _ out]
  | case5 first rest hdisabled ih =>
    simp only [splitBy_disabled hdisabled, List.forall₂_cons_left_iff, emits_singleton,
      ← ih (List.forall_mem_cons.mp hall).2]
    simp +zetaDelta [bind_eq_ok, @eq_comm _ out]

/-! ## What a group becomes -/

/-- The flows of a bubble. -/
def flows : List (OrderFlowBubble → Fixed) :=
  [fun b => b.buyVolume.fixed, fun b => b.sellVolume.fixed, fun b => b.unknownVolume.fixed,
    fun b => b.totalVolume.fixed, fun b => b.strength]

/-- **A bubble made from a group**: of its segment and direction, with its flows, its sources, its
range and its highest tier. -/
structure MergedFrom (group : List OrderFlowBubble) (b : OrderFlowBubble) : Prop where
  segment : ∀ x ∈ group, x.segment = b.segment
  direction : ∀ x ∈ group, x.direction = b.direction
  flow : ∀ f ∈ flows, (f b).toRat = (group.map fun x => (f x).toRat).sum
  count : b.mergedCount = (group.map (·.mergedCount)).sum
  sources : ∀ venue, venue ∈ b.sources ↔ ∃ x ∈ group, venue ∈ x.sources
  low : b.lowPrice ∈ group.map (·.lowPrice) ∧ ∀ x ∈ group, b.lowPrice.fixed.toRat ≤ x.lowPrice.fixed.toRat
  high : b.highPrice ∈ group.map (·.highPrice) ∧
    ∀ x ∈ group, x.highPrice.fixed.toRat ≤ b.highPrice.fixed.toRat
  tier : b.tier ∈ group.map (·.tier) ∧ ∀ x ∈ group, x.tier.priority ≤ b.tier.priority

lemma mergedFrom_singleton (b : OrderFlowBubble) : MergedFrom [b] b := by
  constructor <;> simp

/-- A volume at the scale of the grid counts as many units as its coefficient. -/
lemma nonNegativeQuantityUnits_eq_ok (hscale : q.fixed.scale = g.quantityScale)
    (h : g.nonNegativeQuantityUnits q = .ok units) : units = q.fixed.coefficient := by
  obtain ⟨q', hq', h⟩ := bind_eq_ok.mp h
  rw [rescaleFor_eq_ok, Fixed.rescale, if_pos hscale.symm] at hq'
  cases hq'
  split_ifs at h
  cases h
  rfl

lemma quantityUnits_eq_coefficient (hscale : q.fixed.scale = g.quantityScale)
    (h : g.quantityUnits q = .ok units) : units = q.fixed.coefficient := by
  obtain ⟨units', hunits, h⟩ := bind_eq_ok.mp h
  split_ifs at h
  cases h
  exact nonNegativeQuantityUnits_eq_ok hscale hunits

/-- What one bubble adds to the totals. -/
lemma addBubble_eq_ok {t t' : MergeTotals} (hb : IsUnmerged d.grid b)
    (h : d.addBubble t b = .ok t') :
    t' = {
      sources := t.sources ++ b.sources
      buy := t.buy + b.buyVolume.fixed.coefficient
      sell := t.sell + b.sellVolume.fixed.coefficient
      unknown := t.unknown + b.unknownVolume.fixed.coefficient
      total := t.total + b.totalVolume.fixed.coefficient
      strength := t.strength + b.strength.coefficient
      low := minPrice t.low b.lowPrice
      high := maxPrice t.high b.highPrice
      tier := if b.tier.priority > t.tier.priority then b.tier else t.tier } := by
  unfold addBubble at h
  simp only [bind_eq_ok] at h
  obtain ⟨buyUnits, hbuyUnits, buy, hbuy, sellUnits, hsellUnits, sell, hsell, unknownUnits,
    hunknownUnits, unknown, hunknown, totalUnits, htotalUnits, total, htotal, strength, hstrength,
    h⟩ := h
  cases h
  rw [orOverflow_eq_ok, checkedI128_eq_some] at hbuy hsell hunknown htotal hstrength
  rw [hbuy.2, hsell.2, hunknown.2, htotal.2, hstrength.2,
    nonNegativeQuantityUnits_eq_ok hb.buy.2 hbuyUnits,
    nonNegativeQuantityUnits_eq_ok hb.sell.2 hsellUnits,
    nonNegativeQuantityUnits_eq_ok hb.unknown.2 hunknownUnits,
    quantityUnits_eq_coefficient hb.total.2 htotalUnits]

/-- The higher of two tiers. -/
def higherTier (a b : BubbleTier) : BubbleTier := if b.priority > a.priority then b else a

lemma totals_eq {t t' : MergeTotals} (hgroup : ∀ b ∈ group, IsUnmerged d.grid b)
    (h : group.foldlM d.addBubble t = .ok t') :
    t' = {
      sources := t.sources ++ group.flatMap (·.sources)
      buy := t.buy + (group.map (·.buyVolume.fixed.coefficient)).sum
      sell := t.sell + (group.map (·.sellVolume.fixed.coefficient)).sum
      unknown := t.unknown + (group.map (·.unknownVolume.fixed.coefficient)).sum
      total := t.total + (group.map (·.totalVolume.fixed.coefficient)).sum
      strength := t.strength + (group.map (·.strength.coefficient)).sum
      low := (group.map (·.lowPrice)).foldl minPrice t.low
      high := (group.map (·.highPrice)).foldl maxPrice t.high
      tier := (group.map (·.tier)).foldl higherTier t.tier } := by
  induction group generalizing t with
  | nil =>
    cases h
    simp
  | cons b group ih =>
    rw [List.forall_mem_cons] at hgroup
    rw [List.foldlM_cons] at h
    obtain ⟨next, hnext, h⟩ := bind_eq_ok.mp h
    rw [ih hgroup.2 h, addBubble_eq_ok hgroup.1 hnext]
    simp only [List.flatMap_cons, List.map_cons, List.sum_cons, List.foldl_cons, List.append_assoc,
      add_assoc, higherTier]

/-- A fold that keeps one of two elements, the one with less of a measure, ends at a least one. -/
lemma foldl_pick {α : Type} (pick : α → α → α) (measure : α → Int)
    (hpick : ∀ a b, (pick a b = a ∨ pick a b = b) ∧ measure (pick a b) ≤ measure a ∧
      measure (pick a b) ≤ measure b) (a : α) (l : List α) :
    l.foldl pick a ∈ a :: l ∧ ∀ x ∈ a :: l, measure (l.foldl pick a) ≤ measure x := by
  induction l generalizing a with
  | nil => exact ⟨List.mem_singleton_self a, fun x hx => (congrArg measure (List.mem_singleton.mp hx)).ge⟩
  | cons b l ih =>
    obtain ⟨hmem, hle⟩ := ih (pick a b)
    obtain ⟨hor, ha, hb⟩ := hpick a b
    rw [List.foldl_cons]
    have hfirst := hle _ List.mem_cons_self
    refine ⟨?_, List.forall_mem_cons.mpr ⟨hfirst.trans ha, List.forall_mem_cons.mpr
      ⟨hfirst.trans hb, fun x hx => hle x (List.mem_cons_of_mem _ hx)⟩⟩⟩
    rcases List.mem_cons.mp hmem with heq | hmem
    · rw [heq]
      rcases hor with hor | hor
      · rw [hor]
        exact List.mem_cons_self
      · rw [hor]
        exact List.mem_cons_of_mem _ List.mem_cons_self
    · exact List.mem_cons_of_mem _ (List.mem_cons_of_mem _ hmem)

lemma foldl_pick_self {α : Type} (pick : α → α → α) (measure : α → Int)
    (hpick : ∀ a b, (pick a b = a ∨ pick a b = b) ∧ measure (pick a b) ≤ measure a ∧
      measure (pick a b) ≤ measure b) (a : α) (l : List α) :
    (a :: l).foldl pick a ∈ a :: l ∧ ∀ x ∈ a :: l, measure ((a :: l).foldl pick a) ≤ measure x := by
  obtain ⟨hmem, hle⟩ := foldl_pick pick measure hpick a (a :: l)
  refine ⟨?_, fun x hx => hle x (List.mem_cons_of_mem a hx)⟩
  rcases List.mem_cons.mp hmem with heq | hmem
  · rw [heq]
    exact List.mem_cons_self
  · exact hmem

/-- Deltas of one sign add up to that sign. -/
lemma ofDelta_sum {direction : BubbleDirection} {deltas : List Int} (hne : deltas ≠ [])
    (h : ∀ delta ∈ deltas, BubbleDirection.ofDelta delta = direction) :
    BubbleDirection.ofDelta deltas.sum = direction := by
  induction deltas with
  | nil => exact absurd rfl hne
  | cons delta deltas ih =>
    rw [List.forall_mem_cons] at h
    rw [List.sum_cons]
    rcases deltas with _ | ⟨delta', deltas⟩
    · rw [List.sum_nil, add_zero]
      exact h.1
    · have hrest := ih (List.cons_ne_nil _ _) h.2
      generalize (delta' :: deltas).sum = rest at hrest ⊢
      have hfirst := h.1
      unfold BubbleDirection.ofDelta at hfirst hrest ⊢
      rw [← hrest] at hfirst ⊢
      split_ifs at hfirst ⊢ <;> first | rfl | omega

lemma toRat_sum {scale : Nat} (f : OrderFlowBubble → Fixed)
    (hscale : ∀ b ∈ group, (f b).scale = scale) :
    (group.map fun b => (f b).toRat).sum =
      (⟨(group.map fun b => (f b).coefficient).sum, scale⟩ : Fixed).toRat := by
  induction group with
  | nil => simp [Fixed.toRat]
  | cons b group ih =>
    rw [List.forall_mem_cons] at hscale
    rw [List.map_cons, List.sum_cons, ih hscale.2, List.map_cons, List.sum_cons]
    simp only [Fixed.toRat, hscale.1, Int.cast_add]
    ring

lemma strongest_mem (first : OrderFlowBubble) (group : List OrderFlowBubble) :
    strongest first group ∈ first :: group := by
  unfold strongest
  induction group generalizing first with
  | nil => exact List.mem_singleton_self _
  | cons next group ih =>
    rw [List.foldl_cons]
    split_ifs
    · exact List.cons_subset_cons _ (List.subset_cons_self _ _) (ih first)
    · exact List.mem_cons_of_mem _ (ih next)

/-- Prices on the grid are ordered as their coefficients. -/
lemma IsUnmerged.price_le {c : OrderFlowBubble} (hb : IsUnmerged g b) (hc : IsUnmerged g c)
    (hle : b.anchorPrice.fixed.coefficient ≤ c.anchorPrice.fixed.coefficient) :
    b.anchorPrice.fixed.toRat ≤ c.anchorPrice.fixed.toRat := by
  obtain ⟨_, -, hb⟩ := hb.anchor
  obtain ⟨_, -, hc⟩ := hc.anchor
  rw [hb, hc] at hle ⊢
  exact not_lt.mp fun hlt => not_lt.mpr hle (Fixed.toRat_lt_toRat.mp hlt)

section Clauses

/-- The deltas of a group of one direction add up to that direction. -/
lemma direction_of_group (hgroup : ∀ x ∈ first :: others, IsUnmerged d.grid x)
    {direction : BubbleDirection} (hsame : ∀ x ∈ first :: others, x.direction = direction) :
    BubbleDirection.ofDelta (((first :: others).map (·.buyVolume.fixed.coefficient)).sum -
      ((first :: others).map (·.sellVolume.fixed.coefficient)).sum) = direction := by
  have hsub (l : List OrderFlowBubble) :
      (l.map (·.buyVolume.fixed.coefficient)).sum - (l.map (·.sellVolume.fixed.coefficient)).sum =
        (l.map fun y => y.buyVolume.fixed.coefficient - y.sellVolume.fixed.coefficient).sum := by
    induction l with
    | nil => rfl
    | cons y l ih =>
      simp only [List.map_cons, List.sum_cons]
      omega
  rw [hsub]
  refine ofDelta_sum (by simp) fun delta hdelta => ?_
  obtain ⟨y, hy, rfl⟩ := List.mem_map.mp hdelta
  exact (hgroup y hy).direction.symm.trans (hsame y hy)

lemma length_of_group (hgroup : ∀ x ∈ group, IsUnmerged d.grid x) :
    group.length = (group.map (·.mergedCount)).sum := by
  have hones : group.map (·.mergedCount) = group.map fun _ => 1 :=
    List.map_congr_left fun x hx => (hgroup x hx).count
  rw [hones, List.map_const']
  simp

/-- The lowest price of a group. -/
lemma low_of_group (hgroup : ∀ x ∈ first :: others, IsUnmerged d.grid x) {low : Price}
    (hlow : ((first :: others).map (·.lowPrice)).foldl minPrice first.lowPrice = low) :
    low ∈ (first :: others).map (·.lowPrice) ∧
      ∀ x ∈ first :: others, low.fixed.toRat ≤ x.lowPrice.fixed.toRat := by
  obtain ⟨hmem, hle⟩ := foldl_pick_self minPrice (fun p => p.fixed.coefficient)
    (fun p q => by unfold minPrice; split_ifs <;> simp <;> omega) first.lowPrice
    (others.map (·.lowPrice))
  rw [← List.map_cons, hlow] at hmem hle
  refine ⟨hmem, fun x hx => ?_⟩
  obtain ⟨y, hy, rfl⟩ := List.mem_map.mp hmem
  have hyx := hle _ (List.mem_map.mpr ⟨x, hx, rfl⟩)
  rw [(hgroup y hy).low, (hgroup x hx).low] at hyx ⊢
  exact (hgroup y hy).price_le (hgroup x hx) hyx

/-- The highest price of a group. -/
lemma high_of_group (hgroup : ∀ x ∈ first :: others, IsUnmerged d.grid x) {high : Price}
    (hhigh : ((first :: others).map (·.highPrice)).foldl maxPrice first.highPrice = high) :
    high ∈ (first :: others).map (·.highPrice) ∧
      ∀ x ∈ first :: others, x.highPrice.fixed.toRat ≤ high.fixed.toRat := by
  obtain ⟨hmem, hle⟩ := foldl_pick_self maxPrice (fun p => -p.fixed.coefficient)
    (fun p q => by unfold maxPrice; split_ifs <;> simp <;> omega) first.highPrice
    (others.map (·.highPrice))
  rw [← List.map_cons, hhigh] at hmem hle
  refine ⟨hmem, fun x hx => ?_⟩
  obtain ⟨y, hy, rfl⟩ := List.mem_map.mp hmem
  have hyx := hle _ (List.mem_map.mpr ⟨x, hx, rfl⟩)
  rw [(hgroup y hy).high, (hgroup x hx).high, neg_le_neg_iff] at hyx
  rw [(hgroup y hy).high, (hgroup x hx).high]
  exact (hgroup x hx).price_le (hgroup y hy) hyx

/-- The highest tier of a group. -/
lemma tier_of_group {tier : BubbleTier}
    (htier : ((first :: others).map (·.tier)).foldl higherTier .f1 = tier) :
    tier ∈ (first :: others).map (·.tier) ∧ ∀ x ∈ first :: others, x.tier.priority ≤ tier.priority := by
  obtain ⟨hmem, hle⟩ := foldl_pick higherTier (fun tier => -(tier.priority : Int))
    (fun p q => by unfold higherTier; split_ifs <;> simp <;> omega) .f1 ((first :: others).map (·.tier))
  rw [htier] at hmem hle
  have hle' : ∀ x ∈ first :: others, x.tier.priority ≤ tier.priority := by
    intro x hx
    have := hle _ (List.mem_cons_of_mem _ (List.mem_map.mpr ⟨x, hx, rfl⟩))
    omega
  refine ⟨?_, hle'⟩
  rcases List.mem_cons.mp hmem with rfl | hmem
  · -- The lowest tier is the highest only if the whole group is of it.
    have hfirst := hle' first List.mem_cons_self
    refine List.mem_map.mpr ⟨first, List.mem_cons_self, ?_⟩
    cases h : first.tier <;> simp [h, BubbleTier.priority] at hfirst ⊢
  · exact hmem

end Clauses

/-- **A group of one segment and direction becomes a bubble made from it.** -/
theorem mergedFrom_mergeGroup (hgroup : ∀ x ∈ first :: others, IsUnmerged d.grid x)
    (hsame : ∀ x ∈ first :: others, x.segment = first.segment ∧ x.direction = first.direction)
    (h : d.mergeGroup first others = .ok b) : MergedFrom (first :: others) b := by
  unfold mergeGroup at h
  simp only [bind_eq_ok] at h
  obtain ⟨t, ht, delta, hdelta, _, -, _, -, buy, hbuy, sell, hsell, unknown, hunknown, total,
    htotal, _, -, count, hcount, h⟩ := h
  cases h
  obtain rfl := totals_eq hgroup ht
  simp only [zero_add] at hdelta hbuy hsell hunknown htotal
  rw [orOverflow_eq_ok, checkedI128_eq_some] at hdelta
  rw [orOverflow_eq_ok, Option.ite_none_right_eq_some, Option.some.injEq] at hcount
  obtain ⟨-, rfl⟩ := hdelta
  obtain ⟨-, rfl⟩ := hcount
  have hvolume {f : OrderFlowBubble → Fixed} {q : Quantity}
      (hscale : ∀ x ∈ first :: others, (f x).scale = d.grid.quantityScale)
      (hq : d.grid.quantityAt ((first :: others).map fun x => (f x).coefficient).sum = .ok q) :
      q.fixed.toRat = ((first :: others).map fun x => (f x).toRat).sum := by
    obtain ⟨hc, -, hs⟩ := quantityAt_eq_ok hq
    rw [toRat_sum f hscale, ← hc, ← hs]
  refine ⟨?_, ?_, ?_, length_of_group hgroup, ?_, low_of_group hgroup rfl, high_of_group hgroup rfl,
    tier_of_group rfl⟩
  · intro x hx
    exact (hsame x hx).1.trans (hsame _ (strongest_mem first others)).1.symm
  · intro x hx
    exact (hsame x hx).2.trans (direction_of_group hgroup fun y hy => (hsame y hy).2).symm
  · refine List.forall_mem_cons.mpr ⟨?_, List.forall_mem_cons.mpr ⟨?_, List.forall_mem_cons.mpr ⟨?_,
      List.forall_mem_cons.mpr ⟨?_, List.forall_mem_singleton.mpr ?_⟩⟩⟩⟩
    · exact hvolume (fun x hx => (hgroup x hx).buy.2) hbuy
    · exact hvolume (fun x hx => (hgroup x hx).sell.2) hsell
    · exact hvolume (fun x hx => (hgroup x hx).unknown.2) hunknown
    · exact hvolume (fun x hx => (hgroup x hx).total.2) htotal
    · rw [toRat_sum (fun b => b.strength) fun x hx => (hgroup x hx).strength]
      simp
  · intro venue
    show venue ∈ sortOn _ _ ↔ _
    rw [mem_sortOn, List.mem_dedup, List.nil_append, List.mem_flatMap]

lemma same_of_isChain (h : (first :: others).IsChain fun a b => d.linked a b) :
    ∀ x ∈ first :: others, x.segment = first.segment ∧ x.direction = first.direction := by
  induction others generalizing first with
  | nil =>
    intro x hx
    rw [List.mem_singleton.mp hx]
    exact ⟨rfl, rfl⟩
  | cons next others ih =>
    obtain ⟨hlinked, hrest⟩ := List.isChain_cons_cons.mp h
    obtain ⟨-, -, hsegment, hdirection, -⟩ := of_decide_eq_true hlinked
    refine List.forall_mem_cons.mpr ⟨⟨rfl, rfl⟩, fun x hx => ?_⟩
    obtain ⟨hs, hd⟩ := ih hrest x hx
    exact ⟨hs.trans hsegment.symm, hd.trans hdirection.symm⟩

lemma Emits.mergedFrom (h : d.Emits group b) (hgroup : ∀ x ∈ group, IsUnmerged d.grid x)
    (hchain : group.IsChain fun a b => d.linked a b) : MergedFrom group b := by
  rcases h with rfl | ⟨first, others, rfl, -, hmerge⟩
  · exact mergedFrom_singleton b
  · exact mergedFrom_mergeGroup hgroup (same_of_isChain hchain) hmerge

/-- What adds up over each group adds up over all. -/
lemma sum_of_mergedFrom {M : Type} [AddCommMonoid M] {f : OrderFlowBubble → M}
    {groups : List (List OrderFlowBubble)} {out : List OrderFlowBubble}
    (h : List.Forall₂ (fun group b => f b = (group.map f).sum) groups out) :
    (out.map f).sum = (groups.flatten.map f).sum := by
  induction h with
  | nil => rfl
  | cons hgroup _ ih =>
    rw [List.map_cons, List.sum_cons, List.flatten_cons, List.map_append, List.sum_append, hgroup, ih]

/-- **A merge partitions the bubbles of a detection and conserves their flow**: every bubble goes into
one group, each group becomes one bubble made from it, and the volumes, strengths and counts of the
output add up to those of the input. -/
theorem merge_conserves (hgrid : d.grid.Valid) {phase : DetectionPhase} {rows out : List OrderFlowBubble}
    (h : d.unmerged candle phase = .ok rows) (hmerge : d.merge rows = .ok out) :
    (∃ groups : List (List OrderFlowBubble), groups.flatten.Perm rows ∧ groups.flatten.Nodup ∧
      List.Forall₂ MergedFrom groups out) ∧
    (∀ f ∈ flows, (out.map fun b => (f b).toRat).sum = (rows.map fun b => (f b).toRat).sum) ∧
    (out.map (·.mergedCount)).sum = (rows.map (·.mergedCount)).sum := by
  have hrows := areUnmerged hgrid h
  have hperm : ((sortOn mergeOrder rows).splitBy d.linked).flatten.Perm rows := by
    rw [List.flatten_splitBy]
    exact perm_sortOn _ _
  have hnodup : rows.Nodup := by
    refine hrows.distinct.imp fun {a b} hne heq => ?_
    exact hne ⟨congrArg _ heq, congrArg _ heq⟩
  have hforall : List.Forall₂ MergedFrom ((sortOn mergeOrder rows).splitBy d.linked) out := by
    have hsorted := (mergeSorted_eq_ok hgrid fun x hx => hrows.each x ((mem_sortOn _).mp hx)).mp hmerge
    have hmem := (List.forall₂_and_left _ _).mpr ⟨fun _ hgroup => hgroup, hsorted⟩
    refine hmem.imp fun group b hb => ?_
    obtain ⟨hgroup, hemits⟩ := hb
    refine hemits.mergedFrom (fun x hx => ?_) (List.isChain_of_mem_splitBy hgroup)
    exact hrows.each x (hperm.mem_iff.mp (List.mem_flatten.mpr ⟨group, hgroup, hx⟩))
  refine ⟨⟨_, hperm, hperm.nodup_iff.mpr hnodup, hforall⟩, fun f hf => ?_, ?_⟩
  · rw [sum_of_mergedFrom (hforall.imp fun _ _ hfrom => hfrom.flow f hf)]
    exact (hperm.map _).sum_eq
  · rw [sum_of_mergedFrom (hforall.imp fun _ _ hfrom => hfrom.count)]
    exact (hperm.map _).sum_eq

/-- A detector that merges the bubbles of its largest tier over a distance of two buckets. -/
def chainDetector : BubbleDetector :=
  exampleDetector .full ⟨fun tier => tier = .f3, 2, ⟨.diamond, 8, 48, ⟨⟨100, 0⟩⟩, ⟨⟨100, 0⟩⟩, .raw⟩⟩

def chainCandle : CandleFlow :=
  exampleCandle [exampleLevel 20 12, exampleLevel 22 12]

lemma exists_merge_chainCandle : ∃ rows, chainDetector.unmerged chainCandle .final = .ok rows ∧
    ∃ out, chainDetector.merge rows = .ok out := by
  have hcounts : (·.map (·.mergedCount)) <$> (chainDetector.unmerged chainCandle .final >>=
      chainDetector.merge) = .ok [2] := by decide +kernel
  rw [← exists_bind_eq_ok]
  rcases h : chainDetector.unmerged chainCandle .final >>= chainDetector.merge with e | out
  · rw [h] at hcounts
    cases hcounts
  · exact ⟨out, rfl⟩

/-- Two merged bubbles still count as two. -/
theorem merge_conserves_example : ∃ rows out, chainDetector.unmerged chainCandle .final = .ok rows ∧
    chainDetector.merge rows = .ok out ∧
    (out.map (·.mergedCount)).sum = (rows.map (·.mergedCount)).sum := by
  obtain ⟨rows, hrows, out, hout⟩ := exists_merge_chainCandle
  exact ⟨rows, out, hrows, hout, (merge_conserves (by decide) hrows hout).2.2⟩

end Marketfeed.BubbleDetector
