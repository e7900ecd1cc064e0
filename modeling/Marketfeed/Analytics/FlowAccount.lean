import Marketfeed.Analytics.Flow

/-!
# What a candle counts

The abstract side of `Marketfeed.Analytics.Flow`: a candle is a function of the trades it counts. Its
volumes are sums over them, its counts are numbers of them, its highs, lows and times are extremes of
them, taken over the whole candle, over the trades of one source, and over those of one source in one
bucket.
-/

namespace Marketfeed

/-! ## Sums over trades -/

/-- The units of some trades. -/
def unitsOf (es : List FlowEntry) : Int := (es.map (·.units)).sum

/-- The units of the trades of one side. -/
def sideUnitsOf (side : AggressorSide) (es : List FlowEntry) : Int :=
  unitsOf (es.filter (·.aggressor = side))

def sidesOf (es : List FlowEntry) : SideUnits :=
  ⟨sideUnitsOf .buy es, sideUnitsOf .sell es, sideUnitsOf .unknown es⟩

/-- The highest price. -/
def highOf (scale : Nat) (es : List FlowEntry) : Option Price :=
  (es.map (·.price.fixed.coefficient)).max?.map fun c => ⟨⟨c, scale⟩⟩

/-- The lowest price. -/
def lowOf (scale : Nat) (es : List FlowEntry) : Option Price :=
  (es.map (·.price.fixed.coefficient)).min?.map fun c => ⟨⟨c, scale⟩⟩

/-- The trades of one source. -/
def ofSource (source : FlowSource) (es : List FlowEntry) : List FlowEntry :=
  es.filter (·.source = source)

/-- The trades in one bucket. -/
def ofBucket (bucket : Int) (es : List FlowEntry) : List FlowEntry := es.filter (·.bucket = bucket)

/-! ### One trade more -/

section Concat

variable (es : List FlowEntry) (e : FlowEntry)

lemma unitsOf_concat : unitsOf (es ++ [e]) = unitsOf es + e.units := by
  simp [unitsOf]

lemma filter_concat (p : FlowEntry → Prop) [DecidablePred p] :
    (es ++ [e]).filter p = if p e then es.filter p ++ [e] else es.filter p := by
  rw [List.filter_append, List.filter_singleton]
  split_ifs with h <;> simp [h]

lemma sideUnitsOf_concat (side : AggressorSide) :
    sideUnitsOf side (es ++ [e]) =
      sideUnitsOf side es + if e.aggressor = side then e.units else 0 := by
  unfold sideUnitsOf
  rw [filter_concat]
  split_ifs
  · exact unitsOf_concat _ _
  · exact (add_zero _).symm

lemma ofSource_concat (source : FlowSource) :
    ofSource source (es ++ [e]) = if e.source = source then ofSource source es ++ [e]
      else ofSource source es :=
  filter_concat ..

lemma ofBucket_concat (bucket : Int) :
    ofBucket bucket (es ++ [e]) = if e.bucket = bucket then ofBucket bucket es ++ [e]
      else ofBucket bucket es :=
  filter_concat ..

end Concat

lemma max?_concat (xs : List Int) (x : Int) :
    (xs ++ [x]).max? = some (xs.max?.elim x fun y => max y x) := by
  rcases xs with _ | ⟨y, ys⟩
  · rfl
  · rw [List.cons_append, List.max?_cons', List.foldl_append]
    rfl

lemma min?_concat (xs : List Int) (x : Int) :
    (xs ++ [x]).min? = some (xs.min?.elim x fun y => min y x) := by
  rcases xs with _ | ⟨y, ys⟩
  · rfl
  · rw [List.cons_append, List.min?_cons', List.foldl_append]
    rfl

/-! ### Bounds -/

/-- What every admitted trade has: positive units, a price at the scale of the grid, and a bucket
whose price fits. -/
structure FlowEntry.OnGrid (g : GridSpec) (e : FlowEntry) : Prop where
  units_pos : 0 < e.units
  scale_eq : e.price.fixed.scale = g.priceScale
  bucket_le : e.bucket * (g.tickSize.coefficient * g.levelsPerBucket) ≤ i128Max

variable {es : List FlowEntry}

lemma unitsOf_nonneg (h : ∀ e ∈ es, 0 < e.units) : 0 ≤ unitsOf es := by
  refine List.sum_nonneg ?_
  intro u hu
  obtain ⟨e, he, rfl⟩ := List.mem_map.mp hu
  exact (h e he).le

/-- Fewer trades have no more units. -/
lemma unitsOf_filter_le (h : ∀ e ∈ es, 0 < e.units) (p : FlowEntry → Bool) :
    unitsOf (es.filter p) ≤ unitsOf es :=
  (List.filter_sublist.map _).sum_le_sum fun u hu => by
    obtain ⟨e, he, rfl⟩ := List.mem_map.mp hu
    exact (h e he).le

/-- **The units of some trades, key by key.** -/
theorem unitsOf_partition {κ : Type} [DecidableEq κ] (key : FlowEntry → κ) {keys : List κ}
    (hnodup : keys.Nodup) (hcover : ∀ e ∈ es, key e ∈ keys) :
    (keys.map fun k => unitsOf (es.filter fun e => key e = k)).sum = unitsOf es := by
  induction es with
  | nil => simp [unitsOf]
  | cons e es ih =>
    have hes := ih fun e' he' => hcover e' (List.mem_cons_of_mem e he')
    have hcons : ∀ k, unitsOf ((e :: es).filter fun e => key e = k) =
        (if k = key e then e.units else 0) + unitsOf (es.filter fun e => key e = k) := by
      intro k
      by_cases hk : key e = k
      · rw [List.filter_cons_of_pos (by simpa using hk), if_pos hk.symm]
        exact List.sum_cons
      · rw [List.filter_cons_of_neg (by simpa using hk), if_neg (Ne.symm hk), zero_add]
    have hone : (keys.map fun k => if k = key e then e.units else 0).sum = e.units := by
      rw [List.sum_map_ite_eq, List.count_eq_one_of_mem hnodup (hcover e List.mem_cons_self)]
      simp
    have hsum : unitsOf (e :: es) = e.units + unitsOf es := List.sum_cons
    simp only [hcons]
    rw [List.sum_map_add, hone, hes, hsum]

/-- The counters of the sides are not negative and make up the total. -/
structure SideUnits.Balanced (u : SideUnits) (total : Int) : Prop where
  buy : 0 ≤ u.buy
  sell : 0 ≤ u.sell
  unknown : 0 ≤ u.unknown
  sum : u.buy + u.sell + u.unknown = total

lemma sidesOf_balanced (h : ∀ e ∈ es, 0 < e.units) : (sidesOf es).Balanced (unitsOf es) := by
  have hside : ∀ side, 0 ≤ sideUnitsOf side es := by
    intro side
    exact unitsOf_nonneg fun e he => h e (List.mem_filter.mp he).1
  refine ⟨hside _, hside _, hside _, ?_⟩
  show sideUnitsOf .buy es + sideUnitsOf .sell es + sideUnitsOf .unknown es = unitsOf es
  clear h hside
  induction es using List.reverseRecOn with
  | nil => rfl
  | append_singleton es e ih =>
    rw [sideUnitsOf_concat, sideUnitsOf_concat, sideUnitsOf_concat, unitsOf_concat]
    rcases e.aggressor with _ | _ | _ <;> simp only [reduceCtorEq, if_true, if_false] <;> omega

/-! ## Additions without their checks -/

/-- The counters of the sides with one trade more. -/
def SideUnits.added (u : SideUnits) (units : Int) : AggressorSide → SideUnits
  | .buy => { u with buy := u.buy + units }
  | .sell => { u with sell := u.sell + units }
  | .unknown => { u with unknown := u.unknown + units }

/-- A price level with one trade more. -/
def LevelAccumulator.added (l : LevelAccumulator) (e : FlowEntry) : LevelAccumulator :=
  ⟨l.sides.added e.units e.aggressor, l.totalUnits + e.units, l.tradeCount + 1, l.firstTimestampNs,
    e.timestampNs⟩

/-- A source with one trade more. -/
def SourceAccumulator.added (s : SourceAccumulator) (e : FlowEntry) : SourceAccumulator :=
  ⟨raiseHigh s.high e.price, lowerLow s.low e.price, s.sides.added e.units e.aggressor,
    s.totalUnits + e.units, s.tradeCount + 1, s.levels.insert e.bucket ((s.levelEntry e).added e)⟩

/-- A builder with one trade more. -/
def CandleFlowBuilder.added (s : CandleFlowBuilder) (e : FlowEntry) : CandleFlowBuilder :=
  { s with
    high := raiseHigh s.high e.price
    low := lowerLow s.low e.price
    totalUnits := s.totalUnits + e.units
    tradeCount := s.tradeCount + 1
    sources := s.sources.insert e.source ((s.sourceEntry e).added e) }

lemma checkedI128_of_le {x : Int} (h0 : 0 ≤ x) (h : x ≤ i128Max) : checkedI128 x = some x :=
  checkedI128_eq_some.mpr ⟨⟨le_trans (by decide) h0, h⟩, rfl⟩

lemma SideUnits.add_eq_ok {u : SideUnits} {total units : Int} (h : u.Balanced total)
    (hunits : 0 < units) (hfits : total + units ≤ i128Max) (side : AggressorSide) :
    u.add units side = .ok (u.added units side) := by
  obtain ⟨hbuy, hsell, hunknown, hsum⟩ := h
  cases side with
  | buy | sell | unknown =>
    rw [SideUnits.add, checkedI128_of_le (by omega) (by omega)]
    rfl

/-- What the additions on one accumulator need: balanced sides, and room for the trade. -/
structure Room (sides : SideUnits) (total : Int) (count : Nat) (units : Int) : Prop where
  balanced : sides.Balanced total
  units_pos : 0 < units
  total_le : total + units ≤ i128Max
  count_lt : count + 1 < 2 ^ 64

namespace Room

variable {sides : SideUnits} {total units : Int} {count : Nat}

lemma total_nonneg (h : Room sides total count units) : 0 ≤ total := by
  obtain ⟨hbuy, hsell, hunknown, hsum⟩ := h.balanced
  omega

lemma checked_total (h : Room sides total count units) :
    checkedI128 (total + units) = some (total + units) :=
  checkedI128_of_le (add_nonneg h.total_nonneg h.units_pos.le) h.total_le

lemma checked_count (h : Room sides total count units) :
    checkedU64 (count + 1) = some (count + 1) :=
  checkedU64_eq_some.mpr ⟨h.count_lt, rfl⟩

end Room

variable {e : FlowEntry}

lemma LevelAccumulator.run_applyAdd {l : LevelAccumulator}
    (h : Room l.sides l.totalUnits l.tradeCount e.units) :
    (applyAdd e).run l = .ok () (l.added e) := by
  have hside := SideUnits.add_eq_ok h.balanced h.units_pos h.total_le e.aggressor
  rw [applyAdd, run_update_seq (f := countTrade) (by rw [countTrade, h.checked_count]; rfl),
    run_update_seq (f := addTotal e.units) (by rw [addTotal, h.checked_total]; rfl),
    run_update_seq (f := addSide e.units e.aggressor) (by rw [addSide, hside]; rfl)]
  rfl

lemma SourceAccumulator.run_applyAdd {s : SourceAccumulator}
    (h : Room s.sides s.totalUnits s.tradeCount e.units)
    (hlevel : Room (s.levelEntry e).sides (s.levelEntry e).totalUnits (s.levelEntry e).tradeCount
      e.units) : (applyAdd e).run s = .ok () (s.added e) := by
  have hside := SideUnits.add_eq_ok h.balanced h.units_pos h.total_le e.aggressor
  rw [applyAdd, run_update_seq (f := countTrade) (by rw [countTrade, h.checked_count]; rfl),
    run_update_seq (f := addTotal e.units) (by rw [addTotal, h.checked_total]; rfl),
    run_update_seq (f := addSide e.units e.aggressor) (by rw [addSide, hside]; rfl), run_modify_seq]
  exact run_within_of_ok (LevelAccumulator.run_applyAdd hlevel)

variable {s : CandleFlowBuilder}

lemma CandleFlowBuilder.run_applyAdd (hcount : s.tradeCount + 1 < 2 ^ 64)
    (hnonneg : 0 ≤ s.totalUnits + e.units) (hfits : s.totalUnits + e.units ≤ i128Max)
    (hsource : Room (s.sourceEntry e).sides (s.sourceEntry e).totalUnits (s.sourceEntry e).tradeCount
      e.units)
    (hlevel : Room ((s.sourceEntry e).levelEntry e).sides ((s.sourceEntry e).levelEntry e).totalUnits
      ((s.sourceEntry e).levelEntry e).tradeCount e.units) :
    (applyAdd e).run s = .ok () (s.added e) := by
  have hcount' := checkedU64_eq_some.mpr ⟨hcount, rfl⟩
  have htotal := checkedI128_of_le hnonneg hfits
  rw [applyAdd, run_update_seq (f := countTrade) (by rw [countTrade, hcount']; rfl),
    run_update_seq (f := addTotal e.units) (by rw [addTotal, htotal]; rfl), run_modify_seq]
  exact run_within_of_ok (SourceAccumulator.run_applyAdd hsource hlevel)

/-! ## The accumulators account for the trades -/

/-- The accumulator of one price level. -/
def levelOf (es : List FlowEntry) : Option LevelAccumulator :=
  es.head?.map fun first =>
    ⟨sidesOf es, unitsOf es, es.length, first.timestampNs, (es.getLast?.getD first).timestampNs⟩

lemma sidesOf_concat (es : List FlowEntry) (e : FlowEntry) :
    sidesOf (es ++ [e]) = (sidesOf es).added e.units e.aggressor := by
  unfold sidesOf
  rw [sideUnitsOf_concat, sideUnitsOf_concat, sideUnitsOf_concat]
  rcases e.aggressor with _ | _ | _ <;> simp [SideUnits.added]

lemma levelOf_concat (es : List FlowEntry) (e : FlowEntry) :
    levelOf (es ++ [e]) = some (((levelOf es).getD (.new e.timestampNs)).added e) := by
  unfold levelOf
  rw [sidesOf_concat, unitsOf_concat, List.length_append, List.getLast?_concat]
  rcases es with _ | ⟨first, rest⟩
  · rfl
  · rfl

/-- A source's accumulator holds what its trades say. -/
structure SourceAccumulator.Accounts (scale : Nat) (s : SourceAccumulator) (es : List FlowEntry) :
    Prop where
  high : s.high = highOf scale es
  low : s.low = lowOf scale es
  sides : s.sides = sidesOf es
  total : s.totalUnits = unitsOf es
  count : s.tradeCount = es.length
  levels : ∀ bucket : Int, s.levels[bucket]? = levelOf (ofBucket bucket es)

/-- **A builder's accumulators hold what the trades say.** -/
structure CandleFlowBuilder.Accounts (s : CandleFlowBuilder) (es : List FlowEntry) : Prop where
  onGrid : ∀ e ∈ es, e.OnGrid s.grid
  total_le : unitsOf es ≤ i128Max
  high : s.high = highOf s.grid.priceScale es
  low : s.low = lowOf s.grid.priceScale es
  total : s.totalUnits = unitsOf es
  count : s.tradeCount = es.length
  absent : ∀ source : FlowSource, s.sources[source]? = none ↔ ofSource source es = []
  present : ∀ (source : FlowSource) (acc : SourceAccumulator), s.sources[source]? = some acc →
    acc.Accounts s.grid.priceScale (ofSource source es)

lemma SourceAccumulator.accounts_new (scale : Nat) : SourceAccumulator.new.Accounts scale [] := by
  refine ⟨rfl, rfl, rfl, rfl, rfl, ?_⟩
  intro bucket
  exact Std.ExtTreeMap.getElem?_empty

variable {scale : Nat}

lemma raiseHigh_highOf (he : e.price.fixed.scale = scale) (es : List FlowEntry) :
    raiseHigh (highOf scale es) e.price = highOf scale (es ++ [e]) := by
  obtain ⟨source, bucket, ⟨⟨c, sc⟩⟩, units, aggressor, ts⟩ := e
  cases he
  unfold highOf raiseHigh
  rw [List.map_append, List.map_singleton, max?_concat]
  generalize (es.map (·.price.fixed.coefficient)).max? = highest
  rcases highest with _ | y
  · rfl
  · show some (maxPrice ⟨⟨y, sc⟩⟩ ⟨⟨c, sc⟩⟩) = some ⟨⟨max y c, sc⟩⟩
    grind [maxPrice]

lemma lowerLow_lowOf (he : e.price.fixed.scale = scale) (es : List FlowEntry) :
    lowerLow (lowOf scale es) e.price = lowOf scale (es ++ [e]) := by
  obtain ⟨source, bucket, ⟨⟨c, sc⟩⟩, units, aggressor, ts⟩ := e
  cases he
  unfold lowOf lowerLow
  rw [List.map_append, List.map_singleton, min?_concat]
  generalize (es.map (·.price.fixed.coefficient)).min? = lowest
  rcases lowest with _ | y
  · rfl
  · show some (minPrice ⟨⟨y, sc⟩⟩ ⟨⟨c, sc⟩⟩) = some ⟨⟨min y c, sc⟩⟩
    grind [minPrice]

/-- One trade more in a source. -/
lemma SourceAccumulator.Accounts.added {s : SourceAccumulator} (h : s.Accounts scale es)
    (he : e.price.fixed.scale = scale) : (s.added e).Accounts scale (es ++ [e]) := by
  refine ⟨?_, ?_, ?_, ?_, ?_, ?_⟩
  · rw [← raiseHigh_highOf he, ← h.high]
    rfl
  · rw [← lowerLow_lowOf he, ← h.low]
    rfl
  · rw [sidesOf_concat, ← h.sides]
    rfl
  · rw [unitsOf_concat, ← h.total]
    rfl
  · rw [List.length_append, ← h.count]
    rfl
  · intro bucket
    show (s.levels.insert e.bucket ((s.levelEntry e).added e))[bucket]? = _
    rw [OrdMap.getElem?_insert, ofBucket_concat]
    split_ifs with hb
    · subst hb
      rw [levelOf_concat, ← h.levels]
      rfl
    · exact h.levels bucket

/-- The accumulator of a source, existing or new. -/
lemma CandleFlowBuilder.Accounts.sourceEntry (h : s.Accounts es) (e : FlowEntry) :
    (s.sourceEntry e).Accounts s.grid.priceScale (ofSource e.source es) := by
  unfold CandleFlowBuilder.sourceEntry
  rcases hacc : s.sources[e.source]? with _ | acc
  · rw [(h.absent e.source).mp hacc]
    exact SourceAccumulator.accounts_new _
  · exact h.present e.source acc hacc

lemma CandleFlowBuilder.getElem?_added (s : CandleFlowBuilder) (e : FlowEntry)
    (source : FlowSource) : (s.added e).sources[source]? =
      if e.source = source then some ((s.sourceEntry e).added e) else s.sources[source]? :=
  OrdMap.getElem?_insert ..

/-- **One trade more.** -/
theorem CandleFlowBuilder.Accounts.added (h : s.Accounts es) (he : e.OnGrid s.grid)
    (hfits : unitsOf es + e.units ≤ i128Max) : (s.added e).Accounts (es ++ [e]) := by
  refine ⟨?_, ?_, ?_, ?_, ?_, ?_, ?_, ?_⟩
  · intro e' he'
    rcases List.mem_append.mp he' with he' | he'
    · exact h.onGrid e' he'
    · rw [List.mem_singleton.mp he']
      exact he
  · rw [unitsOf_concat]
    exact hfits
  · rw [show (s.added e).grid = s.grid from rfl, ← raiseHigh_highOf he.scale_eq, ← h.high]
    rfl
  · rw [show (s.added e).grid = s.grid from rfl, ← lowerLow_lowOf he.scale_eq, ← h.low]
    rfl
  · rw [unitsOf_concat, ← h.total]
    rfl
  · rw [List.length_append, ← h.count]
    rfl
  · intro source
    rw [s.getElem?_added, ofSource_concat]
    by_cases hs : e.source = source
    · rw [if_pos hs, if_pos hs]
      exact iff_of_false (Option.some_ne_none _) (List.append_ne_nil_of_right_ne_nil _ (by simp))
    · rw [if_neg hs, if_neg hs]
      exact h.absent source
  · intro source acc hacc
    rw [s.getElem?_added] at hacc
    rw [ofSource_concat]
    split_ifs at hacc ⊢ with hs
    · cases hacc
      subst hs
      exact (h.sourceEntry e).added he.scale_eq
    · exact h.present source acc hacc

/-! ## Room -/

/-- Some trades leave room for the units of another one. -/
structure Fits (es : List FlowEntry) (units : Int) : Prop where
  pos : ∀ e ∈ es, 0 < e.units
  units_pos : 0 < units
  total_le : unitsOf es + units ≤ i128Max
  count_lt : es.length + 1 < 2 ^ 64

namespace Fits

variable {es : List FlowEntry} {units : Int}

lemma filter (h : Fits es units) (p : FlowEntry → Bool) : Fits (es.filter p) units := by
  refine ⟨?_, h.units_pos, ?_, ?_⟩
  · intro e he
    exact h.pos e (List.mem_filter.mp he).1
  · have hle := unitsOf_filter_le h.pos p
    have htotal := h.total_le
    omega
  · have hle := List.length_filter_le p es
    have hcount := h.count_lt
    omega

lemma room (h : Fits es units) : Room (sidesOf es) (unitsOf es) es.length units :=
  ⟨sidesOf_balanced h.pos, h.units_pos, h.total_le, h.count_lt⟩

end Fits

/-- The accumulator of a price level, existing or new. -/
lemma levelOf_getD (es : List FlowEntry) (timestampNs : Int) :
    ((levelOf es).getD (.new timestampNs)).sides = sidesOf es ∧
      ((levelOf es).getD (.new timestampNs)).totalUnits = unitsOf es ∧
      ((levelOf es).getD (.new timestampNs)).tradeCount = es.length := by
  rcases es with _ | ⟨first, rest⟩
  · exact ⟨rfl, rfl, rfl⟩
  · exact ⟨rfl, rfl, rfl⟩

namespace CandleFlowBuilder

variable {s : CandleFlowBuilder} {es : List FlowEntry} {e : FlowEntry}

/-- **An addition with room goes through.** -/
theorem Accounts.run_applyAdd (h : s.Accounts es) (hfits : Fits es e.units) :
    (applyAdd e).run s = .ok () (s.added e) := by
  have hsource := h.sourceEntry e
  have hnonneg := unitsOf_nonneg hfits.pos
  have hunits := hfits.units_pos
  obtain ⟨hsides, htotal, hcount⟩ :=
    levelOf_getD (ofBucket e.bucket (ofSource e.source es)) e.timestampNs
  refine CandleFlowBuilder.run_applyAdd ?_ ?_ ?_ ?_ ?_
  · rw [h.count]
    exact hfits.count_lt
  · rw [h.total]
    omega
  · rw [h.total]
    exact hfits.total_le
  · rw [hsource.sides, hsource.total, hsource.count]
    exact (hfits.filter _).room
  · rw [SourceAccumulator.levelEntry, hsource.levels, hsides, htotal, hcount]
    exact ((hfits.filter _).filter _).room

/-- What a passed preflight says. -/
structure PreflightPassed (s : CandleFlowBuilder) (e : FlowEntry) : Prop where
  trades : s.tradeCount < s.config.maxTradesPerCandle
  source : s.sources[e.source]? = none → s.sources.size < s.config.maxSources
  level : ∀ acc : SourceAccumulator, s.sources[e.source]? = some acc → acc.levels[e.bucket]? = none →
    acc.levels.size < s.config.maxLevelsPerSource
  count_lt : s.tradeCount + 1 < 2 ^ 64
  total_le : s.totalUnits + e.units ≤ i128Max

lemma preflightAdd_ok (h : s.preflightAdd e = .ok ()) : s.PreflightPassed e := by
  unfold preflightAdd at h
  rw [check_eq_ok, check_eq_ok, check_eq_ok, not_le] at h
  obtain ⟨htrades, hsource, hlevel, h⟩ := h
  obtain ⟨_, hcount, h⟩ := bind_eq_ok.mp h
  obtain ⟨_, htotal, -⟩ := bind_eq_ok.mp h
  rw [orOverflow_eq_ok, checkedU64_eq_some] at hcount
  rw [orOverflow_eq_ok, checkedI128_eq_some] at htotal
  refine ⟨htrades, ?_, ?_, hcount.1, htotal.1.2⟩
  · intro hnone
    rw [hnone] at hsource
    exact not_le.mp fun hle => hsource ⟨rfl, hle⟩
  · intro acc hacc hnone
    rw [hacc] at hlevel
    simp only [Option.any_some, levelsFull, hnone, Option.isNone_none, Bool.true_and,
      decide_eq_true_eq, not_le] at hlevel
    exact hlevel

lemma Accounts.fits (h : s.Accounts es) (he : 0 < e.units) (hpassed : s.PreflightPassed e) :
    Fits es e.units := by
  refine ⟨fun e' he' => (h.onGrid e' he').units_pos, he, ?_, ?_⟩
  · rw [← h.total]
    exact hpassed.total_le
  · rw [← h.count]
    exact hpassed.count_lt

end CandleFlowBuilder

/-! ## The candle of some trades -/

/-- What is counted of a trade, if the grid has a place for it. -/
def GridSpec.entryOf (g : GridSpec) (trade : TradeInput) : Option FlowEntry := do
  let bucket ← (g.priceBucket trade.price).toOption
  let tick ← (g.priceTick trade.price).toOption
  let units ← (g.quantityUnits trade.quantity).toOption
  some ⟨trade.source, bucket, ⟨⟨tick * g.tickSize.coefficient, g.priceScale⟩⟩, units, trade.aggressor,
    trade.timestampNs⟩

/-- The sources of some trades, in order. -/
def sourcesOf (es : List FlowEntry) : List FlowSource := (es.map (·.source)).toFinset.sort (· ≤ ·)

/-- The buckets of some trades, in order. -/
def bucketsOf (es : List FlowEntry) : List Int := (es.map (·.bucket)).toFinset.sort (· ≤ ·)

/-- One price level: the trades of one source in one bucket. -/
def levelFlow (g : GridSpec) (bucket : Int) (es : List FlowEntry) : PriceLevelFlow where
  price := g.bucketPrice bucket
  buyVolume := g.volume (sideUnitsOf .buy es)
  sellVolume := g.volume (sideUnitsOf .sell es)
  unknownVolume := g.volume (sideUnitsOf .unknown es)
  totalVolume := g.volume (unitsOf es)
  delta := ⟨sideUnitsOf .buy es - sideUnitsOf .sell es, g.quantityScale⟩
  tradeCount := es.length
  firstTimestampNs := (es.map (·.timestampNs)).min?.getD 0
  lastTimestampNs := (es.map (·.timestampNs)).max?.getD 0

/-- The trades of one source. -/
def sourceFlow (g : GridSpec) (source : FlowSource) (es : List FlowEntry) : SourceCandleFlow where
  source := source
  high := highOf g.priceScale es
  low := lowOf g.priceScale es
  buyVolume := g.volume (sideUnitsOf .buy es)
  sellVolume := g.volume (sideUnitsOf .sell es)
  unknownVolume := g.volume (sideUnitsOf .unknown es)
  totalVolume := g.volume (unitsOf es)
  delta := ⟨sideUnitsOf .buy es - sideUnitsOf .sell es, g.quantityScale⟩
  tradeCount := es.length
  levels := (bucketsOf es).map fun bucket => levelFlow g bucket (ofBucket bucket es)

/-- **The candle of some trades.** -/
def candleFlow (instrument : InstrumentId) (g : GridSpec) (time : TimeframeSpec) (startTs : Int)
    (state : FlowState) (es : List FlowEntry) : CandleFlow where
  schemaVersion := 1
  state := state
  instrument := instrument
  startTs := startTs
  endTs := startTs + time.candleNs
  high := highOf g.priceScale es
  low := lowOf g.priceScale es
  totalVolume := g.volume (unitsOf es)
  tradeCount := es.length
  sources := (sourcesOf es).map fun source => sourceFlow g source (ofSource source es)

lemma forall_bucketsOf {p : Int → Prop} :
    (∀ bucket ∈ bucketsOf es, p bucket) ↔ ∀ e ∈ es, p e.bucket := by
  simp [bucketsOf]

lemma forall_sourcesOf {p : FlowSource → Prop} :
    (∀ source ∈ sourcesOf es, p source) ↔ ∀ e ∈ es, p e.source := by
  simp [sourcesOf]

/-- The trades are in the order of their times. -/
def InOrder (es : List FlowEntry) : Prop := es.Pairwise fun e e' => e.timestampNs ≤ e'.timestampNs

lemma InOrder.filter (h : InOrder es) (p : FlowEntry → Bool) : InOrder (es.filter p) :=
  List.Pairwise.filter p h

/-- The first trade is the earliest, the last one the latest. -/
lemma InOrder.extremes {first : FlowEntry} {rest : List FlowEntry} (h : InOrder (first :: rest)) :
    ((first :: rest).map (·.timestampNs)).min? = some first.timestampNs ∧
      ((first :: rest).map (·.timestampNs)).max? =
        some (((first :: rest).getLast?.getD first).timestampNs) := by
  constructor
  · rw [List.min?_eq_some_iff]
    refine ⟨List.mem_map_of_mem List.mem_cons_self, ?_⟩
    intro t ht
    obtain ⟨e, he, rfl⟩ := List.mem_map.mp ht
    rcases List.mem_cons.mp he with rfl | he
    · exact le_rfl
    · exact (List.pairwise_cons.mp h).1 e he
  · rw [List.max?_eq_some_iff, List.getLast?_eq_some_getLast (List.cons_ne_nil first rest),
      Option.getD_some]
    refine ⟨List.mem_map_of_mem (List.getLast_mem _), ?_⟩
    intro t ht
    obtain ⟨e, he, rfl⟩ := List.mem_map.mp ht
    have hsplit := List.dropLast_append_getLast (List.cons_ne_nil first rest)
    rw [← hsplit] at h he
    rcases List.mem_append.mp he with he | he
    · exact (List.pairwise_append.mp h).2.2 e he _ (List.mem_singleton.mpr rfl)
    · rw [List.mem_singleton.mp he]

/-- A difference of two volumes fits. -/
lemma checked_delta {u : SideUnits} {total : Int} (h : u.Balanced total) (hle : total ≤ i128Max) :
    checkedI128 (u.buy - u.sell) = some (u.buy - u.sell) := by
  obtain ⟨hbuy, hsell, hunknown, hsum⟩ := h
  have hmin : i128Min ≤ -i128Max := by decide
  exact checkedI128_eq_some.mpr ⟨⟨by omega, by omega⟩, rfl⟩

namespace CandleFlowBuilder

variable {s : CandleFlowBuilder} {es : List FlowEntry}

variable {ts : List FlowEntry}

/-- A price level has a snapshot iff its bucket has a price. -/
lemma levelSnapshot_eq_ok {bucket : Int} {level : LevelAccumulator} {flow : PriceLevelFlow}
    (hvalid : s.grid.Valid) (horder : InOrder ts) (hpos : ∀ e ∈ ts, 0 < e.units)
    (hle : unitsOf ts ≤ i128Max) (hlevel : levelOf ts = some level)
    (hfits : bucket * (s.grid.tickSize.coefficient * s.grid.levelsPerBucket) ≤ i128Max) :
    s.levelSnapshot bucket level = .ok flow ↔
      0 < bucket ∧ flow = levelFlow s.grid bucket ts := by
  rcases ts with _ | ⟨first, rest⟩
  · cases hlevel
  · have hsides := sidesOf_balanced hpos
    obtain ⟨hfirst, hlast⟩ := horder.extremes
    cases hlevel
    -- Only the price can fail.
    have heq : s.levelSnapshot bucket ⟨sidesOf (first :: rest), unitsOf (first :: rest),
        (first :: rest).length, first.timestampNs,
        ((first :: rest).getLast?.getD first).timestampNs⟩ = (s.grid.priceAt bucket >>= fun price =>
          .ok { levelFlow s.grid bucket (first :: rest) with price }) := by
      unfold levelSnapshot levelFlow
      rw [checked_delta hsides hle, GridSpec.quantityAt_of_nonneg hsides.buy,
        GridSpec.quantityAt_of_nonneg hsides.sell, GridSpec.quantityAt_of_nonneg hsides.unknown,
        GridSpec.quantityAt_of_nonneg (unitsOf_nonneg hpos), hfirst, hlast]
      rfl
    rw [heq, bind_eq_ok]
    constructor
    · rintro ⟨price, hprice, hflow⟩
      obtain ⟨hbucket, -, rfl⟩ := (GridSpec.priceAt_eq_ok hvalid).mp hprice
      exact ⟨hbucket, (Except.ok.inj hflow).symm⟩
    · rintro ⟨hbucket, rfl⟩
      exact ⟨_, (GridSpec.priceAt_eq_ok hvalid).mpr ⟨hbucket, hfits, rfl⟩, rfl⟩

lemma levelOf_ofBucket_eq_none {bucket : Int} :
    levelOf (ofBucket bucket ts) = none ↔ ∀ e ∈ ts, e.bucket ≠ bucket := by
  rw [levelOf, Option.map_eq_none_iff, List.head?_eq_none_iff, ofBucket, List.filter_eq_nil_iff]
  simp only [decide_eq_true_eq]

/-- The buckets of a source. -/
lemma keys_levels {scale : Nat} {acc : SourceAccumulator} (hacc : acc.Accounts scale ts) :
    acc.levels.toList.map Prod.fst = bucketsOf ts := by
  refine OrdMap.keys_eq_sort fun bucket => ?_
  rw [hacc.levels, ne_eq, levelOf_ofBucket_eq_none, List.mem_toFinset, List.mem_map]
  push Not
  rfl

lemma sourceSnapshot_eq_ok {source : FlowSource} {acc : SourceAccumulator}
    {flow : SourceCandleFlow} (hvalid : s.grid.Valid) (horder : InOrder ts)
    (hgrid : ∀ e ∈ ts, e.OnGrid s.grid) (hle : unitsOf ts ≤ i128Max)
    (hacc : acc.Accounts s.grid.priceScale ts) :
    s.sourceSnapshot source acc = .ok flow ↔
      (∀ e ∈ ts, 0 < e.bucket) ∧ flow = sourceFlow s.grid source ts := by
  have hpos : ∀ e ∈ ts, 0 < e.units := fun e he => (hgrid e he).units_pos
  have hsides := sidesOf_balanced hpos
  have hlevels : ∀ entry ∈ acc.levels.toList, ∀ flow,
      s.levelSnapshot entry.1 entry.2 = .ok flow ↔
        0 < entry.1 ∧ flow = levelFlow s.grid entry.1 (ofBucket entry.1 ts) := by
    intro entry hentry flow
    have hlevel : levelOf (ofBucket entry.1 ts) = some entry.2 := by
      rw [← hacc.levels]
      exact OrdMap.mem_toList.mp hentry
    have hsome : ∃ e ∈ ts, e.bucket = entry.1 := by
      by_contra hnone
      push Not at hnone
      rw [levelOf_ofBucket_eq_none.mpr hnone] at hlevel
      exact Option.some_ne_none _ hlevel.symm
    obtain ⟨e, he, hbucket⟩ := hsome
    refine levelSnapshot_eq_ok hvalid (horder.filter _) ?_ ?_ hlevel ?_
    · intro e' he'
      exact hpos e' (List.mem_filter.mp he').1
    · exact (unitsOf_filter_le hpos _).trans hle
    · rw [← hbucket]
      exact (hgrid e he).bucket_le
  have hbuckets : (∀ entry ∈ acc.levels.toList, 0 < entry.1) ↔ ∀ e ∈ ts, 0 < e.bucket := by
    rw [← forall_bucketsOf, ← keys_levels hacc, List.forall_mem_map]
  have heq : s.sourceSnapshot source acc = (acc.levels.toList.mapM (fun entry =>
      s.levelSnapshot entry.1 entry.2) >>= fun levels =>
        .ok { sourceFlow s.grid source ts with levels }) := by
    unfold sourceSnapshot sourceFlow
    rw [hacc.sides, hacc.total, hacc.high, hacc.low, hacc.count, checked_delta hsides hle,
      GridSpec.quantityAt_of_nonneg hsides.buy, GridSpec.quantityAt_of_nonneg hsides.sell,
      GridSpec.quantityAt_of_nonneg hsides.unknown,
      GridSpec.quantityAt_of_nonneg (unitsOf_nonneg hpos)]
    rfl
  rw [heq, bind_eq_ok, ← hbuckets]
  have hlisted : acc.levels.toList.map (fun entry => levelFlow s.grid entry.1 (ofBucket entry.1 ts)) =
      (sourceFlow s.grid source ts).levels := by
    rw [sourceFlow, ← keys_levels hacc, List.map_map]
    rfl
  constructor
  · rintro ⟨levels, hmap, hflow⟩
    obtain ⟨hall, rfl⟩ := (mapM_eq_ok_iff hlevels).mp hmap
    refine ⟨hall, ?_⟩
    rw [hlisted] at hflow
    exact (Except.ok.inj hflow).symm
  · rintro ⟨hall, rfl⟩
    refine ⟨_, (mapM_eq_ok_iff hlevels).mpr ⟨hall, rfl⟩, ?_⟩
    rw [hlisted]

/-- The sources of a candle. -/
lemma Accounts.keys_sources (h : s.Accounts es) : s.sources.toList.map Prod.fst = sourcesOf es := by
  refine OrdMap.keys_eq_sort fun source => ?_
  rw [ne_eq, h.absent, ofSource, List.filter_eq_nil_iff, List.mem_toFinset, List.mem_map]
  push Not
  simp only [decide_eq_true_eq]

/-- **When a candle has a snapshot**: its end fits and every trade is in a bucket with a price. It is
the candle of the trades then. -/
theorem Accounts.snapshot_eq_ok (h : s.Accounts es) (hvalid : s.grid.Valid) (horder : InOrder es)
    {startTs : Int} (hstart : s.candleStart = some startTs) {state : FlowState} {flow : CandleFlow} :
    s.snapshot state = .ok flow ↔
      (i64Min ≤ startTs + s.time.candleNs ∧ startTs + s.time.candleNs ≤ i64Max) ∧
      (∀ e ∈ es, 0 < e.bucket) ∧
      flow = candleFlow s.instrument s.grid s.time startTs state es := by
  have hpos : ∀ e ∈ es, 0 < e.units := fun e he => (h.onGrid e he).units_pos
  have hsources : ∀ entry ∈ s.sources.toList, ∀ flow,
      s.sourceSnapshot entry.1 entry.2 = .ok flow ↔
        (∀ e ∈ ofSource entry.1 es, 0 < e.bucket) ∧
          flow = sourceFlow s.grid entry.1 (ofSource entry.1 es) := by
    intro entry hentry flow
    refine sourceSnapshot_eq_ok hvalid (horder.filter _) ?_ ?_ ?_
    · intro e he
      exact h.onGrid e (List.mem_filter.mp he).1
    · exact (unitsOf_filter_le hpos _).trans h.total_le
    · exact h.present entry.1 entry.2 (OrdMap.mem_toList.mp hentry)
  have hbuckets : (∀ entry ∈ s.sources.toList, ∀ e ∈ ofSource entry.1 es, 0 < e.bucket) ↔
      ∀ e ∈ es, 0 < e.bucket := by
    have hkeys := h.keys_sources
    rw [← List.forall_mem_map (f := Prod.fst)
      (P := fun source => ∀ e ∈ ofSource source es, 0 < e.bucket), hkeys, forall_sourcesOf]
    constructor
    · intro hall e he
      exact hall e he e (List.mem_filter.mpr ⟨he, decide_eq_true rfl⟩)
    · intro hall _ _ e he
      exact hall e (List.mem_filter.mp he).1
  have hlisted : s.sources.toList.map (fun entry => sourceFlow s.grid entry.1 (ofSource entry.1 es)) =
      (candleFlow s.instrument s.grid s.time startTs state es).sources := by
    rw [candleFlow, ← h.keys_sources, List.map_map]
    rfl
  unfold snapshot
  rw [hstart, h.total, h.high, h.low, h.count,
    GridSpec.quantityAt_of_nonneg (unitsOf_nonneg hpos)]
  dsimp only
  rw [bind_eq_ok]
  constructor
  · rintro ⟨endTs, hend, hflow⟩
    rw [orOverflow_eq_ok, checkedI64_eq_some] at hend
    obtain ⟨sources, hmap, hflow⟩ := bind_eq_ok.mp hflow
    obtain ⟨hall, rfl⟩ := (mapM_eq_ok_iff hsources).mp hmap
    rw [hlisted, hend.2] at hflow
    exact ⟨hend.1, hbuckets.mp hall, (Except.ok.inj hflow).symm⟩
  · rintro ⟨hend, hall, rfl⟩
    refine ⟨_, orOverflow_eq_ok.mpr (checkedI64_eq_some.mpr ⟨hend, rfl⟩), ?_⟩
    refine bind_eq_ok.mpr ⟨_, (mapM_eq_ok_iff hsources).mpr ⟨hbuckets.mpr hall, rfl⟩, ?_⟩
    rw [hlisted]
    rfl

end CandleFlowBuilder

end Marketfeed
