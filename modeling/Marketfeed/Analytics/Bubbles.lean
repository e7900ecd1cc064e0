import Marketfeed.Analytics.Flow
import Marketfeed.Lib.Octets
import Marketfeed.Lib.Sort

/-!
# Order-flow bubbles

Model of `crates/analytics/src/bubbles.rs`. A detector looks at each bucket of a candle and segment
after segment, tries the active filter tiers from the highest to the lowest and makes a bubble at the
first one whose threshold the bucket's strength reaches. The bubbles of each tier are sorted and cut
to the tier's limit, then near ones are merged.

Not modelled: the checks of a configuration, which nothing below depends on, and the recording of
history, which is any list of candles here.
-/

namespace Marketfeed

/-! ## Configuration -/

inductive BubbleMode
  | volume
  | delta
deriving DecidableEq

inductive BubbleTier
  | f1
  | f2
  | f3
deriving DecidableEq

def BubbleTier.priority : BubbleTier → Nat
  | .f1 => 1
  | .f2 => 2
  | .f3 => 3

inductive BubbleShape
  | circle
  | square
  | diamond
deriving DecidableEq

inductive LabelMode
  | off
  | raw
deriving DecidableEq

structure BubbleStyle where
  shape : BubbleShape
  minSize : Nat
  maxSize : Nat
  volumeCap : Quantity
  deltaCap : Quantity
  labelMode : LabelMode
deriving DecidableEq

inductive AdaptivePreset
  | ultraPermissive
  | permissive
  | balanced
  | strict
  | veryStrict
  | ultraStrict
  | extreme
  | custom
deriving DecidableEq

def AdaptivePreset.percentileBps (custom : Nat) : AdaptivePreset → Nat
  | .ultraPermissive => 4500
  | .permissive => 6000
  | .balanced => 7500
  | .strict => 8500
  | .veryStrict => 9000
  | .ultraStrict => 9500
  | .extreme => 9900
  | .custom => custom

structure AdaptiveThreshold where
  preset : AdaptivePreset
  customPercentileBps : Nat
  minimumFloor : Option Quantity
  minimumSamples : Nat
  calibrationCandles : Nat
  outlierCapPercentileBps : Nat
  spikeAdaptationBps : Nat
deriving DecidableEq

inductive ThresholdMode
  | off
  | manual (quantity : Quantity)
  | adaptive (config : AdaptiveThreshold)
deriving DecidableEq

/-- Source: `config.rs` `SourceSelector` -/
structure SourceSelector where
  venues : List VenueId
  segments : List MarketSegment
deriving DecidableEq

/-- Source: `SourceSelector::matches` -/
def SourceSelector.selects (s : SourceSelector) (source : FlowSource) : Bool :=
  (s.venues.isEmpty || s.venues.contains source.venue) &&
    (s.segments.isEmpty || s.segments.contains source.segment)

/-- Source: `BubbleFilter`, whose `tier` is its place in the configuration -/
structure BubbleFilter where
  mode : BubbleMode
  threshold : ThresholdMode
  sources : SourceSelector
  maxBubblesPerCandle : Nat
  style : BubbleStyle
deriving DecidableEq

structure MergeConfig where
  enabled : BubbleTier → Bool
  maxDistanceBuckets : Nat
  style : BubbleStyle

def MergeConfig.disabled : MergeConfig where
  enabled _ := false
  maxDistanceBuckets := 0
  style := ⟨.circle, 8, 48, ⟨⟨1, 0⟩⟩, ⟨⟨1, 0⟩⟩, .off⟩

inductive PerformanceMode
  | full
  | high (liveTierCount : Nat) (deferMerging : Bool)
deriving DecidableEq

/-- Source: `BubbleConfig`; `filter` is `f1`, `f2` and `f3` -/
structure BubbleConfig where
  filter : BubbleTier → BubbleFilter
  merge : MergeConfig
  performance : PerformanceMode

inductive DetectionPhase
  | live
  | final
deriving DecidableEq

inductive BubbleDirection
  | sell
  | neutral
  | buy
deriving DecidableEq

/-- The declaration order. -/
def BubbleDirection.rank : BubbleDirection → Nat
  | .sell => 0
  | .neutral => 1
  | .buy => 2

/-- Source: `match delta.cmp(&0)` -/
def BubbleDirection.ofDelta (delta : Int) : BubbleDirection :=
  if delta < 0 then .sell else if delta = 0 then .neutral else .buy

structure OrderFlowBubble where
  id : UInt64
  instrument : InstrumentId
  candleStartNs : Int
  candleEndNs : Int
  segment : MarketSegment
  sources : List VenueId
  tier : BubbleTier
  mode : BubbleMode
  direction : BubbleDirection
  anchorPrice : Price
  lowPrice : Price
  highPrice : Price
  buyVolume : Quantity
  sellVolume : Quantity
  unknownVolume : Quantity
  totalVolume : Quantity
  delta : Fixed
  strength : Fixed
  threshold : Fixed
  visualSize : Nat
  label : Option Fixed
  shape : BubbleShape
  mergedCount : Nat
deriving DecidableEq

/-! ## Buckets of a candle -/

structure CandidateKey where
  segment : MarketSegment
  bucket : Int
deriving DecidableEq

/-- Keys are ordered by segment, then by bucket. -/
def CandidateKey.order (key : CandidateKey) : ℕ ×ₗ ℤ := toLex (key.segment.rank, key.bucket)

/-- Source: `candidate_keys`; the set in its order -/
def candidateKeys (candle : CandleFlow) (g : GridSpec) : Except AnalyticsError (List CandidateKey) := do
  let keys ← candle.sources.mapM fun source => source.levels.mapM fun level => do
    let bucket ← g.priceBucket level.price
    .ok (⟨source.source.segment, bucket⟩ : CandidateKey)
  .ok (sortOn CandidateKey.order keys.flatten.dedup)

structure Aggregate where
  segment : MarketSegment
  bucket : Int
  sources : List VenueId
  buyUnits : Int
  sellUnits : Int
  unknownUnits : Int
  totalUnits : Int
deriving DecidableEq

/-- A set of venues, in its order. -/
def venueSet (venues : List VenueId) : List VenueId := sortOn (fun v => v.val.toNat) venues.dedup

/-- Source: the body of the inner loop of `aggregate_for` -/
def Aggregate.addLevel (g : GridSpec) (venue : VenueId) (a : Aggregate) (level : PriceLevelFlow) :
    Except AnalyticsError Aggregate := do
  let bucket ← g.priceBucket level.price
  if bucket ≠ a.bucket then .ok a
  else do
    let buy ← g.nonNegativeQuantityUnits level.buyVolume
    let buyUnits ← orOverflow "aggregating buy volume" (checkedI128 (a.buyUnits + buy))
    let sell ← g.nonNegativeQuantityUnits level.sellVolume
    let sellUnits ← orOverflow "aggregating sell volume" (checkedI128 (a.sellUnits + sell))
    let unknown ← g.nonNegativeQuantityUnits level.unknownVolume
    let unknownUnits ← orOverflow "aggregating unknown volume" (checkedI128 (a.unknownUnits + unknown))
    let total ← g.quantityUnits level.totalVolume
    let totalUnits ← orOverflow "aggregating total volume" (checkedI128 (a.totalUnits + total))
    .ok { a with sources := a.sources ++ [venue], buyUnits, sellUnits, unknownUnits, totalUnits }

def aggregateFor (candle : CandleFlow) (key : CandidateKey) (selector : SourceSelector) (g : GridSpec) :
    Except AnalyticsError Aggregate := do
  let a ← candle.sources.foldlM (fun a source =>
    if source.source.segment ≠ key.segment ∨ ¬ selector.selects source.source then .ok a
    else source.levels.foldlM (Aggregate.addLevel g source.source.venue) a)
    ⟨key.segment, key.bucket, [], 0, 0, 0, 0⟩
  .ok { a with sources := venueSet a.sources }

def Aggregate.deltaUnits (a : Aggregate) : Except AnalyticsError Int :=
  orOverflow "calculating bubble delta" (checkedI128 (a.buyUnits - a.sellUnits))

/-- Source: `u128::try_from` of an `i128` -/
def toU128 (operation : String) (x : Int) : Except AnalyticsError Nat :=
  orOverflow operation (if 0 ≤ x then some x.toNat else none)

def Aggregate.strengthUnits (a : Aggregate) (mode : BubbleMode) : Except AnalyticsError Nat := do
  let value ← match mode with
    | .volume => Except.ok a.totalUnits
    | .delta => do
      let delta ← a.deltaUnits
      orOverflow "calculating absolute bubble delta" (checkedI128 delta.natAbs)
  toU128 "converting bubble strength" value

/-! ## Thresholds -/

inductive ThresholdBaseline
  | off
  | manual (threshold : Nat)
  | floorOnly (threshold : Option Nat)
  | adaptive (floor cap historical historicalWeightBps spikeWeightBps : Nat)
deriving DecidableEq

/-- Result of a checked `u128` operation. -/
def checkedU128 (x : Nat) : Option Nat := if x < 2 ^ 128 then some x else none

def percentile (values : List Nat) (bps : Nat) : Except AnalyticsError Nat :=
  if values = [] then .error (.invalidConfig "percentile" "requires at least one sample")
  else do
    let numerator ← orOverflow "calculating percentile rank" (checkedU64 (bps * values.length))
    let rounded ← orOverflow "rounding percentile rank" (checkedU64 (numerator + 9999))
    .ok (values[min (rounded / 10000 - 1) (values.length - 1)]?.getD 0)

def weightedBps (left leftBps right rightBps : Nat) : Except AnalyticsError Nat :=
  orOverflow "calculating adaptive threshold" <| (checkedU128 (left * leftBps)).bind fun value =>
    (checkedU128 (right * rightBps)).bind fun other =>
      (checkedU128 (value + other)).map (· / 10000)

def thresholdUnits (currentStrength : Nat) : ThresholdBaseline → Except AnalyticsError (Option Nat)
  | .off => .ok none
  | .manual threshold => .ok (some threshold)
  | .floorOnly threshold => .ok threshold
  | .adaptive floor cap historical historicalWeightBps spikeWeightBps => do
    let weighted ← weightedBps historical historicalWeightBps (min currentStrength cap) spikeWeightBps
    .ok (some (max weighted floor))

def scaledSize (strength cap minSize maxSize : Nat) : Except AnalyticsError Nat := do
  let cap := max cap 1
  let scaled ← orOverflow "calculating bubble size" (checkedU128 (min strength cap * (maxSize - minSize)))
  let size := minSize + scaled / cap
  orOverflow "converting bubble size" (if size < 2 ^ 16 then some size else none)

def hashBytes (hash : UInt64) (bytes : List UInt8) : UInt64 :=
  bytes.foldl (fun hash byte => (hash ^^^ byte.toUInt64) * 1099511628211) hash

def bubbleId (candleStartNs : Int) (instrument : InstrumentId) (segment : MarketSegment) (bucket : Int)
    (tier : BubbleTier) : UInt64 :=
  hashBytes 14695981039346656037 (leBytes 8 (candleStartNs % 2 ^ 64).toNat ++
    leBytes 4 instrument.val.toNat ++ [UInt8.ofNat segment.rank] ++
    leBytes 16 (bucket % 2 ^ 128).toNat ++ [UInt8.ofNat tier.priority])

/-! ## The detector -/

/-- Source: `BubbleDetector`; `last_finalized_start_ns` is read by the recording only -/
structure BubbleDetector where
  grid : GridSpec
  config : BubbleConfig
  history : List CandleFlow

/-- The baselines found so far.
Source: `baselines` in `detect` -/
abbrev Baselines := BubbleTier → MarketSegment → Option ThresholdBaseline

namespace BubbleDetector

variable (d : BubbleDetector)

/-- Source: `BubbleDetector::active_tiers`; a configuration has at most three live tiers -/
def activeTiers (phase : DetectionPhase) : List BubbleTier :=
  match phase, d.config.performance with
  | .live, .high liveTierCount _ => [.f3, .f2, .f1].take liveTierCount
  | _, _ => [.f3, .f2, .f1]

/-- Source: the body of the loop over `candidate_keys` in `threshold_baseline` -/
def sample (filter : BubbleFilter) (segment : MarketSegment) (candle : CandleFlow) (key : CandidateKey) :
    Except AnalyticsError (Option Nat) :=
  if key.segment ≠ segment then .ok none
  else do
    let aggregate ← aggregateFor candle key filter.sources d.grid
    if aggregate.sources = [] then .ok none
    else do
      let strength ← aggregate.strengthUnits filter.mode
      .ok (if filter.mode ≠ .delta ∨ 0 < strength then some strength else none)

def thresholdBaseline (filter : BubbleFilter) (segment : MarketSegment) :
    Except AnalyticsError ThresholdBaseline :=
  match filter.threshold with
  | .off => .ok .off
  | .manual quantity => do
    let units ← d.grid.quantityUnits quantity
    ThresholdBaseline.manual <$> toU128 "converting manual threshold" units
  | .adaptive config => do
    let floor ← match config.minimumFloor with
      | none => Except.ok 0
      | some quantity => do
        let units ← d.grid.quantityUnits quantity
        toU128 "converting adaptive floor" units
    let samples ← (d.history.reverse.take config.calibrationCandles).mapM fun candle => do
      let keys ← candidateKeys candle d.grid
      keys.mapM (d.sample filter segment candle)
    let samples := samples.flatten.filterMap id
    if samples.length < config.minimumSamples then
      .ok (.floorOnly (if floor > 0 then some floor else none))
    else do
      let cap ← percentile (sortOn id samples) config.outlierCapPercentileBps
      let historical ← percentile (sortOn id (samples.map (min · cap)))
        (config.preset.percentileBps config.customPercentileBps)
      .ok (.adaptive floor cap historical (10000 - config.spikeAdaptationBps) config.spikeAdaptationBps)

/-- The strength cap of a style. -/
def capUnits (style : BubbleStyle) (mode : BubbleMode) (operation : String) :
    Except AnalyticsError Nat := do
  let units ← d.grid.quantityUnits (match mode with
    | .volume => style.volumeCap
    | .delta => style.deltaCap)
  toU128 operation units

def materialize (candle : CandleFlow) (tier : BubbleTier) (a : Aggregate) (strength threshold : Nat) :
    Except AnalyticsError OrderFlowBubble := do
  let filter := d.config.filter tier
  let deltaUnits ← a.deltaUnits
  let cap ← d.capUnits filter.style filter.mode "converting bubble strength cap"
  let strengthUnits ← orOverflow "converting bubble strength" (checkedI128 strength)
  let thresholdUnits ← orOverflow "converting bubble threshold" (checkedI128 threshold)
  let anchorPrice ← d.grid.priceAt a.bucket
  let buyVolume ← d.grid.quantityAt a.buyUnits
  let sellVolume ← d.grid.quantityAt a.sellUnits
  let unknownVolume ← d.grid.quantityAt a.unknownUnits
  let totalVolume ← d.grid.quantityAt a.totalUnits
  let visualSize ← scaledSize strength cap filter.style.minSize filter.style.maxSize
  .ok {
    id := bubbleId candle.startTs candle.instrument a.segment a.bucket tier
    instrument := candle.instrument
    candleStartNs := candle.startTs
    candleEndNs := candle.endTs
    segment := a.segment
    sources := a.sources
    tier
    mode := filter.mode
    direction := .ofDelta deltaUnits
    anchorPrice
    lowPrice := anchorPrice
    highPrice := anchorPrice
    buyVolume
    sellVolume
    unknownVolume
    totalVolume
    delta := ⟨deltaUnits, d.grid.quantityScale⟩
    strength := ⟨strengthUnits, d.grid.quantityScale⟩
    threshold := ⟨thresholdUnits, d.grid.quantityScale⟩
    visualSize
    label := match filter.style.labelMode with
      | .off => none
      | .raw => some ⟨match filter.mode with
          | .volume => strengthUnits
          | .delta => deltaUnits, d.grid.quantityScale⟩
    shape := filter.style.shape
    mergedCount := 1 }

/-- Source: `baselines.entry(baseline_key)` -/
def cachedBaseline (cache : Baselines) (tier : BubbleTier) (segment : MarketSegment) :
    Except AnalyticsError (ThresholdBaseline × Baselines) :=
  match cache tier segment with
  | some baseline => .ok (baseline, cache)
  | none => do
    let baseline ← d.thresholdBaseline (d.config.filter tier) segment
    .ok (baseline, fun t s => if t = tier ∧ s = segment then some baseline else cache t s)

/-- The aggregate of a bucket for a tier and its strength, if the tier looks at it.
Source: the first checks in the loop over the tiers of `detect` -/
def strengthFor (candle : CandleFlow) (key : CandidateKey) (tier : BubbleTier) :
    Except AnalyticsError (Option (Aggregate × Nat)) :=
  let filter := d.config.filter tier
  if filter.threshold = .off then .ok none
  else do
    let aggregate ← aggregateFor candle key filter.sources d.grid
    if aggregate.sources = [] then .ok none
    else do
      let strength ← aggregate.strengthUnits filter.mode
      .ok (if filter.mode = .delta ∧ strength = 0 then none else some (aggregate, strength))

/-- Source: the loop over the tiers of `detect` -/
def tryTiers (candle : CandleFlow) (key : CandidateKey) : List BubbleTier → Baselines →
    Except AnalyticsError (Option OrderFlowBubble × Baselines)
  | [], cache => .ok (none, cache)
  | tier :: tiers, cache => do
    match ← d.strengthFor candle key tier with
    | none => tryTiers candle key tiers cache
    | some (aggregate, strength) => do
      let (baseline, cache) ← d.cachedBaseline cache tier key.segment
      match ← thresholdUnits strength baseline with
      | none => tryTiers candle key tiers cache
      | some threshold =>
        if threshold ≤ strength then do
          let bubble ← d.materialize candle tier aggregate strength threshold
          .ok (some bubble, cache)
        else tryTiers candle key tiers cache

/-- The bubbles of the buckets, in the order of the keys.
Source: the loop over the keys of `detect`; `by_tier` has those of each tier in this order -/
def scanKeys (candle : CandleFlow) (tiers : List BubbleTier) : List CandidateKey → Baselines →
    Except AnalyticsError (List OrderFlowBubble)
  | [], _ => .ok []
  | key :: keys, cache => do
    let (bubble, cache) ← d.tryTiers candle key tiers cache
    let bubbles ← scanKeys candle tiers keys cache
    .ok (bubble.toList ++ bubbles)

/-- Source: the comparison that sorts a row of `by_tier` -/
def rowOrder (b : OrderFlowBubble) : ℤ ×ₗ ℤ ×ₗ ℕ :=
  toLex (-b.strength.coefficient, toLex (b.anchorPrice.fixed.coefficient, b.id.toNat))

/-- The bubbles of one tier: strongest first, cut to the limit of the tier. -/
def row (bubbles : List OrderFlowBubble) (tier : BubbleTier) : List OrderFlowBubble :=
  (sortOn rowOrder (bubbles.filter (·.tier = tier))).take (d.config.filter tier).maxBubblesPerCandle

/-- Source: `output` in `detect` before it is merged -/
def unmerged (candle : CandleFlow) (phase : DetectionPhase) :
    Except AnalyticsError (List OrderFlowBubble) := do
  let keys ← candidateKeys candle d.grid
  let bubbles ← d.scanKeys candle (d.activeTiers phase) keys fun _ _ => none
  .ok (d.row bubbles .f3 ++ d.row bubbles .f2 ++ d.row bubbles .f1)

/-! ### Merging -/

/-- Source: the comparison in `merge` -/
def mergeOrder (b : OrderFlowBubble) : ℕ ×ₗ ℕ ×ₗ ℤ ×ₗ ℤ ×ₗ ℕ :=
  toLex (b.segment.rank, toLex (b.direction.rank, toLex (b.anchorPrice.fixed.coefficient,
    toLex (-(b.tier.priority : Int), b.id.toNat))))

/-- Source: the body of the inner loop of `merge`, which stops where the answer is no -/
def continues (previous next : OrderFlowBubble) : Except AnalyticsError Bool :=
  if previous.segment ≠ next.segment ∨ previous.direction ≠ next.direction ∨
      ¬ d.config.merge.enabled next.tier then .ok false
  else do
    let previousBucket ← d.grid.priceBucket previous.anchorPrice
    let nextBucket ← d.grid.priceBucket next.anchorPrice
    let distance ← orOverflow "calculating bubble merge distance"
      ((checkedI128 (previousBucket - nextBucket)).bind fun difference => checkedI128 difference.natAbs)
    let distance ← toU128 "converting bubble merge distance" distance
    .ok (distance ≤ d.config.merge.maxDistanceBuckets)

/-- The rest of a group, and what comes after it.
Source: the inner loop of `merge` -/
def takeGroup (previous : OrderFlowBubble) : List OrderFlowBubble →
    Except AnalyticsError (List OrderFlowBubble × List OrderFlowBubble)
  | [] => .ok ([], [])
  | next :: rest => do
    if ← d.continues previous next then do
      let (group, rest) ← takeGroup next rest
      .ok (next :: group, rest)
    else .ok ([], next :: rest)

/-- Source: `anchor` in `merge_group`; of equals `max_by` takes the last -/
def strongest (first : OrderFlowBubble) (group : List OrderFlowBubble) : OrderFlowBubble :=
  let order (b : OrderFlowBubble) : ℤ ×ₗ ℤ :=
    toLex (b.strength.coefficient, -b.anchorPrice.fixed.coefficient)
  group.foldl (fun best next => if order next < order best then best else next) first

/-- The sums over a group. -/
structure MergeTotals where
  sources : List VenueId
  buy : Int
  sell : Int
  unknown : Int
  total : Int
  strength : Int
  low : Price
  high : Price
  tier : BubbleTier

/-- Source: the body of the first loop of `merge_group` -/
def addBubble (t : MergeTotals) (b : OrderFlowBubble) : Except AnalyticsError MergeTotals := do
  let buyUnits ← d.grid.nonNegativeQuantityUnits b.buyVolume
  let buy ← orOverflow "merging buy volume" (checkedI128 (t.buy + buyUnits))
  let sellUnits ← d.grid.nonNegativeQuantityUnits b.sellVolume
  let sell ← orOverflow "merging sell volume" (checkedI128 (t.sell + sellUnits))
  let unknownUnits ← d.grid.nonNegativeQuantityUnits b.unknownVolume
  let unknown ← orOverflow "merging unknown volume" (checkedI128 (t.unknown + unknownUnits))
  let totalUnits ← d.grid.quantityUnits b.totalVolume
  let total ← orOverflow "merging total volume" (checkedI128 (t.total + totalUnits))
  let strength ← orOverflow "merging bubble strength" (checkedI128 (t.strength + b.strength.coefficient))
  .ok {
    sources := t.sources ++ b.sources
    buy, sell, unknown, total, strength
    low := minPrice t.low b.lowPrice
    high := maxPrice t.high b.highPrice
    tier := if b.tier.priority > t.tier.priority then b.tier else t.tier }

/-- Source: `threshold` in `merge_group`; of equals `max_by_key` takes the last -/
def maxThreshold (first : Fixed) (thresholds : List Fixed) : Fixed :=
  thresholds.foldl (fun best next => if next.coefficient < best.coefficient then best else next) first

/-- Source: `merge_group`, on the first bubble of the group and the others -/
def mergeGroup (first : OrderFlowBubble) (others : List OrderFlowBubble) :
    Except AnalyticsError OrderFlowBubble := do
  let group := first :: others
  let anchor := strongest first others
  let t ← group.foldlM d.addBubble ⟨[], 0, 0, 0, 0, 0, first.lowPrice, first.highPrice, .f1⟩
  let delta ← orOverflow "merging bubble delta" (checkedI128 (t.buy - t.sell))
  let style := d.config.merge.style
  let cap ← d.capUnits style anchor.mode "converting merged bubble cap"
  let strengthUnsigned ← toU128 "converting merged bubble strength" t.strength
  let buyVolume ← d.grid.quantityAt t.buy
  let sellVolume ← d.grid.quantityAt t.sell
  let unknownVolume ← d.grid.quantityAt t.unknown
  let totalVolume ← d.grid.quantityAt t.total
  let visualSize ← scaledSize strengthUnsigned cap style.minSize style.maxSize
  let mergedCount ← orOverflow "converting merged bubble count"
    (if group.length < 2 ^ 16 then some group.length else none)
  .ok {
    id := group.foldl (fun id b => hashBytes id (leBytes 8 b.id.toNat)) 14695981039346656037
    instrument := anchor.instrument
    candleStartNs := anchor.candleStartNs
    candleEndNs := anchor.candleEndNs
    segment := anchor.segment
    sources := venueSet t.sources
    tier := t.tier
    mode := anchor.mode
    direction := .ofDelta delta
    anchorPrice := anchor.anchorPrice
    lowPrice := t.low
    highPrice := t.high
    buyVolume
    sellVolume
    unknownVolume
    totalVolume
    delta := ⟨delta, d.grid.quantityScale⟩
    strength := ⟨t.strength, d.grid.quantityScale⟩
    threshold := maxThreshold first.threshold (others.map (·.threshold))
    visualSize
    label := match style.labelMode with
      | .off => none
      | .raw => some ⟨if anchor.mode = .volume then t.total else delta, d.grid.quantityScale⟩
    shape := style.shape
    mergedCount }

lemma takeGroup_eq_ok {previous : OrderFlowBubble} {bubbles : List OrderFlowBubble}
    {r : List OrderFlowBubble × List OrderFlowBubble} (h : d.takeGroup previous bubbles = .ok r) :
    r.1 ++ r.2 = bubbles := by
  induction bubbles generalizing previous r with
  | nil =>
    cases h
    rfl
  | cons next rest ih =>
    rw [takeGroup] at h
    obtain ⟨answer, -, h⟩ := bind_eq_ok.mp h
    cases answer with
    | true =>
      obtain ⟨r', hr', h⟩ := bind_eq_ok.mp h
      cases h
      exact congrArg (next :: ·) (ih hr')
    | false =>
      cases h
      rfl

/-- Source: the outer loop of `merge` -/
def mergeSorted : List OrderFlowBubble → Except AnalyticsError (List OrderFlowBubble)
  | [] => .ok []
  | first :: rest =>
    if d.config.merge.enabled first.tier then
      match _h : d.takeGroup first rest with
      | .error e => .error e
      | .ok (others, rest') => do
        let bubble ← if others = [] then .ok first else d.mergeGroup first others
        let out ← mergeSorted rest'
        .ok (bubble :: out)
    else do
      let out ← mergeSorted rest
      .ok (first :: out)
termination_by bubbles => bubbles.length
decreasing_by
  · have hlength := congrArg List.length (d.takeGroup_eq_ok _h)
    rw [List.length_append] at hlength
    dsimp only at hlength
    rw [List.length_cons]
    omega
  · exact Nat.lt_succ_self _

/-- Near bubbles become one. -/
def merge (bubbles : List OrderFlowBubble) : Except AnalyticsError (List OrderFlowBubble) :=
  d.mergeSorted (sortOn mergeOrder bubbles)

/-- Source: the comparison that sorts the output of `detect` -/
def outputOrder (b : OrderFlowBubble) : ℤ ×ₗ ℤ ×ₗ ℕ ×ₗ ℤ ×ₗ ℕ :=
  toLex (-(b.tier.priority : Int), toLex (-b.strength.coefficient, toLex (b.segment.rank,
    toLex (b.anchorPrice.fixed.coefficient, b.id.toNat))))

/-- Source: `defer_merging` in `detect` -/
def defersMerging (phase : DetectionPhase) : Bool :=
  match phase, d.config.performance with
  | .live, .high _ deferMerging => deferMerging
  | _, _ => false

/-- The bubbles of a candle. -/
def detect (candle : CandleFlow) (phase : DetectionPhase) :
    Except AnalyticsError (List OrderFlowBubble) := do
  let output ← d.unmerged candle phase
  let output ← if ¬ d.defersMerging phase ∧ [BubbleTier.f1, .f2, .f3].any d.config.merge.enabled then
      d.merge output
    else .ok output
  .ok (sortOn outputOrder output)

end BubbleDetector

end Marketfeed
