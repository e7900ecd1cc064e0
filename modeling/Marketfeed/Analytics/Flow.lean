import Marketfeed.Analytics.Grid
import Marketfeed.Lib.Effect
import Marketfeed.Lib.OrdMap

/-!
# Candle flow

Model of `crates/analytics/src/flow.rs`. A builder counts the trades of one instrument into candles:
per candle, per source and per price bucket it keeps the volumes by side and the number of trades. A
trade of a later period returns the finished candle, and so does a clock tick.

A method that takes `&mut self` is a computation over the builder that may fail, so what a failed call
has done to the builder by then is visible. The additions are made one counter after the other, each of
them checked; `preflight_add` checks beforehand that none of them will fail.

Not modelled: the serialized form of a builder.
-/

namespace Marketfeed

/-! ## Inputs -/

/-- Source: `config.rs` `MarketSegment` -/
inductive MarketSegment
  | spot
  | linearPerpetual
  | inversePerpetual
  | linearFuture
  | inverseFuture
  | option
  | unknown
deriving DecidableEq

/-- The declaration order. -/
def MarketSegment.rank : MarketSegment → Nat
  | .spot => 0
  | .linearPerpetual => 1
  | .inversePerpetual => 2
  | .linearFuture => 3
  | .inverseFuture => 4
  | .option => 5
  | .unknown => 6

/-- Source: `config.rs` `FlowSource` -/
structure FlowSource where
  venue : VenueId
  segment : MarketSegment

/-- Sources are ordered by venue, then by segment. -/
def FlowSource.rank (s : FlowSource) : Nat := s.venue.val.toNat * 7 + s.segment.rank

lemma FlowSource.rank_injective : Function.Injective FlowSource.rank := by
  rintro ⟨⟨v⟩, s⟩ ⟨⟨w⟩, t⟩ h
  have hs : s.rank < 7 := by cases s <;> decide
  have ht : t.rank < 7 := by cases t <;> decide
  simp only [FlowSource.rank] at h
  have hvenue : v = w := UInt16.toNat_inj.mp (by omega)
  have hsegment : s.rank = t.rank := by omega
  have hst : s = t := by
    revert hsegment
    cases s <;> cases t <;> decide
  rw [hvenue, hst]

instance : LinearOrder FlowSource := LinearOrder.lift' FlowSource.rank FlowSource.rank_injective

instance : Std.TransCmp (compare : FlowSource → FlowSource → Ordering) := inferInstance

structure FlowConfig where
  maxSources : Nat
  maxLevelsPerSource : Nat
  maxTradesPerCandle : Nat
deriving DecidableEq

/-- Source: `FlowConfig::new`, which returns its arguments -/
def FlowConfig.validate (c : FlowConfig) : Except AnalyticsError Unit :=
  if c.maxSources = 0 then .error (.invalidConfig "max_sources" "must be greater than zero")
  else if c.maxLevelsPerSource = 0 then
    .error (.invalidConfig "max_levels_per_source" "must be greater than zero")
  else if c.maxTradesPerCandle = 0 then
    .error (.invalidConfig "max_trades_per_candle" "must be greater than zero")
  else .ok ()

structure TradeInput where
  instrument : InstrumentId
  source : FlowSource
  timestampNs : Int
  price : Price
  quantity : Quantity
  aggressor : AggressorSide
deriving DecidableEq

/-! ## Outputs -/

inductive FlowState
  | live
  | final
deriving DecidableEq

structure PriceLevelFlow where
  price : Price
  buyVolume : Quantity
  sellVolume : Quantity
  unknownVolume : Quantity
  totalVolume : Quantity
  delta : Fixed
  tradeCount : Nat
  firstTimestampNs : Int
  lastTimestampNs : Int
deriving DecidableEq

structure SourceCandleFlow where
  source : FlowSource
  high : Option Price
  low : Option Price
  buyVolume : Quantity
  sellVolume : Quantity
  unknownVolume : Quantity
  totalVolume : Quantity
  delta : Fixed
  tradeCount : Nat
  levels : List PriceLevelFlow
deriving DecidableEq

structure CandleFlow where
  schemaVersion : Nat
  state : FlowState
  instrument : InstrumentId
  startTs : Int
  endTs : Int
  high : Option Price
  low : Option Price
  totalVolume : Quantity
  tradeCount : Nat
  sources : List SourceCandleFlow
deriving DecidableEq

/-! ## Accumulators -/

/-- The three counters that `apply_side` takes by reference. -/
structure SideUnits where
  buy : Int
  sell : Int
  unknown : Int
deriving DecidableEq

structure LevelAccumulator where
  sides : SideUnits
  totalUnits : Int
  tradeCount : Nat
  firstTimestampNs : Int
  lastTimestampNs : Int
deriving DecidableEq

def LevelAccumulator.new (timestampNs : Int) : LevelAccumulator :=
  ⟨⟨0, 0, 0⟩, 0, 0, timestampNs, timestampNs⟩

structure SourceAccumulator where
  high : Option Price
  low : Option Price
  sides : SideUnits
  totalUnits : Int
  tradeCount : Nat
  levels : OrdMap Int LevelAccumulator
deriving DecidableEq

def SourceAccumulator.new : SourceAccumulator := ⟨none, none, ⟨0, 0, 0⟩, 0, 0, ∅⟩

/-- A trade that was admitted: its bucket, its price on the grid and its units. -/
structure FlowEntry where
  source : FlowSource
  bucket : Int
  price : Price
  units : Int
  aggressor : AggressorSide
  timestampNs : Int
deriving DecidableEq

/-- What both builders do with a time before the last one they have seen. -/
def rejectBefore (lastTimestampNs : Option Int) (timestampNs : Int) : Except AnalyticsError Unit :=
  match lastTimestampNs with
  | none => .ok ()
  | some last => if timestampNs < last then .error (.lateTrade timestampNs last) else .ok ()

lemma rejectBefore_eq_ok {lastTimestampNs : Option Int} {timestampNs : Int} :
    rejectBefore lastTimestampNs timestampNs = .ok () ↔
      ∀ last, lastTimestampNs = some last → last ≤ timestampNs := by
  rcases lastTimestampNs with _ | last <;> simp [rejectBefore]

/-- Source: `max_price`; both prices are at the scale of the grid -/
def maxPrice (left right : Price) : Price :=
  if left.fixed.coefficient < right.fixed.coefficient then right else left

def minPrice (left right : Price) : Price :=
  if left.fixed.coefficient > right.fixed.coefficient then right else left

/-- Source: `Some(high.map_or(price, |current| max_price(current, price)))` -/
def raiseHigh (high : Option Price) (price : Price) : Option Price :=
  some (high.elim price fun current => maxPrice current price)

/-- Source: `Some(low.map_or(price, |current| min_price(current, price)))` -/
def lowerLow (low : Option Price) (price : Price) : Option Price :=
  some (low.elim price fun current => minPrice current price)

/-- Source: `apply_side`; `preflight_side` makes the same addition and drops it -/
def SideUnits.add (u : SideUnits) (units : Int) : AggressorSide → Except AnalyticsError SideUnits
  | .buy => do
    let buy ← orOverflow "adding buy volume" (checkedI128 (u.buy + units))
    .ok { u with buy }
  | .sell => do
    let sell ← orOverflow "adding sell volume" (checkedI128 (u.sell + units))
    .ok { u with sell }
  | .unknown => do
    let unknown ← orOverflow "adding unknown volume" (checkedI128 (u.unknown + units))
    .ok { u with unknown }

variable (e : FlowEntry)

namespace LevelAccumulator

/-- Source: `level.trade_count.checked_add(1)` -/
def countTrade (l : LevelAccumulator) : Except AnalyticsError LevelAccumulator := do
  let tradeCount ← orOverflow "adding price-level trade count" (checkedU64 (l.tradeCount + 1))
  .ok { l with tradeCount }

/-- Source: `level.total_units.checked_add(quantity.0)` -/
def addTotal (units : Int) (l : LevelAccumulator) : Except AnalyticsError LevelAccumulator := do
  let totalUnits ← orOverflow "adding price-level volume" (checkedI128 (l.totalUnits + units))
  .ok { l with totalUnits }

/-- Source: `apply_side` on the level -/
def addSide (units : Int) (aggressor : AggressorSide) (l : LevelAccumulator) :
    Except AnalyticsError LevelAccumulator := do
  let sides ← l.sides.add units aggressor
  .ok { l with sides }

/-- Source: the part of `apply_add` about the level -/
def applyAdd : EStateM AnalyticsError LevelAccumulator Unit := do
  update countTrade
  update (addTotal e.units)
  update (addSide e.units e.aggressor)
  modify fun l => { l with lastTimestampNs := e.timestampNs }

end LevelAccumulator

namespace SourceAccumulator

/-- Source: `source_state.trade_count.checked_add(1)` -/
def countTrade (s : SourceAccumulator) : Except AnalyticsError SourceAccumulator := do
  let tradeCount ← orOverflow "adding source trade count" (checkedU64 (s.tradeCount + 1))
  .ok { s with tradeCount }

/-- Source: `source_state.total_units.checked_add(quantity.0)` -/
def addTotal (units : Int) (s : SourceAccumulator) : Except AnalyticsError SourceAccumulator := do
  let totalUnits ← orOverflow "adding source volume" (checkedI128 (s.totalUnits + units))
  .ok { s with totalUnits }

/-- Source: `apply_side` on the source -/
def addSide (units : Int) (aggressor : AggressorSide) (s : SourceAccumulator) :
    Except AnalyticsError SourceAccumulator := do
  let sides ← s.sides.add units aggressor
  .ok { s with sides }

/-- Source: `levels.entry(bucket).or_insert_with(|| LevelAccumulator::new(timestamp_ns))` -/
def levelEntry (s : SourceAccumulator) : LevelAccumulator :=
  s.levels[e.bucket]?.getD (.new e.timestampNs)

/-- Source: the part of `apply_add` about the source -/
def applyAdd : EStateM AnalyticsError SourceAccumulator Unit := do
  update countTrade
  update (addTotal e.units)
  update (addSide e.units e.aggressor)
  modify fun s => { s with high := raiseHigh s.high e.price, low := lowerLow s.low e.price }
  within (levelEntry e) (fun l s => { s with levels := s.levels.insert e.bucket l })
    (LevelAccumulator.applyAdd e)

end SourceAccumulator

/-! ## The builder -/

structure CandleFlowBuilder where
  instrument : InstrumentId
  grid : GridSpec
  time : TimeframeSpec
  config : FlowConfig
  candleStart : Option Int
  lastTimestampNs : Option Int
  high : Option Price
  low : Option Price
  totalUnits : Int
  tradeCount : Nat
  sources : OrdMap FlowSource SourceAccumulator
deriving DecidableEq

/-- A method of the builder. -/
abbrev FlowM := EStateM AnalyticsError CandleFlowBuilder

namespace CandleFlowBuilder

/-- A builder without a candle. -/
def empty (instrument : InstrumentId) (grid : GridSpec) (time : TimeframeSpec) (config : FlowConfig) :
    CandleFlowBuilder :=
  { instrument, grid, time, config, candleStart := none, lastTimestampNs := none, high := none,
    low := none, totalUnits := 0, tradeCount := 0, sources := ∅ }

def new (instrument : InstrumentId) (grid : GridSpec) (time : TimeframeSpec) (config : FlowConfig) :
    Except AnalyticsError CandleFlowBuilder := do
  grid.validate
  time.validate
  config.validate
  .ok (empty instrument grid time config)

variable (s : CandleFlowBuilder)

def rejectLate (timestampNs : Int) : Except AnalyticsError Unit :=
  rejectBefore s.lastTimestampNs timestampNs

/-- The checks that come before the candle is looked at, with the start of the trade's candle.
Source: `ingest`, up to its `match` -/
def admission (trade : TradeInput) : Except AnalyticsError (FlowEntry × Int) :=
  if trade.instrument ≠ s.instrument then
    .error (.instrumentMismatch s.instrument trade.instrument)
  else do
    s.rejectLate trade.timestampNs
    let bucket ← s.grid.priceBucket trade.price
    let tick ← s.grid.priceTick trade.price
    let price ← s.grid.priceAtTick tick
    let units ← s.grid.quantityUnits trade.quantity
    let target ← s.time.checkedCandleStart trade.timestampNs
    .ok (⟨trade.source, bucket, price, units, trade.aggressor, trade.timestampNs⟩, target)

/-- Source: the `if let Some(level)` of `preflight_add` -/
def preflightLevel : Option LevelAccumulator → Except AnalyticsError Unit
  | none => .ok ()
  | some level => do
    let _ ← level.countTrade
    let _ ← level.addTotal e.units
    let _ ← level.sides.add e.units e.aggressor
    .ok ()

/-- Source: the `if let Some(state)` of `preflight_add` -/
def preflightSource : Option SourceAccumulator → Except AnalyticsError Unit
  | none => .ok ()
  | some state => do
    let _ ← state.countTrade
    let _ ← state.addTotal e.units
    preflightLevel e state.levels[e.bucket]?
    let _ ← state.sides.add e.units e.aggressor
    .ok ()

/-- Source: the last check of capacity in `preflight_add` -/
def levelsFull (state : SourceAccumulator) (e : FlowEntry) : Bool :=
  state.levels[e.bucket]?.isNone && decide (s.config.maxLevelsPerSource ≤ state.levels.size)

/-- The first pass over the counters. -/
def preflightAdd : Except AnalyticsError Unit :=
  if s.config.maxTradesPerCandle ≤ s.tradeCount then
    .error (.capacityExceeded "trades per candle" s.config.maxTradesPerCandle)
  else if s.sources[e.source]?.isNone ∧ s.config.maxSources ≤ s.sources.size then
    .error (.capacityExceeded "sources per candle" s.config.maxSources)
  else if s.sources[e.source]?.any (s.levelsFull · e) then
    .error (.capacityExceeded "price levels per source candle" s.config.maxLevelsPerSource)
  else do
    let _ ← orOverflow "adding candle trade count" (checkedU64 (s.tradeCount + 1))
    let _ ← orOverflow "adding candle volume" (checkedI128 (s.totalUnits + e.units))
    preflightSource e s.sources[e.source]?

/-- Source: `self.trade_count.checked_add(1)` -/
def countTrade : Except AnalyticsError CandleFlowBuilder := do
  let tradeCount ← orOverflow "adding candle trade count" (checkedU64 (s.tradeCount + 1))
  .ok { s with tradeCount }

/-- Source: `self.total_units.checked_add(quantity.0)` -/
def addTotal (units : Int) (s : CandleFlowBuilder) : Except AnalyticsError CandleFlowBuilder := do
  let totalUnits ← orOverflow "adding candle volume" (checkedI128 (s.totalUnits + units))
  .ok { s with totalUnits }

/-- Source: `self.sources.entry(source).or_insert_with(SourceAccumulator::new)` -/
def sourceEntry (s : CandleFlowBuilder) : SourceAccumulator :=
  s.sources[e.source]?.getD .new

def applyAdd : FlowM Unit := do
  update countTrade
  update (addTotal e.units)
  modify fun s => { s with high := raiseHigh s.high e.price, low := lowerLow s.low e.price }
  within (sourceEntry e) (fun state s => { s with sources := s.sources.insert e.source state })
    (SourceAccumulator.applyAdd e)

/-- The first trade of a candle.
Source: the `None` arm of `ingest`, and the same calls on the replacement -/
def startCandle (target : Int) : FlowM Unit := do
  let s ← get
  liftExcept id (s.preflightAdd e)
  modify fun s => { s with candleStart := some target }
  applyAdd e
  modify fun s => { s with lastTimestampNs := some e.timestampNs }

/-- Source: the last arm of `ingest` -/
def continueCandle : FlowM Unit := do
  let s ← get
  liftExcept id (s.preflightAdd e)
  applyAdd e
  modify fun s => { s with lastTimestampNs := some e.timestampNs }

/-- Source: the levels of `source_snapshot` -/
def levelSnapshot (bucket : Int) (level : LevelAccumulator) :
    Except AnalyticsError PriceLevelFlow := do
  let delta ← orOverflow "calculating price-level delta"
    (checkedI128 (level.sides.buy - level.sides.sell))
  let price ← s.grid.priceAt bucket
  let buyVolume ← s.grid.quantityAt level.sides.buy
  let sellVolume ← s.grid.quantityAt level.sides.sell
  let unknownVolume ← s.grid.quantityAt level.sides.unknown
  let totalVolume ← s.grid.quantityAt level.totalUnits
  .ok { price, buyVolume, sellVolume, unknownVolume, totalVolume,
        delta := s.grid.signedQuantityAt delta, tradeCount := level.tradeCount,
        firstTimestampNs := level.firstTimestampNs, lastTimestampNs := level.lastTimestampNs }

def sourceSnapshot (source : FlowSource) (accumulator : SourceAccumulator) :
    Except AnalyticsError SourceCandleFlow := do
  let levels ← accumulator.levels.toList.mapM fun entry => s.levelSnapshot entry.1 entry.2
  let delta ← orOverflow "calculating source delta"
    (checkedI128 (accumulator.sides.buy - accumulator.sides.sell))
  let buyVolume ← s.grid.quantityAt accumulator.sides.buy
  let sellVolume ← s.grid.quantityAt accumulator.sides.sell
  let unknownVolume ← s.grid.quantityAt accumulator.sides.unknown
  let totalVolume ← s.grid.quantityAt accumulator.totalUnits
  .ok { source, high := accumulator.high, low := accumulator.low, buyVolume, sellVolume,
        unknownVolume, totalVolume, delta := s.grid.signedQuantityAt delta,
        tradeCount := accumulator.tradeCount, levels }

def snapshot (state : FlowState) : Except AnalyticsError CandleFlow :=
  match s.candleStart with
  | none => .error (.corruptSnapshot "cannot snapshot an inactive candle")
  | some startTs => do
    let endTs ← orOverflow "calculating candle end" (checkedI64 (startTs + s.time.candleNs))
    let sources ← s.sources.toList.mapM fun entry => s.sourceSnapshot entry.1 entry.2
    let totalVolume ← s.grid.quantityAt s.totalUnits
    .ok { schemaVersion := 1, state, instrument := s.instrument, startTs, endTs, high := s.high,
          low := s.low, totalVolume, tradeCount := s.tradeCount, sources }

def clearActive : CandleFlowBuilder :=
  { s with
    candleStart := none
    high := none
    low := none
    totalUnits := 0
    tradeCount := 0
    sources := ∅ }

/-- The builder that takes the place of one whose candle is over. The trade is added to it on the
side.
Source: the `target_candle > current` arm of `ingest`, after its snapshot -/
def replacement (target : Int) : Except AnalyticsError CandleFlowBuilder := do
  let fresh ← new s.instrument s.grid s.time s.config
  match (startCandle e target).run fresh with
  | .ok () next => .ok next
  | .error err _ => .error err

/-- **Count a trade**, returning the candle it ends. -/
def ingest (trade : TradeInput) : FlowM (Option CandleFlow) := do
  let s ← get
  let (e, target) ← liftExcept id (s.admission trade)
  match s.candleStart with
  | none => do
    startCandle e target
    pure none
  | some current =>
    if target > current then do
      let finalized ← liftExcept id (s.snapshot .final)
      let next ← liftExcept id (s.replacement e target)
      set next
      pure (some finalized)
    else if target < current then throw (.lateTrade trade.timestampNs current)
    else do
      continueCandle e
      pure none

/-- Source: the end of `advance_to` and `finish`, after the snapshot -/
def noteTime (timestampNs : Int) (s : CandleFlowBuilder) : CandleFlowBuilder :=
  { s with lastTimestampNs := some timestampNs }

/-- **Advance the clock**, returning the candle that is over. -/
def advanceTo (timestampNs : Int) : FlowM (Option CandleFlow) := do
  let s ← get
  liftExcept id (s.rejectLate timestampNs)
  match s.candleStart with
  | none => do
    modify (noteTime timestampNs)
    pure none
  | some current => do
    let target ← liftExcept id (s.time.checkedCandleStart timestampNs)
    if target > current then do
      let finalized ← liftExcept id (s.snapshot .final)
      modify clearActive
      modify (noteTime timestampNs)
      pure (some finalized)
    else do
      modify (noteTime timestampNs)
      pure none

/-- The open candle, left open. -/
def liveSnapshot : Except AnalyticsError (Option CandleFlow) :=
  match s.candleStart with
  | none => .ok none
  | some _ => some <$> s.snapshot .live

/-- **End the candle.** -/
def finish : FlowM (Option CandleFlow) := do
  let s ← get
  match s.candleStart with
  | none => pure none
  | some _ => do
    let finalized ← liftExcept id (s.snapshot .final)
    modify clearActive
    pure (some finalized)

/-! ### The builder's own check -/

/-- Source: the inner closure of `validate` -/
def validateLevel (sum : Int) (level : LevelAccumulator) : Except AnalyticsError Int :=
  if level.totalUnits < 0 ∨ level.sides.buy < 0 ∨ level.sides.sell < 0 ∨ level.sides.unknown < 0 then
    .error (.corruptSnapshot "negative price-level volume")
  else do
    let sides ← orOverflow "validating price-level volume"
      ((checkedI128 (level.sides.buy + level.sides.sell)).bind fun v =>
        checkedI128 (v + level.sides.unknown))
    if sides ≠ level.totalUnits then
      .error (.corruptSnapshot "price-level total does not equal side sum")
    else orOverflow "validating source volume" (checkedI128 (sum + level.totalUnits))

/-- Source: the outer closure of `validate` -/
def validateSource (sum : Int) (source : SourceAccumulator) : Except AnalyticsError Int :=
  if source.totalUnits < 0 ∨ source.sides.buy < 0 ∨ source.sides.sell < 0 ∨
      source.sides.unknown < 0 then
    .error (.corruptSnapshot "negative source volume")
  else do
    let levelTotal ← source.levels.toList.foldlM (fun sum entry => validateLevel sum entry.2) 0
    if levelTotal ≠ source.totalUnits then
      .error (.corruptSnapshot "source total does not equal level sum")
    else orOverflow "validating candle volume" (checkedI128 (sum + source.totalUnits))

/-- Source: the checks of `validate` after the sums -/
def validateTotals (sourceTotal : Int) : Except AnalyticsError Unit :=
  if sourceTotal ≠ s.totalUnits then
    .error (.corruptSnapshot "candle total does not equal source sum")
  else if s.candleStart.isNone ∧ (s.sources.size ≠ 0 ∨ s.tradeCount ≠ 0 ∨ s.totalUnits ≠ 0) then
    .error (.corruptSnapshot "inactive candle retains flow state")
  else .ok ()

/-- Source: the checks of `validate` before the sums -/
def validateCapacity : Except AnalyticsError Unit :=
  if s.config.maxSources < s.sources.size then
    .error (.corruptSnapshot "source count exceeds configured capacity")
  else if s.sources.toList.any fun entry =>
      decide (s.config.maxLevelsPerSource < entry.2.levels.size) then
    .error (.corruptSnapshot "source level count exceeds configured capacity")
  else if s.config.maxTradesPerCandle < s.tradeCount then
    .error (.corruptSnapshot "trade count exceeds configured capacity")
  else if s.totalUnits < 0 then .error (.corruptSnapshot "negative candle volume")
  else .ok ()

/-- What a restored builder has to satisfy. -/
def validate : Except AnalyticsError Unit := do
  s.grid.validate
  s.time.validate
  s.config.validate
  s.validateCapacity
  let sourceTotal ← s.sources.toList.foldlM (fun sum entry => validateSource sum entry.2) 0
  s.validateTotals sourceTotal

end CandleFlowBuilder

end Marketfeed
