import Marketfeed.Analytics.Flow

/-!
# Session profiles

Model of `crates/analytics/src/profile.rs`. A builder counts the trades of one session into price
buckets. A session is cut into TPO periods: a bucket that trades in a period scores one TPO when the
period is closed, and the rotation factor tells how the highs and lows of the periods moved. A profile
has the point of control, the bucket with the most activity, and the value area around it.

As for candles, a method that takes `&mut self` is a computation over the builder.

Not modelled: the serialized form of a builder and `validate`, which is for restored ones.
-/

namespace Marketfeed

/-! ## Inputs and outputs -/

inductive ValueAreaBasis
  | volume
  | tpo
deriving DecidableEq

structure ProfileConfig where
  basis : ValueAreaBasis
  valueAreaBps : Nat
  maxLevels : Nat
  maxTpoLevelsPerPeriod : Nat
deriving DecidableEq

/-- Source: `ProfileConfig::new`, which returns its arguments -/
def ProfileConfig.validate (c : ProfileConfig) : Except AnalyticsError Unit :=
  if ¬ (1 ≤ c.valueAreaBps ∧ c.valueAreaBps ≤ 10000) then
    .error (.invalidConfig "value_area_bps" "must be between 1 and 10000")
  else if c.maxLevels = 0 then .error (.invalidConfig "max_levels" "must be greater than zero")
  else if c.maxTpoLevelsPerPeriod = 0 then
    .error (.invalidConfig "max_tpo_levels_per_period" "must be greater than zero")
  else if c.maxTpoLevelsPerPeriod > c.maxLevels then
    .error (.invalidConfig "max_tpo_levels_per_period" "must not exceed max_levels")
  else .ok ()

inductive ProfileState
  | live
  | final
deriving DecidableEq

structure ProfileLevel where
  price : Price
  volume : Quantity
  tpoCount : Nat
deriving DecidableEq

structure SessionProfile where
  schemaVersion : Nat
  state : ProfileState
  basis : ValueAreaBasis
  valueAreaBps : Nat
  startTs : Int
  endTs : Int
  high : Option Price
  low : Option Price
  range : Option Fixed
  totalVolume : Quantity
  poc : Option Price
  vah : Option Price
  val : Option Price
  tpoCount : Nat
  rotationFactor : Int
  levels : List ProfileLevel
deriving DecidableEq

/-! ## The builder -/

structure SessionProfileBuilder where
  grid : GridSpec
  time : TimeframeSpec
  config : ProfileConfig
  sessionStart : Option Int
  currentTpoStart : Option Int
  lastTimestampNs : Option Int
  sessionHigh : Option Price
  sessionLow : Option Price
  volumeByLevel : OrdMap Int Int
  tpoByLevel : OrdMap Int Nat
  totalVolumeUnits : Int
  currentTpoLevels : Finset Int
  currentTpoHigh : Option Int
  currentTpoLow : Option Int
  previousTpoHigh : Option Int
  previousTpoLow : Option Int
  rotationFactor : Int
deriving DecidableEq

/-- A method of the builder. -/
abbrev ProfileM := EStateM AnalyticsError SessionProfileBuilder

/-- A trade that was admitted: its bucket, its price on the grid, its units, and the session and the
TPO period it belongs to. -/
structure ProfileEntry where
  bucket : Int
  price : Price
  units : Int
  timestampNs : Int
  session : Int
  tpo : Int
deriving DecidableEq

def orderingScore (current previous : Int) : Int :=
  if current < previous then -1 else if current = previous then 0 else 1

namespace SessionProfileBuilder

/-- A builder without a session. -/
def empty (grid : GridSpec) (time : TimeframeSpec) (config : ProfileConfig) : SessionProfileBuilder :=
  { grid, time, config, sessionStart := none, currentTpoStart := none, lastTimestampNs := none,
    sessionHigh := none, sessionLow := none, volumeByLevel := ∅, tpoByLevel := ∅,
    totalVolumeUnits := 0, currentTpoLevels := ∅, currentTpoHigh := none, currentTpoLow := none,
    previousTpoHigh := none, previousTpoLow := none, rotationFactor := 0 }

def new (grid : GridSpec) (time : TimeframeSpec) (config : ProfileConfig) :
    Except AnalyticsError SessionProfileBuilder := do
  grid.validate
  time.validate
  config.validate
  .ok (empty grid time config)

variable (s : SessionProfileBuilder)

def rejectLate (timestampNs : Int) : Except AnalyticsError Unit :=
  rejectBefore s.lastTimestampNs timestampNs

/-- The checks that come before the session is looked at.
Source: `ingest`, up to its `match` -/
def admission (timestampNs : Int) (price : Price) (quantity : Quantity) :
    Except AnalyticsError ProfileEntry := do
  s.rejectLate timestampNs
  let bucket ← s.grid.priceBucket price
  let tick ← s.grid.priceTick price
  let price ← s.grid.priceAtTick tick
  let units ← s.grid.quantityUnits quantity
  let session ← s.time.checkedSessionStart timestampNs
  let tpo ← s.time.checkedTpoStart timestampNs
  .ok { bucket, price, units, timestampNs, session, tpo }

/-! ### Adding a trade -/

/-- Source: `!volume_by_level.contains_key(&bucket) && volume_by_level.len() >= max_levels` -/
def levelsFull (bucket : Int) : Prop :=
  s.volumeByLevel[bucket]? = none ∧ s.config.maxLevels ≤ s.volumeByLevel.size

instance (s : SessionProfileBuilder) (bucket : Int) : Decidable (s.levelsFull bucket) :=
  inferInstanceAs (Decidable (_ ∧ _))

/-- The TPO levels the trade is counted against.
Source: `tpo_len` and `already_in_tpo` in `preflight_add` -/
def tpoLevels (startsNewTpo : Bool) : Finset Int :=
  if startsNewTpo then ∅ else s.currentTpoLevels

variable (e : ProfileEntry)

def preflightAdd (startsNewTpo : Bool) : Except AnalyticsError Unit :=
  if s.levelsFull e.bucket then
    .error (.capacityExceeded "session profile levels" s.config.maxLevels)
  else if e.bucket ∉ s.tpoLevels startsNewTpo ∧
      s.config.maxTpoLevelsPerPeriod ≤ (s.tpoLevels startsNewTpo).card then
    .error (.capacityExceeded "TPO levels per period" s.config.maxTpoLevelsPerPeriod)
  else do
    let _ ← orOverflow "adding total profile volume" (checkedI128 (s.totalVolumeUnits + e.units))
    let _ ← orOverflow "adding profile level volume"
      (checkedI128 (s.volumeByLevel[e.bucket]?.getD 0 + e.units))
    .ok ()

/-- Source: `self.total_volume_units.checked_add(quantity.0)` -/
def addTotal (units : Int) (s : SessionProfileBuilder) :
    Except AnalyticsError SessionProfileBuilder := do
  let totalVolumeUnits ← orOverflow "adding total profile volume"
    (checkedI128 (s.totalVolumeUnits + units))
  .ok { s with totalVolumeUnits }

/-- Source: `self.volume_by_level.entry(bucket).or_insert(0)` and its `checked_add` -/
def addLevel (s : SessionProfileBuilder) : Except AnalyticsError SessionProfileBuilder := do
  let volume ← orOverflow "adding profile level volume"
    (checkedI128 (s.volumeByLevel[e.bucket]?.getD 0 + e.units))
  .ok { s with volumeByLevel := s.volumeByLevel.insert e.bucket volume }

/-- Source: the end of `apply_add`, after its two checked additions -/
def markLevel (s : SessionProfileBuilder) : SessionProfileBuilder :=
  { s with
    sessionHigh := raiseHigh s.sessionHigh e.price
    sessionLow := lowerLow s.sessionLow e.price
    currentTpoLevels := insert e.bucket s.currentTpoLevels
    currentTpoHigh := some (s.currentTpoHigh.elim e.bucket fun current => max current e.bucket)
    currentTpoLow := some (s.currentTpoLow.elim e.bucket fun current => min current e.bucket) }

def applyAdd : ProfileM Unit := do
  update (addTotal e.units)
  update (addLevel e)
  modify (markLevel e)

def startSession (s : SessionProfileBuilder) : SessionProfileBuilder :=
  { s with sessionStart := some e.session, currentTpoStart := some e.tpo }

/-- Source: `self.last_timestamp_ns = Some(timestamp_ns)` -/
def noteTime (timestampNs : Int) (s : SessionProfileBuilder) : SessionProfileBuilder :=
  { s with lastTimestampNs := some timestampNs }

/-! ### Closing a TPO period -/

def rotationDelta : Int :=
  match s.previousTpoHigh, s.previousTpoLow, s.currentTpoHigh, s.currentTpoLow with
  | some previousHigh, some previousLow, some high, some low =>
    orderingScore high previousHigh + orderingScore low previousLow
  | _, _, _, _ => 0

/-- Source: `tpo_by_level.get(bucket).copied().unwrap_or(0).checked_add(1)` -/
def nextTpoCount (bucket : Int) : Except AnalyticsError Nat :=
  orOverflow "adding a TPO count" (checkedU64 (s.tpoByLevel[bucket]?.getD 0 + 1))

/-- Source: `self.rotation_factor.checked_add(self.rotation_delta())` -/
def nextRotation : Except AnalyticsError Int :=
  orOverflow "adding rotation factor" (checkedI32 (s.rotationFactor + s.rotationDelta))

/-- The buckets of the open TPO period, in the order the loops visit them. -/
def currentBuckets : List Int := OrdMap.ascending s.currentTpoLevels

/-- The first pass that closes a TPO period. -/
def preflightCloseCurrentTpo : Except AnalyticsError Unit := do
  s.currentBuckets.forM fun bucket => (fun _ => ()) <$> s.nextTpoCount bucket
  let _ ← s.nextRotation
  .ok ()

/-- Source: the body of the loop in `apply_close_current_tpo` -/
def scoreTpo (bucket : Int) (s : SessionProfileBuilder) :
    Except AnalyticsError SessionProfileBuilder := do
  let count ← s.nextTpoCount bucket
  .ok { s with tpoByLevel := s.tpoByLevel.insert bucket count }

/-- Source: `rotation_factor` in `apply_close_current_tpo` -/
def rotate : Except AnalyticsError SessionProfileBuilder := do
  let rotationFactor ← s.nextRotation
  .ok { s with rotationFactor }

/-- Source: the end of `apply_close_current_tpo` -/
def turnTpo : SessionProfileBuilder :=
  { s with
    previousTpoHigh := s.currentTpoHigh
    previousTpoLow := s.currentTpoLow
    currentTpoLevels := ∅
    currentTpoHigh := none
    currentTpoLow := none }

/-- The second pass. -/
def applyCloseCurrentTpo : ProfileM Unit := do
  let s ← get
  if s.currentTpoLevels = ∅ then
    modify fun s => { s with currentTpoHigh := none, currentTpoLow := none }
  else do
    s.currentBuckets.forM fun bucket => update (scoreTpo bucket)
    update rotate
    modify turnTpo

/-- The preflight and the close, which always come together. -/
def closeCurrentTpo : ProfileM Unit := do
  let s ← get
  liftExcept id s.preflightCloseCurrentTpo
  applyCloseCurrentTpo

/-! ### The profile -/

variable (basis : ValueAreaBasis)

/-- Source: `activity`, which always returns -/
def activity (bucket : Int) : Int :=
  match basis with
  | .volume => s.volumeByLevel[bucket]?.getD 0
  | .tpo => s.tpoByLevel[bucket]?.getD 0

/-- The best point of control so far: where it is, its activity and twice its distance from the middle.
Source: `poc_index`, `poc_activity`, `poc_distance` -/
structure PocCandidate where
  index : Nat
  activity : Int
  distance : Nat
deriving DecidableEq

/-- Source: `buckets[index]`; every index is in range -/
def bucketAt (buckets : List Int) (index : Nat) : Int := buckets[index]?.getD 0

/-- Source: `distance` in `value_area` -/
def pocDistance (midpointTwice bucket : Int) : Except AnalyticsError Nat :=
  Int.natAbs <$> orOverflow "calculating POC tie distance"
    ((checkedI128 (bucket * 2)).bind fun twice => checkedI128 (twice - midpointTwice))

/-- Source: the body of the first loop of `value_area` -/
def pocStep (buckets : List Int) (midpointTwice : Int) (poc : PocCandidate) (entry : Int × Nat) :
    Except AnalyticsError PocCandidate := do
  let activity := s.activity basis entry.1
  let distance ← pocDistance midpointTwice entry.1
  if activity > poc.activity ∨ (activity = poc.activity ∧ distance < poc.distance) ∨
      (activity = poc.activity ∧ distance = poc.distance ∧ entry.1 < bucketAt buckets poc.index) then
    .ok ⟨entry.2, activity, distance⟩
  else .ok poc

/-- Source: `selected.checked_add(value)` -/
def widen (selected value : Int) : Except AnalyticsError Int :=
  orOverflow "expanding value area" (checkedI128 (selected + value))

/-- The loop that widens the value area, on the side with more activity first and on both when they
are equal.
Source: `while selected < target` in `value_area` -/
def expandValueArea (activityAt : Nat → Int) (count : Nat) (target : Int) (lower upper : Nat)
    (selected : Int) : Except AnalyticsError (Nat × Nat) :=
  if selected < target then
    if hlower : 0 < lower then
      if hupper : upper + 1 < count then
        if activityAt (lower - 1) = activityAt (upper + 1) then do
          let selected ← widen selected (activityAt (lower - 1))
          if selected < target then do
            let selected ← widen selected (activityAt (upper + 1))
            expandValueArea activityAt count target (lower - 1) (upper + 1) selected
          else expandValueArea activityAt count target (lower - 1) upper selected
        else if activityAt (lower - 1) > activityAt (upper + 1) then do
          let selected ← widen selected (activityAt (lower - 1))
          expandValueArea activityAt count target (lower - 1) upper selected
        else do
          let selected ← widen selected (activityAt (upper + 1))
          expandValueArea activityAt count target lower (upper + 1) selected
      else do
        let selected ← widen selected (activityAt (lower - 1))
        expandValueArea activityAt count target (lower - 1) upper selected
    else if hupper : upper + 1 < count then do
      let selected ← widen selected (activityAt (upper + 1))
      expandValueArea activityAt count target lower (upper + 1) selected
    else .ok (lower, upper)
  else .ok (lower, upper)
termination_by lower + (count - upper)

/-- Source: `total_activity` in `value_area` -/
def totalActivity (buckets : List Int) : Except AnalyticsError Int :=
  buckets.foldlM (fun total bucket =>
    orOverflow "summing value-area activity" (checkedI128 (total + s.activity basis bucket))) 0

/-- Source: `scaled_target` and `target` in `value_area` -/
def valueAreaTarget (totalActivity : Int) : Except AnalyticsError Int := do
  let scaled ← orOverflow "calculating value-area target"
    (checkedI128 (totalActivity * s.config.valueAreaBps))
  let rounded ← orOverflow "rounding value-area target" (checkedI128 (scaled + 9999))
  .ok (rounded.tdiv 10000)

/-- The buckets, lowest first.
Source: `buckets` in `value_area` -/
def buckets : List Int := s.volumeByLevel.toList.map Prod.fst

/-- Source: `value_area`, when there are buckets; `low` and `high` are the first and the last -/
def valueAreaBetween (low high : Int) :
    Except AnalyticsError (Option Int × Option Int × Option Int) := do
  let midpointTwice ← orOverflow "calculating POC midpoint" (checkedI128 (low + high))
  let poc ← s.buckets.zipIdx.foldlM (s.pocStep basis s.buckets midpointTwice) ⟨0, -1, 2 ^ 128 - 1⟩
  let total ← s.totalActivity basis s.buckets
  let target ← s.valueAreaTarget total
  let area ← expandValueArea (fun index => s.activity basis (bucketAt s.buckets index))
    s.buckets.length target poc.index poc.index poc.activity
  .ok (some (bucketAt s.buckets poc.index), some (bucketAt s.buckets area.1),
    some (bucketAt s.buckets area.2))

/-- The buckets of the point of control and of the lower and the upper end of the value area. -/
def valueArea : Except AnalyticsError (Option Int × Option Int × Option Int) :=
  match s.buckets.head?, s.buckets.getLast? with
  | some low, some high => s.valueAreaBetween basis low high
  | _, _ => .ok (none, none, none)

/-- Source: `range` in `snapshot` -/
def sessionRange : Except AnalyticsError (Option Fixed) :=
  match s.sessionLow, s.sessionHigh with
  | some low, some high => do
    let coefficient ← orOverflow "calculating session range"
      (checkedI128 (high.fixed.coefficient - low.fixed.coefficient))
    .ok (some ⟨coefficient, s.grid.priceScale⟩)
  | _, _ => .ok none

/-- Source: the closure of `levels` in `snapshot` -/
def levelSnapshot (bucket units : Int) :
    Except AnalyticsError ProfileLevel := do
  let price ← s.grid.priceAt bucket
  let volume ← s.grid.quantityAt units
  .ok { price, volume, tpoCount := s.tpoByLevel[bucket]?.getD 0 }

/-- Source: `tpo_count` in `snapshot` -/
def totalTpo : Except AnalyticsError Nat :=
  s.tpoByLevel.toList.foldlM (fun sum entry =>
    orOverflow "summing session TPO count" (checkedU64 (sum + entry.2))) 0

/-- Source: `bucket.map(|bucket| self.grid.price_at(bucket)).transpose()` -/
def priceAt? : Option Int → Except AnalyticsError (Option Price)
  | none => .ok none
  | some bucket => some <$> s.grid.priceAt bucket

/-- The profile of the active session. -/
def snapshot (state : ProfileState) (basis : ValueAreaBasis) :
    Except AnalyticsError SessionProfile :=
  match s.sessionStart with
  | none => .error (.corruptSnapshot "cannot snapshot an inactive profile")
  | some startTs => do
    let endTs ← orOverflow "calculating session end" (checkedI64 (startTs + s.time.sessionNs))
    let range ← s.sessionRange
    let area ← s.valueArea basis
    let levels ← s.volumeByLevel.toList.mapM fun entry => s.levelSnapshot entry.1 entry.2
    let tpoCount ← s.totalTpo
    let totalVolume ← s.grid.quantityAt s.totalVolumeUnits
    let poc ← s.priceAt? area.1
    let vah ← s.priceAt? area.2.2
    let val ← s.priceAt? area.2.1
    .ok { schemaVersion := 1, state, basis, valueAreaBps := s.config.valueAreaBps, startTs, endTs,
          high := s.sessionHigh, low := s.sessionLow, range, totalVolume, poc, vah, val, tpoCount,
          rotationFactor := s.rotationFactor, levels }

/-- The profile of the builder once its TPO period is closed; the builder is a clone.
Source: `finalized_clone`, and the end of `live_snapshot_with_basis` -/
def closedSnapshot (state : ProfileState) (basis : ValueAreaBasis) :
    Except AnalyticsError SessionProfile :=
  match closeCurrentTpo.run s with
  | .ok () closed => closed.snapshot state basis
  | .error e _ => .error e

/-- The finalized profile; the builder stays. -/
def finalizedClone : Except AnalyticsError SessionProfile :=
  s.closedSnapshot .final s.config.basis

def clearActive : SessionProfileBuilder :=
  { empty s.grid s.time s.config with lastTimestampNs := s.lastTimestampNs }

/-! ### The public methods -/

/-- The first trade of a session.
Source: the `None` arm of `ingest`, and the same calls on the replacement -/
def startWith : ProfileM Unit := do
  let s ← get
  liftExcept id (s.preflightAdd e true)
  modify (startSession e)
  applyAdd e
  modify (noteTime e.timestampNs)

/-- The builder that takes the place of one whose session is over.
Source: the `target_session > current_session` arm of `ingest`, after `finalized_clone` -/
def replacement : Except AnalyticsError SessionProfileBuilder := do
  let fresh ← new s.grid s.time s.config
  match (startWith e).run fresh with
  | .ok () next => .ok next
  | .error err _ => .error err

/-- Close the TPO period if a later one has begun.
Source: `if target_tpo > current_tpo` in `ingest` and `advance_to` -/
def moveTpo (target current : Int) : ProfileM Unit :=
  if target > current then do
    closeCurrentTpo
    modify fun s => { s with currentTpoStart := some target }
  else pure ()

/-- Source: `current_tpo_start.ok_or_else(..)` -/
def currentTpo : Except AnalyticsError Int :=
  match s.currentTpoStart with
  | some current => .ok current
  | none => .error (.corruptSnapshot "active session is missing current TPO")

/-- Source: the last arm of `ingest` -/
def continueSession : ProfileM Unit := do
  let s ← get
  let current ← liftExcept id s.currentTpo
  if e.tpo < current then throw (.lateTrade e.timestampNs current)
  else do
    liftExcept id (s.preflightAdd e (e.tpo ≠ current))
    moveTpo e.tpo current
    applyAdd e
    modify (noteTime e.timestampNs)

/-- **Count a trade**, returning the profile of the session it ends. -/
def ingest (timestampNs : Int) (price : Price) (quantity : Quantity) :
    ProfileM (Option SessionProfile) := do
  let s ← get
  let e ← liftExcept id (s.admission timestampNs price quantity)
  match s.sessionStart with
  | none => do
    startWith e
    pure none
  | some current =>
    if e.session > current then do
      let finalized ← liftExcept id s.finalizedClone
      let next ← liftExcept id (s.replacement e)
      set next
      pure (some finalized)
    else if e.session < current then throw (.lateTrade timestampNs current)
    else do
      continueSession e
      pure none

/-- Close the session: its TPO period in place, then the snapshot, which may fail.
Source: the calls that `advance_to` and `finish` share -/
def closeSession : ProfileM SessionProfile := do
  closeCurrentTpo
  let closed ← get
  let finalized ← liftExcept id (closed.snapshot .final closed.config.basis)
  modify clearActive
  pure finalized

/-- **Advance the clock**, returning the profile of the session that is over. -/
def advanceTo (timestampNs : Int) : ProfileM (Option SessionProfile) := do
  let s ← get
  liftExcept id (s.rejectLate timestampNs)
  match s.sessionStart with
  | none => do
    modify (noteTime timestampNs)
    pure none
  | some sessionStart => do
    let sessionEnd ← liftExcept id
      (orOverflow "calculating session end" (checkedI64 (sessionStart + s.time.sessionNs)))
    if timestampNs ≥ sessionEnd then do
      let finalized ← closeSession
      modify (noteTime timestampNs)
      pure (some finalized)
    else do
      let target ← liftExcept id (s.time.checkedTpoStart timestampNs)
      let current ← liftExcept id s.currentTpo
      moveTpo target current
      modify (noteTime timestampNs)
      pure none

def liveSnapshotWithBasis : Except AnalyticsError (Option SessionProfile) :=
  match s.sessionStart with
  | none => .ok none
  | some _ => some <$> s.closedSnapshot .live basis

/-- The profile of the open session. -/
def liveSnapshot : Except AnalyticsError (Option SessionProfile) :=
  s.liveSnapshotWithBasis s.config.basis

/-- **End the session.** -/
def finish : ProfileM (Option SessionProfile) := do
  let s ← get
  match s.sessionStart with
  | none => pure none
  | some _ => do
    let finalized ← closeSession
    pure (some finalized)

end SessionProfileBuilder

end Marketfeed
