import Marketfeed.Lib.Run
import Marketfeed.Model.Events

/-!
# Grids and periods

Model of `crates/analytics/src/grid.rs`, of the time frames in `config.rs` and of the errors in
`error.rs`. A grid turns prices into whole ticks and ticks into buckets of `levels_per_bucket`; a
quantity is counted in units of the grid's quantity scale. Periods are aligned to an anchor.

Everything is checked: a result outside the range of its machine type is an error, and so is a price
that is not a positive multiple of the tick.
-/

namespace Marketfeed

/-! ## Errors and checked arithmetic -/

/-- Source: `error.rs` `AnalyticsError`; the variants of the builders -/
inductive AnalyticsError
  | invalidConfig (field detail : String)
  | fixed (field : String) (source : FixedError)
  | nonPositive (field : String)
  | misalignedPrice
  | arithmeticOverflow (operation : String)
  | lateTrade (timestampNs finalizedBeforeNs : Int)
  | instrumentMismatch (expected actual : InstrumentId)
  | capacityExceeded (resource : String) (limit : Nat)
  | corruptSnapshot (detail : String)
deriving DecidableEq

def AnalyticsError.overflow (operation : String) : AnalyticsError := .arithmeticOverflow operation

/-- The error is an overflow. -/
def AnalyticsError.IsOverflow : AnalyticsError → Prop
  | .arithmeticOverflow _ => True
  | _ => False

/-- Lower end of the `i64` range. -/
def i64Min : Int := -(2 ^ 63)

/-- Upper end of the `i64` range. -/
def i64Max : Int := 2 ^ 63 - 1

/-- Result of a checked `i64` operation.
Source: `i64::checked_add`, `i64::try_from` -/
def checkedI64 (x : Int) : Option Int := if i64Min ≤ x ∧ x ≤ i64Max then some x else none

/-- Result of a checked `i32` operation.
Source: `i32::checked_add` -/
def checkedI32 (x : Int) : Option Int := if -(2 ^ 31) ≤ x ∧ x ≤ 2 ^ 31 - 1 then some x else none

/-- Result of a checked `u64` operation.
Source: `u64::checked_add` -/
def checkedU64 (x : Nat) : Option Nat := if x < 2 ^ 64 then some x else none

/-- Source: `.ok_or_else(|| overflow(operation))` -/
def orOverflow {α : Type} (operation : String) : Option α → Except AnalyticsError α
  | some a => .ok a
  | none => .error (.overflow operation)

lemma orOverflow_eq_ok {α : Type} {operation : String} {o : Option α} {a : α} :
    orOverflow operation o = .ok a ↔ o = some a := by
  cases o <;> simp [orOverflow]

/-- The computation fails with an overflow only. -/
abbrev UpToOverflow {α : Type} (x : Except AnalyticsError α) : Prop :=
  FailsOnly AnalyticsError.IsOverflow x

lemma upToOverflow_orOverflow {α : Type} (operation : String) (o : Option α) :
    UpToOverflow (orOverflow operation o) := by
  rcases o with _ | a
  · exact .error trivial
  · exact .ok a

variable {x y : Int}

lemma checkedI64_eq_some : checkedI64 x = some y ↔ (i64Min ≤ x ∧ x ≤ i64Max) ∧ y = x := by
  rw [checkedI64, Option.ite_none_right_eq_some, Option.some.injEq, eq_comm]

lemma checkedI32_eq_some : checkedI32 x = some y ↔ (-(2 ^ 31) ≤ x ∧ x ≤ 2 ^ 31 - 1) ∧ y = x := by
  rw [checkedI32, Option.ite_none_right_eq_some, Option.some.injEq, eq_comm]

lemma checkedU64_eq_some {x y : Nat} : checkedU64 x = some y ↔ x < 2 ^ 64 ∧ y = x := by
  rw [checkedU64, Option.ite_none_right_eq_some, Option.some.injEq, eq_comm]

/-- What the grid makes of a failed rescale.
Source: `.map_err(|source| AnalyticsError::Fixed { field, source })` -/
def rescaleFor (field : String) (value : Fixed) (scale : Nat) : Except AnalyticsError Fixed :=
  match value.rescale scale .exactOnly with
  | .ok v => .ok v
  | .error e => .error (.fixed field e)

lemma rescaleFor_eq_ok {field : String} {value v : Fixed} {scale : Nat} :
    rescaleFor field value scale = .ok v ↔ value.rescale scale .exactOnly = .ok v := by
  unfold rescaleFor
  rcases value.rescale scale .exactOnly with e | w
  · exact iff_of_false (by rintro ⟨⟩) (by rintro ⟨⟩)
  · rw [Except.ok.injEq, Except.ok.injEq]

/-! ## The grid -/

structure GridSpec where
  priceScale : Nat
  quantityScale : Nat
  tickSize : Fixed
  levelsPerBucket : Nat
deriving DecidableEq

namespace GridSpec

def new (priceScale quantityScale : Nat) (tickSize : Fixed) (levelsPerBucket : Nat) :
    Except AnalyticsError GridSpec :=
  if levelsPerBucket = 0 then .error (.invalidConfig "levels_per_bucket" "must be greater than zero")
  else do
    let tickSize ← rescaleFor "tick_size" tickSize priceScale
    if tickSize.coefficient ≤ 0 then .error (.nonPositive "tick_size")
    else do
      let _ ← orOverflow "calculating bucket size"
        (checkedI128 (tickSize.coefficient * levelsPerBucket))
      .ok { priceScale, quantityScale, tickSize, levelsPerBucket }

variable (g : GridSpec)

def validate : Except AnalyticsError Unit :=
  (fun _ => ()) <$> new g.priceScale g.quantityScale g.tickSize g.levelsPerBucket

def bucketSizeCoefficient : Except AnalyticsError Int :=
  orOverflow "calculating bucket size" (checkedI128 (g.tickSize.coefficient * g.levelsPerBucket))

def priceTick (price : Price) : Except AnalyticsError Int := do
  let price ← rescaleFor "price" price.fixed g.priceScale
  if price.coefficient ≤ 0 then .error (.nonPositive "price")
  else if price.coefficient.tmod g.tickSize.coefficient ≠ 0 then .error .misalignedPrice
  else .ok (price.coefficient.tdiv g.tickSize.coefficient)

def priceBucket (price : Price) : Except AnalyticsError Int := do
  let tick ← g.priceTick price
  .ok (tick / g.levelsPerBucket)

def priceAtTick (tick : Int) : Except AnalyticsError Price :=
  if tick ≤ 0 then .error (.nonPositive "price tick")
  else do
    let coefficient ← orOverflow "converting a price tick"
      (checkedI128 (tick * g.tickSize.coefficient))
    .ok ⟨⟨coefficient, g.priceScale⟩⟩

def priceAt (bucket : Int) : Except AnalyticsError Price :=
  if bucket ≤ 0 then .error (.nonPositive "price bucket")
  else do
    let size ← g.bucketSizeCoefficient
    let coefficient ← orOverflow "converting a price bucket" (checkedI128 (bucket * size))
    .ok ⟨⟨coefficient, g.priceScale⟩⟩

def nonNegativeQuantityUnits (quantity : Quantity) : Except AnalyticsError Int := do
  let quantity ← rescaleFor "quantity" quantity.fixed g.quantityScale
  if quantity.coefficient < 0 then .error (.nonPositive "quantity") else .ok quantity.coefficient

def quantityUnits (quantity : Quantity) : Except AnalyticsError Int := do
  let units ← g.nonNegativeQuantityUnits quantity
  if units = 0 then .error (.nonPositive "quantity") else .ok units

def quantityAt (units : Int) : Except AnalyticsError Quantity :=
  if units < 0 then .error (.invalidConfig "quantity units" "must not be negative")
  else .ok ⟨⟨units, g.quantityScale⟩⟩

def signedQuantityAt (units : Int) : Fixed := ⟨units, g.quantityScale⟩

/-- The grid passes its own check. -/
def Valid : Prop := g.validate = .ok ()

instance (g : GridSpec) : Decidable g.Valid := inferInstanceAs (Decidable (g.validate = .ok ()))

end GridSpec

/-! ### What the grid accepts -/

namespace GridSpec

variable {g : GridSpec}

lemma new_eq_ok {priceScale quantityScale levelsPerBucket : Nat} {tickSize : Fixed} :
    new priceScale quantityScale tickSize levelsPerBucket = .ok g ↔
      levelsPerBucket ≠ 0 ∧ ∃ tick, tickSize.rescale priceScale .exactOnly = .ok tick ∧
        0 < tick.coefficient ∧
        (i128Min ≤ tick.coefficient * levelsPerBucket ∧
          tick.coefficient * levelsPerBucket ≤ i128Max) ∧
        g = { priceScale, quantityScale, tickSize := tick, levelsPerBucket } := by
  unfold new
  rw [check_eq_ok]
  refine and_congr_right fun _ => ?_
  rw [bind_eq_ok]
  refine exists_congr fun tick => ?_
  rw [rescaleFor_eq_ok, check_eq_ok, not_le, bind_eq_ok]
  refine and_congr_right fun _ => and_congr_right fun _ => ?_
  constructor
  · rintro ⟨size, hsize, hg⟩
    rw [orOverflow_eq_ok, checkedI128_eq_some] at hsize
    exact ⟨hsize.1, (Except.ok.inj hg).symm⟩
  · rintro ⟨hfits, rfl⟩
    exact ⟨_, orOverflow_eq_ok.mpr (checkedI128_eq_some.mpr ⟨hfits, rfl⟩), rfl⟩

lemma valid_iff : g.Valid ↔
    ∃ g', new g.priceScale g.quantityScale g.tickSize g.levelsPerBucket = .ok g' := by
  unfold Valid validate
  rcases new g.priceScale g.quantityScale g.tickSize g.levelsPerBucket with e | g'
  · refine iff_of_false (by rintro ⟨⟩) ?_
    rintro ⟨g', ⟨⟩⟩
  · exact iff_of_true rfl ⟨g', rfl⟩

lemma Valid.levels_pos (h : g.Valid) : 0 < (g.levelsPerBucket : Int) := by
  obtain ⟨g', hg'⟩ := valid_iff.mp h
  have hne := (new_eq_ok.mp hg').1
  omega

lemma Valid.tick_pos (h : g.Valid) : 0 < g.tickSize.coefficient := by
  obtain ⟨g', hg'⟩ := valid_iff.mp h
  obtain ⟨-, tick, htick, hpos, -⟩ := new_eq_ok.mp hg'
  exact (Fixed.coefficient_pos_of_rescale htick).mp hpos

variable {price : Price}

/-- A price has a tick iff it is a positive multiple of the tick size at the price scale. -/
lemma priceTick_eq_ok (h : g.Valid) {tick : Int} :
    g.priceTick price = .ok tick ↔
      0 < tick ∧ price.fixed.rescale g.priceScale .exactOnly =
        .ok ⟨tick * g.tickSize.coefficient, g.priceScale⟩ := by
  have hpos := h.tick_pos
  unfold priceTick
  rw [bind_eq_ok]
  constructor
  · rintro ⟨⟨c, scale⟩, hrescale, htick⟩
    rw [rescaleFor_eq_ok] at hrescale
    rw [check_eq_ok, check_eq_ok, not_le, not_not] at htick
    obtain ⟨hc, hmod, htick⟩ := htick
    have hmul : c.tdiv g.tickSize.coefficient * g.tickSize.coefficient = c :=
      Int.tdiv_mul_cancel (Int.dvd_of_tmod_eq_zero hmod)
    rw [Except.ok.inj htick] at hmul
    refine ⟨?_, ?_⟩
    · by_contra hneg
      have hle := mul_nonpos_of_nonpos_of_nonneg (not_lt.mp hneg) hpos.le
      dsimp only at hc
      omega
    · have hscale : scale = g.priceScale := (Fixed.toRat_rescale_exactOnly hrescale).1
      rw [hrescale, hmul, hscale]
  · rintro ⟨htick, hrescale⟩
    refine ⟨_, rescaleFor_eq_ok.mpr hrescale, ?_⟩
    rw [check_eq_ok, check_eq_ok, not_le, not_not]
    exact ⟨mul_pos htick hpos, Int.mul_tmod_left tick _,
      congrArg _ (Int.mul_tdiv_cancel tick hpos.ne')⟩

variable {bucket : Int}

lemma priceBucket_eq_ok :
    g.priceBucket price = .ok bucket ↔
      ∃ tick, g.priceTick price = .ok tick ∧ bucket = tick / g.levelsPerBucket := by
  unfold priceBucket
  rw [bind_eq_ok]
  refine exists_congr fun tick => and_congr_right fun _ => ?_
  rw [Except.ok.injEq, eq_comm]

lemma priceAtTick_eq_ok {tick : Int} :
    g.priceAtTick tick = .ok price ↔
      0 < tick ∧ (i128Min ≤ tick * g.tickSize.coefficient ∧
        tick * g.tickSize.coefficient ≤ i128Max) ∧
      price = ⟨⟨tick * g.tickSize.coefficient, g.priceScale⟩⟩ := by
  unfold priceAtTick
  rw [check_eq_ok, not_le, bind_eq_ok]
  refine and_congr_right fun _ => ?_
  constructor
  · rintro ⟨c, hc, hprice⟩
    rw [orOverflow_eq_ok, checkedI128_eq_some] at hc
    obtain ⟨hfits, rfl⟩ := hc
    exact ⟨hfits, (Except.ok.inj hprice).symm⟩
  · rintro ⟨hfits, rfl⟩
    exact ⟨_, orOverflow_eq_ok.mpr (checkedI128_eq_some.mpr ⟨hfits, rfl⟩), rfl⟩

/-- The price of a bucket. -/
def bucketPrice (g : GridSpec) (bucket : Int) : Price :=
  ⟨⟨bucket * (g.tickSize.coefficient * g.levelsPerBucket), g.priceScale⟩⟩

/-- **A bucket has a price iff it is at least one** and its price fits. -/
theorem priceAt_eq_ok (h : g.Valid) :
    g.priceAt bucket = .ok price ↔
      0 < bucket ∧ bucket * (g.tickSize.coefficient * g.levelsPerBucket) ≤ i128Max ∧
      price = g.bucketPrice bucket := by
  have hsize : 0 < g.tickSize.coefficient * g.levelsPerBucket := mul_pos h.tick_pos h.levels_pos
  have hmin : i128Min ≤ 0 := by decide
  unfold priceAt bucketSizeCoefficient
  rw [check_eq_ok, not_le, bind_eq_ok]
  refine and_congr_right fun hbucket => ?_
  constructor
  · rintro ⟨size, hs, hprice⟩
    rw [orOverflow_eq_ok, checkedI128_eq_some] at hs
    obtain ⟨c, hc, hprice⟩ := bind_eq_ok.mp hprice
    rw [orOverflow_eq_ok, checkedI128_eq_some] at hc
    obtain ⟨hfits, rfl⟩ := hc
    rw [hs.2] at hfits hprice
    exact ⟨hfits.2, (Except.ok.inj hprice).symm⟩
  · rintro ⟨hfits, rfl⟩
    -- The bucket size is at most the price of the bucket.
    have hle : g.tickSize.coefficient * g.levelsPerBucket ≤
        bucket * (g.tickSize.coefficient * g.levelsPerBucket) :=
      le_mul_of_one_le_left hsize.le hbucket
    refine ⟨_, orOverflow_eq_ok.mpr (checkedI128_eq_some.mpr ⟨⟨?_, hle.trans hfits⟩, rfl⟩), ?_⟩
    · exact hmin.trans hsize.le
    · refine bind_eq_ok.mpr ⟨_, orOverflow_eq_ok.mpr (checkedI128_eq_some.mpr ⟨⟨?_, hfits⟩, rfl⟩), rfl⟩
      exact hmin.trans (mul_pos hbucket hsize).le

/-- The price of a bucket is at most the price of any tick in it. -/
lemma Valid.bucket_mul_le (h : g.Valid) (tick : Int) :
    tick / (g.levelsPerBucket : Int) * (g.tickSize.coefficient * g.levelsPerBucket) ≤
      tick * g.tickSize.coefficient := by
  have hdiv := Int.ediv_mul_le tick h.levels_pos.ne'
  calc tick / (g.levelsPerBucket : Int) * (g.tickSize.coefficient * g.levelsPerBucket)
      = tick / (g.levelsPerBucket : Int) * g.levelsPerBucket * g.tickSize.coefficient := by ring
    _ ≤ tick * g.tickSize.coefficient := mul_le_mul_of_nonneg_right hdiv h.tick_pos.le

/-- A bucket of one or more fails to have a price only by an overflow. -/
lemma upToOverflow_priceAt (h : 0 < bucket) : UpToOverflow (g.priceAt bucket) := by
  unfold priceAt
  rw [if_neg (not_le.mpr h)]
  refine FailsOnly.bind (upToOverflow_orOverflow _ _) fun _ _ => ?_
  exact FailsOnly.bind (upToOverflow_orOverflow _ _) fun _ _ => .ok _

/-- A quantity has units iff it is positive and exact at the quantity scale. -/
lemma quantityUnits_eq_ok {quantity : Quantity} {units : Int} :
    g.quantityUnits quantity = .ok units ↔
      0 < units ∧ quantity.fixed.rescale g.quantityScale .exactOnly =
        .ok ⟨units, g.quantityScale⟩ := by
  unfold quantityUnits nonNegativeQuantityUnits
  rw [bind_eq_ok]
  constructor
  · rintro ⟨u, hu, hunits⟩
    obtain ⟨⟨c, scale⟩, hrescale, hu⟩ := bind_eq_ok.mp hu
    rw [rescaleFor_eq_ok] at hrescale
    rw [check_eq_ok, not_lt] at hu
    rw [check_eq_ok] at hunits
    obtain ⟨hc, hu⟩ := hu
    obtain ⟨hne, hunits⟩ := hunits
    cases hu
    cases hunits
    have hscale : scale = g.quantityScale := (Fixed.toRat_rescale_exactOnly hrescale).1
    refine ⟨lt_of_le_of_ne hc (Ne.symm hne), ?_⟩
    rw [hrescale, hscale]
  · rintro ⟨hpos, hrescale⟩
    refine ⟨units, bind_eq_ok.mpr ⟨_, rescaleFor_eq_ok.mpr hrescale, ?_⟩, ?_⟩
    · exact check_eq_ok.mpr ⟨not_lt.mpr hpos.le, rfl⟩
    · exact check_eq_ok.mpr ⟨hpos.ne', rfl⟩

/-- A volume of the grid. -/
def volume (g : GridSpec) (units : Int) : Quantity := ⟨⟨units, g.quantityScale⟩⟩

lemma quantityAt_of_nonneg {units : Int} (h : 0 ≤ units) :
    g.quantityAt units = .ok (g.volume units) :=
  if_neg (not_lt.mpr h)

end GridSpec

/-! ## Periods -/

/-- Source: `config.rs` `TimeframeSpec` -/
structure TimeframeSpec where
  candleNs : Int
  tpoNs : Int
  sessionNs : Int
  anchorNs : Int
  topZoneWindowNs : Int
deriving DecidableEq

/-- The start of the period a timestamp falls into.
Source: `period_start_i128` -/
def periodStart (timestampNs anchorNs durationNs : Int) : Int :=
  (timestampNs - anchorNs) / durationNs * durationNs + anchorNs

def periodStartChecked (timestampNs anchorNs durationNs : Int) : Except AnalyticsError Int :=
  orOverflow "calculating an event-time period boundary"
    (checkedI64 (periodStart timestampNs anchorNs durationNs))

namespace TimeframeSpec

/-- Source: `TimeframeSpec::new`, which returns its arguments -/
def validate (t : TimeframeSpec) : Except AnalyticsError Unit :=
  if t.candleNs ≤ 0 then .error (.nonPositive "candle_ns")
  else if t.tpoNs ≤ 0 then .error (.nonPositive "tpo_ns")
  else if t.sessionNs ≤ 0 then .error (.nonPositive "session_ns")
  else if t.topZoneWindowNs ≤ 0 then .error (.nonPositive "top_zone_window_ns")
  else if t.sessionNs < t.candleNs ∨ t.sessionNs.tmod t.candleNs ≠ 0 then
    .error (.invalidConfig "candle_ns" "must evenly divide session_ns")
  else if t.sessionNs < t.tpoNs ∨ t.sessionNs.tmod t.tpoNs ≠ 0 then
    .error (.invalidConfig "tpo_ns" "must evenly divide session_ns")
  else .ok ()

def checkedCandleStart (t : TimeframeSpec) (timestampNs : Int) : Except AnalyticsError Int :=
  periodStartChecked timestampNs t.anchorNs t.candleNs

def checkedTpoStart (t : TimeframeSpec) (timestampNs : Int) : Except AnalyticsError Int :=
  periodStartChecked timestampNs t.anchorNs t.tpoNs

def checkedSessionStart (t : TimeframeSpec) (timestampNs : Int) : Except AnalyticsError Int :=
  periodStartChecked timestampNs t.anchorNs t.sessionNs

/-- The time frames pass their own check. -/
def Valid (t : TimeframeSpec) : Prop := t.validate = .ok ()

variable {t : TimeframeSpec}

lemma valid_iff : t.Valid ↔ 0 < t.candleNs ∧ 0 < t.tpoNs ∧ 0 < t.sessionNs ∧
    0 < t.topZoneWindowNs ∧ (t.candleNs ≤ t.sessionNs ∧ t.candleNs ∣ t.sessionNs) ∧
    t.tpoNs ≤ t.sessionNs ∧ t.tpoNs ∣ t.sessionNs := by
  unfold Valid validate
  simp only [check_eq_ok, not_le, not_or, not_lt, not_not, and_true, Int.dvd_iff_tmod_eq_zero]

lemma Valid.candle_pos (h : t.Valid) : 0 < t.candleNs := (valid_iff.mp h).1

lemma Valid.tpo_pos (h : t.Valid) : 0 < t.tpoNs := (valid_iff.mp h).2.1

lemma Valid.session_pos (h : t.Valid) : 0 < t.sessionNs := (valid_iff.mp h).2.2.1

end TimeframeSpec

section Periods

variable {timestampNs anchorNs durationNs : Int}

lemma periodStartChecked_eq_ok {start : Int} :
    periodStartChecked timestampNs anchorNs durationNs = .ok start ↔
      (i64Min ≤ periodStart timestampNs anchorNs durationNs ∧
        periodStart timestampNs anchorNs durationNs ≤ i64Max) ∧
      start = periodStart timestampNs anchorNs durationNs := by
  rw [periodStartChecked, orOverflow_eq_ok, checkedI64_eq_some]

/-- A period starts at or before its timestamps. -/
lemma periodStart_le (h : 0 < durationNs) :
    periodStart timestampNs anchorNs durationNs ≤ timestampNs := by
  have hle := Int.ediv_mul_le (timestampNs - anchorNs) h.ne'
  unfold periodStart
  omega

/-- A period ends after its timestamps. -/
lemma lt_periodStart_add (h : 0 < durationNs) :
    timestampNs < periodStart timestampNs anchorNs durationNs + durationNs := by
  have hlt := Int.lt_ediv_add_one_mul_self (timestampNs - anchorNs) h
  rw [add_mul, one_mul] at hlt
  unfold periodStart
  omega

/-- Later timestamps have later periods. -/
lemma periodStart_mono (h : 0 < durationNs) {later : Int} (hle : timestampNs ≤ later) :
    periodStart timestampNs anchorNs durationNs ≤ periodStart later anchorNs durationNs := by
  have hdiv := Int.ediv_le_ediv h (sub_le_sub_right hle anchorNs)
  have hmul := Int.mul_le_mul_of_nonneg_right hdiv h.le
  unfold periodStart
  omega

end Periods

end Marketfeed
