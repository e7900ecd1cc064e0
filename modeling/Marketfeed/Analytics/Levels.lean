import Marketfeed.Analytics.Bubbles

/-!
# Structural levels

Model of `crates/analytics/src/levels.rs`. An engine turns finalized candles and their bubbles into
levels: *naked* levels for the bubbles that the next candle leaves alone, *reaction* levels at the
turning points of three candles, and the *top* levels of the day and of the week. A later candle touches
a level that is not a top one; when there are too many, touched levels go first.
-/

namespace Marketfeed

/-! ## Levels -/

inductive StructuralLevelKind
  | naked
  | reactionHigh
  | reactionLow
  | topDay
  | topWeek
deriving DecidableEq

/-- Source: `matches!(level.kind, TopDay | TopWeek)` -/
def StructuralLevelKind.isTop : StructuralLevelKind → Bool
  | .topDay | .topWeek => true
  | _ => false

inductive StructuralLevelState
  | active
  | touched
deriving DecidableEq

structure StructuralLevel where
  id : UInt64
  kind : StructuralLevelKind
  state : StructuralLevelState
  sourceBubbleId : UInt64
  direction : BubbleDirection
  tier : BubbleTier
  price : Price
  strength : Fixed
  createdAtNs : Int
  touchedAtNs : Option Int
  windowStartNs : Option Int
  expiresAtNs : Option Int
deriving DecidableEq

def levelId (kind : StructuralLevelKind) (bubbleId : UInt64) (salt : Int) : UInt64 :=
  let kind : UInt64 := match kind with
    | .naked => 1
    | .reactionHigh => 2
    | .reactionLow => 3
    | .topDay => 4
    | .topWeek => 5
  [kind, bubbleId, UInt64.ofNat (salt % 2 ^ 64).toNat].foldl
    (fun value part => (value ^^^ part) * 1099511628211) 14695981039346656037

def levelFromBubble (kind : StructuralLevelKind) (price : Price) (createdAtNs : Int)
    (windowStartNs expiresAtNs : Option Int) (bubble : OrderFlowBubble) : StructuralLevel where
  id := levelId kind bubble.id (windowStartNs.getD createdAtNs)
  kind := kind
  state := .active
  sourceBubbleId := bubble.id
  direction := bubble.direction
  tier := bubble.tier
  price := price
  strength := bubble.strength
  createdAtNs := createdAtNs
  touchedAtNs := none
  windowStartNs := windowStartNs
  expiresAtNs := expiresAtNs

def compareFixed (left right : Fixed) : Ordering :=
  if left.scale = right.scale then compare left.coefficient right.coefficient
  else
    let scale := max left.scale right.scale
    match left.rescale scale .exactOnly, right.rescale scale .exactOnly with
    | .ok left, .ok right => compare left.coefficient right.coefficient
    | _, _ => (compare left.scale right.scale).then (compare left.coefficient right.coefficient)

structure StructuralLevelConfig where
  touchToleranceTicks : Nat
  maxLevels : Nat
  topPerSide : Nat
deriving DecidableEq

def StructuralLevelConfig.new (touchToleranceTicks maxLevels topPerSide : Nat) :
    Except AnalyticsError StructuralLevelConfig :=
  if maxLevels = 0 then .error (.invalidConfig "max_levels" "must be greater than zero")
  else if topPerSide = 0 then .error (.invalidConfig "top_per_side" "must be greater than zero")
  else if 2 ^ 64 ≤ topPerSide * 4 then
    .error (.invalidConfig "top_per_side" "is too large to reserve daily and weekly levels")
  else if maxLevels < topPerSide * 4 then
    .error (.invalidConfig "max_levels" "must fit daily and weekly top levels for both sides")
  else .ok { touchToleranceTicks, maxLevels, topPerSide }

/-! ## The engine -/

structure CandleFrame where
  candle : CandleFlow
  bubbles : List OrderFlowBubble
deriving DecidableEq

structure StructuralLevelEngine where
  grid : GridSpec
  config : StructuralLevelConfig
  lastCandleStartNs : Option Int
  frames : List CandleFrame
  pendingNaked : List OrderFlowBubble
  levels : List StructuralLevel
deriving DecidableEq

namespace StructuralLevelEngine

def new (grid : GridSpec) (config : StructuralLevelConfig) :
    Except AnalyticsError StructuralLevelEngine := do
  grid.validate
  let _ ← StructuralLevelConfig.new config.touchToleranceTicks config.maxLevels config.topPerSide
  .ok { grid, config, lastCandleStartNs := none, frames := [], pendingNaked := [], levels := [] }

variable (e : StructuralLevelEngine)

/-- Source: `i128::saturating_add`, `i128::saturating_sub` and the comparisons of `touch_existing` -/
def touches (lowTick highTick tick : Int) : Bool :=
  lowTick ≤ min (tick + e.config.touchToleranceTicks) i128Max &&
    max (tick - e.config.touchToleranceTicks) i128Min ≤ highTick

/-- Source: the body of the loop of `touch_existing` -/
def touchLevel (candle : CandleFlow) (lowTick highTick : Int) (level : StructuralLevel) :
    Except AnalyticsError StructuralLevel :=
  if level.state ≠ .active ∨ level.kind.isTop ∨ candle.endTs ≤ level.createdAtNs then .ok level
  else do
    let tick ← e.grid.priceTick level.price
    if e.touches lowTick highTick tick then
      .ok { level with state := .touched, touchedAtNs := some candle.endTs }
    else .ok level

/-- The levels that a candle makes of the bubbles of the candle before it. -/
def activateNaked (candle : CandleFlow) (lowTick highTick : Int) :
    Except AnalyticsError (List StructuralLevel) := do
  let levels ← e.pendingNaked.mapM fun bubble => do
    let tick ← e.grid.priceTick bubble.anchorPrice
    .ok (if e.touches lowTick highTick tick then []
      else [levelFromBubble .naked bubble.anchorPrice candle.endTs none none bubble])
  .ok levels.flatten

/-- The last bubble that no other one is stronger than.
Source: the `max_by` of `confirm_reactions` -/
def strongest (bubbles : List OrderFlowBubble) : Option OrderFlowBubble :=
  bubbles.foldl (fun best right =>
    match best with
    | none => some right
    | some left =>
      if (compareFixed left.strength right.strength).then (compare right.id left.id) = .gt then some left
      else some right) none

/-- The levels at the turning points of three candles. -/
def confirmReactions (g : GridSpec) : List CandleFrame → Except AnalyticsError (List StructuralLevel)
  | [left, center, right] =>
    match left.candle.high, center.candle.high, right.candle.high,
      left.candle.low, center.candle.low, right.candle.low with
    | some leftHigh, some centerHigh, some rightHigh, some leftLow, some centerLow, some rightLow => do
      let lh ← g.priceTick leftHigh
      let ch ← g.priceTick centerHigh
      let rh ← g.priceTick rightHigh
      let ll ← g.priceTick leftLow
      let cl ← g.priceTick centerLow
      let rl ← g.priceTick rightLow
      match strongest center.bubbles with
      | none => .ok []
      | some bubble => .ok (
          (if ch > lh ∧ ch > rh then
            [levelFromBubble .reactionHigh centerHigh right.candle.endTs none none bubble] else []) ++
          (if cl < ll ∧ cl < rl then
            [levelFromBubble .reactionLow centerLow right.candle.endTs none none bubble] else []))
    | _, _, _, _, _, _ => .ok []
  | _ => .ok []

/-- Source: the push to `frames` in `ingest_checked` -/
def nextFrames (candle : CandleFlow) (bubbles : List OrderFlowBubble) : List CandleFrame :=
  let frames := e.frames ++ [⟨candle, bubbles⟩]
  frames.drop (frames.length - 3)

/-- The levels that a call makes, apart from the top ones. -/
def newLevels (candle : CandleFlow) (bubbles : List OrderFlowBubble) (lowTick highTick : Int) :
    Except AnalyticsError (List StructuralLevel) := do
  let naked ← e.activateNaked candle lowTick highTick
  let reactions ← confirmReactions e.grid (e.nextFrames candle bubbles)
  .ok (naked ++ reactions)

/-! ### Top levels -/

/-- The order of the levels of one direction, the strongest first.
Source: the `sort_by` of `trim_top` -/
def trimOrder (a b : StructuralLevel × Nat) : Ordering :=
  (compareFixed b.1.strength a.1.strength).then
    ((compare a.1.sourceBubbleId b.1.sourceBubbleId).then (compare a.2 b.2))

/-- Source: the body of the loop of `trim_top` -/
def trimDirection (topPerSide : Nat) (kind : StructuralLevelKind) (windowStart : Int)
    (levels : List StructuralLevel) (direction : BubbleDirection) : List StructuralLevel :=
  let found := levels.zipIdx.filter fun p =>
    p.1.kind = kind ∧ p.1.windowStartNs = some windowStart ∧ p.1.direction = direction
  let remove := ((found.insertionSort fun a b => trimOrder a b ≠ .gt).drop topPerSide).map (·.2)
  (remove.insertionSort (· ≥ ·)).foldl List.eraseIdx levels

def trimTop (topPerSide : Nat) (kind : StructuralLevelKind) (windowStart : Int)
    (levels : List StructuralLevel) : List StructuralLevel :=
  [BubbleDirection.buy, .sell].foldl (trimDirection topPerSide kind windowStart) levels

def dayNs : Int := 86400000000000

def weekNs : Int := 604800000000000

/-- Source: the body of the loop of `update_top_levels`. A start below the range of `i64` wraps to one
whose expiry overflows. -/
def updateTop (topPerSide : Nat) (candle : CandleFlow) (bubbles : List OrderFlowBubble)
    (levels : List StructuralLevel) (window : StructuralLevelKind × Int) :
    Except AnalyticsError (List StructuralLevel) := do
  let windowStart := candle.startTs / window.2 * window.2
  let expires ← orOverflow "calculating structural level expiry"
    ((checkedI64 windowStart).bind fun start => checkedI64 (start + window.2))
  let kept := levels.filter fun level =>
    level.kind ≠ window.1 ∨ level.windowStartNs = some windowStart
  let found := (bubbles.filter (·.direction ≠ .neutral)).map fun bubble =>
    levelFromBubble window.1 bubble.anchorPrice candle.endTs (some windowStart) (some expires) bubble
  .ok (trimTop topPerSide window.1 windowStart (kept ++ found))

/-- The top levels of the day and of the week. -/
def updateTopLevels (topPerSide : Nat) (candle : CandleFlow) (bubbles : List OrderFlowBubble)
    (levels : List StructuralLevel) : Except AnalyticsError (List StructuralLevel) :=
  [(StructuralLevelKind.topDay, dayNs), (.topWeek, weekNs)].foldlM
    (updateTop topPerSide candle bubbles) levels

/-- Source: the body of the loop of `enforce_capacity` -/
def evict (levels : List StructuralLevel) : List StructuralLevel :=
  levels.eraseIdx ((levels.findIdx? (·.state = .touched)).getD 0)

/-- Source: `enforce_capacity`; each pass of its loop removes one level -/
def enforceCapacity (maxLevels : Nat) (levels : List StructuralLevel) : List StructuralLevel :=
  evict^[levels.length - maxLevels] levels

/-! ### A call -/

/-- Source: the checks of `ingest_checked` on a bubble -/
def checkBubble (candle : CandleFlow) (bubble : OrderFlowBubble) : Except AnalyticsError Unit :=
  if bubble.instrument ≠ candle.instrument ∨ bubble.candleStartNs ≠ candle.startTs ∨
      bubble.candleEndNs ≠ candle.endTs then
    .error (.corruptSnapshot "bubble does not belong to finalized candle")
  else do
    let _ ← e.grid.priceTick bubble.anchorPrice
    .ok ()

/-- Source: the check of `ingest_checked` on the start of a candle -/
def checkStart (candle : CandleFlow) : Except AnalyticsError Unit :=
  match e.lastCandleStartNs with
  | some previous =>
    if candle.startTs ≤ previous then
      .error (.lateTrade candle.startTs (min (previous + 1) i64Max))
    else .ok ()
  | none => .ok ()

/-- The range of a candle in ticks, low and high.
Source: the end of the checks of `ingest_checked` -/
def range (g : GridSpec) (candle : CandleFlow) : Except AnalyticsError (Int × Int) :=
  match candle.high, candle.low with
  | none, _ => .error (.corruptSnapshot "finalized candle is missing high")
  | some _, none => .error (.corruptSnapshot "finalized candle is missing low")
  | some high, some low => do
    let highTick ← g.priceTick high
    let lowTick ← g.priceTick low
    if lowTick > highTick then .error (.corruptSnapshot "finalized candle low exceeds high")
    else .ok (lowTick, highTick)

/-- The checks of a call.
Source: `ingest_checked`, up to `touch_existing` -/
def check (candle : CandleFlow) (bubbles : List OrderFlowBubble) : Except AnalyticsError (Int × Int) :=
  if candle.state ≠ .final then
    .error (.corruptSnapshot "structural levels require a finalized candle")
  else do
    e.checkStart candle
    bubbles.forM (e.checkBubble candle)
    range e.grid candle

/-- Source: `ingest_finalized`, `ingest_checked`. The clone makes a failed call leave the engine as it
was. -/
def ingestFinalized (candle : CandleFlow) (bubbles : List OrderFlowBubble) :
    Except AnalyticsError StructuralLevelEngine := do
  let ticks ← e.check candle bubbles
  let old ← e.levels.mapM (e.touchLevel candle ticks.1 ticks.2)
  let new ← e.newLevels candle bubbles ticks.1 ticks.2
  let levels ← updateTopLevels e.config.topPerSide candle bubbles (old ++ new)
  .ok { e with
    lastCandleStartNs := some candle.startTs
    frames := e.nextFrames candle bubbles
    pendingNaked := bubbles
    levels := enforceCapacity e.config.maxLevels levels }

/-- A call after another, each of which has to succeed. -/
def run (calls : List CandleFrame) : Except AnalyticsError StructuralLevelEngine :=
  calls.foldlM (fun e call => e.ingestFinalized call.candle call.bubbles) e

/-! ## What a call does to the levels -/

variable {e} {g : GridSpec} {candle : CandleFlow} {bubbles : List OrderFlowBubble}
  {level : StructuralLevel} {low high : Int}

lemma foldl_eraseIdx_sublist (levels : List StructuralLevel) (remove : List Nat) :
    (remove.foldl List.eraseIdx levels).Sublist levels := by
  induction remove generalizing levels with
  | nil => exact .refl levels
  | cons i remove ih => exact (ih (levels.eraseIdx i)).trans (levels.eraseIdx_sublist i)

lemma trimTop_sublist (topPerSide : Nat) (kind : StructuralLevelKind) (windowStart : Int)
    (levels : List StructuralLevel) : (trimTop topPerSide kind windowStart levels).Sublist levels :=
  (foldl_eraseIdx_sublist _ _).trans (foldl_eraseIdx_sublist _ _)

lemma enforceCapacity_sublist (maxLevels : Nat) (levels : List StructuralLevel) :
    (enforceCapacity maxLevels levels).Sublist levels := by
  unfold enforceCapacity
  induction levels.length - maxLevels with
  | zero => exact .refl levels
  | succ n ih =>
    rw [Function.iterate_succ_apply']
    exact (List.eraseIdx_sublist _ _).trans ih

variable {levels : List StructuralLevel}

lemma mem_of_updateTop {topPerSide : Nat} {out : List StructuralLevel}
    {window : StructuralLevelKind × Int} (hwindow : window.1.isTop = true)
    (h : updateTop topPerSide candle bubbles levels window = .ok out) (hlevel : level ∈ out)
    (htop : level.kind.isTop = false) : level ∈ levels := by
  obtain ⟨expires, -, hout⟩ := bind_eq_ok.mp h
  cases hout
  rcases List.mem_append.mp ((trimTop_sublist _ _ _ _).subset hlevel) with hkept | hfound
  · exact List.mem_of_mem_filter hkept
  · obtain ⟨bubble, -, rfl⟩ := List.mem_map.mp hfound
    rw [levelFromBubble, hwindow] at htop
    cases htop

lemma mem_of_updateTopLevels {topPerSide : Nat} {out : List StructuralLevel}
    (h : updateTopLevels topPerSide candle bubbles levels = .ok out) (hlevel : level ∈ out)
    (htop : level.kind.isTop = false) : level ∈ levels := by
  obtain ⟨day, hday, h⟩ := bind_eq_ok.mp h
  obtain ⟨week, hweek, h⟩ := bind_eq_ok.mp h
  cases h
  exact mem_of_updateTop rfl hday (mem_of_updateTop rfl hweek hlevel htop) htop

/-- The range of a candle, in ticks, meets a price within a tolerance. -/
def meets (g : GridSpec) (tolerance : Nat) (candle : CandleFlow) (price : Price) : Bool :=
  match range g candle, g.priceTick price with
  | .ok ticks, .ok tick => decide (ticks.1 ≤ tick + tolerance ∧ tick - tolerance ≤ ticks.2)
  | _, _ => false

/-- The low of a candle is a machine integer. -/
def LowFits (candle : CandleFlow) : Prop := ∀ price ∈ candle.low, price.fixed.coefficient ≤ i128Max

lemma priceTick_le (hg : g.Valid) {price : Price} (hfits : price.fixed.coefficient ≤ i128Max) {tick : Int}
    (h : g.priceTick price = .ok tick) : tick ≤ i128Max := by
  obtain ⟨hpos, hrescale⟩ := (GridSpec.priceTick_eq_ok hg).mp h
  have hscaled := mul_pos hpos hg.tick_pos
  have hprice := (Fixed.coefficient_pos_of_rescale hrescale).mp hscaled
  calc tick ≤ tick * g.tickSize.coefficient := le_mul_of_one_le_right hpos.le hg.tick_pos
    _ ≤ i128Max := Fixed.coefficient_le_of_rescale hrescale hprice hfits

lemma range_bounds (hg : g.Valid) (hfits : LowFits candle) (h : range g candle = .ok (low, high)) :
    0 < low ∧ low ≤ i128Max ∧ low ≤ high := by
  unfold range at h
  split at h
  · cases h
  · cases h
  · rename_i lowPrice hlow
    obtain ⟨highTick, -, h⟩ := bind_eq_ok.mp h
    obtain ⟨lowTick, hlowTick, h⟩ := bind_eq_ok.mp h
    obtain ⟨hle, h⟩ := check_eq_ok.mp h
    cases h
    exact ⟨((GridSpec.priceTick_eq_ok hg).mp hlowTick).1, priceTick_le hg (hfits _ hlow) hlowTick,
      not_lt.mp hle⟩

/-- **The saturating comparisons are the exact ones**, as a tick is a positive machine integer. -/
theorem touches_eq (hg : e.grid.Valid) (hfits : LowFits candle)
    (hrange : range e.grid candle = .ok (low, high)) {price : Price} {tick : Int}
    (htick : e.grid.priceTick price = .ok tick) :
    e.touches low high tick = meets e.grid e.config.touchToleranceTicks candle price := by
  obtain ⟨hpos, hmax, hle⟩ := range_bounds hg hfits hrange
  have hmin : i128Min ≤ high := (show i128Min ≤ 0 by decide).trans (hpos.le.trans hle)
  unfold meets
  rw [hrange, htick, touches, ← Bool.decide_and, decide_eq_decide, le_min_iff, max_le_iff]
  exact ⟨fun h => ⟨h.1.1, h.2.1⟩, fun h => ⟨⟨h.1, hmax⟩, h.2, hmin⟩⟩

/-- The candle touches the level: it ends after the level was made and meets it. -/
def touchedBy (g : GridSpec) (tolerance : Nat) (level : StructuralLevel) (call : CandleFrame) : Bool :=
  decide (level.createdAtNs < call.candle.endTs) && meets g tolerance call.candle level.price

/-- A level as a candle that touches it leaves it. -/
def touchAt (level : StructuralLevel) (endTs : Int) : StructuralLevel :=
  { level with state := .touched, touchedAtNs := some endTs }

variable {call : CandleFrame} {out : StructuralLevel}

/-- What a call does to an active level. -/
lemma touchLevel_active (hg : e.grid.Valid) (hfits : LowFits call.candle)
    (hrange : range e.grid call.candle = .ok (low, high)) (hactive : level.state = .active)
    (htop : level.kind.isTop = false) (h : e.touchLevel call.candle low high level = .ok out) :
    out = if touchedBy e.grid e.config.touchToleranceTicks level call then touchAt level call.candle.endTs
      else level := by
  unfold touchLevel at h
  unfold touchedBy
  split_ifs at h with hskip
  · have hlate : call.candle.endTs ≤ level.createdAtNs := by simpa [hactive, htop] using hskip
    cases h
    simp [not_lt.mpr hlate]
  · have hlater : level.createdAtNs < call.candle.endTs := by simpa [hactive, htop] using hskip
    obtain ⟨tick, htick, h⟩ := bind_eq_ok.mp h
    rw [touches_eq hg hfits hrange htick] at h
    rw [decide_eq_true hlater, Bool.true_and]
    split_ifs at h ⊢
    · exact (Except.ok.inj h).symm
    · exact (Except.ok.inj h).symm

/-- A level that is not active stays as it is. -/
lemma touchLevel_touched (htouched : level.state = .touched)
    (h : e.touchLevel candle low high level = .ok out) : out = level := by
  unfold touchLevel at h
  rw [if_pos (by simp [htouched])] at h
  exact (Except.ok.inj h).symm

lemma touchLevel_kind (h : e.touchLevel candle low high level = .ok out) :
    out.kind = level.kind := by
  unfold touchLevel at h
  split_ifs at h
  · rw [Except.ok.inj h]
  · obtain ⟨tick, -, h⟩ := bind_eq_ok.mp h
    split_ifs at h
    · cases h
      rfl
    · rw [Except.ok.inj h]

/-! ## New levels -/

/-- A call in a state makes the level, which is not a top one. -/
def Creates (e : StructuralLevelEngine) (call : CandleFrame) (level : StructuralLevel) : Prop :=
  ∃ ticks levels, range e.grid call.candle = .ok ticks ∧
    e.newLevels call.candle call.bubbles ticks.1 ticks.2 = .ok levels ∧ level ∈ levels

/-- A level as it is made. -/
structure IsNew (candle : CandleFlow) (level : StructuralLevel) : Prop where
  state : level.state = .active
  touchedAt : level.touchedAtNs = none
  createdAt : level.createdAtNs = candle.endTs

lemma isNew_levelFromBubble (kind : StructuralLevelKind) (price : Price) (bubble : OrderFlowBubble) :
    IsNew candle (levelFromBubble kind price candle.endTs none none bubble) := ⟨rfl, rfl, rfl⟩

lemma mem_confirmReactions {frames : List CandleFrame} (hlast : frames.getLast? = some call)
    (h : confirmReactions g frames = .ok levels) (hlevel : level ∈ levels) :
    level.kind ≠ .naked ∧ IsNew call.candle level := by
  unfold confirmReactions at h
  split at h
  · rename_i left center right
    obtain rfl : right = call := Option.some.inj hlast
    split at h
    · simp only [bind_eq_ok] at h
      obtain ⟨_, -, _, -, _, -, _, -, _, -, _, -, h⟩ := h
      split at h
      · cases h
        exact absurd hlevel List.not_mem_nil
      · cases h
        simp only [List.mem_append, List.mem_ite_nil_right, List.mem_singleton] at hlevel
        rcases hlevel with ⟨-, rfl⟩ | ⟨-, rfl⟩
        · exact ⟨by rintro ⟨⟩, isNew_levelFromBubble _ _ _⟩
        · exact ⟨by rintro ⟨⟩, isNew_levelFromBubble _ _ _⟩
    · cases h
      exact absurd hlevel List.not_mem_nil
  · cases h
    exact absurd hlevel List.not_mem_nil

lemma getLast?_nextFrames (call : CandleFrame) :
    (e.nextFrames call.candle call.bubbles).getLast? = some call := by
  have hlength : ¬ (e.frames ++ [call]).length ≤ (e.frames ++ [call]).length - 3 := by
    rw [List.length_append, List.length_singleton]
    omega
  exact (List.getLast?_drop ..).trans ((if_neg hlength).trans List.getLast?_concat)

/-- **What a call makes**: naked levels of pending bubbles that its candle does not touch, and reaction
levels. -/
theorem Creates.cases (h : e.Creates call level) :
    (level.kind ≠ .naked ∧ IsNew call.candle level) ∨ ∃ bubble ∈ e.pendingNaked,
      level = levelFromBubble .naked bubble.anchorPrice call.candle.endTs none none bubble ∧
      ∃ ticks tick, range e.grid call.candle = .ok ticks ∧
        e.grid.priceTick bubble.anchorPrice = .ok tick ∧ e.touches ticks.1 ticks.2 tick = false := by
  obtain ⟨ticks, levels, hrange, hlevels, hlevel⟩ := h
  obtain ⟨naked, hnaked, hlevels⟩ := bind_eq_ok.mp hlevels
  obtain ⟨reactions, hreactions, hlevels⟩ := bind_eq_ok.mp hlevels
  cases hlevels
  rcases List.mem_append.mp hlevel with hlevel | hlevel
  · obtain ⟨lists, hlists, hnaked⟩ := bind_eq_ok.mp hnaked
    cases hnaked
    obtain ⟨list, hlist, hlevel⟩ := List.mem_flatten.mp hlevel
    obtain ⟨bubble, hbubble, h⟩ := exists_of_mem_mapM hlists hlist
    obtain ⟨tick, htick, h⟩ := bind_eq_ok.mp h
    cases h
    rw [List.mem_ite_nil_left, List.mem_singleton, Bool.not_eq_true] at hlevel
    exact .inr ⟨bubble, hbubble, hlevel.2, ticks, tick, hrange, htick, hlevel.1⟩
  · exact .inl (mem_confirmReactions (getLast?_nextFrames call) hreactions hlevel)

lemma Creates.isNew (h : e.Creates call level) : IsNew call.candle level := by
  rcases h.cases with ⟨-, hnew⟩ | ⟨bubble, -, rfl, -⟩
  · exact hnew
  · exact isNew_levelFromBubble _ _ _

lemma Creates.naked (hg : e.grid.Valid) (hfits : LowFits call.candle) (h : e.Creates call level)
    (hkind : level.kind = .naked) :
    ∃ bubble ∈ e.pendingNaked, level.sourceBubbleId = bubble.id ∧ level.price = bubble.anchorPrice ∧
      meets e.grid e.config.touchToleranceTicks call.candle bubble.anchorPrice = false := by
  rcases h.cases with ⟨hother, -⟩ | ⟨bubble, hbubble, rfl, ticks, tick, hrange, htick, htouches⟩
  · exact absurd hkind hother
  · rw [touches_eq hg hfits hrange htick] at htouches
    exact ⟨bubble, hbubble, rfl, rfl, htouches⟩

/-- **What a call does**: every level that is not a top one is made by it or was there before. -/
theorem ingestFinalized_cases {e' : StructuralLevelEngine}
    (h : e.ingestFinalized call.candle call.bubbles = .ok e') :
    e'.grid = e.grid ∧ e'.config = e.config ∧ e'.pendingNaked = call.bubbles ∧
    ∃ low high, range e.grid call.candle = .ok (low, high) ∧
      ∀ level ∈ e'.levels, level.kind.isTop = false → e.Creates call level ∨
        ∃ old ∈ e.levels, old.kind.isTop = false ∧ e.touchLevel call.candle low high old = .ok level := by
  unfold ingestFinalized at h
  simp only [bind_eq_ok] at h
  obtain ⟨⟨low, high⟩, hcheck, old, hold, new, hnew, levels, hlevels, h⟩ := h
  cases h
  have hrange : range e.grid call.candle = .ok (low, high) := by
    obtain ⟨-, hcheck⟩ := check_eq_ok.mp hcheck
    obtain ⟨-, -, hcheck⟩ := bind_eq_ok.mp hcheck
    obtain ⟨-, -, hcheck⟩ := bind_eq_ok.mp hcheck
    exact hcheck
  refine ⟨rfl, rfl, rfl, low, high, hrange, fun level hlevel htop => ?_⟩
  have hmem := mem_of_updateTopLevels hlevels ((enforceCapacity_sublist _ _).subset hlevel) htop
  rcases List.mem_append.mp hmem with hmem | hmem
  · obtain ⟨before, hbefore, htouch⟩ := exists_of_mem_mapM hold hmem
    exact .inr ⟨before, hbefore, touchLevel_kind htouch ▸ htop, htouch⟩
  · exact .inl ⟨(low, high), new, hrange, hnew, hmem⟩

/-! ## Histories -/

/-- A level after the calls since it was made: the first one that touches it leaves its mark. -/
def age (g : GridSpec) (tolerance : Nat) (born : StructuralLevel) (after : List CandleFrame) :
    StructuralLevel :=
  match after.find? (touchedBy g tolerance born) with
  | none => born
  | some call => touchAt born call.candle.endTs

/-- A call ages a level by one call. -/
lemma touchLevel_age (hg : e.grid.Valid) (hfits : LowFits call.candle)
    (hrange : range e.grid call.candle = .ok (low, high)) {born : StructuralLevel}
    (hactive : born.state = .active) {after : List CandleFrame}
    (htop : (age e.grid e.config.touchToleranceTicks born after).kind.isTop = false)
    (h : e.touchLevel call.candle low high (age e.grid e.config.touchToleranceTicks born after) = .ok out) :
    out = age e.grid e.config.touchToleranceTicks born (after ++ [call]) := by
  unfold age at h htop ⊢
  rw [List.find?_append]
  generalize after.find? (touchedBy e.grid e.config.touchToleranceTicks born) = first at h htop ⊢
  rcases first with _ | first
  · rw [touchLevel_active hg hfits hrange hactive htop h, Option.none_or, List.find?_singleton]
    split_ifs
    · rfl
    · rfl
  · exact touchLevel_touched rfl h

/-- The level was made by one of the calls, and has been touched as the calls since then say. -/
def HasHistory (e₀ : StructuralLevelEngine) (calls : List CandleFrame) (level : StructuralLevel) : Prop :=
  ∃ before call after e born, calls = before ++ call :: after ∧ e₀.run before = .ok e ∧
    e.Creates call born ∧ level = age e₀.grid e₀.config.touchToleranceTicks born after

/-- What every state of a run from an engine without levels satisfies. -/
structure Tracks (e₀ : StructuralLevelEngine) (calls : List CandleFrame) (e : StructuralLevelEngine) : Prop where
  grid : e.grid = e₀.grid
  config : e.config = e₀.config
  pending : ∀ bubble ∈ e.pendingNaked, ∃ previous, calls.getLast? = some previous ∧ bubble ∈ previous.bubbles
  history : ∀ level ∈ e.levels, level.kind.isTop = false → HasHistory e₀ calls level

lemma run_concat {e₀ : StructuralLevelEngine} {calls : List CandleFrame} :
    e₀.run (calls ++ [call]) = .ok e ↔
      ∃ e', e₀.run calls = .ok e' ∧ e'.ingestFinalized call.candle call.bubbles = .ok e := by
  unfold run
  rw [List.foldlM_append, bind_eq_ok]
  refine exists_congr fun e' => and_congr_right fun _ => ?_
  rw [List.foldlM_cons, bind_eq_ok]
  constructor
  · rintro ⟨e'', h, h'⟩
    rw [h, Except.ok.inj h']
  · exact fun h => ⟨e, h, rfl⟩

lemma tracks_run {e₀ : StructuralLevelEngine} (hg : e₀.grid.Valid) (hpending : e₀.pendingNaked = [])
    (hlevels : e₀.levels = []) {calls : List CandleFrame} (hfits : ∀ call ∈ calls, LowFits call.candle)
    (h : e₀.run calls = .ok e) : Tracks e₀ calls e := by
  induction calls using List.reverseRecOn generalizing e with
  | nil =>
    cases h
    refine ⟨rfl, rfl, fun bubble hb => ?_, fun level hlevel => ?_⟩
    · rw [hpending] at hb
      exact absurd hb List.not_mem_nil
    · rw [hlevels] at hlevel
      exact absurd hlevel List.not_mem_nil
  | append_singleton calls call ih =>
    obtain ⟨e', hrun, h⟩ := run_concat.mp h
    have htracks := ih (fun c hc => hfits c (List.mem_append_left _ hc)) hrun
    obtain ⟨hgrid, hconfig, hbubbles, low, high, hrange, hcases⟩ := ingestFinalized_cases h
    have hcall := hfits call (List.mem_append_right _ (List.mem_singleton_self call))
    have hg' : e'.grid.Valid := htracks.grid ▸ hg
    refine ⟨hgrid.trans htracks.grid, hconfig.trans htracks.config, fun bubble hb => ?_,
      fun level hlevel htop => ?_⟩
    · exact ⟨call, List.getLast?_concat, hbubbles ▸ hb⟩
    · rcases hcases level hlevel htop with hcreates | ⟨old, hold, htop', htouch⟩
      · exact ⟨calls, call, [], e', level, rfl, hrun, hcreates, rfl⟩
      · obtain ⟨before, made, after, e'', born, rfl, hbefore, hcreates, rfl⟩ :=
          htracks.history old hold htop'
        refine ⟨before, made, after ++ [call], e'', born, by simp, hbefore, hcreates, ?_⟩
        rw [← htracks.grid, ← htracks.config] at htop' htouch ⊢
        exact touchLevel_age hg' hcall hrange hcreates.isNew.state htop' htouch

lemma touchedBy_age (g : GridSpec) (tolerance : Nat) (born : StructuralLevel) (after : List CandleFrame) :
    touchedBy g tolerance (age g tolerance born after) = touchedBy g tolerance born := by
  unfold age
  split
  · rfl
  · rfl

lemma age_facts (g : GridSpec) (tolerance : Nat) {born : StructuralLevel} (hactive : born.state = .active)
    (huntouched : born.touchedAtNs = none) (after : List CandleFrame) :
    ((age g tolerance born after).state = .touched ↔ ∃ later ∈ after, touchedBy g tolerance born later) ∧
    (age g tolerance born after).touchedAtNs =
      (after.find? (touchedBy g tolerance born)).map (·.candle.endTs) ∧
    born = { age g tolerance born after with state := .active, touchedAtNs := none } := by
  unfold age
  rcases hfind : after.find? (touchedBy g tolerance born) with _ | first
  · refine ⟨iff_of_false (by rw [hactive]; rintro ⟨⟩) ?_, huntouched, ?_⟩
    · rintro ⟨later, hlater, htouched⟩
      exact List.find?_eq_none.mp hfind later hlater htouched
    · rw [← hactive, ← huntouched]
  · refine ⟨iff_of_true rfl ⟨first, List.mem_of_find?_eq_some hfind, List.find?_some hfind⟩, rfl, ?_⟩
    unfold touchAt
    rw [← hactive, ← huntouched]

/-- **The levels of an engine, over all calls.** A naked or reaction level was made by one of the calls.
It is touched iff a later candle that ends after its creation meets it within the tolerance, and since
the end of the first such candle. A naked level is of a bubble that the next candle did not meet. No
call changes a touched level. -/
theorem levels_history {grid : GridSpec} {config : StructuralLevelConfig} {e₀ e : StructuralLevelEngine}
    (hnew : new grid config = .ok e₀) {calls : List CandleFrame}
    (hfits : ∀ call ∈ calls, LowFits call.candle) (hrun : e₀.run calls = .ok e) :
    (∀ level ∈ e.levels, level.kind.isTop = false →
      ∃ before call after e' born, calls = before ++ call :: after ∧ e₀.run before = .ok e' ∧
        e'.Creates call born ∧ born.createdAtNs = call.candle.endTs ∧
        born = { level with state := .active, touchedAtNs := none } ∧
        (level.state = .touched ↔
          ∃ later ∈ after, touchedBy grid config.touchToleranceTicks level later) ∧
        level.touchedAtNs =
          (after.find? (touchedBy grid config.touchToleranceTicks level)).map (·.candle.endTs) ∧
        (level.kind = .naked → ∃ previous bubble, before.getLast? = some previous ∧
          bubble ∈ previous.bubbles ∧ level.sourceBubbleId = bubble.id ∧
          level.price = bubble.anchorPrice ∧
          meets grid config.touchToleranceTicks call.candle bubble.anchorPrice = false)) ∧
    ∀ before call after e₁ e₂, calls = before ++ call :: after → e₀.run before = .ok e₁ →
      e₁.ingestFinalized call.candle call.bubbles = .ok e₂ →
      ∀ level ∈ e₂.levels, level.kind.isTop = false → e₁.Creates call level ∨
        ∃ old ∈ e₁.levels, (old.state = .touched → level = old) ∧
          (old.state = .active → level = old ∨ level = touchAt old call.candle.endTs) := by
  obtain ⟨⟨⟩, hvalid, hnew⟩ := bind_eq_ok.mp hnew
  obtain ⟨-, -, hnew⟩ := bind_eq_ok.mp hnew
  cases hnew
  have htracks {calls : List CandleFrame} {e : StructuralLevelEngine}
      (hfits : ∀ call ∈ calls, LowFits call.candle)
      (hrun : run ⟨grid, config, none, [], [], []⟩ calls = .ok e) :
      Tracks ⟨grid, config, none, [], [], []⟩ calls e := by
    refine tracks_run ?_ rfl rfl hfits hrun
    exact hvalid
  refine ⟨fun level hlevel htop => ?_, ?_⟩
  · obtain ⟨before, call, after, e', born, rfl, hbefore, hcreates, rfl⟩ :=
      (htracks hfits hrun).history level hlevel htop
    have hcall := hfits call (List.mem_append_right _ List.mem_cons_self)
    have htracks' := htracks (fun c hc => hfits c (List.mem_append_left _ hc)) hbefore
    obtain ⟨hstate, htouchedAt, hborn⟩ := age_facts grid config.touchToleranceTicks hcreates.isNew.state
      hcreates.isNew.touchedAt after
    have hsame {α : Type} (field : StructuralLevel → α)
        (hfield : ∀ level : StructuralLevel, field { level with state := .active, touchedAtNs := none } =
          field level) :
        field (age grid config.touchToleranceTicks born after) = field born :=
      ((congrArg field hborn).trans (hfield _)).symm
    refine ⟨before, call, after, e', born, rfl, hbefore, hcreates, hcreates.isNew.createdAt, hborn, ?_, ?_,
      fun hkind => ?_⟩
    · rw [touchedBy_age]
      exact hstate
    · rw [touchedBy_age]
      exact htouchedAt
    · rw [hsame (·.kind) fun _ => rfl] at hkind
      rw [hsame (·.sourceBubbleId) fun _ => rfl, hsame (·.price) fun _ => rfl]
      obtain ⟨bubble, hbubble, hid, hprice, hmeets⟩ :=
        hcreates.naked (htracks'.grid ▸ hvalid) hcall hkind
      obtain ⟨previous, hprevious, hmem⟩ := htracks'.pending bubble hbubble
      rw [htracks'.grid, htracks'.config] at hmeets
      exact ⟨previous, bubble, hprevious, hmem, hid, hprice, hmeets⟩
  · rintro before call after e₁ e₂ rfl hbefore hingest level hlevel htop
    have hcall := hfits call (List.mem_append_right _ List.mem_cons_self)
    have htracks' := htracks (fun c hc => hfits c (List.mem_append_left _ hc)) hbefore
    obtain ⟨-, -, -, low, high, hrange, hcases⟩ := ingestFinalized_cases hingest
    refine (hcases level hlevel htop).imp_right ?_
    rintro ⟨old, hold, htop', htouch⟩
    refine ⟨old, hold, fun htouched => touchLevel_touched htouched htouch, fun hactive => ?_⟩
    have hlevel := touchLevel_active (htracks'.grid ▸ hvalid) hcall hrange hactive htop' htouch
    split_ifs at hlevel
    · exact .inr hlevel
    · exact .inl hlevel

/-- A candle that stays at a tick, with bubbles. -/
def flatFrame (start tick : Int) (bubbles : List OrderFlowBubble) : CandleFrame :=
  ⟨⟨1, .final, ⟨1⟩, start, start + 1, some ⟨⟨tick, 0⟩⟩, some ⟨⟨tick, 0⟩⟩, ⟨⟨0, 0⟩⟩, 0, []⟩, bubbles⟩

/-- A bubble of such a candle. -/
def buyBubble (id : UInt64) (start tick strength : Int) : OrderFlowBubble :=
  ⟨id, ⟨1⟩, start, start + 1, .spot, [], .f1, .volume, .buy, ⟨⟨tick, 0⟩⟩, ⟨⟨tick, 0⟩⟩, ⟨⟨tick, 0⟩⟩,
    ⟨⟨strength, 0⟩⟩, ⟨⟨0, 0⟩⟩, ⟨⟨0, 0⟩⟩, ⟨⟨strength, 0⟩⟩, ⟨strength, 0⟩, ⟨strength, 0⟩, ⟨1, 0⟩, 8, none,
    .circle, 1⟩

/-- A bubble at 20, which the second candle leaves alone and the third touches. -/
def levelCalls : List CandleFrame :=
  [flatFrame 0 20 [buyBubble 7 0 20 5], flatFrame 1 22 [], flatFrame 2 20 []]

def touchedNaked : StructuralLevel :=
  touchAt (levelFromBubble .naked ⟨⟨20, 0⟩⟩ 2 none none (buyBubble 7 0 20 5)) 3

/-- A naked level that a later candle touches. -/
theorem levels_history_example : ∃ e₀ e, new ⟨0, 0, ⟨1, 0⟩, 1⟩ ⟨0, 4, 1⟩ = .ok e₀ ∧
    e₀.run levelCalls = .ok e ∧ ∃ level ∈ e.levels, level.kind = .naked ∧ level.touchedAtNs = some 3 ∧
      ∃ before call after, levelCalls = before ++ call :: after ∧
        (level.state = .touched ↔ ∃ later ∈ after, touchedBy ⟨0, 0, ⟨1, 0⟩, 1⟩ 0 level later) := by
  have hfits : ∀ call ∈ levelCalls, LowFits call.candle := by
    simp [levelCalls, LowFits, flatFrame, i128Max]
  have hhistory {e₀ e : StructuralLevelEngine} (hnew : new ⟨0, 0, ⟨1, 0⟩, 1⟩ ⟨0, 4, 1⟩ = .ok e₀)
      (hrun : e₀.run levelCalls = .ok e) := (levels_history hnew hfits hrun).1
  refine ⟨_, _, rfl, rfl, touchedNaked, by decide +kernel, rfl, rfl, ?_⟩
  obtain ⟨before, call, after, -, -, hcalls, -, -, -, -, hstate, -⟩ :=
    hhistory rfl rfl touchedNaked (by decide +kernel) rfl
  exact ⟨before, call, after, hcalls, hstate⟩

end StructuralLevelEngine

end Marketfeed
