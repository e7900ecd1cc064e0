import Marketfeed.View.Tape
import Mathlib.Data.List.Destutter

/-!
# Depth of market

Model of `dom_snapshot` in `crates/daemon/src/view/plane.rs`: a row for every price of the book's best
levels, with the book's quantities, the change since the last sample, what was executed at the price
within a window, and what stands in the book at or better than it. Everything is computed exactly; an
overflow makes the whole answer unavailable.
-/

namespace Marketfeed.Dom

/-! ## Exact arithmetic -/

def compareFixed (left right : Fixed) : Ordering :=
  let scale := max left.scale right.scale
  match left.rescale scale .exactOnly, right.rescale scale .exactOnly with
  | .ok left, .ok right => compare left.coefficient right.coefficient
  | _, _ => (compare left.scale right.scale).then (compare left.coefficient right.coefficient)

/-- The common body of `fixed_add` and `fixed_sub`. -/
def fixedOp (op : Int → Int → Int) (left right : Fixed) : Option Fixed :=
  let scale := max left.scale right.scale
  match left.rescale scale .exactOnly, right.rescale scale .exactOnly with
  | .ok left, .ok right =>
    (checkedI128 (op left.coefficient right.coefficient)).map fun coefficient => ⟨coefficient, scale⟩
  | _, _ => none

def fixedAdd : Fixed → Fixed → Option Fixed := fixedOp (· + ·)

def fixedSub : Fixed → Fixed → Option Fixed := fixedOp (· - ·)

def bookQuantityAt (levels : List BookLevel) (price : Fixed) : Option Fixed :=
  (levels.find? fun level => compareFixed level.price.fixed price = .eq).map (·.quantity.fixed)

def depthQuantityAt (sample : Option StoredDepthSample) (side : BookSide) (price : Fixed)
    (quantityScale : Nat) : Fixed :=
  match sample with
  | none => ⟨0, quantityScale⟩
  | some sample =>
    let levels := match side with
      | .bid => sample.bids
      | .ask => sample.asks
    ((levels.find? fun level => compareFixed ⟨level.1, sample.priceScale⟩ price = .eq).map
      fun level => ⟨level.2, sample.quantityScale⟩).getD ⟨0, quantityScale⟩

/-- Source: the filter of `cumulative_notional` -/
def reaches (side : BookSide) (price : Fixed) (level : BookLevel) : Bool :=
  match side with
  | .bid => compareFixed level.price.fixed price ≠ .lt
  | .ask => compareFixed level.price.fixed price ≠ .gt

def cumulativeNotional (levels : List BookLevel) (price : Fixed) (side : BookSide) (notionalScale : Nat) :
    Option Fixed :=
  (levels.filter (reaches side price)).foldlM (fun sum level => do
    let notional ← notionalFixed level.price.fixed level.quantity.fixed
    fixedAdd sum notional) ⟨0, notionalScale⟩

def quantityImbalanceBps (bid ask : Fixed) : Option Int :=
  let scale := max bid.scale ask.scale
  match bid.rescale scale .exactOnly, ask.rescale scale .exactOnly with
  | .ok bid, .ok ask => do
    let total ← checkedI128 (bid.coefficient + ask.coefficient)
    if total ≤ 0 then some 0
    else do
      let difference ← checkedI128 (bid.coefficient - ask.coefficient)
      let numerator ← checkedI128 (difference * 10000)
      some (max (-(2 ^ 31)) (min (numerator.tdiv total) (2 ^ 31 - 1)))
  | _, _ => none

/-! ## Rows -/

/-- Source: `return unavailable("dom_arithmetic_overflow")` -/
def orOverflow {α : Type} : Option α → Except String α
  | some a => .ok a
  | none => .error "dom_arithmetic_overflow"

/-- What was executed, by aggressor. -/
structure Executed where
  buy : Fixed
  sell : Fixed
  unknown : Fixed

/-- Source: the `match aggressor.as_str()` of `dom_snapshot` -/
def Executed.add (sums : Executed) (aggressor : String) (notional : Fixed) : Except String Executed :=
  if aggressor = "buy" then do
    let value ← orOverflow (fixedAdd sums.buy notional)
    .ok { sums with buy := value }
  else if aggressor = "sell" then do
    let value ← orOverflow (fixedAdd sums.sell notional)
    .ok { sums with sell := value }
  else do
    let value ← orOverflow (fixedAdd sums.unknown notional)
    .ok { sums with unknown := value }

/-- Source: the body of the loop over the tape -/
def addEntry (price : Fixed) (cutoffNs : Int) (sums : Executed) (entry : TradeEntry) :
    Except String Executed :=
  match entry.notional with
  | none => .ok sums
  | some notional =>
    if entry.exchangeTsNs.getD entry.receiveTsNs < cutoffNs then .ok sums
    else
      match Fixed.parseOctets entry.price, Fixed.parseOctets notional with
      | .ok tradePrice, .ok notional =>
        if compareFixed tradePrice price ≠ .eq then .ok sums else sums.add entry.aggressor notional
      | _, _ => .error "invalid_internal_tape_value"

structure ViewDomRow where
  price : List UInt8
  bidQuantity : List UInt8
  askQuantity : List UInt8
  bidCumulativeNotional : List UInt8
  askCumulativeNotional : List UInt8
  imbalanceBps : Int
  mbpDeltaQuantity : List UInt8
  mbpDeltaNotional : List UInt8
  buyExecutedNotional : List UInt8
  sellExecutedNotional : List UInt8
  unknownExecutedNotional : List UInt8
  totalExecutedNotional : List UInt8
  executedDeltaNotional : List UInt8
deriving DecidableEq

/-- What the rows are made of. -/
structure Inputs where
  book : BookSnapshot
  latest : Option StoredDepthSample
  previous : Option StoredDepthSample
  entries : List TradeEntry
  cutoffNs : Int

namespace Inputs

variable (x : Inputs)

/-- The first level, a bid if there is one. -/
def first : Option BookLevel := x.book.bids.head?.or x.book.asks.head?

def qtyScale : Nat := (x.first.map (·.quantity.fixed.scale)).getD 0

/-- Source: `price_scale.saturating_add(qty_scale)` -/
def notionalScale : Nat := min ((x.first.map (·.price.fixed.scale)).getD 0 + x.qtyScale) 255

/-- Source: `prices` after its sort and its `dedup_by` -/
def prices : List Fixed :=
  (((x.book.bids ++ x.book.asks).map (·.price.fixed)).insertionSort
    fun a b => compareFixed b a ≠ .gt).destutter fun a b => compareFixed a b ≠ .eq

/-- Source: the loop over the tape -/
def executed (price : Fixed) : Except String Executed :=
  x.entries.foldlM (addEntry price x.cutoffNs)
    ⟨⟨0, x.notionalScale⟩, ⟨0, x.notionalScale⟩, ⟨0, x.notionalScale⟩⟩

/-- Source: the body of the loop over the prices -/
def row (price : Fixed) : Except String ViewDomRow := do
  let bidQuantity := (bookQuantityAt x.book.bids price).getD ⟨0, x.qtyScale⟩
  let askQuantity := (bookQuantityAt x.book.asks price).getD ⟨0, x.qtyScale⟩
  let quantityAt (sample : Option StoredDepthSample) (side : BookSide) : Fixed :=
    depthQuantityAt sample side price x.qtyScale
  let bidDelta ← orOverflow (fixedSub (quantityAt x.latest .bid) (quantityAt x.previous .bid))
  let askDelta ← orOverflow (fixedSub (quantityAt x.latest .ask) (quantityAt x.previous .ask))
  let mbpDelta ← orOverflow (fixedSub bidDelta askDelta)
  let sums ← x.executed price
  let total ← orOverflow ((fixedAdd sums.buy sums.sell).bind fun value => fixedAdd value sums.unknown)
  let executedDelta ← orOverflow (fixedSub sums.buy sums.sell)
  let bidCumulative ← orOverflow (cumulativeNotional x.book.bids price .bid x.notionalScale)
  let askCumulative ← orOverflow (cumulativeNotional x.book.asks price .ask x.notionalScale)
  let imbalanceBps ← orOverflow (quantityImbalanceBps bidQuantity askQuantity)
  let mbpDeltaNotional ← orOverflow (notionalFixed price mbpDelta)
  .ok {
    price := formatFixed price
    bidQuantity := formatFixed bidQuantity
    askQuantity := formatFixed askQuantity
    bidCumulativeNotional := formatFixed bidCumulative
    askCumulativeNotional := formatFixed askCumulative
    imbalanceBps
    mbpDeltaQuantity := formatFixed mbpDelta
    mbpDeltaNotional := formatFixed mbpDeltaNotional
    buyExecutedNotional := formatFixed sums.buy
    sellExecutedNotional := formatFixed sums.sell
    unknownExecutedNotional := formatFixed sums.unknown
    totalExecutedNotional := formatFixed total
    executedDeltaNotional := formatFixed executedDelta }

end Inputs

/-! ## The answer -/

structure ViewDomSnapshot where
  schemaVersion : Nat
  venue : String
  instrument : InstrumentId
  symbol : Option String
  revision : Nat
  status : String
  reason : Option String
  executionWindowSec : Nat
  epoch : UInt64
  rows : List ViewDomRow
deriving DecidableEq

/-- Source: `execution_window_sec.clamp(1, 3_600)` -/
def windowSec (executionWindowSec : Nat) : Nat := max 1 (min executionWindowSec 3600)

/-- Source: `cutoff_ns`; `nowNs` is `unix_now_ns()` -/
def cutoffNs (executionWindowSec : Nat) (nowNs : Int) : Int :=
  satI64 (nowNs - windowSec executionWindowSec * 1000000000)

/-- Source: `depth.clamp(1, 100)` -/
def clampedDepth (depth : Nat) : UInt32 := UInt32.ofNat (max 1 (min depth 100))

/-- What the rows of a key are made of, if it has a book. -/
def inputs (d : TapedPlane) (key : BookKey) (depth executionWindowSec : Nat) (nowNs : Int) : Option Inputs := do
  let live ← d.plane.books key
  let book ← live.snapshot (some (clampedDepth depth))
  let history := (d.plane.depthHistory key).reverse
  some ⟨book, history[0]?, history[1]?, ((d.tapes key).map (·.entries)).getD [],
    cutoffNs executionWindowSec nowNs⟩

def unavailableDom (venue : String) (instrument : InstrumentId) (symbol : Option String)
    (executionWindowSec : Nat) (reason : String) : ViewDomSnapshot :=
  ⟨1, venue, instrument, symbol, 0, "unavailable", some reason, windowSec executionWindowSec, 0, []⟩

/-- The rows, or why there are none. -/
def domSnapshot (d : TapedPlane) (venueConfigId : String) (instrument : InstrumentId)
    (depth executionWindowSec : Nat) (nowNs : Int) : ViewDomSnapshot :=
  let symbol := d.plane.symbols (venueConfigId, instrument.val)
  let unavailable := unavailableDom venueConfigId instrument symbol executionWindowSec
  match d.plane.venueIds venueConfigId with
  | none => unavailable "venue_not_registered"
  | some venue =>
    match inputs d (venue, instrument) depth executionWindowSec nowNs with
    | none => unavailable "book_unavailable"
    | some x =>
      match x.prices.mapM x.row with
      | .error reason => unavailable reason
      | .ok rows =>
        { schemaVersion := 1
          venue := venueConfigId
          instrument := instrument
          symbol := symbol
          revision := (x.latest.map fun sample => sample.eventTsNs.toNat).getD 0
          status := "live"
          reason := none
          executionWindowSec := windowSec executionWindowSec
          epoch := (x.latest.map (·.epoch)).getD 0
          rows := rows }

/-! ## The arithmetic is exact -/

variable {a b c : Fixed}

lemma toRat_fixedAdd (h : fixedAdd a b = some c) : c.toRat = a.toRat + b.toRat := by
  unfold fixedAdd fixedOp at h
  dsimp only at h
  split at h
  · rename_i x y hx hy
    obtain ⟨hxs, hx⟩ := Fixed.toRat_rescale_exactOnly hx
    obtain ⟨hys, hy⟩ := Fixed.toRat_rescale_exactOnly hy
    obtain ⟨coefficient, hc, rfl⟩ := Option.map_eq_some_iff.mp h
    obtain rfl := (checkedI128_eq_some.mp hc).2
    rw [← hx, ← hy, Fixed.toRat, Fixed.toRat, Fixed.toRat, hxs, hys, ← add_div]
    push_cast
    rfl
  · cases h

lemma toRat_notionalFixed (h : notionalFixed a b = some c) : c.toRat = a.toRat * b.toRat := by
  unfold notionalFixed at h
  split_ifs at h
  obtain ⟨coefficient, hc, rfl⟩ := Option.map_eq_some_iff.mp h
  obtain rfl := (checkedI128_eq_some.mp hc).2
  rw [Fixed.toRat, Fixed.toRat, Fixed.toRat, div_mul_div_comm, pow_add]
  push_cast
  rfl

lemma compareFixed_of_scale (h : a.scale = b.scale) :
    compareFixed a b = compare a.coefficient b.coefficient := by
  have hrescale (x : Fixed) : x.rescale x.scale .exactOnly = .ok x := if_pos rfl
  unfold compareFixed
  dsimp only
  rw [h, max_self, hrescale b, ← h, hrescale a]

lemma toRat_eq_of_compareFixed (h : compareFixed a b = .eq) : a.toRat = b.toRat := by
  unfold compareFixed at h
  dsimp only at h
  split at h
  · rename_i x y hx hy
    obtain ⟨hxs, hx⟩ := Fixed.toRat_rescale_exactOnly hx
    obtain ⟨hys, hy⟩ := Fixed.toRat_rescale_exactOnly hy
    rw [← hx, ← hy, Fixed.toRat, Fixed.toRat, hxs, hys, compare_eq_iff_eq.mp h]
  · obtain ⟨hscale, hcoefficient⟩ := Ordering.then_eq_eq.mp h
    rw [Fixed.toRat, Fixed.toRat, compare_eq_iff_eq.mp hscale, compare_eq_iff_eq.mp hcoefficient]

/-- A decimal can be brought to a finer scale at which its value can be written. -/
lemma rescale_of_toRat_eq (hscale : a.scale ≤ b.scale) (hb : b.Fits) (hne : a.coefficient ≠ 0)
    (h : a.toRat = b.toRat) : a.rescale b.scale .exactOnly = .ok b := by
  obtain ⟨k, hk⟩ := Nat.exists_eq_add_of_le hscale
  have hmul : b.coefficient = a.coefficient * 10 ^ k := by
    have h10 : (10 : ℚ) ^ a.scale ≠ 0 := by positivity
    rw [Fixed.toRat, Fixed.toRat, hk, pow_add, div_eq_div_iff h10 (by positivity)] at h
    have hq : (b.coefficient : ℚ) = a.coefficient * 10 ^ k := by
      apply mul_right_cancel₀ h10
      linarith
    exact_mod_cast hq
  rcases hscale.lt_or_eq with hlt | heq
  · refine (Fixed.rescale_finer hlt (.inr ⟨hne, .inl hlt⟩)).mpr
      ((Fixed.roundsTo_of_int (Fixed.scaledTo_of_le hscale)).mpr ?_)
    rw [hk, Nat.add_sub_cancel_left, ← hmul, ← hk]
    exact ⟨rfl, hb.1.le, hb.2⟩
  · obtain rfl : k = 0 := by omega
    rw [pow_zero, mul_one] at hmul
    unfold Fixed.rescale
    rw [if_pos heq.symm]
    exact congrArg Except.ok (congrArg₂ Fixed.mk hmul.symm heq)

/-- **Equal decimals compare equal**, unless they are zero. -/
theorem compareFixed_eq_of_toRat (ha : a.Fits) (hb : b.Fits) (hne : a.coefficient ≠ 0)
    (h : a.toRat = b.toRat) : compareFixed a b = .eq := by
  have hrescale (x : Fixed) : x.rescale x.scale .exactOnly = .ok x := if_pos rfl
  unfold compareFixed
  dsimp only
  rcases le_total a.scale b.scale with hle | hle
  · rw [max_eq_right hle, hrescale b, rescale_of_toRat_eq hle hb hne h]
    exact compare_eq_iff_eq.mpr rfl
  · have hne' : b.coefficient ≠ 0 := by rwa [Ne, ← Fixed.toRat_eq_zero, ← h, Fixed.toRat_eq_zero]
    rw [max_eq_left hle, hrescale a, rescale_of_toRat_eq hle ha hne' h.symm]
    exact compare_eq_iff_eq.mpr rfl

/-! ## What was executed -/

/-- **The trade can be read back from its entry**: price and product are not `i128::MIN`. -/
structure Readable (t : Trade) : Prop where
  price : t.price.fixed.Fits
  scale : t.price.fixed.scale ≤ 255
  notional : t.price.fixed.coefficient * t.quantity.fixed.coefficient ≠ i128Min

/-- The time of a trade. -/
def timeNs (trade : EventEnvelope × Trade) : Int := (trade.1.exchangeTs.map (·.ns)).getD trade.1.receiveTs.ns

/-- The trade is of the aggressor, at the price and in the window, and its product can be written. -/
def counts (price : ℚ) (cutoffNs : Int) (side : AggressorSide) (trade : EventEnvelope × Trade) : Bool :=
  decide (trade.2.aggressor = side ∧ trade.2.price.fixed.toRat = price ∧ cutoffNs ≤ timeNs trade) &&
    (notionalFixed trade.2.price.fixed trade.2.quantity.fixed).isSome

/-- **What was executed**, as an exact decimal sum. -/
def executedNotional (trades : List (EventEnvelope × Trade)) (price : ℚ) (cutoffNs : Int)
    (side : AggressorSide) : ℚ :=
  ((trades.filter (counts price cutoffNs side)).map fun trade =>
    trade.2.price.fixed.toRat * trade.2.quantity.fixed.toRat).sum

def Executed.of (sums : Executed) : AggressorSide → Fixed
  | .buy => sums.buy
  | .sell => sums.sell
  | .unknown => sums.unknown

/-- The computation fails with an overflow only. -/
abbrev UpToOverflow {α : Type} (x : Except String α) : Prop := FailsOnly (· = "dom_arithmetic_overflow") x

lemma upToOverflow_orOverflow {α : Type} (o : Option α) : UpToOverflow (orOverflow o) := by
  rcases o with _ | a
  · exact .error rfl
  · exact .ok a

lemma orOverflow_eq_ok {α : Type} {o : Option α} {a : α} : orOverflow o = .ok a ↔ o = some a := by
  rcases o with _ | b
  · exact iff_of_false (by rintro ⟨⟩) (by rintro ⟨⟩)
  · rw [orOverflow, Except.ok.injEq, Option.some.injEq]

lemma upToOverflow_bind {α β : Type} {o : Option α} {f : α → Except String β}
    (h : ∀ a, UpToOverflow (f a)) : UpToOverflow (orOverflow o >>= f) :=
  FailsOnly.bind (upToOverflow_orOverflow o) fun a _ => h a

lemma upToOverflow_add (sums : Executed) (aggressor : String) (notional : Fixed) :
    UpToOverflow (sums.add aggressor notional) := by
  unfold Executed.add
  split_ifs <;> exact upToOverflow_bind fun _ => .ok _

variable {sums sums' : Executed}

lemma Executed.add_eq_ok {aggressor : AggressorSide} {notional : Fixed}
    (h : sums.add (aggressorStr aggressor) notional = .ok sums') (side : AggressorSide) :
    (sums'.of side).toRat = (sums.of side).toRat + if aggressor = side then notional.toRat else 0 := by
  cases aggressor with
  | buy | sell | unknown =>
    obtain ⟨value, hvalue, h⟩ := bind_eq_ok.mp h
    cases h
    have hsum := toRat_fixedAdd (orOverflow_eq_ok.mp hvalue)
    cases side <;> simp [Executed.of, hsum]

lemma parse_notional {t : Trade} (ht : Readable t) {notional : Fixed}
    (h : notionalFixed t.price.fixed t.quantity.fixed = some notional) :
    Fixed.parseOctets (formatFixed notional) = .ok notional := by
  unfold notionalFixed at h
  split_ifs at h with hscale
  obtain ⟨coefficient, hc, rfl⟩ := Option.map_eq_some_iff.mp h
  obtain ⟨⟨hmin, hmax⟩, rfl⟩ := checkedI128_eq_some.mp hc
  exact parse_formatFixed (lt_of_le_of_ne hmin ht.notional.symm) hmax hscale

variable {trade : EventEnvelope × Trade} {entry : TradeEntry}

/-- **What an entry does**, read back as the trade it was made of. -/
theorem addEntry_of_trade (hentry : TapedPlane.IsEntryOf trade entry) (htrade : Readable trade.2)
    (price : Fixed) (cutoffNs : Int) (sums : Executed) :
    addEntry price cutoffNs sums entry =
      match notionalFixed trade.2.price.fixed trade.2.quantity.fixed with
      | none => .ok sums
      | some notional =>
        if timeNs trade < cutoffNs ∨ compareFixed trade.2.price.fixed price ≠ .eq then .ok sums
        else sums.add (aggressorStr trade.2.aggressor) notional := by
  obtain ⟨name, symbol, instrument, rfl⟩ := hentry
  unfold addEntry tradeEntry
  dsimp only
  rcases hnotional : notionalFixed trade.2.price.fixed trade.2.quantity.fixed with _ | notional
  · rfl
  · have hprice := parse_formatFixed htrade.price.1 htrade.price.2 htrade.scale
    rw [Option.map_some]
    dsimp only
    rw [hprice, parse_notional htrade hnotional]
    dsimp only
    by_cases hlate : timeNs trade < cutoffNs
    · exact (if_pos hlate).trans (if_pos (.inl hlate)).symm
    · refine (if_neg hlate).trans ?_
      by_cases hother : compareFixed trade.2.price.fixed price ≠ .eq
      · exact (if_pos hother).trans (if_pos (.inr hother)).symm
      · exact (if_neg hother).trans (if_neg (not_or.mpr ⟨hlate, hother⟩)).symm

lemma upToOverflow_addEntry (hentry : TapedPlane.IsEntryOf trade entry)
    (htrade : Readable trade.2) (price : Fixed) (cutoffNs : Int) (sums : Executed) :
    UpToOverflow (addEntry price cutoffNs sums entry) := by
  rw [addEntry_of_trade hentry htrade]
  split
  · exact .ok _
  · split_ifs
    · exact .ok _
    · exact upToOverflow_add _ _ _

variable {price : Fixed}

/-- The product of a trade that counts, and nothing else. -/
lemma addEntry_eq_ok (hentry : TapedPlane.IsEntryOf trade entry) (htrade : Readable trade.2)
    (hprice : price.Fits) {cutoffNs : Int} (h : addEntry price cutoffNs sums entry = .ok sums')
    (side : AggressorSide) :
    (sums'.of side).toRat = (sums.of side).toRat + if counts price.toRat cutoffNs side trade then
      trade.2.price.fixed.toRat * trade.2.quantity.fixed.toRat else 0 := by
  rw [addEntry_of_trade hentry htrade] at h
  unfold counts
  rcases hnotional : notionalFixed trade.2.price.fixed trade.2.quantity.fixed with _ | notional
  · rw [hnotional] at h
    cases h
    rw [Option.isSome_none, Bool.and_false, if_neg Bool.false_ne_true, add_zero]
  · rw [hnotional] at h
    dsimp only at h
    simp only [Option.isSome_some, Bool.and_true, decide_eq_true_eq]
    split_ifs at h with hskip
    · cases h
      split_ifs with hcounts
      · -- An equal price that does not compare equal is zero.
        obtain ⟨-, hequal, htime⟩ := hcounts
        have hzero : trade.2.price.fixed.coefficient = 0 := by
          by_contra hne
          rcases hskip with hlate | hother
          · omega
          · exact hother (compareFixed_eq_of_toRat htrade.price hprice hne hequal)
        rw [Fixed.toRat_eq_zero.mpr hzero, zero_mul, add_zero]
      · rw [add_zero]
    · obtain ⟨htime, heq⟩ := not_or.mp hskip
      rw [Executed.add_eq_ok h side, toRat_notionalFixed hnotional]
      have hequal := toRat_eq_of_compareFixed (not_not.mp heq)
      simp only [hequal, not_lt.mp htime, and_true]

variable {trades : List (EventEnvelope × Trade)}

lemma foldlM_addEntry {entries : List TradeEntry}
    (hentries : List.Forall₂ TapedPlane.IsEntryOf trades entries)
    (htrades : ∀ trade ∈ trades, Readable trade.2) (hprice : price.Fits) {cutoffNs : Int}
    (h : entries.foldlM (addEntry price cutoffNs) sums = .ok sums') (side : AggressorSide) :
    (sums'.of side).toRat = (sums.of side).toRat + executedNotional trades price.toRat cutoffNs side := by
  induction hentries generalizing sums with
  | nil =>
    cases h
    exact (add_zero _).symm
  | @cons trade entry trades entries hentry _ ih =>
    rw [List.foldlM_cons] at h
    obtain ⟨next, hnext, h⟩ := bind_eq_ok.mp h
    obtain ⟨htrade, htrades⟩ := List.forall_mem_cons.mp htrades
    rw [ih htrades h, addEntry_eq_ok hentry htrade hprice hnext, executedNotional, executedNotional,
      List.filter_cons]
    split_ifs
    · rw [List.map_cons, List.sum_cons, add_assoc]
    · rw [add_zero]

/-! ## Prices and levels of a book -/

lemma pairwise_gt_of_ne {l : List Int} (hle : l.Pairwise (· ≥ ·)) (hne : l.IsChain (· ≠ ·)) :
    l.Pairwise (· > ·) := by
  rw [← List.isChain_iff_pairwise]
  induction l with
  | nil => exact .nil
  | cons a l ih =>
    obtain ⟨ha, hl⟩ := List.pairwise_cons.mp hle
    rw [List.isChain_cons] at hne ⊢
    exact ⟨fun b hb => lt_of_le_of_ne (ha b (List.mem_of_mem_head? hb)) (hne.1 b hb).symm, ih hl hne.2⟩

variable {x : Inputs}

/-- **The prices go strictly down** when they are at one scale. -/
theorem pairwise_prices {scale : Nat}
    (hscale : ∀ level ∈ x.book.bids ++ x.book.asks, level.price.fixed.scale = scale) :
    x.prices.Pairwise (fun a b => b.toRat < a.toRat) ∧
      ∀ price ∈ x.prices, ∃ level ∈ x.book.bids ++ x.book.asks, price = level.price.fixed := by
  unfold Inputs.prices
  generalize hl : (x.book.bids ++ x.book.asks).map (·.price.fixed) = l
  have hall : ∀ price ∈ l, price.scale = scale := by
    rw [← hl]
    exact List.forall_mem_map.mpr hscale
  generalize hsorted : l.insertionSort (fun a b => compareFixed b a ≠ .gt) = sorted
  have hperm : sorted.Perm l := hsorted ▸ List.perm_insertionSort _ l
  have hdown : (sorted.map (·.coefficient)).Pairwise (· ≥ ·) := by
    rw [← hsorted, List.map_insertionSort (r := fun a b => compareFixed b a ≠ .gt) (s := (· ≥ ·))]
    · exact List.pairwise_insertionSort _ _
    · intro a ha b hb
      rw [compareFixed_of_scale ((hall b hb).trans (hall a ha).symm), ge_iff_le, compare_le_iff_le]
  have hsub : (sorted.destutter fun a b => compareFixed a b ≠ .eq).Sublist sorted := List.destutter_sublist _ _
  have hchain := List.isChain_destutter (fun a b => compareFixed a b ≠ .eq) sorted
  generalize (sorted.destutter fun a b => compareFixed a b ≠ .eq) = prices at hsub hchain ⊢
  have hmem : ∀ price ∈ prices, price ∈ l := fun price hprice => hperm.mem_iff.mp (hsub.subset hprice)
  refine ⟨?_, fun price hprice => ?_⟩
  · have hne : (prices.map (·.coefficient)).IsChain (· ≠ ·) := by
      rw [List.isChain_map]
      refine hchain.imp_of_mem_imp fun a b ha hb hab heq => hab ?_
      rw [compareFixed_of_scale ((hall a (hmem a ha)).trans (hall b (hmem b hb)).symm), heq]
      exact compare_eq_iff_eq.mpr rfl
    have hlt := List.pairwise_map.mp (pairwise_gt_of_ne (hdown.sublist (hsub.map _)) hne)
    refine hlt.imp_of_mem fun {a b} ha hb hab => ?_
    have hs := (hall a (hmem a ha)).trans (hall b (hmem b hb)).symm
    rw [Fixed.toRat, Fixed.toRat, hs, div_lt_div_iff_of_pos_right (by positivity), Int.cast_lt]
    exact hab
  · have := hmem price hprice
    rw [← hl] at this
    obtain ⟨level, hlevel, rfl⟩ := List.mem_map.mp this
    exact ⟨level, hlevel, rfl⟩

lemma toRat_foldlM_notional {levels : List BookLevel} {start v : Fixed}
    (h : levels.foldlM (fun sum level => do
      let notional ← notionalFixed level.price.fixed level.quantity.fixed
      fixedAdd sum notional) start = some v) :
    v.toRat = start.toRat + (levels.map fun l => l.price.fixed.toRat * l.quantity.fixed.toRat).sum := by
  induction levels generalizing start with
  | nil =>
    cases h
    exact (add_zero _).symm
  | cons level levels ih =>
    rw [List.foldlM_cons] at h
    obtain ⟨next, hnext, h⟩ := Option.bind_eq_some_iff.mp h
    obtain ⟨notional, hnotional, hnext⟩ := Option.bind_eq_some_iff.mp hnext
    rw [ih h, toRat_fixedAdd hnext, toRat_notionalFixed hnotional, List.map_cons, List.sum_cons, add_assoc]

/-- A level at or better than a price. -/
def better (b : OrderBook) (side : BookSide) (price : ℚ) (e : Int × Int) : Bool :=
  match side with
  | .bid => price ≤ (b.price e.1).fixed.toRat
  | .ask => (b.price e.1).fixed.toRat ≤ price

/-- **What stands in the book** at or better than a price, as an exact decimal sum. -/
def standingNotional (b : OrderBook) (side : BookSide) (price : ℚ) : ℚ :=
  (((b.levels side).toList.filter (better b side price)).map fun e =>
    (b.price e.1).fixed.toRat * (b.qty e.2).fixed.toRat).sum

lemma reaches_bookLevel (b : OrderBook) (side : BookSide) (k : Int) (e : Int × Int) :
    reaches side (b.price k).fixed (b.bookLevel e) = better b side (b.price k).fixed.toRat e := by
  have hcompare : compareFixed (b.bookLevel e).price.fixed (b.price k).fixed = compare e.1 k :=
    compareFixed_of_scale rfl
  unfold reaches better
  rw [hcompare]
  have hle (m n : Int) : (b.price m).fixed.toRat ≤ (b.price n).fixed.toRat ↔ m ≤ n :=
    not_lt.symm.trans ((not_congr Fixed.toRat_lt_toRat).trans not_lt)
  cases side with
  | bid =>
    dsimp only
    rw [decide_eq_decide, hle, ← not_lt]
    exact not_congr compare_lt_iff_lt
  | ask =>
    dsimp only
    rw [decide_eq_decide, hle, ← not_lt]
    exact not_congr compare_gt_iff_gt

/-- The listed levels reach as far as all levels do, when none that is left out is better. -/
lemma cumulativeNotional_listed {b : OrderBook} {side : BookSide} {l : List (Int × Int)}
    (hperm : l.Perm (b.levels side).toList) {n : Nat} {k : Int}
    (hrest : ∀ e ∈ l.drop n, better b side (b.price k).fixed.toRat e = false) {scale : Nat} {v : Fixed}
    (h : cumulativeNotional ((l.take n).map b.bookLevel) (b.price k).fixed side scale = some v) :
    v.toRat = standingNotional b side (b.price k).fixed.toRat := by
  have hnone : (l.drop n).filter (better b side (b.price k).fixed.toRat) = [] :=
    List.filter_eq_nil_iff.mpr fun e he => Bool.eq_false_iff.mp (hrest e he)
  have hall : (l.take n).filter (better b side (b.price k).fixed.toRat) =
      l.filter (better b side (b.price k).fixed.toRat) := by
    conv_rhs => rw [← List.take_append_drop n l, List.filter_append, hnone, List.append_nil]
  have hzero : (⟨0, scale⟩ : Fixed).toRat = 0 := Fixed.toRat_eq_zero.mpr rfl
  have hsum := toRat_foldlM_notional h
  rw [List.filter_map] at hsum
  have hcongr : (reaches side (b.price k).fixed ∘ b.bookLevel) = better b side (b.price k).fixed.toRat :=
    funext fun e => reaches_bookLevel b side k e
  rw [hcongr, hall, hzero, zero_add, List.map_map] at hsum
  rw [hsum]
  exact ((hperm.filter _).map _).sum_eq

/-! ## The answer is exact -/

def ViewDomRow.executed (row : ViewDomRow) : AggressorSide → List UInt8
  | .buy => row.buyExecutedNotional
  | .sell => row.sellExecutedNotional
  | .unknown => row.unknownExecutedNotional

def ViewDomRow.cumulative (row : ViewDomRow) : BookSide → List UInt8
  | .bid => row.bidCumulativeNotional
  | .ask => row.askCumulativeNotional

/-- **A row that shows the exact sums** of the trades and of the levels of a book. -/
structure RowExact (trades : List (EventEnvelope × Trade)) (b : OrderBook) (cutoffNs : Int) (price : Fixed)
    (row : ViewDomRow) : Prop where
  text : row.price = formatFixed price
  executed : ∀ side, ∃ value, row.executed side = formatFixed value ∧
    value.toRat = executedNotional trades price.toRat cutoffNs side
  cumulative : ∀ side, ∃ value, row.cumulative side = formatFixed value ∧
    value.toRat = standingNotional b side price.toRat

/-- The columns of a row. -/
lemma row_eq_ok {row : ViewDomRow} (h : x.row price = .ok row) :
    row.price = formatFixed price ∧ ∃ sums bid ask, x.executed price = .ok sums ∧
      cumulativeNotional x.book.bids price .bid x.notionalScale = some bid ∧
      cumulativeNotional x.book.asks price .ask x.notionalScale = some ask ∧
      (∀ side, row.executed side = formatFixed (sums.of side)) ∧
      row.cumulative .bid = formatFixed bid ∧ row.cumulative .ask = formatFixed ask := by
  unfold Inputs.row at h
  simp only [bind_eq_ok] at h
  obtain ⟨_, -, _, -, _, -, sums, hsums, _, -, _, -, bid, hbid, ask, hask, _, -, _, -, h⟩ := h
  cases h
  refine ⟨rfl, sums, bid, ask, hsums, orOverflow_eq_ok.mp hbid, orOverflow_eq_ok.mp hask, fun side => ?_,
    rfl, rfl⟩
  cases side with
  | buy | sell | unknown => rfl

lemma upToOverflow_row (h : UpToOverflow (x.executed price)) : UpToOverflow (x.row price) := by
  unfold Inputs.row
  refine upToOverflow_bind fun _ => upToOverflow_bind fun _ => upToOverflow_bind fun _ => ?_
  refine FailsOnly.bind h fun _ _ => upToOverflow_bind fun _ => upToOverflow_bind fun _ => ?_
  refine upToOverflow_bind fun _ => upToOverflow_bind fun _ => upToOverflow_bind fun _ => ?_
  exact upToOverflow_bind fun _ => .ok _

lemma upToOverflow_executed (hentries : List.Forall₂ TapedPlane.IsEntryOf trades x.entries)
    (htrades : ∀ trade ∈ trades, Readable trade.2) (price : Fixed) :
    UpToOverflow (x.executed price) := by
  unfold Inputs.executed
  refine FailsOnly.foldlM (fun sums entry hentry => ?_) _
  obtain ⟨trade, htrade, hof⟩ := exists_of_forall₂ hentries hentry
  exact upToOverflow_addEntry hof (htrades trade htrade) price x.cutoffNs sums

variable {d : TapedPlane} {key : BookKey} {depth window : Nat} {nowNs : Int} {x : Inputs}

/-- What the rows are made of. -/
lemma inputs_eq_some (h : inputs d key depth window nowNs = some x) :
    ∃ live, d.plane.books key = some live ∧ live.book.validity = .valid ∧
      x.entries = ((d.tapes key).map (·.entries)).getD [] ∧ x.cutoffNs = cutoffNs window nowNs ∧
      x.book.bids = (live.book.bids.toList.reverse.take (clampedDepth depth).toNat).map live.book.bookLevel ∧
      x.book.asks = (live.book.asks.toList.take (clampedDepth depth).toNat).map live.book.bookLevel := by
  obtain ⟨live, hlive, h⟩ := Option.bind_eq_some_iff.mp h
  obtain ⟨book, hbook, h⟩ := Option.bind_eq_some_iff.mp h
  cases h
  unfold LiveBook.snapshot at hbook
  obtain ⟨levels, hlevels, rfl⟩ := Option.map_eq_some_iff.mp hbook
  dsimp only at hlevels
  unfold OrderBook.snapshotLevelsBounded at hlevels
  split_ifs at hlevels with hvalid
  cases hlevels
  exact ⟨live, hlive, not_not.mp hvalid, rfl, rfl, rfl, rfl⟩

/-- Levels that are left out of a listing are no better than a price it shows. -/
lemma rest_not_better {b : OrderBook} (hwf : b.WellFormed) {n : Nat} {k : Int}
    (hk : k ∈ (b.bids.toList.reverse.take n).map Prod.fst ∨ k ∈ (b.asks.toList.take n).map Prod.fst) :
    (∀ e ∈ b.bids.toList.reverse.drop n, better b .bid (b.price k).fixed.toRat e = false) ∧
      ∀ e ∈ b.asks.toList.drop n, better b .ask (b.price k).fixed.toRat e = false := by
  have hbids : b.bids.toList.reverse.Pairwise (fun e f => f.1 < e.1) :=
    List.pairwise_reverse.mpr (OrdMap.sorted_toList b.bids)
  have hasks := OrdMap.sorted_toList b.asks
  have huncrossed {bid ask : Int × Int} (hbid : bid ∈ b.bids.toList) (hask : ask ∈ b.asks.toList) :
      bid.1 < ask.1 :=
    hwf.uncrossed bid.1 bid.2 ask.1 ask.2 (OrdMap.mem_toList.mp hbid) (OrdMap.mem_toList.mp hask)
  have hlt (m n : Int) : (b.price m).fixed.toRat < (b.price n).fixed.toRat ↔ m < n := Fixed.toRat_lt_toRat
  rw [← List.take_append_drop n b.bids.toList.reverse, List.pairwise_append] at hbids
  rw [← List.take_append_drop n b.asks.toList, List.pairwise_append] at hasks
  refine ⟨fun e he => ?_, fun e he => ?_⟩
  · have hless : e.1 < k := by
      rcases hk with hk | hk
      · obtain ⟨shown, hshown, rfl⟩ := List.mem_map.mp hk
        exact hbids.2.2 shown hshown e he
      · obtain ⟨shown, hshown, rfl⟩ := List.mem_map.mp hk
        exact huncrossed (List.mem_reverse.mp (List.mem_of_mem_drop he)) (List.mem_of_mem_take hshown)
    exact decide_eq_false (not_le.mpr ((hlt _ _).mpr hless))
  · have hless : k < e.1 := by
      rcases hk with hk | hk
      · obtain ⟨shown, hshown, rfl⟩ := List.mem_map.mp hk
        exact huncrossed (List.mem_reverse.mp (List.mem_of_mem_take hshown)) (List.mem_of_mem_drop he)
      · obtain ⟨shown, hshown, rfl⟩ := List.mem_map.mp hk
        exact hasks.2.2 shown hshown e he
    exact decide_eq_false (not_le.mpr ((hlt _ _).mpr hless))

/-- **The rows of a book.** -/
theorem rows_exact (h : inputs d key depth window nowNs = some x) {live : LiveBook}
    (hlive : d.plane.books key = some live) (hsound : live.book.Sound)
    (hfits : live.book.PricesFit)
    (hentries : List.Forall₂ TapedPlane.IsEntryOf trades x.entries)
    (htrades : ∀ trade ∈ trades, Readable trade.2) {rows : List ViewDomRow}
    (hrows : x.prices.mapM x.row = .ok rows) :
    x.prices.Pairwise (fun a b => b.toRat < a.toRat) ∧
      List.Forall₂ (RowExact trades live.book (cutoffNs window nowNs)) x.prices rows := by
  obtain ⟨live', hlive', hvalid, -, hcutoff, hbids, hasks⟩ := inputs_eq_some h
  obtain rfl := Option.some.inj (hlive'.symm.trans hlive)
  have hlevel : ∀ level ∈ x.book.bids ++ x.book.asks, ∃ k, level.price = live'.book.price k ∧
      (k ∈ (live'.book.bids.toList.reverse.take (clampedDepth depth).toNat).map Prod.fst ∨
        k ∈ (live'.book.asks.toList.take (clampedDepth depth).toNat).map Prod.fst) := by
    intro level hmem
    rw [hbids, hasks] at hmem
    rcases List.mem_append.mp hmem with hmem | hmem
    · obtain ⟨e, he, rfl⟩ := List.mem_map.mp hmem
      exact ⟨e.1, rfl, .inl (List.mem_map_of_mem he)⟩
    · obtain ⟨e, he, rfl⟩ := List.mem_map.mp hmem
      exact ⟨e.1, rfl, .inr (List.mem_map_of_mem he)⟩
  have hscale : ∀ level ∈ x.book.bids ++ x.book.asks, level.price.fixed.scale = live'.book.priceScale := by
    intro level hmem
    obtain ⟨k, hk, -⟩ := hlevel level hmem
    rw [hk]
    rfl
  obtain ⟨hdown, hprices⟩ := pairwise_prices hscale
  refine ⟨hdown, ?_⟩
  have hmem := (List.forall₂_and_left _ _).mpr ⟨fun _ hprice => hprice, forall₂_of_mapM hrows⟩
  refine hmem.imp fun price row hrow => ?_
  obtain ⟨hprice, hrow⟩ := hrow
  obtain ⟨level, hlevelmem, rfl⟩ := hprices price hprice
  obtain ⟨k, hk, hshown⟩ := hlevel level hlevelmem
  obtain ⟨htext, sums, bid, ask, hsums, hbid, hask, hexecuted, hbidText, haskText⟩ := row_eq_ok hrow
  obtain ⟨hrestBids, hrestAsks⟩ := rest_not_better (hsound hvalid) hshown
  rw [hk] at hsums hbid hask ⊢
  refine ⟨by rw [htext, hk], fun side => ⟨_, hexecuted side, ?_⟩, fun side => ?_⟩
  · have hkfits : (live'.book.price k).fixed.Fits := by
      rcases hshown with hshown | hshown
      · obtain ⟨e, he, rfl⟩ := List.mem_map.mp hshown
        exact hfits (.bid, e.1) e.2 (OrdMap.mem_toList.mp (List.mem_reverse.mp (List.mem_of_mem_take he)))
      · obtain ⟨e, he, rfl⟩ := List.mem_map.mp hshown
        exact hfits (.ask, e.1) e.2 (OrdMap.mem_toList.mp (List.mem_of_mem_take he))
    rw [foldlM_addEntry hentries htrades hkfits hsums side, hcutoff]
    have hzero : (⟨0, x.notionalScale⟩ : Fixed).toRat = 0 := Fixed.toRat_eq_zero.mpr rfl
    cases side with
    | buy | sell | unknown => exact (congrArg (· + _) hzero).trans (zero_add _)
  · cases side with
    | bid =>
      rw [hbids] at hbid
      exact ⟨bid, hbidText, cumulativeNotional_listed (List.reverse_perm _) hrestBids hbid⟩
    | ask =>
      rw [hasks] at hask
      exact ⟨ask, haskText, cumulativeNotional_listed (.refl _) hrestAsks hask⟩

lemma unavailableDom_facts {venue : String} {instrument : InstrumentId} {symbol : Option String} {reason : String}
    (h : reason ≠ "invalid_internal_tape_value") {P : Prop} :
    (unavailableDom venue instrument symbol window reason).reason ≠ some "invalid_internal_tape_value" ∧
      ((unavailableDom venue instrument symbol window reason).status = "live" → P) :=
  ⟨fun heq => h (Option.some.inj heq), fun heq => absurd heq (by decide : "unavailable" ≠ "live")⟩

/-- **The depth of market is exact**, after any inputs whose book prices are above `i128::MIN` and whose
trades can be read back: no entry of the tape is refused, and a live answer has its rows strictly down in price, each with the exact sums of
the retained trades at its price and of the levels at or better than it. -/
theorem domSnapshot_exact {d₀ : TapedPlane} (hbooks : ∀ key, d₀.plane.books key = none)
    (htapes : ∀ key, d₀.tapes key = none) (ingested : List TapedPlane.Ingest)
    (htrades : ∀ ev ∈ ingested.flatMap TapedPlane.Ingest.events, ∀ t, ev.payload = .trade t → Readable t)
    (hfits : ∀ ev ∈ ingested.flatMap TapedPlane.Ingest.events, TapedPlane.PricesFit ev.payload)
    (venueConfigId : String) (instrument : InstrumentId) (depth window : Nat) (nowNs : Int) :
    let d := run TapedPlane.ingest d₀ ingested
    let dom := domSnapshot d venueConfigId instrument depth window nowNs
    dom.reason ≠ some "invalid_internal_tape_value" ∧
    (dom.status = "live" → ∃ venue live trades prices,
      d.plane.venueIds venueConfigId = some venue ∧ d.plane.books (venue, instrument) = some live ∧
      trades.Sublist ((ingested.flatMap TapedPlane.Ingest.events).filterMap
        (TapedPlane.tradeOf (venue, instrument))) ∧
      List.Forall₂ TapedPlane.IsEntryOf trades (((d.tapes (venue, instrument)).map (·.entries)).getD []) ∧
      prices.Pairwise (fun a b => b.toRat < a.toRat) ∧
      List.Forall₂ (RowExact trades live.book (cutoffNs window nowNs)) prices dom.rows) := by
  intro d dom
  have hstart : TapedPlane.Recorded [] d₀ := by
    refine ⟨fun key ring hring => ?_, fun key live hlive => ?_⟩
    · rw [htapes] at hring
      cases hring
    · rw [hbooks] at hlive
      cases hlive
  have hrecorded : TapedPlane.Recorded (ingested.flatMap TapedPlane.Ingest.events) d := hstart.run ingested
  have hdom : dom = domSnapshot d venueConfigId instrument depth window nowNs := rfl
  clear_value dom
  unfold domSnapshot at hdom
  dsimp only at hdom
  split at hdom
  · rw [hdom]
    exact unavailableDom_facts (by decide)
  rename_i venue hvenue
  split at hdom
  · rw [hdom]
    exact unavailableDom_facts (by decide)
  rename_i x hx
  obtain ⟨live, hlive, -, hentries, -, -, -⟩ := inputs_eq_some hx
  obtain ⟨trades, hsub, hof⟩ : ∃ trades : List (EventEnvelope × Trade),
      trades.Sublist ((ingested.flatMap TapedPlane.Ingest.events).filterMap
        (TapedPlane.tradeOf (venue, instrument))) ∧ List.Forall₂ TapedPlane.IsEntryOf trades x.entries := by
    rw [hentries]
    rcases hring : d.tapes (venue, instrument) with _ | ring
    · exact ⟨[], List.nil_sublist _, .nil⟩
    · exact hrecorded.tape _ ring hring
  have hreadable : ∀ trade ∈ trades, Readable trade.2 := by
    intro trade htrade
    obtain ⟨ev, hev, htradeOf⟩ := List.mem_filterMap.mp (hsub.subset htrade)
    unfold TapedPlane.tradeOf at htradeOf
    split_ifs at htradeOf
    split at htradeOf
    · rename_i t ht
      cases htradeOf
      exact htrades ev hev t ht
    · cases htradeOf
  split at hdom
  · rename_i reason hreason
    have hoverflow : UpToOverflow (x.prices.mapM x.row) :=
      FailsOnly.mapM fun price _ => upToOverflow_row (upToOverflow_executed hof hreadable price)
    rw [hdom, hoverflow reason hreason]
    exact unavailableDom_facts (by decide)
  · rename_i rows hrows
    rw [hdom]
    refine ⟨by rintro ⟨⟩, fun _ => ⟨venue, live, trades, x.prices, hvenue, hlive, hsub, hentries ▸ hof, ?_⟩⟩
    obtain ⟨hsound, hprices⟩ := hrecorded.book _ live hlive
    exact rows_exact hx hlive hsound (hprices hfits) hof hreadable hrows

/-- A plane without books and tapes. -/
def emptyPlane : TapedPlane := ⟨ViewPlane.new, fun _ => none, 8, 0⟩

/-- A snapshot and a trade. -/
def tradedInputs (price quantity : Fixed) : List TapedPlane.Ingest :=
  [.batch (((ViewPlane.exampleEvents (.bookSnapshot ViewPlane.wholeSnapshot)).events ++
    (ViewPlane.exampleEvents (.trade ⟨⟨price⟩, ⟨quantity⟩, .buy, none⟩)).events).map (⟨·, 0, 0⟩))]

/-- **A product that cannot be read back, and one that is not written.** The coefficients of the first
trade are above `i128::MIN`, but their product is not, and the answer is withheld. The product of the
second trade fits, but at a scale of 256, and the trade does not count. -/
theorem domSnapshot_invalid :
    ((⟨-(2 ^ 63), 0⟩ : Fixed).Fits ∧ (⟨2 ^ 64, 0⟩ : Fixed).Fits ∧
      (domSnapshot (run TapedPlane.ingest emptyPlane (tradedInputs ⟨-(2 ^ 63), 0⟩ ⟨2 ^ 64, 0⟩)) "venue-3"
        ViewPlane.exampleKey.2 10 60 0).reason = some "invalid_internal_tape_value") ∧
    (⟨1000 * 1, 256⟩ : Fixed).Fits ∧
      (let dom := domSnapshot (run TapedPlane.ingest emptyPlane (tradedInputs ⟨1000, 1⟩ ⟨1, 255⟩)) "venue-3"
        ViewPlane.exampleKey.2 10 60 0
      dom.status = "live" ∧ dom.rows.map (fun row => (row.price, row.buyExecutedNotional)) =
        [(utf8 "101", utf8 "0"), (utf8 "100", utf8 "0")]) := by
  decide +kernel

/-- A book with one execution. -/
theorem domSnapshot_exact_tradedInputs :
    let dom := domSnapshot (run TapedPlane.ingest emptyPlane (tradedInputs ⟨1000, 1⟩ ⟨3, 0⟩)) "venue-3"
      ViewPlane.exampleKey.2 10 60 0
    dom.status = "live" ∧ dom.rows.map (·.buyExecutedNotional) = [utf8 "0", utf8 "300.0"] ∧
      ∃ trades b prices, List.Forall₂ (RowExact trades b (cutoffNs 60 0)) prices dom.rows := by
  intro dom
  have hstatus : dom.status = "live" := by decide +kernel
  refine ⟨hstatus, by decide +kernel, ?_⟩
  have htrades : ∀ ev ∈ (tradedInputs ⟨1000, 1⟩ ⟨3, 0⟩).flatMap TapedPlane.Ingest.events,
      ∀ t, ev.payload = .trade t → Readable t := by
    intro ev hev t ht
    rcases List.mem_cons.mp hev with rfl | hev
    · cases ht
    · obtain rfl := List.mem_singleton.mp hev
      cases ht
      exact ⟨by decide, by decide, by decide⟩
  have hfits : ∀ ev ∈ (tradedInputs ⟨1000, 1⟩ ⟨3, 0⟩).flatMap TapedPlane.Ingest.events,
      TapedPlane.PricesFit ev.payload := by
    intro ev hev
    rcases List.mem_cons.mp hev with rfl | hev
    · show ∀ level ∈ ViewPlane.wholeSnapshot.bids ++ ViewPlane.wholeSnapshot.asks, level.price.fixed.Fits
      decide
    · obtain rfl := List.mem_singleton.mp hev
      trivial
  have hbooks : ∀ key, emptyPlane.plane.books key = none := fun _ => rfl
  obtain ⟨-, hlive⟩ := domSnapshot_exact hbooks (fun _ => rfl) _ htrades hfits "venue-3"
    ViewPlane.exampleKey.2 10 60 0
  obtain ⟨venue, live, trades, prices, -, -, -, -, -, hrows⟩ := hlive hstatus
  exact ⟨trades, live.book, prices, hrows⟩

end Marketfeed.Dom
