import Marketfeed.Lib.Run
import Marketfeed.Model.Fixed
import Mathlib.Data.Rat.Floor

/-!
# Rescaling rounds as its mode says

`Fixed.rescale` divides with truncation and corrects the quotient by the sign of the coefficient and
the size of the remainder. Here the six modes are stated on rational numbers, by floor and ceiling,
and compared with the code.
-/

namespace Marketfeed

/-- The numbers an `i128` can hold. -/
def FitsI128 (x : Int) : Prop := i128Min ≤ x ∧ x ≤ i128Max

instance (x : Int) : Decidable (FitsI128 x) := inferInstanceAs (Decidable (_ ∧ _))

lemma checkedI128_of_fits {x : Int} (h : FitsI128 x) : checkedI128 x = some x :=
  checkedI128_eq_some.mpr ⟨h, rfl⟩

/-- A quotient is closer to zero, and fits as well. -/
lemma FitsI128.tdiv {c d : Int} (h : FitsI128 c) (hd : 0 < d) : FitsI128 (c.tdiv d) := by
  obtain ⟨hlo, hhi⟩ := h
  have hsmall : (c.tdiv d).natAbs ≤ c.natAbs := by
    rw [Int.natAbs_tdiv]
    exact Nat.div_le_self _ _
  rcases le_total 0 c with hc | hc
  · have hq := Int.tdiv_nonneg hc hd.le
    have hmin : i128Min ≤ 0 := by decide
    constructor <;> omega
  · have hq := Int.tdiv_nonneg (Int.neg_nonneg.mpr hc) hd.le
    rw [Int.neg_tdiv] at hq
    have hmax : 0 ≤ i128Max := by decide
    constructor <;> omega

/-! ## What a rounding mode means -/

/-- The integer a mode rounds a number to. `ExactOnly` accepts only integers, which every mode leaves
as they are. -/
def RoundingMode.round : RoundingMode → ℚ → Int
  | .exactOnly, v | .towardZero, v => if 0 ≤ v then ⌊v⌋ else ⌈v⌉
  | .awayFromZero, v => if 0 ≤ v then ⌈v⌉ else ⌊v⌋
  | .towardNegInfinity, v => ⌊v⌋
  | .towardPosInfinity, v => ⌈v⌉
  | .halfAwayFromZero, v => if 0 ≤ v then ⌊v + 1 / 2⌋ else ⌈v - 1 / 2⌉

namespace RoundingMode

variable (mode : RoundingMode)

lemma round_intCast (z : Int) : mode.round z = z := by
  have hhalf : ⌊(z : ℚ) + 1 / 2⌋ = z ∧ ⌈(z : ℚ) - 1 / 2⌉ = z := by
    rw [Int.floor_eq_iff, Int.ceil_eq_iff]
    constructor <;> constructor <;> linarith
  cases mode <;>
    simp only [round, Int.floor_intCast, Int.ceil_intCast, hhalf.1, hhalf.2, ite_self]

/-- A number between two integers, above zero. -/
lemma round_add_of_pos {q : Int} {t : ℚ} (hq : 0 ≤ q) (h0 : 0 < t) (h1 : t < 1) :
    mode.round (q + t) = match mode with
      | .exactOnly | .towardZero | .towardNegInfinity => q
      | .awayFromZero | .towardPosInfinity => q + 1
      | .halfAwayFromZero => if t < 1 / 2 then q else q + 1 := by
  have hq' : (0 : ℚ) ≤ q := Int.cast_nonneg hq
  have hpos : 0 ≤ (q : ℚ) + t := by linarith
  have hfloor : ⌊(q : ℚ) + t⌋ = q := by
    rw [Int.floor_eq_iff]
    constructor <;> linarith
  have hceil : ⌈(q : ℚ) + t⌉ = q + 1 := by
    rw [Int.ceil_eq_iff]
    push_cast
    constructor <;> linarith
  cases mode with
  | halfAwayFromZero =>
    simp only [round, if_pos hpos]
    split_ifs with hhalf
    · rw [Int.floor_eq_iff]
      constructor <;> linarith
    · rw [Int.floor_eq_iff]
      push_cast
      constructor <;> linarith
  | _ => simp only [round, if_pos hpos, hfloor, hceil]

/-- A number between two integers, below zero. -/
lemma round_sub_of_pos {q : Int} {t : ℚ} (hq : q ≤ 0) (h0 : 0 < t) (h1 : t < 1) :
    mode.round (q - t) = match mode with
      | .exactOnly | .towardZero | .towardPosInfinity => q
      | .awayFromZero | .towardNegInfinity => q - 1
      | .halfAwayFromZero => if t < 1 / 2 then q else q - 1 := by
  have hq' : (q : ℚ) ≤ 0 := Int.cast_nonpos.mpr hq
  have hneg : ¬ 0 ≤ (q : ℚ) - t := by linarith
  have hfloor : ⌊(q : ℚ) - t⌋ = q - 1 := by
    rw [Int.floor_eq_iff]
    push_cast
    constructor <;> linarith
  have hceil : ⌈(q : ℚ) - t⌉ = q := by
    rw [Int.ceil_eq_iff]
    constructor <;> linarith
  cases mode with
  | halfAwayFromZero =>
    simp only [round, if_neg hneg]
    split_ifs with hhalf
    · rw [Int.ceil_eq_iff]
      constructor <;> linarith
    · rw [Int.ceil_eq_iff]
      push_cast
      constructor <;> linarith
  | _ => simp only [round, if_neg hneg, hfloor, hceil]

end RoundingMode

namespace Fixed

/-- The coefficient at another scale, before rounding. -/
def scaledTo (x : Fixed) (newScale : Nat) : ℚ := x.coefficient * 10 ^ ((newScale : ℤ) - x.scale)

variable {x : Fixed} {n : Nat}

lemma scaledTo_of_le (h : x.scale ≤ n) :
    x.scaledTo n = ((x.coefficient * 10 ^ (n - x.scale) : Int) : ℚ) := by
  obtain ⟨d, rfl⟩ := Nat.exists_eq_add_of_le h
  rw [scaledTo, Nat.add_sub_cancel_left, Nat.cast_add, add_sub_cancel_left, zpow_natCast]
  push_cast
  rfl

lemma scaledTo_of_ge (h : n ≤ x.scale) :
    x.scaledTo n = x.coefficient / ((10 ^ (x.scale - n) : Int) : ℚ) := by
  obtain ⟨d, hd⟩ := Nat.exists_eq_add_of_le h
  rw [scaledTo, hd, Nat.add_sub_cancel_left, Nat.cast_add, sub_add_cancel_left, zpow_neg, zpow_natCast,
    div_eq_mul_inv]
  push_cast
  rfl

/-- A result of checked arithmetic, with the error of the source. -/
def checked (z : Int) : Except FixedError Int :=
  match checkedI128 z with
  | some c => .ok c
  | none => .error .overflow

variable {z c : Int}

lemma checked_eq_ok_iff : checked z = .ok c ↔ c = z ∧ FitsI128 z := by
  rw [and_comm, FitsI128, ← checkedI128_eq_some, checked]
  rcases checkedI128 z with _ | c'
  · constructor <;> exact fun h => by cases h
  · rw [Except.ok.injEq, Option.some.injEq]

lemma checked_of_fits (h : FitsI128 z) : checked z = .ok z := checked_eq_ok_iff.mpr ⟨rfl, h⟩

lemma stepAway_eq (c q : Int) : stepAway c q = checked (if 0 < c then q + 1 else q - 1) := rfl

variable {d : Int}

lemma div_lt_half_iff {r : Int} (hd : 0 < d) : (r : ℚ) / d < 1 / 2 ↔ r * 2 < d := by
  have hd' : (0 : ℚ) < d := Int.cast_pos.mpr hd
  rw [div_lt_iff₀ hd', ← Int.cast_lt (R := ℚ)]
  push_cast
  constructor <;> intro h <;> linarith

/-- The two tests on the remainder in `HalfAwayFromZero` are one: below half of the divisor the
quotient stays, otherwise it steps away from zero. -/
lemma roundQuotient_half {q r : Int} (hd : 0 < d) :
    roundQuotient c q r d .halfAwayFromZero =
      if r.natAbs * 2 < d then .ok q else stepAway c q := by
  have hhalf : (d.tdiv 2).natAbs = d.natAbs / 2 := Int.natAbs_tdiv d 2
  simp only [roundQuotient, hhalf]
  split_ifs <;> first | rfl | omega

/-- A number as its truncated quotient and a fraction of one. -/
lemma div_eq_tdiv_add (hd : 0 < d) : (c : ℚ) / d = (c.tdiv d : ℚ) + (c.tmod d : ℚ) / d := by
  have hd' : (0 : ℚ) < d := Int.cast_pos.mpr hd
  have hsplit : (c : ℚ) = d * c.tdiv d + c.tmod d := by
    exact_mod_cast (Int.mul_tdiv_add_tmod c d).symm
  rw [hsplit]
  field_simp

variable {mode : RoundingMode}

/-- **The correction of the quotient is the rounding of the mode**: with a remainder, the quotient is
off by a fraction of one, on the side of the coefficient's sign. -/
theorem roundQuotient_eq (hd : 0 < d) (hr : c.tmod d ≠ 0) (hc : FitsI128 c)
    (hmode : mode ≠ .exactOnly) :
    roundQuotient c (c.tdiv d) (c.tmod d) d mode = checked (mode.round (c / d)) := by
  have hd' : (0 : ℚ) < d := Int.cast_pos.mpr hd
  have hv := div_eq_tdiv_add (c := c) hd
  have hquot : checked (c.tdiv d) = .ok (c.tdiv d) := checked_of_fits (hc.tdiv hd)
  rcases lt_or_gt_of_ne (fun h : c = 0 => hr (by rw [h, Int.zero_tmod])) with hneg | hpos
  · -- Below zero: the remainder is negative, and the number is below the quotient.
    have hq : c.tdiv d ≤ 0 := by
      have hnonneg := Int.tdiv_nonneg (Int.neg_nonneg.mpr hneg.le) hd.le
      rw [Int.neg_tdiv] at hnonneg
      omega
    have hrneg : 0 < -c.tmod d := by
      have hnonneg := Int.tmod_nonneg d (Int.neg_nonneg.mpr hneg.le)
      rw [Int.neg_tmod] at hnonneg
      omega
    have hrgt : -c.tmod d < d := by
      have hlt := Int.lt_tmod_of_pos c hd
      omega
    have hv' : (c : ℚ) / d = (c.tdiv d : ℚ) - ((-c.tmod d : Int) : ℚ) / d := by
      rw [hv]
      push_cast
      ring
    rw [hv', mode.round_sub_of_pos hq (div_pos (Int.cast_pos.mpr hrneg) hd')
      ((div_lt_one hd').mpr (Int.cast_lt.mpr hrgt))]
    cases mode with
    | exactOnly => exact absurd rfl hmode
    | towardZero => exact hquot.symm
    | awayFromZero => rw [roundQuotient, stepAway_eq, if_neg hneg.not_gt]
    | towardNegInfinity => rw [roundQuotient, if_pos hneg, stepAway_eq, if_neg hneg.not_gt]
    | towardPosInfinity =>
      rw [roundQuotient, if_neg hneg.not_gt]
      exact hquot.symm
    | halfAwayFromZero =>
      rw [roundQuotient_half hd, stepAway_eq, if_neg hneg.not_gt]
      simp only [div_lt_half_iff hd]
      split_ifs <;> first | exact hquot.symm | rfl | omega
  · have hq : 0 ≤ c.tdiv d := Int.tdiv_nonneg hpos.le hd.le
    have hrpos : 0 < c.tmod d := lt_of_le_of_ne (Int.tmod_nonneg d hpos.le) (Ne.symm hr)
    rw [hv, mode.round_add_of_pos hq (div_pos (Int.cast_pos.mpr hrpos) hd')
      ((div_lt_one hd').mpr (Int.cast_lt.mpr (Int.tmod_lt_of_pos c hd)))]
    cases mode with
    | exactOnly => exact absurd rfl hmode
    | towardZero => exact hquot.symm
    | awayFromZero => rw [roundQuotient, stepAway_eq, if_pos hpos]
    | towardNegInfinity =>
      rw [roundQuotient, if_neg hpos.not_gt]
      exact hquot.symm
    | towardPosInfinity => rw [roundQuotient, if_pos hpos, stepAway_eq, if_pos hpos]
    | halfAwayFromZero =>
      rw [roundQuotient_half hd, stepAway_eq, if_pos hpos]
      simp only [div_lt_half_iff hd]
      split_ifs <;> first | exact hquot.symm | rfl | omega

/-- The powers of ten that fit are those up to the thirty-eighth. -/
lemma fitsI128_pow_iff {d : Nat} : FitsI128 (10 ^ d) ↔ d ≤ 38 := by
  have hpos : (0 : Int) < 10 ^ d := by positivity
  constructor
  · intro hfits
    by_contra hfar
    have hle : (10 : Int) ^ 39 ≤ 10 ^ d := pow_le_pow_right₀ (by decide) (Nat.lt_of_not_le hfar)
    have hbig : i128Max < (10 : Int) ^ 39 := by decide
    exact absurd hfits.2 (hbig.trans_le hle).not_ge
  · intro h
    have hle : (10 : Int) ^ d ≤ 10 ^ 38 := pow_le_pow_right₀ (by decide) h
    have hends : i128Min ≤ 0 ∧ (10 : Int) ^ 38 ≤ i128Max := by decide
    exact ⟨hends.1.trans hpos.le, hle.trans hends.2⟩

lemma pow10I128_eq_ok_iff {d : Nat} {p : Int} : pow10I128 d = .ok p ↔ p = 10 ^ d ∧ d ≤ 38 := by
  rw [← fitsI128_pow_iff]
  exact checked_eq_ok_iff

/-- A number that fits is smaller than the powers of ten that do not. -/
lemma natAbs_lt_pow (hc : FitsI128 c) {d : Nat} (h : 38 < d) : c.natAbs < 10 ^ d := by
  have hle : 10 ^ 39 ≤ 10 ^ d := Nat.pow_le_pow_right (by decide) h
  have hbig : -i128Min < 10 ^ 39 ∧ i128Max < 10 ^ 39 := by decide
  obtain ⟨hlo, hhi⟩ := hc
  have hsmall : c.natAbs < 10 ^ 39 := by omega
  exact hsmall.trans_le hle

/-- The condition under which `rescale` keeps to its mode: the scales are close enough for the power
of ten to fit, or the answer is an error anyway. -/
def WithinReach (x : Fixed) (n : Nat) (mode : RoundingMode) : Prop :=
  (n ≤ x.scale + 38 ∧ x.scale ≤ n + 38) ∨ (x.coefficient ≠ 0 ∧ (x.scale < n ∨ mode = .exactOnly))

/-- The result a mode asks for: the rounded coefficient, if it fits and, for `ExactOnly`, if nothing
was rounded. -/
def RoundsTo (x : Fixed) (n : Nat) (mode : RoundingMode) (y : Fixed) : Prop :=
  y = ⟨mode.round (x.scaledTo n), n⟩ ∧ FitsI128 (mode.round (x.scaledTo n)) ∧
    (mode = .exactOnly → (mode.round (x.scaledTo n) : ℚ) = x.scaledTo n)

variable {y : Fixed}

/-- When the scaled coefficient is an integer, all modes agree. -/
lemma roundsTo_of_int (h : x.scaledTo n = z) : x.RoundsTo n mode y ↔ y = ⟨z, n⟩ ∧ FitsI128 z := by
  rw [RoundsTo, h, mode.round_intCast, and_iff_left fun _ => rfl]

lemma rescale_finer_eq (hlt : x.scale < n) (mode : RoundingMode) :
    x.rescale n mode = (do
      let factor ← pow10I128 (n - x.scale)
      let c ← checked (x.coefficient * factor)
      Except.ok ⟨c, n⟩) := by
  rw [rescale, if_neg hlt.ne', if_pos hlt]
  congr 1
  funext factor
  unfold checked
  rcases checkedI128 (x.coefficient * factor) with _ | c <;> rfl

/-- **A finer scale** multiplies, and overflows exactly when the product does. -/
theorem rescale_finer (hlt : x.scale < n) (hreach : x.WithinReach n mode) :
    x.rescale n mode = .ok y ↔ x.RoundsTo n mode y := by
  have hclose (hfits : FitsI128 (x.coefficient * 10 ^ (n - x.scale))) : n - x.scale ≤ 38 := by
    rcases hreach with hclose | ⟨hne, -⟩
    · omega
    · -- The product is at least the power of ten.
      by_contra hfar
      have hlarge : 10 ^ (n - x.scale) ≤ (x.coefficient * 10 ^ (n - x.scale)).natAbs := by
        rw [Int.natAbs_mul, Int.natAbs_pow]
        exact Nat.le_mul_of_pos_left _ (Int.natAbs_pos.mpr hne)
      exact absurd (natAbs_lt_pow hfits (Nat.lt_of_not_le hfar)) hlarge.not_gt
  rw [roundsTo_of_int (scaledTo_of_le hlt.le), rescale_finer_eq hlt, bind_eq_ok]
  constructor
  · rintro ⟨factor, hfactor, h⟩
    obtain ⟨rfl, -⟩ := pow10I128_eq_ok_iff.mp hfactor
    obtain ⟨c, hc, h⟩ := bind_eq_ok.mp h
    obtain ⟨rfl, hfits⟩ := checked_eq_ok_iff.mp hc
    exact ⟨(Except.ok.inj h).symm, hfits⟩
  · rintro ⟨rfl, hfits⟩
    refine ⟨_, pow10I128_eq_ok_iff.mpr ⟨rfl, hclose hfits⟩, ?_⟩
    rw [checked_of_fits hfits]
    rfl

/-- An integer quotient leaves no remainder. -/
lemma tmod_eq_zero_of_int (hd : 0 < d) (h : (c : ℚ) / d = z) : c.tmod d = 0 := by
  have hmul : c = z * d := by
    rw [div_eq_iff (Int.cast_pos.mpr hd).ne'] at h
    exact_mod_cast h
  rw [hmul]
  exact Int.mul_tmod_left z d

/-- Dividing by more than any `i128`, the number is below one on either side of zero. -/
lemma not_int_of_far (hc : FitsI128 c) (hne : c ≠ 0) {d : Nat} (hd : 38 < d) (z : Int) :
    (c : ℚ) / ((10 ^ d : Int) : ℚ) ≠ z := by
  intro h
  have hrem := tmod_eq_zero_of_int (by positivity) h
  -- The remainder is the number itself.
  have habs := congrArg Int.natAbs hrem
  rw [Int.natAbs_tmod, Int.natAbs_pow] at habs
  have hmod : c.natAbs % 10 ^ d = 0 := habs
  rw [Nat.mod_eq_of_lt (natAbs_lt_pow hc hd)] at hmod
  exact hne (Int.natAbs_eq_zero.mp hmod)

/-- **A coarser scale** divides and rounds. -/
theorem rescale_coarser (hgt : n < x.scale) (hx : FitsI128 x.coefficient)
    (hreach : x.WithinReach n mode) : x.rescale n mode = .ok y ↔ x.RoundsTo n mode y := by
  have hd : (0 : Int) < 10 ^ (x.scale - n) := by positivity
  have hscaled := scaledTo_of_ge hgt.le
  rw [rescale, if_neg hgt.ne, if_neg hgt.not_gt, bind_eq_ok]
  by_cases hfar : 38 < x.scale - n
  · -- Only `ExactOnly` is left, on a value that is not exact.
    obtain ⟨hne, rfl⟩ : x.coefficient ≠ 0 ∧ mode = .exactOnly := by
      rcases hreach with hclose | ⟨hne, hlt | hmode⟩
      · omega
      · omega
      · exact ⟨hne, hmode⟩
    constructor
    · rintro ⟨divisor, hdivisor, -⟩
      exact absurd (pow10I128_eq_ok_iff.mp hdivisor).2 hfar.not_ge
    · rintro ⟨-, -, hexact⟩
      exact absurd (hscaled.symm.trans (hexact rfl).symm) (not_int_of_far hx hne hfar _)
  · have hpow : pow10I128 (x.scale - n) = .ok (10 ^ (x.scale - n)) :=
      pow10I128_eq_ok_iff.mpr ⟨rfl, Nat.le_of_not_lt hfar⟩
    simp only [hpow, Except.ok.injEq, exists_eq_left']
    by_cases hr : x.coefficient.tmod (10 ^ (x.scale - n)) = 0
    · -- Nothing is left over: every mode answers the quotient.
      have hint : x.scaledTo n = (x.coefficient.tdiv (10 ^ (x.scale - n)) : ℚ) := by
        rw [hscaled, div_eq_tdiv_add hd, hr, Int.cast_zero, zero_div, add_zero]
      rw [if_pos hr, roundsTo_of_int hint, and_iff_left (hx.tdiv hd), Except.ok.injEq, eq_comm]
    · rw [if_neg hr, bind_eq_ok, RoundsTo, hscaled]
      by_cases hmode : mode = .exactOnly
      · constructor
        · rintro ⟨c, hc, -⟩
          rw [hmode] at hc
          cases hc
        · rintro ⟨-, -, hexact⟩
          exact absurd (tmod_eq_zero_of_int hd (hexact hmode).symm) hr
      · rw [roundQuotient_eq hd hr hx hmode]
        simp only [checked_eq_ok_iff]
        constructor
        · rintro ⟨c, ⟨rfl, hfits⟩, h⟩
          exact ⟨(Except.ok.inj h).symm, hfits, fun h => absurd h hmode⟩
        · rintro ⟨rfl, hfits, -⟩
          exact ⟨_, ⟨rfl, hfits⟩, rfl⟩

/-- Within reach `rescale` does what the mode asks for. -/
lemma rescale_of_withinReach (hx : FitsI128 x.coefficient) (hreach : x.WithinReach n mode) :
    x.rescale n mode = .ok y ↔ x.RoundsTo n mode y := by
  rcases lt_trichotomy x.scale n with hlt | heq | hgt
  · exact rescale_finer hlt hreach
  · have hint : x.scaledTo n = (x.coefficient : ℚ) := by
      rw [scaledTo_of_le heq.le, heq, Nat.sub_self, pow_zero, mul_one]
    rw [roundsTo_of_int hint, rescale, if_pos heq.symm, and_iff_left hx, Except.ok.injEq, ← heq, eq_comm]
  · exact rescale_coarser hgt hx hreach

/-- A number below one, on either side of zero, is rounded to `-1`, `0` or `1`. -/
lemma fitsI128_round_of_small {v : ℚ} (hv : |v| < 1) : FitsI128 (mode.round v) := by
  have hends : FitsI128 (-1) ∧ FitsI128 0 ∧ FitsI128 1 := by decide
  rcases lt_trichotomy v 0 with hneg | rfl | hpos
  · have hround := mode.round_sub_of_pos le_rfl (neg_pos.mpr hneg) (abs_of_neg hneg ▸ hv)
    rw [Int.cast_zero, zero_sub, neg_neg] at hround
    rw [hround]
    cases mode <;> dsimp only <;> (try split_ifs) <;> first | exact hends.1 | exact hends.2.1
  · rw [← Int.cast_zero, mode.round_intCast]
    exact hends.2.1
  · have hround := mode.round_add_of_pos le_rfl hpos (abs_of_pos hpos ▸ hv)
    rw [Int.cast_zero, zero_add] at hround
    rw [hround]
    cases mode <;> dsimp only <;> (try split_ifs) <;> first | exact hends.2.1 | exact hends.2.2

/-- **Out of reach** the power of ten overflows, although the mode asks for a coefficient that fits. -/
theorem rescale_out_of_reach (hx : FitsI128 x.coefficient) (hreach : ¬ x.WithinReach n mode) :
    (∀ y, x.rescale n mode ≠ .ok y) ∧ ∃ y, x.RoundsTo n mode y := by
  obtain ⟨hfar, hzero⟩ := not_or.mp hreach
  have hpow {d : Nat} (hd : 38 < d) (p : Int) : pow10I128 d ≠ .ok p := fun h =>
    absurd (pow10I128_eq_ok_iff.mp h).2 hd.not_ge
  have hnone (hc : x.coefficient = 0) : ∃ y, x.RoundsTo n mode y :=
    ⟨_, (roundsTo_of_int (z := 0) (by rw [scaledTo, hc, Int.cast_zero, zero_mul])).mpr ⟨rfl, by decide⟩⟩
  rcases lt_or_ge x.scale n with hlt | hge
  · constructor
    · intro y h
      rw [rescale_finer_eq hlt] at h
      obtain ⟨p, hp, -⟩ := bind_eq_ok.mp h
      exact hpow (by omega) p hp
    · exact hnone (by_contra fun hc => hzero ⟨hc, .inl hlt⟩)
  · constructor
    · intro y h
      rw [rescale, if_neg (by omega), if_neg hge.not_gt] at h
      obtain ⟨p, hp, -⟩ := bind_eq_ok.mp h
      exact hpow (by omega) p hp
    · by_cases hc : x.coefficient = 0
      · exact hnone hc
      · have hmode : mode ≠ .exactOnly := fun h => hzero ⟨hc, .inr h⟩
        have hsmall : |x.scaledTo n| < 1 := by
          have hlt := natAbs_lt_pow hx (d := x.scale - n) (by omega)
          have hpos : (0 : ℚ) < ((10 ^ (x.scale - n) : Int) : ℚ) := by positivity
          rw [scaledTo_of_ge hge, abs_div, abs_of_pos hpos, div_lt_one hpos, ← Int.cast_abs, Int.cast_lt,
            Int.abs_eq_natAbs]
          exact_mod_cast hlt
        exact ⟨_, rfl, fitsI128_round_of_small hsmall, fun h => absurd h hmode⟩

/-- **When rescaling rounds as its mode says.** For a coefficient that is an `i128`, `rescale` answers
exactly when the rounded coefficient fits in an `i128` and, for `ExactOnly`, nothing was rounded, with
the rounded coefficient as the answer, if and only if the scales are at most 38 apart, or the value is
not zero and is either asked for at a finer scale or without rounding. -/
theorem rescale_eq_ok_iff {x : Fixed} {n : Nat} {mode : RoundingMode} (hx : FitsI128 x.coefficient) :
    (∀ y, x.rescale n mode = .ok y ↔ x.RoundsTo n mode y) ↔ x.WithinReach n mode := by
  refine ⟨fun h => ?_, fun hreach y => rescale_of_withinReach hx hreach⟩
  by_contra hreach
  obtain ⟨hfails, y, hy⟩ := rescale_out_of_reach hx hreach
  exact hfails y ((h y).mpr hy)

/-- A tie is rounded away from zero, over thirty-eight digits. -/
theorem rescale_eq_ok_iff_tie :
    (⟨-25 * 10 ^ 36, 38⟩ : Fixed).rescale 1 .halfAwayFromZero = .ok ⟨-3, 1⟩ ∧
      (⟨-25 * 10 ^ 36, 38⟩ : Fixed).RoundsTo 1 .halfAwayFromZero ⟨-3, 1⟩ ∧
    ¬ ∀ y, (⟨1, 39⟩ : Fixed).rescale 0 .towardZero = .ok y ↔ (⟨1, 39⟩ : Fixed).RoundsTo 0 .towardZero y := by
  have hok : (⟨-25 * 10 ^ 36, 38⟩ : Fixed).rescale 1 .halfAwayFromZero = .ok ⟨-3, 1⟩ := by decide
  refine ⟨hok, ((rescale_eq_ok_iff (by decide)).mpr (.inl (by decide)) _).mp hok, fun h => ?_⟩
  rcases (rescale_eq_ok_iff (by decide)).mp h with ⟨-, hclose⟩ | ⟨-, hlt | hmode⟩
  · exact absurd hclose (by decide)
  · exact absurd hlt (by decide)
  · cases hmode

/-- **Too far apart.** Zero at a scale 39 away, and the smallest step of scale 39 rounded toward zero:
the rounded coefficient is zero and fits, but the power of ten in between does not. -/
theorem rescale_far_fails :
    ((⟨0, 0⟩ : Fixed).rescale 39 .exactOnly = .error .overflow ∧
      (⟨0, 0⟩ : Fixed).RoundsTo 39 .exactOnly ⟨0, 39⟩) ∧
    (⟨1, 39⟩ : Fixed).rescale 0 .towardZero = .error .overflow ∧
      (⟨1, 39⟩ : Fixed).RoundsTo 0 .towardZero ⟨0, 0⟩ := by
  have hzero : (⟨0, 0⟩ : Fixed).scaledTo 39 = ((0 : Int) : ℚ) := by simp [scaledTo]
  have hsmall : RoundingMode.towardZero.round ((⟨1, 39⟩ : Fixed).scaledTo 0) = 0 := by
    rw [scaledTo_of_ge (by decide), RoundingMode.round, if_pos (by positivity), Int.floor_eq_iff]
    norm_num
  refine ⟨⟨by decide, (roundsTo_of_int hzero).mpr ⟨rfl, by decide⟩⟩, by decide, ?_⟩
  rw [RoundsTo, hsmall]
  exact ⟨rfl, by decide, fun h => by cases h⟩

/-- **A finer scale loses nothing**: rescaling back, in any mode, gives the number again. -/
theorem rescale_back (x : Fixed) (k : Nat) (mode mode' : RoundingMode) :
    (x.rescale (x.scale + k) mode >>= (·.rescale x.scale mode')) =
      (x.rescale (x.scale + k) mode >>= fun _ => .ok x) := by
  rcases h : x.rescale (x.scale + k) mode with e | y
  · rfl
  show y.rescale x.scale mode' = .ok x
  rcases k.eq_zero_or_pos with rfl | hk
  · cases (if_pos rfl).symm.trans h
    exact if_pos rfl
  · rw [rescale_finer_eq (Nat.lt_add_of_pos_right hk), Nat.add_sub_cancel_left] at h
    obtain ⟨factor, hfactor, h⟩ := bind_eq_ok.mp h
    obtain ⟨c, hc, ⟨⟩⟩ := bind_eq_ok.mp h
    obtain ⟨rfl, -⟩ := checked_eq_ok_iff.mp hc
    obtain ⟨rfl, -⟩ := pow10I128_eq_ok_iff.mp hfactor
    -- The division by the same power of ten leaves no remainder.
    rw [rescale, if_neg (by simp; omega), if_neg (by simp), Nat.add_sub_cancel_left, hfactor]
    exact (if_pos (Int.mul_tmod_left _ _)).trans (by rw [Int.mul_tdiv_cancel _ (by positivity)])

end Fixed

end Marketfeed
