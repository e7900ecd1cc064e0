import Mathlib.Tactic.FieldSimp
import Mathlib.Tactic.Positivity
import Mathlib.Tactic.Ring

/-!
# Exact fixed-point decimals

Model of `crates/model/src/fixed.rs`: a decimal is an `i128` coefficient and a `u8` scale, with
value `coefficient * 10^(-scale)`. Coefficients are integers and every checked operation of the
source compares its result with the `i128` range.

Not modelled: the lossy float conversion. The two parsers are in `Model.Decimal`.
-/

namespace Marketfeed

/-- Lower end of the `i128` range. -/
def i128Min : Int := -(2 ^ 127)

/-- Upper end of the `i128` range. -/
def i128Max : Int := 2 ^ 127 - 1

/-- Result of a checked `i128` operation.
Source: `i128::checked_add`, `checked_sub`, `checked_mul`, `checked_pow` -/
def checkedI128 (x : Int) : Option Int := if i128Min ≤ x ∧ x ≤ i128Max then some x else none

/-- A checked operation answers the exact result, where it fits. -/
lemma checkedI128_eq_some {x y : Int} :
    checkedI128 x = some y ↔ (i128Min ≤ x ∧ x ≤ i128Max) ∧ y = x := by
  rw [checkedI128, Option.ite_none_right_eq_some, Option.some.injEq, eq_comm]

/-- `usize::MAX` on the 64-bit targets. -/
def usizeMax : Nat := 2 ^ 64 - 1

/-- Canonical exact decimal. -/
structure Fixed where
  coefficient : Int
  scale : Nat
deriving DecidableEq

structure Price where
  fixed : Fixed
deriving DecidableEq

structure Quantity where
  fixed : Fixed
deriving DecidableEq

structure Rate where
  fixed : Fixed
deriving DecidableEq

inductive RoundingMode
  | exactOnly
  | towardZero
  | awayFromZero
  | towardNegInfinity
  | towardPosInfinity
  | halfAwayFromZero
deriving DecidableEq

inductive FixedError
  | empty
  | invalidSyntax
  | overflow
  | inexactRescale
  | scaleOverflow
deriving DecidableEq

def pow10I128 (exp : Nat) : Except FixedError Int :=
  match checkedI128 (10 ^ exp) with
  | some p => .ok p
  | none => .error .overflow

lemma eq_of_pow10I128 {exp : Nat} {p : Int} (h : pow10I128 exp = .ok p) : p = 10 ^ exp := by
  unfold pow10I128 at h
  cases hc : checkedI128 (10 ^ exp) with
  | none => simp [hc] at h
  | some q =>
    simp only [hc, Except.ok.injEq] at h
    rw [← h, (checkedI128_eq_some.mp hc).2]

namespace Fixed

/-- The rational number a decimal stands for. -/
def toRat (x : Fixed) : ℚ := x.coefficient / 10 ^ x.scale

/-- Step a truncated quotient away from zero on the side of the coefficient. -/
def stepAway (coefficient q : Int) : Except FixedError Int :=
  match checkedI128 (if 0 < coefficient then q + 1 else q - 1) with
  | some c => .ok c
  | none => .error .overflow

/-- Rounding of a quotient `q` with non-zero remainder `r` by `divisor`.
Source: the `match mode` of `Fixed::rescale` -/
def roundQuotient (coefficient q r divisor : Int) : RoundingMode → Except FixedError Int
  | .exactOnly => .error .inexactRescale
  | .towardZero => .ok q
  | .awayFromZero => stepAway coefficient q
  | .towardNegInfinity => if coefficient < 0 then stepAway coefficient q else .ok q
  | .towardPosInfinity => if 0 < coefficient then stepAway coefficient q else .ok q
  | .halfAwayFromZero =>
    let half := divisor.tdiv 2
    let absR := r.natAbs
    if absR * 2 < divisor.natAbs then .ok q
    else if absR > half.natAbs ∨ absR * 2 = divisor.natAbs then stepAway coefficient q
    else .ok q

/-- **Rescale with an explicit rounding mode.** -/
def rescale (x : Fixed) (newScale : Nat) (mode : RoundingMode) : Except FixedError Fixed :=
  if newScale = x.scale then .ok x
  else if newScale > x.scale then do
    let factor ← pow10I128 (newScale - x.scale)
    match checkedI128 (x.coefficient * factor) with
    | some c => .ok ⟨c, newScale⟩
    | none => .error .overflow
  else do
    let divisor ← pow10I128 (x.scale - newScale)
    let q := x.coefficient.tdiv divisor
    let r := x.coefficient.tmod divisor
    if r = 0 then .ok ⟨q, newScale⟩
    else do
      let c ← roundQuotient x.coefficient q r divisor mode
      .ok ⟨c, newScale⟩

/-- Two decimals at one scale are ordered as their coefficients. -/
lemma toRat_lt_toRat {a b : Int} {s : Nat} :
    (⟨a, s⟩ : Fixed).toRat < (⟨b, s⟩ : Fixed).toRat ↔ a < b := by
  have h10 : (0 : ℚ) < 10 ^ s := by positivity
  simp only [toRat]
  rw [div_lt_div_iff_of_pos_right h10, Int.cast_lt]

variable {x : Fixed}

lemma toRat_pos : 0 < x.toRat ↔ 0 < x.coefficient := by
  have h10 : (0 : ℚ) < 10 ^ x.scale := by positivity
  simp only [toRat]
  rw [lt_div_iff₀ h10, zero_mul, Int.cast_pos]

lemma toRat_eq_zero : x.toRat = 0 ↔ x.coefficient = 0 := by
  have h10 : (10 : ℚ) ^ x.scale ≠ 0 := by positivity
  simp [toRat, h10]

variable {y : Fixed} {n : Nat}

/-- **What `ExactOnly` returns**: the decimal itself at its own scale, a multiple by a power of ten at
a finer one, and an exact quotient at a coarser one. -/
theorem rescale_exactOnly_cases (h : x.rescale n .exactOnly = .ok y) :
    n = x.scale ∧ y = x ∨
      (∃ k, n = k + x.scale ∧ y = ⟨x.coefficient * 10 ^ k, n⟩ ∧ i128Min ≤ y.coefficient ∧
        y.coefficient ≤ i128Max) ∨
      ∃ k, x.scale = k + n ∧ y = ⟨x.coefficient.tdiv (10 ^ k), n⟩ ∧
        x.coefficient.tmod (10 ^ k) = 0 := by
  unfold rescale at h
  split_ifs at h with heq hgt
  · cases h
    exact .inl ⟨heq, rfl⟩
  · cases hp : pow10I128 (n - x.scale) with
    | error e => simp [hp, bind, Except.bind] at h
    | ok p =>
      cases hc : checkedI128 (x.coefficient * p) with
      | none => simp [hp, hc, bind, Except.bind] at h
      | some c =>
        simp only [hp, hc, bind, Except.bind, Except.ok.injEq] at h
        subst h
        obtain ⟨hfits, rfl⟩ := checkedI128_eq_some.mp hc
        exact .inr (.inl ⟨n - x.scale, by omega, by rw [eq_of_pow10I128 hp], hfits⟩)
  · cases hp : pow10I128 (x.scale - n) with
    | error e => simp [hp, bind, Except.bind] at h
    | ok p =>
      simp only [hp, bind, Except.bind, roundQuotient] at h
      split_ifs at h with hr
      cases h
      rw [eq_of_pow10I128 hp] at hr ⊢
      exact .inr (.inr ⟨x.scale - n, by omega, rfl, hr⟩)

/-- **Exact rescaling keeps the value.** What `ExactOnly` returns has the requested scale and
stands for the same rational number. -/
theorem toRat_rescale_exactOnly (h : x.rescale n .exactOnly = .ok y) :
    y.scale = n ∧ y.toRat = x.toRat := by
  rcases rescale_exactOnly_cases h with ⟨rfl, rfl⟩ | ⟨k, rfl, rfl, -⟩ | ⟨k, hk, rfl, hr⟩
  · exact ⟨rfl, rfl⟩
  · refine ⟨rfl, ?_⟩
    simp only [toRat]
    push_cast
    rw [pow_add]
    field_simp
  · refine ⟨rfl, ?_⟩
    have hx : x.coefficient = x.coefficient.tdiv (10 ^ k) * 10 ^ k := by
      rw [mul_comm, ← add_zero (_ * _), ← hr, Int.mul_tdiv_add_tmod]
    have hx' : (x.coefficient : ℚ) = x.coefficient.tdiv (10 ^ k) * 10 ^ k := by exact_mod_cast hx
    simp only [toRat]
    rw [hx', hk, pow_add]
    field_simp

/-- An exact rescale of a positive decimal is positive. -/
lemma coefficient_pos_of_rescale (h : x.rescale n .exactOnly = .ok y) :
    0 < y.coefficient ↔ 0 < x.coefficient := by
  rw [← toRat_pos, ← toRat_pos, (toRat_rescale_exactOnly h).2]

/-- A rescaled machine integer is one. -/
lemma coefficient_le_of_rescale (h : x.rescale n .exactOnly = .ok y) (hpos : 0 < x.coefficient)
    (hle : x.coefficient ≤ i128Max) : y.coefficient ≤ i128Max := by
  rcases rescale_exactOnly_cases h with ⟨-, rfl⟩ | ⟨k, -, -, -, hfits⟩ | ⟨k, -, rfl, -⟩
  · exact hle
  · exact hfits
  · exact (Int.tdiv_le_self _ hpos.le).trans hle

/-- The coefficient is a machine integer other than the least one. -/
def Fits (x : Fixed) : Prop := i128Min < x.coefficient ∧ x.coefficient ≤ i128Max

instance (x : Fixed) : Decidable x.Fits := inferInstanceAs (Decidable (_ ∧ _))

/-- An exact rescale does not lead to the least machine integer: it is no multiple of ten. -/
lemma Fits.rescale (hx : x.Fits) (h : x.rescale n .exactOnly = .ok y) : y.Fits := by
  rcases rescale_exactOnly_cases h with ⟨rfl, rfl⟩ | ⟨k, rfl, rfl, hfits⟩ | ⟨k, hk, rfl, -⟩
  · exact hx
  · rcases Nat.eq_zero_or_pos k with rfl | hpos
    · simpa using hx
    · refine ⟨lt_of_le_of_ne hfits.1 fun heq => ?_, hfits.2⟩
      have hdvd : (10 : Int) ∣ i128Min := heq ▸ Dvd.dvd.mul_left (dvd_pow_self 10 hpos.ne') _
      exact absurd hdvd (by decide)
  · have hle : (x.coefficient.tdiv (10 ^ k)).natAbs ≤ x.coefficient.natAbs := by
      rw [Int.natAbs_tdiv]
      exact Nat.div_le_self _ _
    have hbounds : i128Min = -i128Max - 1 := by decide
    obtain ⟨hlo, hhi⟩ := hx
    constructor <;> dsimp only <;> omega

example : (⟨12345, 2⟩ : Fixed).rescale 4 .exactOnly = .ok ⟨1234500, 4⟩ := by decide
example : (⟨12345, 2⟩ : Fixed).rescale 1 .exactOnly = .error .inexactRescale := by decide
example : (⟨-12345, 2⟩ : Fixed).rescale 1 .halfAwayFromZero = .ok ⟨-1235, 1⟩ := by decide

end Fixed

end Marketfeed
