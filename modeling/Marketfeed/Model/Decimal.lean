import Marketfeed.Lib.Digits
import Marketfeed.Lib.Octets
import Marketfeed.Model.Rescale

/-!
# Reading decimals

Model of `Fixed::parse_decimal` and `Fixed::parse_str`. Where the source indexes, slices, subtracts
or unwraps, the model can end in `Halt.panicked`, so that the absence of panics is a theorem.
-/

namespace Marketfeed

/-- How a call can end without an answer. -/
inductive Halt
  | panicked
  | failed (e : FixedError)
deriving DecidableEq

/-! ## Operations that panic -/

/-- Source: `bytes[i]` -/
def byteAt (bytes : List UInt8) (i : Nat) : Except Halt UInt8 :=
  match bytes[i]? with
  | some b => .ok b
  | none => .error .panicked

/-- Source: `&bytes[i..]` -/
def sliceFrom (bytes : List UInt8) (i : Nat) : Except Halt (List UInt8) :=
  if i ≤ bytes.length then .ok (bytes.drop i) else .error .panicked

/-- Source: `&bytes[..i]` -/
def sliceTo (bytes : List UInt8) (i : Nat) : Except Halt (List UInt8) :=
  if i ≤ bytes.length then .ok (bytes.take i) else .error .panicked

/-- Source: `d - b'0'` -/
def digitOf (d : UInt8) : Except Halt Int :=
  if 0x30 ≤ d.toNat then .ok (d.toNat - 0x30) else .error .panicked

section slices

variable {bytes before : List UInt8} {i : Nat}

lemma sliceFrom_of_le (h : i ≤ bytes.length) : sliceFrom bytes i = .ok (bytes.drop i) := if_pos h

lemma sliceTo_of_le (h : i ≤ bytes.length) : sliceTo bytes i = .ok (bytes.take i) := if_pos h

/-- A text is cut at the first octet of a kind. -/
lemma cut_at_first {p : UInt8 → Bool} {mark : UInt8} (hbefore : ∀ b ∈ before, p b = false)
    (hmark : p mark) (after : List UInt8) :
    (before ++ mark :: after).findIdx? p = some before.length ∧
      sliceTo (before ++ mark :: after) before.length = .ok before ∧
      sliceFrom (before ++ mark :: after) (before.length + 1) = .ok after := by
  refine ⟨?_, ?_, ?_⟩
  · rw [List.findIdx?_append, List.findIdx?_eq_none_iff.mpr hbefore, List.findIdx?_cons, hmark]
    simp
  · rw [sliceTo_of_le (by simp), List.take_left]
  · rw [sliceFrom_of_le (by simp), List.drop_append]
    simp

end slices

lemma digitOf_digitOctet (d : Fin 10) : digitOf (digitOctet d) = .ok (d : Int) := by
  rw [digitOf, toNat_digitOctet, if_pos (Nat.le_add_right _ _)]
  push_cast
  rw [add_sub_cancel_left]

/-! ## The parsers -/

namespace Fixed

/-- An optional sign at the front; true for a minus.
Source: `match bytes[0]` in `parse_decimal`, `match exponent_bytes[0]` in `parse_str` -/
def splitSign (bytes : List UInt8) : Except Halt (Bool × List UInt8) := do
  let first ← byteAt bytes 0
  if first = 0x2D then
    let rest ← sliceFrom bytes 1
    .ok (true, rest)
  else if first = 0x2B then
    let rest ← sliceFrom bytes 1
    .ok (false, rest)
  else .ok (false, bytes)

/-- The digits before and after the first dot.
Source: `rest.iter().position(|&b| b == b'.')` in `parse_decimal` -/
def splitDot (rest : List UInt8) : Except Halt (List UInt8 × List UInt8) :=
  match rest.findIdx? (· == 0x2E) with
  | none => .ok (rest, [])
  | some dot => do
    let intDigits ← sliceTo rest dot
    let fracDigits ← sliceFrom rest (dot + 1)
    if intDigits = [] ∧ fracDigits = [] then .error (.failed .invalidSyntax)
    else if 0x2E ∈ fracDigits then .error (.failed .invalidSyntax)
    else .ok (intDigits, fracDigits)

/-- `position` with `unwrap_or(len)` is `List.findIdx`. -/
def trimLeadingZeros (digits : List UInt8) : Except Halt (List UInt8) :=
  let firstNonzero := digits.findIdx (· != 0x30)
  if firstNonzero = digits.length then sliceFrom digits (digits.length - 1)
  else sliceFrom digits firstNonzero

/-- Source: `u32::checked_mul`, `u32::checked_add` -/
def checkedU32 (x : Int) : Option Int := if 0 ≤ x ∧ x < 2 ^ 32 then some x else none

/-- Source: `ok_or` -/
def checkedOr (e : FixedError) : Option Int → Except Halt Int
  | some c => .ok c
  | none => .error (.failed e)

/-- The loops over digits, with the integer type's checked arithmetic as a parameter.
Source: the `for` loops of `parse_decimal` and `parse_str` -/
def accumulate (checked : Int → Option Int) : Int → List UInt8 → Except Halt Int
  | value, [] => .ok value
  | value, d :: ds => do
    let digit ← digitOf d
    let value ← checkedOr .overflow ((checked (value * 10)).bind fun c => checked (c + digit))
    accumulate checked value ds

/-- Source: `if neg` in `parse_decimal` -/
def applySign (neg : Bool) (coeff : Int) : Except Halt Int :=
  if neg then checkedOr .overflow (checkedI128 (-coeff)) else .ok coeff

/-- What is made of the digits.
Source: `parse_decimal`, from the check that all are digits -/
def parseDigits (neg : Bool) (intDigits fracDigits : List UInt8) : Except Halt Fixed :=
  if ¬ intDigits.all isAsciiDigit ∨ ¬ fracDigits.all isAsciiDigit then .error (.failed .invalidSyntax)
  else do
    let intDigits ← trimLeadingZeros intDigits
    if fracDigits.length > 255 then .error (.failed .scaleOverflow)
    else
      let coeff ← accumulate checkedI128 0 (intDigits ++ fracDigits)
      let coeff ← applySign neg coeff
      .ok ⟨coeff, fracDigits.length⟩

def parseDecimal (bytes : List UInt8) : Except Halt Fixed :=
  if bytes = [] then .error (.failed .empty)
  else do
    let (neg, rest) ← splitSign bytes
    if rest = [] then .error (.failed .invalidSyntax)
    else
      let (intDigits, fracDigits) ← splitDot rest
      parseDigits neg (if intDigits = [] then [0x30] else intDigits) fracDigits

/-- Source: `matches!(b, b'e' | b'E')` -/
def isExponentMark (b : UInt8) : Bool := b == 0x65 || b == 0x45

/-- A mantissa with its exponent.
Source: `parse_str`, from the check for a zero mantissa -/
def applyExponent (mantissa : Fixed) (negativeExponent : Bool) (exponent : Int) :
    Except Halt Fixed :=
  if mantissa.coefficient = 0 then .ok ⟨0, 0⟩
  else if negativeExponent then
    if exponent > 255 then .error (.failed .scaleOverflow)
    else if mantissa.scale + exponent > 255 then .error (.failed .scaleOverflow)
    else .ok ⟨mantissa.coefficient, mantissa.scale + exponent.toNat⟩
  else if exponent ≤ mantissa.scale then
    -- `u8::try_from(scale - exponent).expect(..)`
    if mantissa.scale - exponent.toNat ≤ 255 then
      .ok ⟨mantissa.coefficient, mantissa.scale - exponent.toNat⟩
    else .error .panicked
  else do
    let factor ← (pow10I128 (exponent.toNat - mantissa.scale)).mapError .failed
    let coefficient ← checkedOr .overflow (checkedI128 (mantissa.coefficient * factor))
    .ok ⟨coefficient, 0⟩

/-- The exponent of a decimal in scientific notation, with its sign.
Source: `parse_str`, from the check that there are exponent bytes to the loop -/
def parseExponent (exponentBytes : List UInt8) : Except Halt (Bool × Int) :=
  if exponentBytes = [] then .error (.failed .invalidSyntax)
  else do
    let (negativeExponent, digits) ← splitSign exponentBytes
    if digits = [] ∨ ¬ digits.all isAsciiDigit then .error (.failed .invalidSyntax)
    else
      let exponent ← accumulate checkedU32 0 digits
      .ok (negativeExponent, exponent)

/-- `parse_str` on the octets of its text. -/
def parseOctets (s : List UInt8) : Except Halt Fixed :=
  match s.findIdx? isExponentMark with
  | none => parseDecimal s
  | some exponentAt => do
    let after ← sliceFrom s (exponentAt + 1)
    if after.any isExponentMark then .error (.failed .invalidSyntax)
    else
      let before ← sliceTo s exponentAt
      let mantissa ← parseDecimal before
      let (negativeExponent, exponent) ← parseExponent after
      applyExponent mantissa negativeExponent exponent

def parseStr (s : String) : Except Halt Fixed := parseOctets (utf8 s)

end Fixed

/-! ## Decimals as they are written -/

/-- The sign in front of a number. -/
inductive Sign
  | none
  | plus
  | minus
deriving DecidableEq

namespace Sign

/-- How a sign is written. -/
def octets : Sign → List UInt8
  | none => []
  | plus => [0x2B]
  | minus => [0x2D]

/-- Whether a sign turns the number around. -/
def negative : Sign → Bool
  | minus => true
  | none | plus => false

/-- The factor a sign stands for. -/
def factor (sign : Sign) : Int := if sign.negative then -1 else 1

end Sign

/-- **A decimal as it is written**: an optional sign, digits, and after a dot, if there is one, more
digits; at least one digit in all. -/
structure Numeral where
  sign : Sign
  whole : List (Fin 10)
  fraction : Option (List (Fin 10))
  digits_ne : whole ++ fraction.getD [] ≠ []

namespace Numeral

variable (num : Numeral)

/-- The digits after the dot. -/
def places : List (Fin 10) := num.fraction.getD []

/-- A dot and the digits after it, or nothing. -/
def dotted : Option (List (Fin 10)) → List UInt8
  | none => []
  | some fraction => 0x2E :: digitOctets fraction

/-- The octets of a decimal without its sign. -/
def unsigned : List UInt8 := digitOctets num.whole ++ dotted num.fraction

/-- The octets of a decimal. -/
def octets : List UInt8 := num.sign.octets ++ num.unsigned

/-- The digits read as one number, without the dot. -/
def magnitude : Nat := digitsValue (num.whole ++ num.places)

/-- **The number written.** -/
def value : ℚ :=
  num.sign.factor *
    (digitsValue num.whole + digitsValue num.places / 10 ^ num.places.length)

/-- The decimal that stands for the number written. -/
def fixed : Fixed := ⟨num.sign.factor * num.magnitude, num.places.length⟩

lemma toRat_fixed : num.fixed.toRat = num.value := by
  have hpow : (10 : ℚ) ^ num.places.length ≠ 0 := by positivity
  rw [Fixed.toRat, fixed, magnitude, digitsValue_append, value]
  push_cast
  field_simp

/-- A decimal is known by its scale and its value. -/
lemma eq_fixed_iff {num : Numeral} {y : Fixed} :
    y = num.fixed ↔ y.scale = num.places.length ∧ y.toRat = num.value := by
  constructor
  · rintro rfl
    exact ⟨rfl, num.toRat_fixed⟩
  · rintro ⟨hscale, hvalue⟩
    have hpow : (10 : ℚ) ^ y.scale ≠ 0 := by positivity
    rw [← num.toRat_fixed, Fixed.toRat, Fixed.toRat, fixed, ← hscale, div_left_inj' hpow] at hvalue
    rcases y with ⟨coefficient, scale⟩
    rw [Fixed.mk.injEq]
    exact ⟨by exact_mod_cast hvalue, hscale⟩

lemma unsigned_ne_nil : num.unsigned ≠ [] := by
  have hne := num.digits_ne
  intro hnil
  obtain ⟨hwhole, hdotted⟩ := List.append_eq_nil_iff.mp hnil
  rcases hfraction : num.fraction with _ | fraction
  · rw [hfraction, digitOctets_eq_nil.mp hwhole] at hne
    exact hne rfl
  · rw [hfraction] at hdotted
    cases hdotted

/-- Everything but the sign is a digit or a dot. -/
lemma of_mem_unsigned {num : Numeral} {b : UInt8} (h : b ∈ num.unsigned) :
    isAsciiDigit b ∨ b = 0x2E := by
  rcases List.mem_append.mp h with h | h
  · exact .inl (List.all_eq_true.mp (all_isAsciiDigit_digitOctets _) b h)
  · rcases hfraction : num.fraction with _ | fraction
    · rw [hfraction] at h
      cases h
    · rw [hfraction] at h
      rcases List.mem_cons.mp h with h | h
      · exact .inr h
      · exact .inl (List.all_eq_true.mp (all_isAsciiDigit_digitOctets _) b h)

end Numeral

namespace Fixed

/-! ## What the parser makes of a written decimal -/

/-- The sign is split off, whatever follows it other than a sign. -/
lemma splitSign_octets (sign : Sign) {rest : List UInt8} (hne : rest ≠ [])
    (hhead : ∀ b ∈ rest, b ≠ 0x2D ∧ b ≠ 0x2B) :
    splitSign (sign.octets ++ rest) = .ok (sign.negative, rest) := by
  obtain ⟨b, tail, rfl⟩ := List.exists_cons_of_ne_nil hne
  obtain ⟨hminus, hplus⟩ := hhead b List.mem_cons_self
  cases sign with
  | none =>
    show (if b = 0x2D then _ else if b = 0x2B then _ else _) = _
    rw [if_neg hminus, if_neg hplus]
    rfl
  | plus | minus => rfl

lemma beq_dot_of_not_mem {rest : List UInt8} (h : 0x2E ∉ rest) : ∀ b ∈ rest, (b == 0x2E) = false :=
  fun _ hb => beq_eq_false_iff_ne.mpr fun hdot => h (hdot ▸ hb)

/-- Without a dot all digits are before it. -/
lemma splitDot_plain {rest : List UInt8} (h : 0x2E ∉ rest) : splitDot rest = .ok (rest, []) := by
  rw [splitDot, List.findIdx?_eq_none_iff.mpr (beq_dot_of_not_mem h)]

/-- The digits are split at the first dot. -/
lemma splitDot_dotted {before : List UInt8} (h : 0x2E ∉ before) (after : List UInt8) :
    splitDot (before ++ 0x2E :: after) =
      if before = [] ∧ after = [] then .error (.failed .invalidSyntax)
      else if 0x2E ∈ after then .error (.failed .invalidSyntax)
      else .ok (before, after) := by
  obtain ⟨hidx, hto, hfrom⟩ := cut_at_first (beq_dot_of_not_mem h) (beq_self_eq_true 0x2E) after
  rw [splitDot, hidx]
  simp only [hto, hfrom]
  rfl

variable (num : Numeral)

lemma splitDot_unsigned :
    splitDot num.unsigned = .ok (digitOctets num.whole, digitOctets num.places) := by
  have hdot (ds : List (Fin 10)) : 0x2E ∉ digitOctets ds := not_mem_digitOctets (by decide) ds
  have hne := num.digits_ne
  rw [Numeral.unsigned, Numeral.places]
  rcases hfraction : num.fraction with _ | fraction
  · rw [Numeral.dotted, List.append_nil]
    exact splitDot_plain (hdot _)
  · have hboth : ¬ (digitOctets num.whole = [] ∧ digitOctets fraction = []) := by
      rw [← List.append_eq_nil_iff, ← digitOctets_append, digitOctets_eq_nil]
      rwa [hfraction] at hne
    rw [Numeral.dotted, splitDot_dotted (hdot _), if_neg hboth, if_neg (hdot _)]
    rfl

/-- Leading zeros are dropped, and nothing else. -/
lemma trimLeadingZeros_digitOctets (ds : List (Fin 10)) :
    ∃ k, trimLeadingZeros (digitOctets ds) = .ok (digitOctets (ds.drop k)) ∧
      ∀ d ∈ ds.take k, d = 0 := by
  have hzeros (k : Nat) (hk : k ≤ (digitOctets ds).findIdx (· != 0x30)) : ∀ d ∈ ds.take k, d = 0 := by
    intro d hd
    obtain ⟨i, hi, rfl⟩ := List.mem_iff_getElem.mp hd
    rw [List.length_take] at hi
    have hlt : i < ds.length := by omega
    have hnot := List.not_of_lt_findIdx (by omega : i < (digitOctets ds).findIdx (· != 0x30))
    have hoctet : digitOctet ds[i] = digitOctet 0 := by
      rw [bne_eq_false_iff_eq] at hnot
      exact (List.getElem_map digitOctet).symm.trans hnot
    rw [List.getElem_take]
    exact digitOctet_inj.mp hoctet
  have hlen : (digitOctets ds).findIdx (· != 0x30) ≤ (digitOctets ds).length := List.findIdx_le_length
  rw [trimLeadingZeros]
  split_ifs with hall
  · -- All zeros: one of them stays.
    refine ⟨ds.length - 1, ?_, hzeros _ (by rw [hall, length_digitOctets]; omega)⟩
    rw [sliceFrom_of_le (Nat.sub_le _ _), digitOctets_drop, length_digitOctets]
  · refine ⟨_, ?_, hzeros _ (Nat.le_refl _)⟩
    rw [sliceFrom_of_le hlen, digitOctets_drop]

/-- **The loop over digits** ends with the number they stand for, behind what was read before, or
fails because that number is too large. By induction on the digits: a number that is too large does
not get smaller. -/
theorem accumulate_digitOctets {checked : Int → Option Int} {limit : Int}
    (hchecked : ∀ z, 0 ≤ z → checked z = if z ≤ limit then some z else none) (ds : List (Fin 10))
    {value : Int} (h0 : 0 ≤ value) (hle : value ≤ limit) :
    accumulate checked value (digitOctets ds) =
      if value * 10 ^ ds.length + digitsValue ds ≤ limit then
        .ok (value * 10 ^ ds.length + digitsValue ds)
      else .error (.failed .overflow) := by
  induction ds generalizing value with
  | nil =>
    simp only [List.length_nil, pow_zero, mul_one, digitsValue_nil, Nat.cast_zero, add_zero]
    rw [if_pos hle]
    rfl
  | cons d ds ih =>
    have hd : (0 : Int) ≤ d := Int.natCast_nonneg _
    have htotal : value * 10 ^ (d :: ds).length + digitsValue (d :: ds) =
        (value * 10 + d) * 10 ^ ds.length + digitsValue ds := by
      rw [digitsValue_cons, List.length_cons, pow_succ]
      push_cast
      ring
    have hgrows : value * 10 + d ≤ (value * 10 + d) * 10 ^ ds.length + digitsValue ds := by
      have hpow : (1 : Int) ≤ 10 ^ ds.length := one_le_pow₀ (by decide)
      have hmul := le_mul_of_one_le_right (by omega : 0 ≤ value * 10 + d) hpow
      have hrest : (0 : Int) ≤ digitsValue ds := Int.natCast_nonneg _
      omega
    have hstep : ((checked (value * 10)).bind fun c => checked (c + d)) =
        if value * 10 + d ≤ limit then some (value * 10 + d) else none := by
      rw [hchecked _ (by omega)]
      split_ifs with hten hsum hsum
      · exact (hchecked _ (by omega)).trans (if_pos hsum)
      · exact (hchecked _ (by omega)).trans (if_neg hsum)
      · omega
      · rfl
    rw [htotal]
    show (digitOf (digitOctet d) >>= fun digit => _) = _
    rw [digitOf_digitOctet]
    show (checkedOr .overflow ((checked (value * 10)).bind fun c => checked (c + d)) >>=
      fun value => accumulate checked value (digitOctets ds)) = _
    rw [hstep]
    by_cases hsum : value * 10 + d ≤ limit
    · rw [if_pos hsum]
      exact ih (by omega) hsum
    · rw [if_neg hsum, if_neg (by omega)]
      rfl

/-- The digits of a written decimal, with a zero for a missing whole part. -/
lemma digits_of_whole :
    ∃ ds, (if digitOctets num.whole = [] then [0x30] else digitOctets num.whole) = digitOctets ds ∧
      digitsValue (ds ++ num.places) = num.magnitude := by
  split_ifs with hnil
  · refine ⟨[0], rfl, ?_⟩
    rw [Numeral.magnitude, digitOctets_eq_nil.mp hnil]
    have hzero : ∀ d ∈ (0 :: num.places).take 1, d = 0 := by simp
    exact (digitsValue_drop hzero).symm
  · exact ⟨num.whole, rfl, rfl⟩

lemma checkedI128_of_nonneg {z : Int} (h : 0 ≤ z) :
    checkedI128 z = if z ≤ i128Max then some z else none := by
  have hmin : i128Min ≤ z := le_trans (by decide) h
  simp only [checkedI128, hmin, true_and]

lemma checkedU32_of_nonneg {z : Int} (h : 0 ≤ z) :
    checkedU32 z = if z ≤ 2 ^ 32 - 1 then some z else none := by
  have hiff : z < 2 ^ 32 ↔ z ≤ 2 ^ 32 - 1 := by omega
  simp only [checkedU32, h, true_and, hiff]

/-- The sign is put back. -/
lemma applySign_negative (sign : Sign) {m : Nat} (h : (m : Int) ≤ i128Max) :
    applySign sign.negative m = .ok (sign.factor * m) := by
  have hneg : FitsI128 (-m) := by
    have hmin : i128Min = -i128Max - 1 := by decide
    have hmax : 0 ≤ i128Max := by decide
    constructor <;> omega
  rw [applySign, Sign.factor]
  split_ifs
  · rw [checkedI128_of_fits hneg, neg_one_mul]
    rfl
  · rw [one_mul]

/-- **A written decimal is read** as the number it is, within the bounds of the scale and the
coefficient. -/
theorem parseDecimal_octets :
    parseDecimal num.octets =
      if 255 < num.places.length then .error (.failed .scaleOverflow)
      else if num.magnitude ≤ i128Max then .ok num.fixed
      else .error (.failed .overflow) := by
  have hhead : ∀ b ∈ num.unsigned, b ≠ 0x2D ∧ b ≠ 0x2B := by
    intro b hb
    rcases Numeral.of_mem_unsigned hb with hdigit | rfl
    · constructor <;> rintro rfl <;> exact absurd hdigit (by decide)
    · decide
  have hne : num.octets ≠ [] := fun h => num.unsigned_ne_nil (List.append_eq_nil_iff.mp h).2
  obtain ⟨ds, hwhole, hvalue⟩ := digits_of_whole num
  obtain ⟨k, htrim, hzeros⟩ := trimLeadingZeros_digitOctets ds
  have hsum : digitsValue (ds.drop k ++ num.places) = num.magnitude := by
    rw [digitsValue_append, digitsValue_drop hzeros, ← digitsValue_append, hvalue]
  have hloop := accumulate_digitOctets (fun _ => checkedI128_of_nonneg) (ds.drop k ++ num.places)
    (le_refl 0) (by decide : (0 : Int) ≤ i128Max)
  rw [zero_mul, zero_add, hsum, digitOctets_append] at hloop
  rw [parseDecimal, if_neg hne, Numeral.octets, splitSign_octets _ num.unsigned_ne_nil hhead]
  show (if num.unsigned = [] then _ else splitDot num.unsigned >>= fun _ => _) = _
  rw [if_neg num.unsigned_ne_nil, splitDot_unsigned]
  show parseDigits _ (if digitOctets num.whole = [] then _ else _) _ = _
  rw [hwhole, parseDigits, if_neg (by simp [all_isAsciiDigit_digitOctets]), htrim]
  show (if (digitOctets num.places).length > 255 then _ else
    (accumulate checkedI128 0 _ >>= fun coeff => applySign num.sign.negative coeff >>= fun _ => _)) = _
  rw [length_digitOctets, hloop]
  split_ifs with hplaces hfits
  · rfl
  · show (applySign num.sign.negative num.magnitude >>= fun _ => _) = _
    rw [applySign_negative num.sign hfits]
    rfl
  · rfl

/-! ## Nothing else is read, and nothing panics -/

/-- Some sign can always be split off what is not empty. -/
lemma splitSign_cases {bytes : List UInt8} (hne : bytes ≠ []) :
    ∃ (sign : Sign) (rest : List UInt8),
      bytes = sign.octets ++ rest ∧ splitSign bytes = .ok (sign.negative, rest) := by
  obtain ⟨b, tail, rfl⟩ := List.exists_cons_of_ne_nil hne
  by_cases hminus : b = 0x2D
  · exact ⟨.minus, tail, hminus ▸ rfl, hminus ▸ rfl⟩
  · by_cases hplus : b = 0x2B
    · exact ⟨.plus, tail, hplus ▸ rfl, hplus ▸ rfl⟩
    · refine ⟨.none, b :: tail, rfl, ?_⟩
      show (if b = 0x2D then _ else if b = 0x2B then _ else _) = _
      rw [if_neg hminus, if_neg hplus]
      rfl

/-- What is split at a dot: all of it before the dot, or both parts with something in them. -/
lemma splitDot_cases (rest : List UInt8) :
    splitDot rest = .ok (rest, []) ∨
      (∃ intDigits fracDigits, rest = intDigits ++ 0x2E :: fracDigits ∧
        intDigits ++ fracDigits ≠ [] ∧ splitDot rest = .ok (intDigits, fracDigits)) ∨
      splitDot rest = .error (.failed .invalidSyntax) := by
  by_cases hdot : 0x2E ∈ rest
  · obtain ⟨before, after, rfl, hbefore⟩ := List.eq_append_cons_of_mem hdot
    rw [splitDot_dotted hbefore]
    split_ifs with hboth hmore
    · exact .inr (.inr rfl)
    · exact .inr (.inr rfl)
    · exact .inr (.inl ⟨_, _, rfl, fun hnil => hboth (List.append_eq_nil_iff.mp hnil), rfl⟩)
  · exact .inl (splitDot_plain hdot)

/-- **Either a decimal is written there, or the parser fails**, without a panic. -/
theorem parseDecimal_cases (bytes : List UInt8) :
    (∃ num : Numeral, bytes = num.octets) ∨ ∃ e, parseDecimal bytes = .error (.failed e) := by
  by_cases hempty : bytes = []
  · exact .inr ⟨_, if_pos hempty⟩
  obtain ⟨sign, rest, rfl, hsign⟩ := splitSign_cases hempty
  have hread : parseDecimal (sign.octets ++ rest) =
      if rest = [] then .error (.failed .invalidSyntax)
      else splitDot rest >>= fun parts =>
        parseDigits sign.negative (if parts.1 = [] then [0x30] else parts.1) parts.2 := by
    rw [parseDecimal, if_neg hempty, hsign]
    rfl
  rw [hread]
  by_cases hrest : rest = []
  · exact .inr ⟨_, if_pos hrest⟩
  rw [if_neg hrest]
  -- Digits before and after a dot are those of a numeral, if they are digits.
  have hdigits (intDigits fracDigits : List UInt8)
      (h : ¬ ∃ ds es, intDigits = digitOctets ds ∧ fracDigits = digitOctets es) :
      ∃ e, parseDigits sign.negative (if intDigits = [] then [0x30] else intDigits) fracDigits =
        .error (.failed e) := by
    refine ⟨.invalidSyntax, if_pos ?_⟩
    by_contra hall
    obtain ⟨hint, hfrac⟩ := not_or.mp hall
    obtain ⟨es, hes⟩ := exists_digits (not_not.mp hfrac)
    split_ifs at hint with hnil
    · exact h ⟨[], es, hnil, hes⟩
    · obtain ⟨ds, hds⟩ := exists_digits (not_not.mp hint)
      exact h ⟨ds, es, hds, hes⟩
  rcases splitDot_cases rest with hdot | ⟨intDigits, fracDigits, rfl, hparts, hdot⟩ | hdot
  · rw [hdot]
    by_cases hds : ∃ ds es, rest = digitOctets ds ∧ [] = digitOctets es
    · obtain ⟨ds, -, rfl, -⟩ := hds
      refine .inl ⟨⟨sign, ds, none, fun hnil => hrest ?_⟩, ?_⟩
      · rw [Option.getD_none, List.append_nil] at hnil
        rw [hnil, digitOctets_nil]
      · exact congrArg (sign.octets ++ ·) (List.append_nil _).symm
    · exact .inr (hdigits rest [] hds)
  · rw [hdot]
    by_cases hds : ∃ ds es, intDigits = digitOctets ds ∧ fracDigits = digitOctets es
    · obtain ⟨ds, es, rfl, rfl⟩ := hds
      refine .inl ⟨⟨sign, ds, some es, fun hnil => hparts ?_⟩, rfl⟩
      rw [← digitOctets_append, digitOctets_eq_nil]
      exact hnil
    · exact .inr (hdigits intDigits fracDigits hds)
  · rw [hdot]
    exact .inr ⟨_, rfl⟩

/-- The answer to what is written, and only to that. -/
lemma parseDecimal_eq_ok_iff {bytes : List UInt8} {y : Fixed} :
    parseDecimal bytes = .ok y ↔ ∃ num : Numeral, num.octets = bytes ∧ num.places.length ≤ 255 ∧
      num.magnitude ≤ i128Max ∧ y = num.fixed := by
  constructor
  · intro h
    rcases parseDecimal_cases bytes with ⟨num, rfl⟩ | ⟨e, he⟩
    · rw [parseDecimal_octets] at h
      split_ifs at h with hplaces hfits
      exact ⟨num, rfl, Nat.le_of_not_lt hplaces, hfits, (Except.ok.inj h).symm⟩
    · cases he.symm.trans h
  · rintro ⟨num, rfl, hplaces, hfits, rfl⟩
    rw [parseDecimal_octets, if_neg hplaces.not_gt, if_pos hfits]

lemma parseDecimal_ne_panicked (bytes : List UInt8) : parseDecimal bytes ≠ .error .panicked := by
  intro h
  rcases parseDecimal_cases bytes with ⟨num, rfl⟩ | ⟨e, he⟩
  · rw [parseDecimal_octets] at h
    split_ifs at h <;> cases h
  · cases he.symm.trans h

end Fixed

/-! ## Scientific notation -/

/-- An exponent as it is written: a mark, an optional sign and digits. -/
structure Exponent where
  capital : Bool
  sign : Sign
  digits : List (Fin 10)
  digits_ne : digits ≠ []

namespace Exponent

variable (x : Exponent)

/-- The letter in front of an exponent. -/
def mark : UInt8 := if x.capital then 0x45 else 0x65

/-- The octets after the mark. -/
def unmarked : List UInt8 := x.sign.octets ++ digitOctets x.digits

/-- The octets of an exponent. -/
def octets : List UInt8 := x.mark :: x.unmarked

/-- The exponent written. -/
def value : Int := x.sign.factor * digitsValue x.digits

lemma isExponentMark_mark : Fixed.isExponentMark x.mark := by
  unfold mark
  split_ifs <;> rfl

end Exponent

/-- **A decimal in scientific notation**: a mantissa and possibly an exponent. -/
structure Scientific where
  mantissa : Numeral
  exponent : Option Exponent

namespace Scientific

/-- The octets of a decimal with its exponent. -/
def octets (w : Scientific) : List UInt8 := w.mantissa.octets ++ w.exponent.elim [] Exponent.octets

/-- **The number written**: mantissa times ten to the exponent. -/
def value (w : Scientific) : ℚ := w.mantissa.value * 10 ^ w.exponent.elim 0 Exponent.value

end Scientific

namespace Fixed

variable {b : UInt8}

lemma isExponentMark_sign {sign : Sign} (h : b ∈ sign.octets) : isExponentMark b = false := by
  cases sign with
  | none => cases h
  | plus | minus =>
    rw [List.mem_singleton.mp h]
    rfl

lemma isExponentMark_digit (h : isAsciiDigit b) : isExponentMark b = false := by
  rw [isExponentMark, Bool.or_eq_false_iff, beq_eq_false_iff_ne, beq_eq_false_iff_ne]
  constructor <;> rintro rfl <;> exact absurd h (by decide)

/-- No octet of a plain decimal is the mark of an exponent. -/
lemma isExponentMark_numeral {num : Numeral} (h : b ∈ num.octets) : isExponentMark b = false := by
  rcases List.mem_append.mp h with h | h
  · exact isExponentMark_sign h
  · rcases Numeral.of_mem_unsigned h with h | rfl
    · exact isExponentMark_digit h
    · rfl

lemma isExponentMark_unmarked {x : Exponent} (h : b ∈ x.unmarked) : isExponentMark b = false := by
  rcases List.mem_append.mp h with h | h
  · exact isExponentMark_sign h
  · exact isExponentMark_digit (List.all_eq_true.mp (all_isAsciiDigit_digitOctets _) b h)

/-- **A written exponent is read** if it fits in a `u32`. -/
theorem parseExponent_unmarked (x : Exponent) :
    parseExponent x.unmarked =
      if (digitsValue x.digits : Int) ≤ 2 ^ 32 - 1 then .ok (x.sign.negative, digitsValue x.digits)
      else .error (.failed .overflow) := by
  have hdigits : digitOctets x.digits ≠ [] := fun h => x.digits_ne (digitOctets_eq_nil.mp h)
  have hne : x.unmarked ≠ [] := fun h => hdigits (List.append_eq_nil_iff.mp h).2
  have hhead : ∀ b ∈ digitOctets x.digits, b ≠ 0x2D ∧ b ≠ 0x2B := by
    intro b hb
    have hdigit := List.all_eq_true.mp (all_isAsciiDigit_digitOctets _) b hb
    constructor <;> rintro rfl <;> exact absurd hdigit (by decide)
  have hloop := accumulate_digitOctets (fun _ => checkedU32_of_nonneg) x.digits (le_refl 0)
    (by decide)
  rw [zero_mul, zero_add] at hloop
  rw [parseExponent, if_neg hne, Exponent.unmarked, splitSign_octets _ hdigits hhead]
  show (if digitOctets x.digits = [] ∨ _ then _ else accumulate checkedU32 0 _ >>= fun _ => _) = _
  rw [if_neg (by simp [hdigits, all_isAsciiDigit_digitOctets]), hloop]
  split_ifs <;> rfl

/-- Either an exponent is written there, or the parser fails. -/
lemma parseExponent_cases (capital : Bool) (bytes : List UInt8) :
    (∃ x : Exponent, x.capital = capital ∧ bytes = x.unmarked) ∨
      ∃ e, parseExponent bytes = .error (.failed e) := by
  by_cases hempty : bytes = []
  · exact .inr ⟨_, if_pos hempty⟩
  obtain ⟨sign, rest, rfl, hsign⟩ := splitSign_cases hempty
  by_cases hbad : rest = [] ∨ ¬ rest.all isAsciiDigit
  · refine .inr ⟨.invalidSyntax, ?_⟩
    rw [parseExponent, if_neg hempty, hsign]
    exact if_pos hbad
  · obtain ⟨hne, hall⟩ := not_or.mp hbad
    obtain ⟨ds, rfl⟩ := exists_digits (not_not.mp hall)
    exact .inl ⟨⟨capital, sign, ds, fun h => hne (by rw [h, digitOctets_nil])⟩, rfl, rfl⟩

lemma checkedOr_eq_ok_iff {e : FixedError} {x : Option Int} {c : Int} :
    checkedOr e x = .ok c ↔ x = some c := by
  cases x <;> simp [checkedOr]

variable {mantissa y : Fixed}

/-- What an exponent does to a mantissa other than zero: it moves the dot, or multiplies. -/
lemma applyExponent_ok {neg : Bool} {exponent : Nat} (hne : mantissa.coefficient ≠ 0)
    (h : applyExponent mantissa neg exponent = .ok y) :
    (neg = true ∧ y = ⟨mantissa.coefficient, mantissa.scale + exponent⟩) ∨
      (neg = false ∧ exponent ≤ mantissa.scale ∧
        y = ⟨mantissa.coefficient, mantissa.scale - exponent⟩) ∨
      (neg = false ∧ mantissa.scale < exponent ∧
        y = ⟨mantissa.coefficient * 10 ^ (exponent - mantissa.scale), 0⟩) := by
  rw [applyExponent, if_neg hne, Int.toNat_natCast] at h
  split_ifs at h with hneg hlarge hsum hle hfits
  · exact .inl ⟨hneg, (Except.ok.inj h).symm⟩
  · exact .inr (.inl ⟨Bool.not_eq_true _ ▸ hneg, by omega, (Except.ok.inj h).symm⟩)
  · obtain ⟨factor, hfactor, h⟩ := bind_eq_ok.mp h
    obtain ⟨c, hc, h⟩ := bind_eq_ok.mp h
    have hpow : pow10I128 (exponent - mantissa.scale) = .ok factor := by
      revert hfactor
      cases pow10I128 (exponent - mantissa.scale) <;> simp [Except.mapError]
    obtain ⟨rfl, -⟩ := pow10I128_eq_ok_iff.mp hpow
    obtain ⟨-, rfl⟩ := checkedI128_eq_some.mp (checkedOr_eq_ok_iff.mp hc)
    exact .inr (.inr ⟨Bool.not_eq_true _ ▸ hneg, by omega, (Except.ok.inj h).symm⟩)

/-- **An exponent multiplies by a power of ten**, whatever way it is done. -/
theorem toRat_applyExponent {sign : Sign} {exponent : Nat}
    (h : applyExponent mantissa sign.negative exponent = .ok y) :
    y.toRat = mantissa.toRat * 10 ^ (sign.factor * exponent) := by
  have h10 : (10 : ℚ) ≠ 0 := by norm_num
  by_cases hzero : mantissa.coefficient = 0
  · rw [applyExponent, if_pos hzero] at h
    cases h
    rw [toRat_eq_zero.mpr hzero, zero_mul]
    exact toRat_eq_zero.mpr rfl
  · rcases applyExponent_ok hzero h with ⟨hneg, rfl⟩ | ⟨hneg, hle, rfl⟩ | ⟨hneg, hlt, rfl⟩
    · rw [Sign.factor, hneg, if_pos rfl, neg_one_mul, zpow_neg, zpow_natCast, toRat, toRat, pow_add]
      field_simp
    · obtain ⟨k, hk⟩ := Nat.exists_eq_add_of_le hle
      rw [Sign.factor, hneg, if_neg Bool.false_ne_true, one_mul, zpow_natCast, toRat, toRat, hk,
        Nat.add_sub_cancel_left, pow_add]
      field_simp
    · obtain ⟨k, hk⟩ := Nat.exists_eq_add_of_le hlt.le
      rw [Sign.factor, hneg, if_neg Bool.false_ne_true, one_mul, zpow_natCast, toRat, toRat, hk,
        Nat.add_sub_cancel_left, pow_add, pow_zero]
      push_cast
      field_simp

lemma applyExponent_ne_panicked (h : mantissa.scale ≤ 255) (neg : Bool) (exponent : Int) :
    applyExponent mantissa neg exponent ≠ .error .panicked := by
  unfold applyExponent
  split_ifs with hzero hneg hlarge hsum hle hfits
  · rintro ⟨⟩
  · rintro ⟨⟩
  · rintro ⟨⟩
  · rintro ⟨⟩
  · rintro ⟨⟩
  · omega
  · rcases pow10I128 (exponent.toNat - mantissa.scale) with e | factor
    · rintro ⟨⟩
    · show (checkedOr .overflow (checkedI128 (mantissa.coefficient * factor)) >>= fun _ => _) ≠ _
      rcases checkedI128 (mantissa.coefficient * factor) with _ | c <;> rintro ⟨⟩

/-! ## Texts -/

/-- A text without an exponent. -/
lemma parseOctets_numeral (num : Numeral) : parseOctets num.octets = parseDecimal num.octets := by
  have hnone : num.octets.findIdx? isExponentMark = none :=
    List.findIdx?_eq_none_iff.mpr fun _ => isExponentMark_numeral
  rw [parseOctets, hnone]

/-- A text that is split at the mark of an exponent. -/
lemma parseOctets_marked {before after : List UInt8} {mark : UInt8}
    (hbefore : ∀ b ∈ before, isExponentMark b = false) (hmark : isExponentMark mark) :
    parseOctets (before ++ mark :: after) =
      if after.any isExponentMark then .error (.failed .invalidSyntax)
      else parseDecimal before >>= fun mantissa => parseExponent after >>= fun exponent =>
        applyExponent mantissa exponent.1 exponent.2 := by
  obtain ⟨hidx, hto, hfrom⟩ := cut_at_first hbefore hmark after
  rw [parseOctets, hidx]
  simp only [hto, hfrom]
  rfl

/-- What is read of a text in scientific notation. -/
lemma parseOctets_scientific (mantissa : Numeral) (x : Exponent) :
    parseOctets (Scientific.mk mantissa (some x)).octets =
      parseDecimal mantissa.octets >>= fun m => parseExponent x.unmarked >>= fun exponent =>
        applyExponent m exponent.1 exponent.2 := by
  have hafter : ¬ x.unmarked.any isExponentMark := by
    simpa using fun _ => isExponentMark_unmarked
  exact (parseOctets_marked (fun _ => isExponentMark_numeral) x.isExponentMark_mark).trans
    (if_neg hafter)

/-- The mark that was found is the mark of the exponent. -/
lemma mark_eq (hmark : isExponentMark b) {x : Exponent} (hcapital : x.capital = (b == 0x45)) :
    x.mark = b := by
  rw [Exponent.mark, hcapital]
  rcases Bool.or_eq_true_iff.mp hmark with h | h
  · rw [beq_iff_eq.mp h]
    rfl
  · rw [beq_iff_eq.mp h]
    rfl

/-- **Either a decimal is written there, with or without an exponent, or the parser fails.** -/
theorem parseOctets_cases (s : List UInt8) :
    (∃ w : Scientific, s = w.octets) ∨ ∃ e, parseOctets s = .error (.failed e) := by
  rcases hmark : s.find? isExponentMark with _ | mark
  · -- No mark: a plain decimal.
    have hnone : s.findIdx? isExponentMark = none := by simpa using hmark
    rcases parseDecimal_cases s with ⟨num, rfl⟩ | ⟨e, he⟩
    · exact .inl ⟨⟨num, none⟩, (List.append_nil _).symm⟩
    · exact .inr ⟨e, by rw [parseOctets, hnone]; exact he⟩
  · obtain ⟨hat, before, after, rfl, hbefore⟩ := List.find?_eq_some_iff_append.mp hmark
    rw [parseOctets_marked (by simpa using hbefore) hat]
    split_ifs
    · exact .inr ⟨_, rfl⟩
    rcases parseDecimal_cases before with ⟨num, rfl⟩ | ⟨e, he⟩
    · rcases parseExponent_cases (mark == 0x45) after with ⟨x, hcapital, rfl⟩ | ⟨e, he⟩
      · refine .inl ⟨⟨num, some x⟩, ?_⟩
        exact congrArg (fun mark => num.octets ++ mark :: x.unmarked) (mark_eq hat hcapital).symm
      · rw [he]
        rcases hdecimal : parseDecimal num.octets with (_ | e') | m
        · exact absurd hdecimal (parseDecimal_ne_panicked _)
        · exact .inr ⟨e', rfl⟩
        · exact .inr ⟨e, rfl⟩
    · rw [he]
      exact .inr ⟨e, rfl⟩

lemma parseOctets_ne_panicked (s : List UInt8) : parseOctets s ≠ .error .panicked := by
  rcases parseOctets_cases s with ⟨⟨mantissa, exponent⟩, rfl⟩ | ⟨e, he⟩
  · rcases exponent with _ | x
    · have hplain : (Scientific.mk mantissa none).octets = mantissa.octets := List.append_nil _
      rw [hplain, parseOctets_numeral]
      exact parseDecimal_ne_panicked _
    · rw [parseOctets_scientific, parseExponent_unmarked]
      rcases hdecimal : parseDecimal mantissa.octets with (_ | e) | m
      · exact absurd hdecimal (parseDecimal_ne_panicked _)
      · rintro ⟨⟩
      · obtain ⟨num, -, hplaces, -, rfl⟩ := parseDecimal_eq_ok_iff.mp hdecimal
        split_ifs
        · exact applyExponent_ne_panicked hplaces _ _
        · rintro ⟨⟩
  · rw [he]
    rintro ⟨⟩

/-- The answer to a decimal that is written down is the number written. -/
lemma toRat_parseDecimal {num : Numeral} (h : parseDecimal num.octets = .ok y) :
    y.toRat = num.value := by
  rw [parseDecimal_octets] at h
  split_ifs at h
  cases h
  exact num.toRat_fixed

lemma toRat_parseOctets {w : Scientific} (h : parseOctets w.octets = .ok y) :
    y.toRat = w.value := by
  rcases w with ⟨mantissa, _ | x⟩
  · have hplain : (Scientific.mk mantissa none).octets = mantissa.octets := List.append_nil _
    rw [hplain, parseOctets_numeral] at h
    rw [toRat_parseDecimal h, Scientific.value, Option.elim_none, zpow_zero, mul_one]
  · rw [parseOctets_scientific] at h
    obtain ⟨m, hm, h⟩ := bind_eq_ok.mp h
    obtain ⟨exponent, hexponent, h⟩ := bind_eq_ok.mp h
    rw [parseExponent_unmarked] at hexponent
    split_ifs at hexponent
    cases hexponent
    rw [toRat_applyExponent h, toRat_parseDecimal hm]
    rfl

/-- **Parsing is exact.** `parse_decimal` answers exactly the octets of the form: optional sign,
digits with at most one dot and at least one digit, at most 255 digits after the dot, and a digit
value not above `i128::MAX`. The scale of the answer is the number of digits after the dot, and its
value is the decimal written. What `parse_str` answers has a mantissa and an exponent, and is the
mantissa times ten to the exponent. Neither panics, on any input. -/
theorem parse_exact :
    (∀ bytes y, parseDecimal bytes = .ok y ↔ ∃ num : Numeral, num.octets = bytes ∧
      num.places.length ≤ 255 ∧ num.magnitude ≤ i128Max ∧
      y.scale = num.places.length ∧ y.toRat = num.value) ∧
    (∀ s y, parseStr s = .ok y → (∃ w : Scientific, w.octets = utf8 s) ∧
      ∀ w : Scientific, w.octets = utf8 s → y.toRat = w.value) ∧
    (∀ bytes, parseDecimal bytes ≠ .error .panicked) ∧ ∀ s, parseStr s ≠ .error .panicked := by
  refine ⟨fun bytes y => ?_, fun s y h => ⟨?_, fun w hw => ?_⟩, parseDecimal_ne_panicked,
    fun s => parseOctets_ne_panicked _⟩
  · simp only [← Numeral.eq_fixed_iff]
    exact parseDecimal_eq_ok_iff
  · rcases parseOctets_cases (utf8 s) with ⟨w, hw⟩ | ⟨e, he⟩
    · exact ⟨w, hw.symm⟩
    · rw [parseStr, he] at h
      cases h
  · rw [parseStr, ← hw] at h
    exact toRat_parseOctets h

/-- `-0.50` is written so, and `9.74e-6` is read as what it says. -/
theorem parse_exact_example :
    (∃ num : Numeral, num.octets = utf8 "-0.50" ∧ num.places.length ≤ 255 ∧
      num.magnitude ≤ i128Max ∧ (⟨-50, 2⟩ : Fixed).scale = num.places.length ∧
      (⟨-50, 2⟩ : Fixed).toRat = num.value) ∧
    ∃ w : Scientific, w.octets = utf8 "9.74e-6" ∧ (⟨974, 8⟩ : Fixed).toRat = w.value := by
  obtain ⟨hdecimal, hstr, -⟩ := parse_exact
  obtain ⟨⟨w, hw⟩, hvalue⟩ := hstr "9.74e-6" ⟨974, 8⟩ (by decide)
  exact ⟨(hdecimal _ _).mp (by decide), w, hw, hvalue w hw⟩

example : parseStr "1.2.3" = .error (.failed .invalidSyntax) := by decide

end Fixed

end Marketfeed
