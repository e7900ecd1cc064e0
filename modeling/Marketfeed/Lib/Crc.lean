import Mathlib.Data.List.Basic
import Mathlib.Data.List.GetD
import Mathlib.Logic.Function.Iterate

/-!
# Reflected cyclic redundancy checks

The remainder of a bit string by a polynomial over the field of two elements, kept in a register of
`w` bits that is shifted to the right: bit `0` of the register is what leaves it next. The polynomial
`P` is given reflected and without its leading term, so its top bit stands for the constant one.

* Feeding bits is linear (`feedAll_xor`): two messages of one length leave remainders that differ by
  the remainder of their difference.
* Up to `w` bits can be fed at once, as a word (`feedAll_eq_iterate`), and so can the bits that the
  register holds itself (`iterate_split`), which is what a table is made for.
-/

namespace Marketfeed

namespace Crc

variable {w : Nat} (P : BitVec w)

/-- The register moves by one place; the polynomial comes in for the bit that leaves. -/
def round (s : BitVec w) : BitVec w := (s >>> 1) ^^^ (if s.getLsbD 0 then P else 0#w)

/-- A single bit at the end where bits leave the register. -/
def bit (b : Bool) : BitVec w := (BitVec.ofBool b).setWidth w

/-- One bit of a message. -/
def feed (s : BitVec w) (b : Bool) : BitVec w := round P (s ^^^ bit b)

/-- All bits of a message, the first one first. -/
def feedAll (s : BitVec w) (bits : List Bool) : BitVec w := bits.foldl (feed P) s

/-- The bits as one word, the first one lowest. -/
def word : List Bool → BitVec w
  | [] => 0#w
  | b :: bits => bit b ^^^ (word bits <<< 1)

/-! ## Linearity -/

lemma xor_xor_xor_comm (a b c d : BitVec w) : (a ^^^ b) ^^^ (c ^^^ d) = (a ^^^ c) ^^^ (b ^^^ d) := by
  ac_rfl

lemma round_xor (a b : BitVec w) : round P (a ^^^ b) = round P a ^^^ round P b := by
  have hpoly : (if (a ^^^ b).getLsbD 0 then P else 0#w) =
      (if a.getLsbD 0 then P else 0#w) ^^^ (if b.getLsbD 0 then P else 0#w) := by
    rw [BitVec.getLsbD_xor]
    cases a.getLsbD 0 <;> cases b.getLsbD 0 <;> simp
  rw [round, round, round, hpoly, BitVec.ushiftRight_xor_distrib, xor_xor_xor_comm]

lemma round_iterate_xor (n : Nat) (a b : BitVec w) :
    (round P)^[n] (a ^^^ b) = (round P)^[n] a ^^^ (round P)^[n] b := by
  induction n generalizing a b with
  | zero => rfl
  | succ n ih =>
    rw [Function.iterate_succ_apply, round_xor, ih]
    rfl

@[simp] lemma round_zero : round P 0#w = 0#w := by simp [round]

lemma round_iterate_zero (n : Nat) : (round P)^[n] 0#w = 0#w := by
  induction n with
  | zero => rfl
  | succ n ih => rw [Function.iterate_succ_apply, round_zero, ih]

@[simp] lemma bit_false : bit false = 0#w := by
  apply BitVec.eq_of_toNat_eq
  simp [bit]

lemma bit_xor (a b : Bool) : (bit (a ^^ b) : BitVec w) = bit a ^^^ bit b := by
  cases a <;> cases b <;> simp

lemma feed_xor (s t : BitVec w) (a b : Bool) :
    feed P (s ^^^ t) (a ^^ b) = feed P s a ^^^ feed P t b := by
  rw [feed, feed, feed, bit_xor, xor_xor_xor_comm, round_xor]

/-- **Feeding is linear**: what two messages of one length leave differs by what their difference
leaves. -/
theorem feedAll_xor {as bs : List Bool} (h : as.length = bs.length) (s t : BitVec w) :
    feedAll P s as ^^^ feedAll P t bs = feedAll P (s ^^^ t) (List.zipWith xor as bs) := by
  induction as generalizing bs s t with
  | nil =>
    obtain rfl : bs = [] := List.eq_nil_of_length_eq_zero h.symm
    rfl
  | cons a as ih =>
    cases bs with
    | nil => cases h
    | cons b bs =>
      show feedAll P (feed P s a) as ^^^ feedAll P (feed P t b) bs =
        feedAll P (feed P (s ^^^ t) (a ^^ b)) (List.zipWith xor as bs)
      rw [ih (Nat.succ.inj h), feed_xor]

lemma feedAll_append (s : BitVec w) (as bs : List Bool) :
    feedAll P s (as ++ bs) = feedAll P (feedAll P s as) bs :=
  List.foldl_append

/-! ## Feeding whole words -/

variable {s : BitVec w}

/-- A register whose lowest bit is clear is only shifted. -/
lemma round_of_even (h : s.getLsbD 0 = false) : round P s = s >>> 1 := by
  simp [round, h]

/-- Bits that leave the top clear survive being shifted in and out again. -/
lemma round_shiftLeft (h : s.getLsbD (w - 1) = false) : round P (s <<< 1) = s := by
  have heven : (s <<< 1).getLsbD 0 = false := by simp
  rw [round_of_even P heven]
  apply BitVec.eq_of_getLsbD_eq
  intro i hi
  rw [BitVec.getLsbD_ushiftRight, BitVec.getLsbD_shiftLeft]
  by_cases htop : 1 + i < w
  · simp [htop]
  · have hlast : i = w - 1 := by omega
    simp [hlast, h]

/-- The bits of a word are those it is made of. -/
lemma getLsbD_word (bits : List Bool) (i : Nat) :
    (word bits : BitVec w).getLsbD i = (decide (i < w) && bits.getD i false) := by
  induction bits generalizing i with
  | nil => simp [word]
  | cons b bits ih =>
    rw [word, BitVec.getLsbD_xor, BitVec.getLsbD_shiftLeft]
    cases i with
    | zero => cases b <;> simp [bit]
    | succ i =>
      have hbit : (bit b : BitVec w).getLsbD (i + 1) = false := by simp [bit]
      rw [hbit, Nat.add_sub_cancel, ih]
      by_cases hi : i + 1 < w
      · simp [hi, Nat.lt_of_succ_lt hi]
      · simp [hi]

lemma getLsbD_word_of_le {bits : List Bool} {i : Nat} (h : bits.length ≤ i) :
    (word bits : BitVec w).getLsbD i = false := by
  rw [getLsbD_word, List.getD_eq_default _ _ h, Bool.and_false]

/-- **A message of up to `w` bits at once.** -/
theorem feedAll_eq_iterate {bits : List Bool} (h : bits.length ≤ w) (s : BitVec w) :
    feedAll P s bits = (round P)^[bits.length] (s ^^^ word bits) := by
  induction bits generalizing s with
  | nil => simp [feedAll, word]
  | cons b bits ih =>
    rw [List.length_cons] at h
    have htop : (word bits : BitVec w).getLsbD (w - 1) = false := getLsbD_word_of_le (by omega)
    have hstep : feed P s b ^^^ word bits = round P (s ^^^ word (b :: bits)) := by
      rw [word, ← BitVec.xor_assoc, round_xor, round_shiftLeft P htop, feed]
    show feedAll P (feed P s b) bits = _
    rw [ih (by omega), hstep]
    rfl

/-- A register whose low bits are clear is only shifted while they leave. -/
lemma iterate_of_low_clear {n : Nat} (h : ∀ i < n, s.getLsbD i = false) :
    (round P)^[n] s = s >>> n := by
  induction n generalizing s with
  | zero => simp
  | succ n ih =>
    have heven : s.getLsbD 0 = false := h 0 (Nat.succ_pos n)
    have hrest : ∀ i < n, (s >>> 1).getLsbD i = false := by
      intro i hi
      rw [BitVec.getLsbD_ushiftRight]
      exact h (1 + i) (by omega)
    rw [Function.iterate_succ_apply, round_of_even P heven, ih hrest, ← BitVec.shiftRight_add,
      Nat.add_comm]

/-- **The table step.** What `n` places do to a register is what they do to its low bits, and a
shift of the others. -/
theorem iterate_split {low : BitVec w} {n : Nat}
    (hlow : ∀ i, low.getLsbD i = (decide (i < n) && decide (i < w))) (s : BitVec w) :
    (round P)^[n] s = (round P)^[n] (s &&& low) ^^^ (s >>> n) := by
  have hparts : s = (s &&& low) ^^^ (s &&& ~~~low) := by
    apply BitVec.eq_of_getLsbD_eq
    intro i hi
    simp only [BitVec.getLsbD_xor, BitVec.getLsbD_and, BitVec.getLsbD_not, hi, decide_true,
      Bool.true_and]
    cases s.getLsbD i <;> cases low.getLsbD i <;> rfl
  have hclear : ∀ i < n, (s &&& ~~~low).getLsbD i = false := by
    intro i hi
    by_cases hw : i < w
    · simp [hlow, hi, hw]
    · simp [hw]
  have hshift : (s &&& ~~~low) >>> n = s >>> n := by
    apply BitVec.eq_of_getLsbD_eq
    intro i hi
    rw [BitVec.getLsbD_ushiftRight, BitVec.getLsbD_ushiftRight]
    rw [BitVec.getLsbD_and, BitVec.getLsbD_not, hlow]
    by_cases hw : n + i < w
    · simp [hw]
    · simp [BitVec.getLsbD_of_ge s (n + i) (by omega)]
  calc (round P)^[n] s
      = (round P)^[n] (s &&& low) ^^^ (round P)^[n] (s &&& ~~~low) := by
        rw [← round_iterate_xor, ← hparts]
    _ = (round P)^[n] (s &&& low) ^^^ (s >>> n) := by
        rw [iterate_of_low_clear P hclear, hshift]

/-! ## Bursts -/

section Burst

variable {P} (hP : P.getLsbD (w - 1) = true)

include hP

/-- A register is only emptied by a round if it was empty. -/
lemma eq_zero_of_round_eq_zero {s : BitVec w} (h : round P s = 0#w) : s = 0#w := by
  have hw : 0 < w := by
    by_contra hw
    obtain rfl : w = 0 := by omega
    simp at hP
  have heven : s.getLsbD 0 = false := by
    -- The top bit of the round is the bit that left: a shift clears it and the polynomial sets it.
    have htop : (round P s).getLsbD (w - 1) = s.getLsbD 0 := by
      have hclear : (s >>> 1).getLsbD (w - 1) = false := by
        rw [BitVec.getLsbD_ushiftRight]
        exact BitVec.getLsbD_of_ge s _ (by omega)
      rw [round, BitVec.getLsbD_xor, hclear]
      cases hs : s.getLsbD 0 <;> simp [hP]
    rw [← htop, h]
    simp
  rw [round_of_even P heven] at h
  apply BitVec.eq_of_getLsbD_eq
  intro i hi
  cases i with
  | zero => simpa using heven
  | succ i =>
    have hbit := congrArg (fun t => t.getLsbD i) h
    simpa [BitVec.getLsbD_ushiftRight, Nat.add_comm] using hbit

lemma iterate_round_ne_zero {s : BitVec w} (h : s ≠ 0#w) (n : Nat) : (round P)^[n] s ≠ 0#w := by
  induction n generalizing s with
  | zero => exact h
  | succ n ih =>
    rw [Function.iterate_succ_apply]
    exact ih fun hz => h (eq_zero_of_round_eq_zero hP hz)

omit hP in
lemma feedAll_replicate_false (s : BitVec w) (n : Nat) :
    feedAll P s (List.replicate n false) = (round P)^[n] s := by
  induction n generalizing s with
  | zero => rfl
  | succ n ih =>
    have hstep : feed P s false = round P s := by simp [feed]
    rw [List.replicate_succ]
    show feedAll P (feed P s false) (List.replicate n false) = _
    rw [hstep, ih, Function.iterate_succ_apply]

omit hP in
/-- A bit string that is set somewhere is not the word zero. -/
lemma word_ne_zero {bits : List Bool} (hlen : bits.length ≤ w) (h : true ∈ bits) :
    (word bits : BitVec w) ≠ 0#w := by
  intro hzero
  obtain ⟨i, hi, hget⟩ := List.mem_iff_getElem.mp h
  have hbit : (word bits : BitVec w).getLsbD i = true := by
    rw [getLsbD_word, List.getD_eq_getElem _ _ hi, hget]
    simp [Nat.lt_of_lt_of_le hi hlen]
  rw [hzero] at hbit
  simp at hbit

/-- **Bursts are detected.** A message that is set somewhere, and only within `w` consecutive bits,
does not leave an empty register empty. -/
theorem feedAll_burst_ne {bits : List Bool} {k : Nat} (hset : true ∈ bits)
    (hburst : ∀ i, bits[i]? = some true → k ≤ i ∧ i < k + w) : feedAll P 0#w bits ≠ 0#w := by
  have hbefore : bits.take k = List.replicate (bits.take k).length false := by
    rw [List.eq_replicate_iff]
    refine ⟨rfl, fun b hb => ?_⟩
    obtain ⟨i, hi⟩ := List.mem_iff_getElem?.mp hb
    rw [List.getElem?_take] at hi
    split_ifs at hi with hlt
    cases b with
    | true => exact absurd (hburst i hi).1 (by omega)
    | false => rfl
  have hafter : (bits.drop k).drop w = List.replicate ((bits.drop k).drop w).length false := by
    rw [List.eq_replicate_iff]
    refine ⟨rfl, fun b hb => ?_⟩
    obtain ⟨i, hi⟩ := List.mem_iff_getElem?.mp hb
    rw [List.getElem?_drop, List.getElem?_drop] at hi
    cases b with
    | true => exact absurd (hburst _ hi).2 (by omega)
    | false => rfl
  have hparts : bits = bits.take k ++ ((bits.drop k).take w ++ (bits.drop k).drop w) := by
    rw [List.take_append_drop, List.take_append_drop]
  have hmid : true ∈ (bits.drop k).take w := by
    rw [hparts, hbefore, hafter] at hset
    simpa using hset
  have hlen : ((bits.drop k).take w).length ≤ w := List.length_take_le ..
  rw [hparts, feedAll_append, feedAll_append, hbefore, feedAll_replicate_false, round_iterate_zero,
    hafter, feedAll_replicate_false, feedAll_eq_iterate P hlen, BitVec.zero_xor]
  exact iterate_round_ne_zero hP (iterate_round_ne_zero hP (word_ne_zero hlen hmid) _) _

end Burst

end Crc

/-! ## Octets from a table -/

/-- The bits of an octet, the least significant one first. -/
def octetBits (b : UInt8) : List Bool := (List.range 8).map fun i => b.toBitVec.getLsbD i

/-- The bits of a payload, octet by octet. -/
def payloadBits (data : List UInt8) : List Bool := data.flatMap octetBits

lemma payloadBits_cons (b : UInt8) (data : List UInt8) :
    payloadBits (b :: data) = octetBits b ++ payloadBits data :=
  List.flatMap_cons

@[simp] lemma length_octetBits (b : UInt8) : (octetBits b).length = 8 := by simp [octetBits]

namespace Crc

lemma word_octetBits (b : UInt8) : word (octetBits b) = b.toUInt32.toBitVec := by
  apply BitVec.eq_of_getLsbD_eq
  intro i hi
  rw [getLsbD_word, UInt8.toBitVec_toUInt32, BitVec.getLsbD_setWidth]
  by_cases h8 : i < 8
  · simp [octetBits, hi, h8, List.getD_eq_getElem?_getD]
  · have hout : b.toBitVec.getLsbD i = false := BitVec.getLsbD_of_ge _ _ (by omega)
    rw [hout, List.getD_eq_default _ _ (by rw [length_octetBits]; omega), Bool.and_false]

variable (poly : UInt32)

/-- One round of a register of 32 bits. -/
def round32 (crc : UInt32) : UInt32 := if crc &&& 1 ≠ 0 then (crc >>> 1) ^^^ poly else crc >>> 1

/-- An entry of the table: eight rounds. -/
def table32 (i : UInt32) : UInt32 := (List.range 8).foldl (fun crc _ => round32 poly crc) i

/-- The checksum, an octet at a time, from a register of ones and inverted at the end. -/
def crc32 (data : List UInt8) : UInt32 :=
  data.foldl (fun crc b => table32 poly ((crc ^^^ b.toUInt32) &&& 0xFF) ^^^ (crc >>> 8)) 0xFFFFFFFF
    ^^^ 0xFFFFFFFF

lemma toBitVec_round32 (crc : UInt32) :
    (round32 poly crc).toBitVec = round poly.toBitVec crc.toBitVec := by
  have hodd : (crc &&& 1 ≠ 0) ↔ crc.toBitVec.getLsbD 0 = true := by
    rw [ne_eq, ← UInt32.toBitVec_inj, UInt32.toBitVec_and]
    show ¬ (crc.toBitVec &&& 1#32 = 0#32) ↔ _
    rw [BitVec.and_one_eq_setWidth_ofBool_getLsbD]
    cases crc.toBitVec.getLsbD 0 <;> decide
  unfold round32 round
  split_ifs with h1 h2 h2
  · simp [UInt32.toBitVec_shiftRight]
  · exact absurd (hodd.mp h1) h2
  · exact absurd (hodd.mpr h2) h1
  · simp [UInt32.toBitVec_shiftRight]

lemma toBitVec_table32 (i : UInt32) :
    (table32 poly i).toBitVec = (round poly.toBitVec)^[8] i.toBitVec := by
  simp [table32, List.range_succ, toBitVec_round32]

/-- **An octet from the table** is its eight bits, one after the other. -/
theorem toBitVec_step32 (crc : UInt32) (b : UInt8) :
    (table32 poly ((crc ^^^ b.toUInt32) &&& 0xFF) ^^^ (crc >>> 8)).toBitVec =
      feedAll poly.toBitVec crc.toBitVec (octetBits b) := by
  have hlow : ∀ i, (0xFF#32).getLsbD i = (decide (i < 8) && decide (i < 32)) := by
    intro i
    have hones : (0xFF#32).getLsbD i = (decide (i < 32) && (2 ^ 8 - 1).testBit i) :=
      BitVec.getLsbD_ofNat ..
    rw [hones, Nat.testBit_two_pow_sub_one, Bool.and_comm]
  have hshift : (crc ^^^ b.toUInt32).toBitVec >>> 8 = (crc >>> 8).toBitVec := by
    have hoctet : b.toUInt32.toBitVec >>> 8 = 0#32 := by
      apply BitVec.eq_of_toNat_eq
      have := b.toNat_lt
      simp [Nat.shiftRight_eq_div_pow]
      omega
    rw [UInt32.toBitVec_xor, BitVec.ushiftRight_xor_distrib, hoctet, BitVec.xor_zero]
    simp [UInt32.toBitVec_shiftRight]
  rw [feedAll_eq_iterate _ (by simp), length_octetBits, word_octetBits, ← UInt32.toBitVec_xor,
    iterate_split _ hlow, hshift, UInt32.toBitVec_xor, toBitVec_table32, UInt32.toBitVec_and]
  rfl

/-- **The checksum is the remainder** of the payload's bits, from a register of ones and inverted. -/
theorem crc32_eq_feedAll (data : List UInt8) :
    (crc32 poly data).toBitVec =
      feedAll poly.toBitVec (0xFFFFFFFF : UInt32).toBitVec (payloadBits data) ^^^
        (0xFFFFFFFF : UInt32).toBitVec := by
  have hfold : ∀ crc : UInt32,
      (data.foldl (fun crc b => table32 poly ((crc ^^^ b.toUInt32) &&& 0xFF) ^^^ (crc >>> 8))
        crc).toBitVec = feedAll poly.toBitVec crc.toBitVec (payloadBits data) := by
    induction data with
    | nil => intro crc; rfl
    | cons b data ih =>
      intro crc
      rw [List.foldl_cons, ih, toBitVec_step32, payloadBits_cons, feedAll_append]
  rw [crc32, UInt32.toBitVec_xor, hfold]

end Crc

end Marketfeed
