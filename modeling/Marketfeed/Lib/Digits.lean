import Mathlib.Data.Nat.Digits.Defs

/-!
# Digit strings

Decimal digits, most significant first, and the octets they are written with.
-/

namespace Marketfeed

/-- The number a list of digits stands for, the most significant digit first. -/
def digitsValue (ds : List (Fin 10)) : Nat := Nat.ofDigits 10 (ds.reverse.map Fin.val)

@[simp] lemma digitsValue_nil : digitsValue [] = 0 := rfl

lemma digitsValue_append (ds es : List (Fin 10)) :
    digitsValue (ds ++ es) = digitsValue ds * 10 ^ es.length + digitsValue es := by
  rw [digitsValue, List.reverse_append, List.map_append, Nat.ofDigits_append, List.length_map,
    List.length_reverse, Nat.add_comm, Nat.mul_comm]
  rfl

variable (d : Fin 10)

lemma digitsValue_cons (ds : List (Fin 10)) :
    digitsValue (d :: ds) = d * 10 ^ ds.length + digitsValue ds := by
  have hsplit := digitsValue_append [d] ds
  have hone : digitsValue [d] = d := Nat.ofDigits_singleton
  rwa [hone] at hsplit

/-- Leading zeros do not count. -/
lemma digitsValue_drop {ds : List (Fin 10)} {k : Nat} (h : ∀ d ∈ ds.take k, d = 0) :
    digitsValue (ds.drop k) = digitsValue ds := by
  induction ds generalizing k with
  | nil => rw [List.drop_nil]
  | cons d ds ih =>
    cases k with
    | zero => rfl
    | succ k =>
      have hzero : d = 0 := h d List.mem_cons_self
      have hrest := ih (k := k) fun e he => h e (List.mem_cons_of_mem d he)
      rw [List.drop_succ_cons, hrest, digitsValue_cons, hzero, Fin.val_zero, Nat.zero_mul,
        Nat.zero_add]

/-! ## Octets -/

/-- Source: `u8::is_ascii_digit` -/
def isAsciiDigit (b : UInt8) : Bool := 0x30 ≤ b && b ≤ 0x39

/-- The ASCII octet of a digit. -/
def digitOctet (d : Fin 10) : UInt8 := UInt8.ofNat (0x30 + d)

lemma toNat_digitOctet : (digitOctet d).toNat = 0x30 + d := by
  have hd := d.isLt
  rw [digitOctet, UInt8.toNat_ofNat']
  exact Nat.mod_eq_of_lt (by omega)

lemma isAsciiDigit_iff {b : UInt8} : isAsciiDigit b ↔ 0x30 ≤ b.toNat ∧ b.toNat ≤ 0x39 := by
  rw [isAsciiDigit, Bool.and_eq_true, decide_eq_true_eq, decide_eq_true_eq, UInt8.le_iff_toNat_le,
    UInt8.le_iff_toNat_le]
  rfl

lemma isAsciiDigit_digitOctet : isAsciiDigit (digitOctet d) := by
  have hd := d.isLt
  rw [isAsciiDigit_iff, toNat_digitOctet]
  omega

lemma digitOctet_inj {d e : Fin 10} : digitOctet d = digitOctet e ↔ d = e := by
  constructor
  · intro h
    have hnat := congrArg UInt8.toNat h
    rw [toNat_digitOctet, toNat_digitOctet] at hnat
    exact Fin.ext (by omega)
  · exact fun h => congrArg digitOctet h

/-- The octets of a list of digits. -/
def digitOctets (ds : List (Fin 10)) : List UInt8 := ds.map digitOctet

@[simp] lemma digitOctets_nil : digitOctets [] = [] := rfl

variable (ds : List (Fin 10))

@[simp] lemma length_digitOctets : (digitOctets ds).length = ds.length :=
  List.length_map digitOctet

@[simp] lemma digitOctets_append (ds es : List (Fin 10)) :
    digitOctets (ds ++ es) = digitOctets ds ++ digitOctets es :=
  List.map_append

lemma digitOctets_drop (k : Nat) : (digitOctets ds).drop k = digitOctets (ds.drop k) :=
  List.map_drop.symm

@[simp] lemma digitOctets_eq_nil {ds : List (Fin 10)} : digitOctets ds = [] ↔ ds = [] :=
  List.map_eq_nil_iff

lemma all_isAsciiDigit_digitOctets : (digitOctets ds).all isAsciiDigit = true := by
  rw [List.all_eq_true]
  intro b hb
  obtain ⟨d, -, rfl⟩ := List.mem_map.mp hb
  exact isAsciiDigit_digitOctet d

/-- No other octet is among them. -/
lemma not_mem_digitOctets {b : UInt8} (h : isAsciiDigit b = false) (ds : List (Fin 10)) :
    b ∉ digitOctets ds := by
  intro hb
  have hall := List.all_eq_true.mp (all_isAsciiDigit_digitOctets ds) b hb
  cases h.symm.trans hall

/-- **Octets that are all digits are the octets of digits.** -/
theorem exists_digits {bs : List UInt8} (h : bs.all isAsciiDigit = true) :
    ∃ ds, bs = digitOctets ds := by
  induction bs with
  | nil => exact ⟨[], rfl⟩
  | cons b bs ih =>
    rw [List.all_cons, Bool.and_eq_true] at h
    obtain ⟨ds, rfl⟩ := ih h.2
    obtain ⟨hlo, hhi⟩ := isAsciiDigit_iff.mp h.1
    refine ⟨⟨b.toNat - 0x30, by omega⟩ :: ds, List.cons_eq_cons.mpr ⟨?_, rfl⟩⟩
    apply UInt8.toNat_inj.mp
    rw [toNat_digitOctet]
    show b.toNat = 0x30 + (b.toNat - 0x30)
    omega

end Marketfeed
