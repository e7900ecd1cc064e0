import Mathlib.Tactic.Positivity
import Mathlib.Tactic.Zify

/-!
# Octet strings

Fixed-width little-endian fields, slices at fixed offsets, and a reader that consumes fields from
the front.
-/

namespace Marketfeed

/-! ## Little-endian fields -/

/-- The `width` low octets of a number, least significant first. -/
def leBytes : Nat → Nat → List UInt8
  | 0, _ => []
  | width + 1, n => UInt8.ofNat n :: leBytes width (n / 256)

/-- The number of a little-endian field. -/
def leNat : List UInt8 → Nat
  | [] => 0
  | b :: bs => b.toNat + 256 * leNat bs

/-- The width is the length. -/
@[simp] lemma length_leBytes (width n : Nat) : (leBytes width n).length = width := by
  induction width generalizing n with
  | zero => rfl
  | succ width ih => simp [leBytes, ih]

/-- A number that fits is read back. -/
lemma leNat_leBytes {width n : Nat} (h : n < 256 ^ width) : leNat (leBytes width n) = n := by
  induction width generalizing n with
  | zero =>
    have hn : n = 0 := by simpa using h
    simp [hn, leBytes, leNat]
  | succ width ih =>
    have hdiv : n / 256 < 256 ^ width := by
      apply Nat.div_lt_of_lt_mul
      rwa [pow_succ, mul_comm] at h
    rw [leBytes, leNat, ih hdiv, UInt8.toNat_ofNat']
    omega

/-- Octets are written back. -/
lemma leBytes_leNat (bs : List UInt8) : leBytes bs.length (leNat bs) = bs := by
  induction bs with
  | nil => rfl
  | cons b bs ih =>
    have hlt := b.toNat_lt
    have hdiv : (b.toNat + 256 * leNat bs) / 256 = leNat bs := by omega
    have hhead : UInt8.ofNat (b.toNat + 256 * leNat bs) = b := by
      apply UInt8.toNat_inj.mp
      rw [UInt8.toNat_ofNat']
      omega
    rw [List.length_cons, leNat, leBytes, hdiv, ih, hhead]

/-- What is read fits the width. -/
lemma leNat_lt (bs : List UInt8) : leNat bs < 256 ^ bs.length := by
  induction bs with
  | nil => exact Nat.one_pos
  | cons b bs ih =>
    have hlt := b.toNat_lt
    rw [List.length_cons, leNat, pow_succ]
    omega

/-- Eight octets carry a `UInt64`. -/
@[simp] lemma ofNat_leNat_leBytes64 (x : UInt64) :
    UInt64.ofNat (leNat (leBytes 8 x.toNat)) = x := by
  rw [leNat_leBytes x.toNat_lt, UInt64.ofNat_toNat]

/-- Four octets carry a `UInt32`. -/
@[simp] lemma ofNat_leNat_leBytes32 (x : UInt32) :
    UInt32.ofNat (leNat (leBytes 4 x.toNat)) = x := by
  rw [leNat_leBytes x.toNat_lt, UInt32.ofNat_toNat]

/-- Two octets carry a `UInt16`. -/
@[simp] lemma ofNat_leNat_leBytes16 (x : UInt16) :
    UInt16.ofNat (leNat (leBytes 2 x.toNat)) = x := by
  rw [leNat_leBytes x.toNat_lt, UInt16.ofNat_toNat]

/-- The two's complement field of a signed number. -/
def leBytesInt (width : Nat) (x : Int) : List UInt8 := leBytes width (x % 256 ^ width).toNat

/-- A field read as a two's complement number. -/
def leInt (bs : List UInt8) : Int := (leNat bs : Int).bmod (256 ^ bs.length)

/-- The width is the length. -/
@[simp] lemma length_leBytesInt (width : Nat) (x : Int) : (leBytesInt width x).length = width :=
  length_leBytes width _

/-- A signed number in range is read back. -/
lemma leInt_leBytesInt {width : Nat} {x : Int} (hlo : -(256 ^ width / 2 : Int) ≤ x)
    (hhi : x < 256 ^ width / 2) : leInt (leBytesInt width x) = x := by
  have hpos : (0 : Int) < 256 ^ width := by positivity
  have hmod : 0 ≤ x % 256 ^ width := Int.emod_nonneg x hpos.ne'
  have hlt : (x % 256 ^ width).toNat < 256 ^ width := by
    have := Int.emod_lt_of_pos x hpos
    zify
    rwa [Int.toNat_of_nonneg hmod]
  rw [leInt, length_leBytesInt, leBytesInt, leNat_leBytes hlt, Int.toNat_of_nonneg hmod,
    show (256 : Int) ^ width = ((256 ^ width : Nat) : Int) by push_cast; rfl, Int.emod_bmod]
  apply Int.bmod_eq_of_le
  · exact_mod_cast hlo
  · have : (256 ^ width / 2 : Int) ≤ ((256 ^ width : Nat) + 1 : Int) / 2 := by push_cast; omega
    exact lt_of_lt_of_le hhi this

/-! ## Slices -/

/-- The octets from one offset up to another. -/
def slice (bs : List UInt8) (lo hi : Nat) : List UInt8 := (bs.drop lo).take (hi - lo)

variable {xs ys : List UInt8}

/-- A slice inside the front part. -/
lemma slice_left {lo hi : Nat} (h : hi ≤ xs.length) : slice (xs ++ ys) lo hi = slice xs lo hi := by
  by_cases hlo : lo ≤ xs.length
  · rw [slice, List.drop_append_of_le_length hlo, List.take_append_of_le_length]
    · rfl
    · rw [List.length_drop]
      omega
  · rw [slice, slice, show hi - lo = 0 by omega, List.take_zero, List.take_zero]

/-! ## Reading from the front -/

/-- The first octets and the rest, if there are enough. -/
def splitExact (count : Nat) (bs : List UInt8) : Option (List UInt8 × List UInt8) :=
  if count ≤ bs.length then some (bs.take count, bs.drop count) else none

variable {count : Nat}

/-- The front part is split off. -/
lemma splitExact_append (h : xs.length = count) : splitExact count (xs ++ ys) = some (xs, ys) := by
  subst h
  simp [splitExact]

variable {bs : List UInt8}

/-- What was split is the whole. -/
lemma of_splitExact (h : splitExact count bs = some (xs, ys)) :
    bs = xs ++ ys ∧ xs.length = count := by
  unfold splitExact at h
  split_ifs at h with hcount
  cases h
  exact ⟨(List.take_append_drop count bs).symm, List.length_take_of_le hcount⟩

/-- A reader consumes octets from the front and may fail. -/
abbrev Reader (ε : Type) := StateT (List UInt8) (Except ε)

/-- The next octets. -/
def takeExact {ε : Type} (eof : ε) (count : Nat) : Reader ε (List UInt8) := fun bs =>
  match splitExact count bs with
  | some parts => .ok parts
  | none => .error eof

/-- A sequence of readers answers iff both do, the second one on what the first one left. -/
lemma reader_bind_eq_ok {ε α β : Type} {m : Reader ε α} {f : α → Reader ε β} {rest : List UInt8}
    {b : β} :
    (m >>= f) bs = .ok (b, rest) ↔ ∃ a mid, m bs = .ok (a, mid) ∧ f a mid = .ok (b, rest) := by
  have hunfold : (m >>= f) bs = (m bs >>= fun p => f p.1 p.2) := rfl
  rw [hunfold]
  cases h : m bs with
  | error e => simp [bind, Except.bind]
  | ok p => simp [bind, Except.bind, ← Prod.exists']

/-- What was taken stood in front. -/
lemma takeExact_eq_ok {ε : Type} {eof : ε} {rest : List UInt8}
    (h : takeExact eof count bs = .ok (xs, rest)) : bs = xs ++ rest ∧ xs.length = count := by
  unfold takeExact at h
  cases hsplit : splitExact count bs with
  | none =>
    rw [hsplit] at h
    cases h
  | some parts =>
    rw [hsplit] at h
    cases h
    exact of_splitExact hsplit

/-- The reader consumes exactly these octets, whatever follows them, and returns the value. -/
def Reads {ε α : Type} (m : Reader ε α) (bs : List UInt8) (a : α) : Prop :=
  ∀ tail, m (bs ++ tail) = .ok (a, tail)

namespace Reads

variable {ε α β : Type} {m : Reader ε α} {f : α → Reader ε β} {xs ys : List UInt8} {a : α} {b : β}

/-- A pure reader takes nothing. -/
lemma pure : Reads (pure a : Reader ε α) [] a := fun _ => rfl

/-- Readers in sequence read the octets in sequence. -/
lemma seq (hm : Reads m xs a) (hf : Reads (f a) ys b) : Reads (m >>= f) (xs ++ ys) b := by
  intro tail
  show (m (xs ++ ys ++ tail) >>= fun p => f p.1 p.2) = _
  rw [List.append_assoc, hm]
  exact hf tail

/-- A last step that consumes nothing. -/
lemma last (hm : Reads m xs a) (hf : Reads (f a) [] b) : Reads (m >>= f) xs b := by
  have h := hm.seq hf
  rwa [List.append_nil] at h

/-- The value read may be mapped. -/
lemma map {f : α → β} (hm : Reads m xs a) : Reads (m >>= fun a => Pure.pure (f a)) xs (f a) :=
  hm.last Reads.pure

lemma takeExact (eof : ε) {count : Nat} (h : xs.length = count) :
    Reads (takeExact eof count) xs xs := by
  intro tail
  rw [Marketfeed.takeExact, splitExact_append h]

/-- A check that consumes nothing. -/
lemma lift {x : Except ε α} (h : x = .ok a) : Reads (liftM x : Reader ε α) [] a := by
  intro tail
  rw [h]
  rfl

end Reads

/-! ## Pieces -/

/-- The octets hold the pieces one after the other, with anything before, between and after. -/
def Carries : List (List UInt8) → List UInt8 → Prop
  | [], _ => True
  | piece :: pieces, bs => ∃ before after, bs = before ++ (piece ++ after) ∧ Carries pieces after

namespace Carries

variable {pieces : List (List UInt8)} {bs : List UInt8}

/-- More octets behind change nothing. -/
lemma append (h : Carries pieces bs) (more : List UInt8) : Carries pieces (bs ++ more) := by
  induction pieces generalizing bs with
  | nil => trivial
  | cons piece pieces ih =>
    obtain ⟨before, after, rfl, hafter⟩ := h
    refine ⟨before, after ++ more, ?_, ih hafter⟩
    simp only [List.append_assoc]

/-- One more piece at the end. -/
lemma concat (h : Carries pieces bs) (gap piece : List UInt8) :
    Carries (pieces ++ [piece]) (bs ++ gap ++ piece) := by
  induction pieces generalizing bs with
  | nil => exact ⟨bs ++ gap, [], by rw [List.append_nil], trivial⟩
  | cons first pieces ih =>
    obtain ⟨before, after, rfl, hafter⟩ := h
    refine ⟨before, after ++ gap ++ piece, ?_, ih hafter⟩
    simp only [List.append_assoc]

/-- More octets in front change nothing. -/
lemma behind (h : Carries pieces bs) (front : List UInt8) : Carries pieces (front ++ bs) := by
  cases pieces with
  | nil => trivial
  | cons piece pieces =>
    obtain ⟨before, after, rfl, hafter⟩ := h
    refine ⟨front ++ before, after, ?_, hafter⟩
    rw [List.append_assoc]

/-- Every piece stands in the octets. -/
lemma infix_of_mem (h : Carries pieces bs) {piece : List UInt8} (hmem : piece ∈ pieces) :
    piece <:+: bs := by
  induction pieces generalizing bs with
  | nil => cases hmem
  | cons first pieces ih =>
    obtain ⟨before, after, rfl, hafter⟩ := h
    rcases List.mem_cons.mp hmem with rfl | hmem
    · exact ⟨before, after, List.append_assoc _ _ _⟩
    · refine (ih hafter hmem).trans ?_
      rw [← List.append_assoc]
      exact (List.suffix_append _ _).isInfix

end Carries

/-! ## Texts -/

/-- The octets of a text. -/
def utf8 (s : String) : List UInt8 := s.toByteArray.data.toList

/-- The text of valid octets. -/
def fromUtf8 (bs : List UInt8) : Option String := String.fromUTF8? ⟨bs.toArray⟩

/-- A text is decoded back. -/
lemma fromUtf8_utf8 (s : String) : fromUtf8 (utf8 s) = some s := by
  rw [fromUtf8, utf8, Array.toArray_toList, String.fromUTF8?, dif_pos s.isValidUTF8]
  rfl

/-- Decoded octets are encoded back. -/
lemma utf8_of_fromUtf8 {s : String} (h : fromUtf8 bs = some s) : utf8 s = bs := by
  rw [fromUtf8, String.fromUTF8?] at h
  split_ifs at h with hvalid
  cases h
  rfl

/-- A decoder given by its answers to some texts; it refuses everything else. -/
def decodeAs {α : Type} (answers : List (String × α)) (bytes : List UInt8) : Except String α :=
  match answers.find? fun answer => utf8 answer.1 = bytes with
  | some answer => .ok answer.2
  | none => .error "expected value at line 1 column 1"

end Marketfeed
