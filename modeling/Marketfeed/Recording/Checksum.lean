import Marketfeed.Lib.Crc
import Marketfeed.Recording.Format

/-!
# What the checksum of a record detects

The checksum of a payload is the remainder of its bits by the Castagnoli polynomial, fed octet by
octet from a table (`crc32c_eq_feedAll`). A payload that was damaged within 32 consecutive bits has
another checksum, so the reader refuses its record (`burst_is_refused`).
-/

namespace Marketfeed

/-! ## The table computes the remainder -/

/-- The polynomial as the register holds it. -/
def crcPolyBits : BitVec 32 := crcPoly.toBitVec

/-- **The checksum is the remainder** of the payload's bits, from a register of ones and inverted. -/
theorem crc32c_eq_feedAll (data : Bytes) :
    (crc32c data).toBitVec =
      Crc.feedAll crcPolyBits (0xFFFFFFFF : UInt32).toBitVec (payloadBits data) ^^^
        (0xFFFFFFFF : UInt32).toBitVec :=
  Crc.crc32_eq_feedAll crcPoly data

/-! ## Bursts -/

/-- All bits in which the payloads differ are among 32 consecutive ones. -/
def BurstFrom (k : Nat) (a b : Bytes) : Prop :=
  ∀ i : Nat, (payloadBits a)[i]? ≠ (payloadBits b)[i]? → k ≤ i ∧ i < k + 32

lemma length_payloadBits (a : Bytes) : (payloadBits a).length = 8 * a.length := by
  induction a with
  | nil => rfl
  | cons b a ih =>
    rw [payloadBits_cons, List.length_append, length_octetBits, ih, List.length_cons]
    omega

lemma octetBits_injective : Function.Injective octetBits := by
  intro a b h
  apply UInt8.toBitVec_inj.mp
  apply BitVec.eq_of_getLsbD_eq
  intro i hi
  have hget := congrArg (fun l => l.getD i false) h
  simpa [octetBits, List.getD_eq_getElem?_getD, hi] using hget

lemma payloadBits_injective : Function.Injective payloadBits := by
  intro a
  induction a with
  | nil =>
    intro b h
    have hlen := congrArg List.length h
    rw [length_payloadBits, length_payloadBits, List.length_nil] at hlen
    exact (List.eq_nil_of_length_eq_zero (by omega)).symm
  | cons x a ih =>
    intro b h
    cases b with
    | nil =>
      have hlen := congrArg List.length h
      rw [length_payloadBits, length_payloadBits, List.length_nil, List.length_cons] at hlen
      omega
    | cons y b =>
      obtain ⟨hoctet, hrest⟩ := List.append_inj h (by simp)
      rw [octetBits_injective hoctet, ih hrest]

lemma crc32c_ne_of_burst {a b : Bytes} (hlen : a.length = b.length) (hne : a ≠ b) {k : Nat}
    (hburst : BurstFrom k a b) : crc32c a ≠ crc32c b := by
  have hbits : (payloadBits a).length = (payloadBits b).length := by
    rw [length_payloadBits, length_payloadBits, hlen]
  have hdiffer : ∀ i : Nat, (List.zipWith xor (payloadBits a) (payloadBits b))[i]? = some true →
      (payloadBits a)[i]? ≠ (payloadBits b)[i]? := by
    intro i hi heq
    obtain ⟨x, y, hx, hy, hxy⟩ := List.getElem?_zipWith_eq_some.mp hi
    rw [hx, hy, Option.some.injEq] at heq
    rw [heq, Bool.xor_self] at hxy
    cases hxy
  have hset : true ∈ List.zipWith xor (payloadBits a) (payloadBits b) := by
    by_contra hclear
    refine hne (payloadBits_injective (List.ext_getElem hbits ?_))
    intro i hi hi'
    by_contra hdiff
    refine hclear (List.mem_iff_getElem.mpr ⟨i, by rw [List.length_zipWith]; omega, ?_⟩)
    rw [List.getElem_zipWith]
    exact bne_iff_ne.mpr hdiff
  intro hcrc
  have hpoly : crcPolyBits.getLsbD (32 - 1) = true := by decide
  refine Crc.feedAll_burst_ne hpoly hset (fun i hi => hburst i (hdiffer i hi)) ?_
  have hsame := congrArg UInt32.toBitVec hcrc
  rw [crc32c_eq_feedAll, crc32c_eq_feedAll, BitVec.xor_left_inj] at hsame
  have hxor := Crc.feedAll_xor crcPolyBits hbits (0xFFFFFFFF : UInt32).toBitVec
    (0xFFFFFFFF : UInt32).toBitVec
  rw [hsame, BitVec.xor_self, BitVec.xor_self] at hxor
  exact hxor.symm

namespace RawSegmentReader

/-- A record with another payload of the same length is parsed alike up to its checksum. -/
lemma parseRecord_of_burst {version recordLen : Nat} {head a b : Bytes} {record : RawRecord}
    (hhead : head.length = Mfr1.rawHeaderBodyLen) (hlen : a.length = b.length)
    (hcrc : crc32c a ≠ crc32c b) (h : parseRecord version recordLen (head ++ a) = .ok record) :
    parseRecord version recordLen (head ++ b) = .error .crcMismatch := by
  have h43 : head.length = 43 := hhead
  have hslice : ∀ lo hi : Nat, hi ≤ 43 → ∀ p : Bytes, slice (head ++ p) lo hi = slice head lo hi := by
    intro lo hi hle p
    exact slice_left (by omega)
  have hoctet : ∀ i : Nat, i < 43 → ∀ p : Bytes, (head ++ p).getD i 0 = head.getD i 0 := by
    intro i hi p
    exact List.getD_append _ _ _ _ (by omega)
  have hpayload : ∀ p : Bytes, (head ++ p).drop Mfr1.rawHeaderBodyLen = p := by
    intro p
    exact List.drop_left' hhead
  unfold parseRecord at h ⊢
  simp only [hoctet 32 (by omega), hoctet 33 (by omega), hslice 35 39 (by omega),
    hslice 39 43 (by omega), hpayload, List.length_append] at h ⊢
  cases hdir : Direction.fromU8 (head.getD 32 0) with
  | none =>
    rw [hdir] at h
    cases h
  | some direction =>
    cases hop : RecOpcode.fromU8ForVersion (head.getD 33 0) version with
    | none =>
      rw [hdir, hop] at h
      cases h
    | some opcode =>
      simp only [hdir, hop] at h ⊢
      obtain ⟨hsize, h⟩ := check_eq_ok.mp h
      obtain ⟨hstored, -⟩ := check_eq_ok.mp h
      rw [hlen] at hsize
      rw [if_neg hsize, if_pos]
      rw [← not_not.mp hstored]
      exact hcrc.symm

/-- The payload of a parsed record is what follows its header. -/
lemma payload_of_parseRecord {version recordLen : Nat} {body : Bytes} {record : RawRecord}
    (h : parseRecord version recordLen body = .ok record) :
    record.payload = body.drop Mfr1.rawHeaderBodyLen := by
  unfold parseRecord at h
  split at h
  · obtain ⟨-, h⟩ := check_eq_ok.mp h
    obtain ⟨-, h⟩ := check_eq_ok.mp h
    cases h
    rfl
  · cases h

/-- **Bursts.** Two payloads of one length that differ, and only within 32 consecutive bits, have
different checksums. A record that is read with the one is refused with the other in its place. -/
theorem burst_is_refused {a b : Bytes} (hlen : a.length = b.length) (hne : a ≠ b) {k : Nat}
    (hburst : BurstFrom k a b) :
    crc32c a ≠ crc32c b ∧
      ∀ (lenField head after : Bytes) (version : Nat) (startTsNs : Int) (read : Nat)
        (record : RawRecord), lenField.length = 4 → head.length = Mfr1.rawHeaderBodyLen →
        (readRecord ⟨lenField ++ (head ++ (a ++ after)), version, startTsNs, read⟩).2 =
          .ok (some record) → record.payload = a →
        (readRecord ⟨lenField ++ (head ++ (b ++ after)), version, startTsNs, read⟩).2 =
          .error .crcMismatch := by
  have hcrc := crc32c_ne_of_burst hlen hne hburst
  refine ⟨hcrc, ?_⟩
  intro lenField head after version startTsNs read record hfield hhead hread hpayload
  simp only [readRecord, splitExact_append hfield] at hread ⊢
  by_cases hmin : leNat lenField < 4 + Mfr1.rawHeaderBodyLen
  · rw [if_pos hmin] at hread
    cases hread
  by_cases hmax : leNat lenField > Mfr1.maxRawRecordLen
  · rw [if_neg hmin, if_pos hmax] at hread
    cases hread
  rw [if_neg hmin, if_neg hmax] at hread ⊢
  cases hsplit : splitExact (leNat lenField - 4) (head ++ (a ++ after)) with
  | none =>
    rw [hsplit] at hread
    cases hread
  | some parts =>
    obtain ⟨body, rest⟩ := parts
    simp only [hsplit] at hread
    cases hparse : parseRecord version (leNat lenField) body with
    | error e =>
      rw [hparse] at hread
      cases hread
    | ok parsed =>
      simp only [hparse, Except.ok.injEq, Option.some.injEq] at hread
      subst hread
      -- The payload that was read is the whole of `a`, so the record ends where `a` does.
      obtain ⟨hbytes, hbodyLen⟩ := of_splitExact hsplit
      have hbody : body = head ++ a := by
        have hdrop : body.drop Mfr1.rawHeaderBodyLen = a := by
          rw [← hpayload, payload_of_parseRecord hparse]
        have htake : body.take Mfr1.rawHeaderBodyLen = head := by
          have hprefix := congrArg (List.take Mfr1.rawHeaderBodyLen) hbytes
          rw [List.take_left' hhead, List.take_append_of_le_length (by omega)] at hprefix
          exact hprefix.symm
        rw [← List.take_append_drop Mfr1.rawHeaderBodyLen body, htake, hdrop]
      have hlenB : (head ++ b).length = leNat lenField - 4 := by
        rw [← hbodyLen, hbody, List.length_append, List.length_append, hlen]
      rw [← List.append_assoc, splitExact_append hlenB]
      rw [hbody] at hparse
      simp only [parseRecord_of_burst hhead hlen hcrc hparse]

/-- Six digits. -/
def digits : Bytes := [0x31, 0x32, 0x33, 0x34, 0x35, 0x36]

/-- The digits after a burst from the last bit of the second octet to the first bit of the sixth. -/
def struckDigits : Bytes := [0x31, 0xB2, 0x33, 0x35, 0x35, 0x37]

/-- The digits, recorded. -/
def digitsFrame : RawFrame := ⟨⟨7⟩, 1, 100, 200, .inbound, .text, 0, digits⟩

/-- The struck digits are refused. -/
theorem burst_is_refused_digits :
    BurstFrom 15 digits struckDigits ∧
      (readRecord ⟨leBytes 4 digitsFrame.recordLen ++
        (digitsFrame.record.header.bodyBytes ++ (struckDigits ++ [])),
          Mfr1.formatVersion, 42, 0⟩).2 = .error .crcMismatch := by
  have hburst : BurstFrom 15 digits struckDigits := by
    have hbits : ∀ i < 48, (payloadBits digits)[i]? ≠ (payloadBits struckDigits)[i]? →
        15 ≤ i ∧ i < 15 + 32 := by decide +kernel
    intro i hi
    refine hbits i (not_le.mp fun hlarge => hi ?_) hi
    rw [List.getElem?_eq_none hlarge, List.getElem?_eq_none hlarge]
  have hrefused := (burst_is_refused (a := digits) (b := struckDigits) rfl (by decide) hburst).2
  exact ⟨hburst, hrefused _ _ [] _ 42 0 digitsFrame.record rfl rfl (by decide +kernel) rfl⟩

end RawSegmentReader

end Marketfeed
