import Marketfeed.Recording.Format

/-!
# Reading a segment that was cut short

A crash leaves a prefix of a segment behind. The reader stops at an incomplete tail without an error,
wherever the cut is: inside a length field, inside a header or inside a payload.
-/

namespace Marketfeed

def Mfr1.headerSize : Nat := 4 + 2 + 8 + 8

namespace RawSegmentWriter

/-- A list of records written one after the other, all accepted. -/
def writeAll : RawSegmentWriter → List RawFrame → Except RecordingError RawSegmentWriter
  | w, [] => .ok w
  | w, f :: frames =>
    match w.writeRecord f with
    | (w', .ok ()) => w'.writeAll frames
    | (_, .error e) => .error e

lemma length_create (startTsNs : Int) : (create startTsNs).bytes.length = Mfr1.headerSize := by
  simp [create, Mfr1.headerSize, Mfr1.magic, length_leBytes, length_leBytesInt]

lemma writeAll_ok {frames : List RawFrame} {w w' : RawSegmentWriter}
    (h : w.writeAll frames = .ok w') :
    w'.bytes = w.bytes ++ RawSegmentReader.frameBytes frames ∧
      ∀ f ∈ frames, f.recordLen ≤ Mfr1.maxRawRecordLen := by
  induction frames generalizing w with
  | nil =>
    cases h
    exact ⟨(List.append_nil _).symm, fun f hf => absurd hf List.not_mem_nil⟩
  | cons f frames ih =>
    rw [writeAll] at h
    rcases hwrite : w.writeRecord f with ⟨w₁, e | ⟨⟩⟩
    · rw [hwrite] at h
      cases h
    · rw [hwrite] at h
      obtain ⟨hlen, rfl⟩ := writeRecord_ok_iff.mp hwrite
      obtain ⟨hbytes, hfits⟩ := ih h
      refine ⟨?_, List.forall_mem_cons.mpr ⟨hlen, hfits⟩⟩
      rw [hbytes, List.append_assoc]
      rfl

end RawSegmentWriter

namespace RawSegmentReader

/-- **A record that is cut** ends the reading: nothing, or a part of its length field, is a clean end,
and anything longer is a truncated tail. -/
theorem readRecord_cut {f : RawFrame} (hf : f.Fits) {j : Nat} (hj : j < f.record.bytes.length)
    (startTsNs : Int) (n : Nat) :
    (readRecord ⟨f.record.bytes.take j, Mfr1.formatVersion, startTsNs, n⟩).2 = .ok none ∨
      (readRecord ⟨f.record.bytes.take j, Mfr1.formatVersion, startTsNs, n⟩).2 =
        .error .truncated := by
  have hbytes := f.length_bytes
  have hlength : (f.record.bytes.take j).length = j := by
    rw [List.length_take]
    omega
  by_cases hshort : j < 4
  · left
    have hsplit : splitExact 4 (f.record.bytes.take j) = none := by
      rw [splitExact, if_neg (by omega)]
    simp only [readRecord, hsplit]
  · right
    have hmax := hf.len
    have hlen := hf.leNat_recordLen
    have hhead : splitExact 4 (f.record.bytes.take j) =
        some (leBytes 4 f.recordLen, (f.record.header.bodyBytes ++ f.payload).take (j - 4)) := by
      have htake : f.record.bytes.take j =
          leBytes 4 f.recordLen ++ (f.record.header.bodyBytes ++ f.payload).take (j - 4) := by
        rw [RawRecord.bytes, List.take_append, length_leBytes,
          List.take_of_length_le (by rw [length_leBytes]; omega)]
        rfl
      rw [htake]
      exact splitExact_append (length_leBytes 4 _)
    have hbody : splitExact (f.recordLen - 4)
        ((f.record.header.bodyBytes ++ f.payload).take (j - 4)) = none := by
      rw [splitExact, if_neg]
      rw [List.length_take]
      omega
    have hmin : ¬ f.recordLen < 4 + Mfr1.rawHeaderBodyLen := by rw [RawFrame.recordLen]; omega
    simp only [readRecord, hhead, hlen, hbody, if_neg hmin, if_neg (Nat.not_lt.mpr hmax)]

/-- **Reading a cut run of records.** `n` counts the records that end inside the cut. -/
theorem readRecords_cut {frames : List RawFrame} (hf : ∀ f ∈ frames, f.Fits) {j fuel : Nat}
    (hfuel : ((frameBytes frames).take j).length < fuel) (startTsNs : Int) (m : Nat) :
    ∃ n ≤ frames.length,
      (readRecords fuel ⟨(frameBytes frames).take j, Mfr1.formatVersion, startTsNs, m⟩).2 =
        .ok ((frames.take n).map RawFrame.record) ∧
      ∀ i < frames.length, i < n ↔ (frameBytes (frames.take (i + 1))).length ≤ j := by
  induction frames generalizing j fuel m with
  | nil =>
    obtain ⟨fuel, rfl⟩ := Nat.exists_eq_add_of_lt hfuel
    refine ⟨0, le_rfl, ?_, fun i hi => absurd hi (Nat.not_lt_zero i)⟩
    rw [show (frameBytes []).take j = [] from List.take_nil]
    rfl
  | cons f frames ih =>
    obtain ⟨hfirst, hrest⟩ := List.forall_mem_cons.mp hf
    have hcons (gs : List RawFrame) : frameBytes (f :: gs) = f.record.bytes ++ frameBytes gs := rfl
    obtain ⟨fuel, rfl⟩ : ∃ fuel', fuel = fuel' + 1 := ⟨fuel - 1, by omega⟩
    by_cases hj : f.record.bytes.length ≤ j
    · -- The first record is whole: the rest is a cut of the remaining records.
      have htake : (frameBytes (f :: frames)).take j =
          f.record.bytes ++ (frameBytes frames).take (j - f.record.bytes.length) := by
        rw [hcons, List.take_append, List.take_of_length_le hj]
      rw [htake, List.length_append] at hfuel
      have hpos : 0 < f.record.bytes.length := by
        rw [f.length_bytes, RawFrame.recordLen]
        omega
      have hless : ((frameBytes frames).take (j - f.record.bytes.length)).length < fuel := by omega
      obtain ⟨n, hn, hread, hwhole⟩ := ih hrest hless (m + 1)
      refine ⟨n + 1, Nat.succ_le_succ hn, ?_, ?_⟩
      · rw [htake]
        simp only [readRecords, readRecord_bytes hfirst, hread, List.take_succ_cons, List.map_cons]
        rfl
      · rintro (_ | i) hi
        · simpa [frameBytes] using hj
        · rw [Nat.add_lt_add_iff_right, hwhole i (Nat.lt_of_succ_lt_succ hi), List.take_succ_cons,
            hcons, List.length_append]
          omega
    · -- The first record is cut: reading ends here.
      have htake : (frameBytes (f :: frames)).take j = f.record.bytes.take j := by
        rw [hcons, List.take_append_of_le_length (by omega)]
      refine ⟨0, Nat.zero_le _, ?_, ?_⟩
      · rw [htake, readRecords]
        have hcut := readRecord_cut hfirst (Nat.lt_of_not_le hj) startTsNs m
        rcases hr : readRecord ⟨f.record.bytes.take j, Mfr1.formatVersion, startTsNs, m⟩
          with ⟨r, result⟩
        rw [hr] at hcut
        rcases hcut with rfl | rfl <;> rfl
      · intro i _
        rw [List.take_succ_cons, hcons, List.length_append]
        omega

/-- **A crash keeps every whole record.** Records are written to a segment, and the segment is cut to
any length that keeps its header: the reader opens it, and reads back exactly the records that lie
wholly inside the cut, in order, with every field and every octet of their payloads. -/
theorem readAll_truncated {startTsNs : Int} (hlo : -(2 ^ 63) ≤ startTsNs)
    (hhi : startTsNs < 2 ^ 63) {frames : List RawFrame}
    (htimes : ∀ f ∈ frames, -(2 ^ 63) ≤ f.receiveTsNs ∧ f.receiveTsNs < 2 ^ 63)
    {w : RawSegmentWriter} (hw : (RawSegmentWriter.create startTsNs).writeAll frames = .ok w)
    {k : Nat} (hk : Mfr1.headerSize ≤ k) :
    ∃ r n, fromBytes (w.bytes.take k) = .ok r ∧ r.startTsNs = startTsNs ∧ n ≤ frames.length ∧
      r.readAll.2 = .ok ((frames.take n).map RawFrame.record) ∧
      ∀ i < frames.length,
        i < n ↔ Mfr1.headerSize + (frameBytes (frames.take (i + 1))).length ≤ k := by
  obtain ⟨hbytes, hlens⟩ := RawSegmentWriter.writeAll_ok hw
  have hf : ∀ f ∈ frames, f.Fits :=
    fun f hmem => ⟨hlens f hmem, (htimes f hmem).1, (htimes f hmem).2⟩
  have hheader := RawSegmentWriter.length_create startTsNs
  have htake : w.bytes.take k = (RawSegmentWriter.create startTsNs).bytes ++
      (frameBytes frames).take (k - Mfr1.headerSize) := by
    rw [hbytes, List.take_append, hheader, List.take_of_length_le (by omega)]
  obtain ⟨n, hn, hread, hwhole⟩ :=
    readRecords_cut hf (Nat.lt_succ_self ((frameBytes frames).take (k - Mfr1.headerSize)).length)
      startTsNs 0
  refine ⟨_, n, ?_, rfl, hn, hread, ?_⟩
  · rw [htake, fromBytes_create hlo hhi]
  · intro i hi
    rw [hwhole i hi]
    omega

/-- A frame with two octets of payload. -/
def shortFrame : RawFrame := ⟨⟨1⟩, 7, 5, 9, .inbound, .text, 0, [1, 2]⟩

/-- Two records of 49 octets, cut inside the second: the first is read back. -/
theorem readAll_truncated_second :
    (RawSegmentWriter.create 3).writeAll [shortFrame, shortFrame] =
      .ok ⟨(RawSegmentWriter.create 3).bytes ++ frameBytes [shortFrame, shortFrame], 2⟩ ∧
    ∃ r n, fromBytes (((RawSegmentWriter.create 3).bytes ++
        frameBytes [shortFrame, shortFrame]).take 100) = .ok r ∧ r.startTsNs = 3 ∧ n ≤ 2 ∧
      r.readAll.2 = .ok (([shortFrame, shortFrame].take n).map RawFrame.record) ∧
      ∀ i < 2, i < n ↔
        Mfr1.headerSize + (frameBytes ([shortFrame, shortFrame].take (i + 1))).length ≤ 100 := by
  have hlo : -(2 ^ 63) ≤ (3 : Int) := by decide
  have hhi : (3 : Int) < 2 ^ 63 := by decide
  have hwritten : (RawSegmentWriter.create 3).writeAll [shortFrame, shortFrame] =
      .ok ⟨(RawSegmentWriter.create 3).bytes ++ frameBytes [shortFrame, shortFrame], 2⟩ := by rfl
  exact ⟨hwritten, readAll_truncated hlo hhi (by decide) hwritten (by decide : 22 ≤ 100)⟩

end RawSegmentReader

end Marketfeed
