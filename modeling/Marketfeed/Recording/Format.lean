import Marketfeed.Adapter.Session
import Marketfeed.Lib.Octets

/-!
# Raw segments

Model of `crates/recording/src/{format,crc32c,writer,reader}.rs`: the MFR1 segment, a header
followed by length-prefixed records, all little-endian, each payload guarded by its CRC-32C.

The writer's `started` flag is true in every writer that exists and is left out.
-/

namespace Marketfeed

inductive RecordingError
  | io (detail : String)
  | badMagic
  | unsupportedVersion (version : Nat)
  | truncated
  | crcMismatch
  | invalidHeader
  | metadataConflict (key : String)
  | invalidControlCommand (detail : String)
  | recordTooLarge (recordLen max : Nat)
  | queueFull
  | unsupportedOverflow (detail : String)
  | shutdownTimeout (remaining : Nat)
  | normalizedBoundExceeded (kind : String) (limit : UInt64)
  | diskFull
deriving DecidableEq

/-! ## The layout -/

namespace Mfr1

def magic : Bytes := [0x4D, 0x46, 0x52, 0x31]

def formatVersion : Nat := 3

def minSupportedFormatVersion : Nat := 1

def maxRawRecordLen : Nat := 16 * 1024 * 1024

def rawHeaderBodyLen : Nat := 8 + 8 + 8 + 8 + 1 + 1 + 1 + 4 + 4

end Mfr1

inductive Direction
  | inbound
  | outbound
deriving DecidableEq

namespace Direction

/-- Source: the discriminants of `Direction` -/
def toU8 : Direction → UInt8
  | inbound => 0
  | outbound => 1

def fromU8 (v : UInt8) : Option Direction :=
  if v = 0 then some inbound else if v = 1 then some outbound else none

@[simp] lemma fromU8_toU8 (d : Direction) : fromU8 d.toU8 = some d := by cases d <;> rfl

end Direction

/-- Source: `FrameOpcode` of the recording crate -/
inductive RecOpcode
  | text
  | binary
  | ping
  | pong
  | close
  | httpResponse
  | metadata
  | subscriptionCommand
deriving DecidableEq

namespace RecOpcode

/-- Source: the discriminants of `FrameOpcode` -/
def toU8 : RecOpcode → UInt8
  | text => 1
  | binary => 2
  | ping => 3
  | pong => 4
  | close => 5
  | httpResponse => 6
  | metadata => 7
  | subscriptionCommand => 8

def fromU8ForVersion (v : UInt8) (version : Nat) : Option RecOpcode :=
  if v = 1 then some text
  else if v = 2 then some binary
  else if v = 3 then some ping
  else if v = 4 then some pong
  else if v = 5 then some close
  else if v = 6 ∧ version ≥ 2 then some httpResponse
  else if v = 7 ∧ version ≥ 2 then some metadata
  else if v = 8 ∧ version ≥ 3 then some subscriptionCommand
  else none

/-- The current version knows every opcode. -/
@[simp] lemma fromU8ForVersion_toU8 (o : RecOpcode) :
    fromU8ForVersion o.toU8 Mfr1.formatVersion = some o := by
  cases o <;> rfl

end RecOpcode

structure RawRecordHeader where
  recordLen : Nat
  session : SessionId
  frameSeq : UInt64
  receiveTsNs : Int
  monotonicNs : UInt64
  direction : Direction
  opcode : RecOpcode
  flags : UInt8
  payloadLen : Nat
  payloadCrc32c : UInt32
deriving DecidableEq

structure RawRecord where
  header : RawRecordHeader
  payload : Bytes
deriving DecidableEq

/-! ## The checksum -/

/-- Source: `POLY` -/
def crcPoly : UInt32 := 0x82F63B78

/-- Source: one round of the inner loop of `table` -/
def crcRound (crc : UInt32) : UInt32 :=
  if crc &&& 1 ≠ 0 then (crc >>> 1) ^^^ crcPoly else crc >>> 1

/-- Source: an entry of `table` -/
def crcTable (i : UInt32) : UInt32 := (List.range 8).foldl (fun crc _ => crcRound crc) i

def crc32c (data : Bytes) : UInt32 :=
  data.foldl (fun crc b => crcTable ((crc ^^^ b.toUInt32) &&& 0xFF) ^^^ (crc >>> 8)) 0xFFFFFFFF
    ^^^ 0xFFFFFFFF

example : crc32c [0x31, 0x32, 0x33, 0x34, 0x35, 0x36, 0x37, 0x38, 0x39] = 0xE3069283 := by
  decide +kernel

/-! ## The writer -/

/-- What a caller hands to the writer.
Source: the arguments of `write_record` -/
structure RawFrame where
  session : SessionId
  frameSeq : UInt64
  receiveTsNs : Int
  monotonicNs : UInt64
  direction : Direction
  opcode : RecOpcode
  flags : UInt8
  payload : Bytes
deriving DecidableEq

namespace RawFrame

/-- Source: `record_len` in `write_record` -/
def recordLen (f : RawFrame) : Nat := 4 + Mfr1.rawHeaderBodyLen + f.payload.length

/-- Source: the header built in `write_record` -/
def record (f : RawFrame) : RawRecord where
  header := ⟨f.recordLen, f.session, f.frameSeq, f.receiveTsNs, f.monotonicNs, f.direction,
    f.opcode, f.flags, f.payload.length, crc32c f.payload⟩
  payload := f.payload

end RawFrame

/-- The octets of a header after its length field.
Source: `write_header` -/
def RawRecordHeader.bodyBytes (h : RawRecordHeader) : Bytes :=
  leBytes 8 h.session.val.toNat ++ leBytes 8 h.frameSeq.toNat ++ leBytesInt 8 h.receiveTsNs ++
    leBytes 8 h.monotonicNs.toNat ++ [h.direction.toU8] ++ [h.opcode.toU8] ++ [h.flags] ++
    leBytes 4 h.payloadLen ++ leBytes 4 h.payloadCrc32c.toNat

/-- Source: `write_header` followed by the payload -/
def RawRecord.bytes (r : RawRecord) : Bytes :=
  leBytes 4 r.header.recordLen ++ (r.header.bodyBytes ++ r.payload)

/-- Source: `RawSegmentWriter` over an in-memory cursor -/
structure RawSegmentWriter where
  bytes : Bytes
  recordsWritten : Nat
deriving DecidableEq

namespace RawSegmentWriter

def create (startTsNs : Int) : RawSegmentWriter :=
  ⟨Mfr1.magic ++ leBytes 2 Mfr1.formatVersion ++ leBytesInt 8 startTsNs ++ leBytes 8 0, 0⟩

/-- One record is appended, or refused and nothing appended. -/
def writeRecord (w : RawSegmentWriter) (f : RawFrame) :
    RawSegmentWriter × Except RecordingError Unit :=
  if f.payload.length ≥ 2 ^ 32 ∨ f.recordLen ≥ 2 ^ 32 then (w, .error .invalidHeader)
  else if f.recordLen > Mfr1.maxRawRecordLen then
    (w, .error (.recordTooLarge f.recordLen Mfr1.maxRawRecordLen))
  else (⟨w.bytes ++ f.record.bytes, w.recordsWritten + 1⟩, .ok ())

end RawSegmentWriter

/-! ## The reader -/

/-- Source: `RawSegmentReader` over an in-memory cursor -/
structure RawSegmentReader where
  rest : Bytes
  formatVersion : Nat
  startTsNs : Int
  recordsRead : Nat
deriving DecidableEq

namespace RawSegmentReader

/-- A read that fails with the standard library's end-of-file message. -/
def readExact (count : Nat) (bytes : Bytes) : Except RecordingError (Bytes × Bytes) :=
  match splitExact count bytes with
  | some parts => .ok parts
  | none => .error (.io "failed to fill whole buffer")

/-- Source: `from_bytes`, `open` -/
def fromBytes (bytes : Bytes) : Except RecordingError RawSegmentReader := do
  let (magic, bytes) ← readExact 4 bytes
  if magic ≠ Mfr1.magic then .error .badMagic
  else
    let (version, bytes) ← readExact 2 bytes
    let version := leNat version
    if version < Mfr1.minSupportedFormatVersion ∨ Mfr1.formatVersion < version then
      .error (.unsupportedVersion version)
    else
      let (startTsNs, bytes) ← readExact 8 bytes
      let (_, bytes) ← readExact 8 bytes
      return ⟨bytes, version, leInt startTsNs, 0⟩

/-- The fields of a complete record.
Source: `read_record`, after `rest` was read -/
def parseRecord (version recordLen : Nat) (rest : Bytes) : Except RecordingError RawRecord :=
  match Direction.fromU8 (rest.getD 32 0), RecOpcode.fromU8ForVersion (rest.getD 33 0) version with
  | some direction, some opcode =>
    let payloadLen := leNat (slice rest 35 39)
    let crc := UInt32.ofNat (leNat (slice rest 39 43))
    let payload := rest.drop Mfr1.rawHeaderBodyLen
    if rest.length ≠ Mfr1.rawHeaderBodyLen + payloadLen then .error .invalidHeader
    else if crc32c payload ≠ crc then .error .crcMismatch
    else .ok ⟨⟨recordLen, ⟨UInt64.ofNat (leNat (slice rest 0 8))⟩,
      UInt64.ofNat (leNat (slice rest 8 16)), leInt (slice rest 16 24),
      UInt64.ofNat (leNat (slice rest 24 32)), direction, opcode, rest.getD 34 0, payloadLen,
      crc⟩, payload⟩
  | _, _ => .error .invalidHeader

def readRecord (r : RawSegmentReader) :
    RawSegmentReader × Except RecordingError (Option RawRecord) :=
  match splitExact 4 r.rest with
  | none => ({ r with rest := [] }, .ok none)
  | some (lenBuf, rest) =>
    let recordLen := leNat lenBuf
    if recordLen < 4 + Mfr1.rawHeaderBodyLen then ({ r with rest }, .error .invalidHeader)
    else if recordLen > Mfr1.maxRawRecordLen then
      ({ r with rest }, .error (.recordTooLarge recordLen Mfr1.maxRawRecordLen))
    else match splitExact (recordLen - 4) rest with
      | none => ({ r with rest := [] }, .error .truncated)
      | some (body, rest) =>
        match parseRecord r.formatVersion recordLen body with
        | .error e => ({ r with rest }, .error e)
        | .ok record => ({ r with rest, recordsRead := r.recordsRead + 1 }, .ok (some record))

/-- The loop of `read_all`, with a bound on the number of records. -/
def readRecords : Nat → RawSegmentReader → RawSegmentReader × Except RecordingError (List RawRecord)
  | 0, r => (r, .ok [])
  | fuel + 1, r =>
    match r.readRecord with
    | (r, .ok (some record)) =>
      let (r, records) := readRecords fuel r
      (r, records.map (record :: ·))
    | (r, .ok none) => (r, .ok [])
    | (r, .error .truncated) => (r, .ok [])
    | (r, .error e) => (r, .error e)

/-- Every record consumes input, so the input's length bounds their number. -/
def readAll (r : RawSegmentReader) : RawSegmentReader × Except RecordingError (List RawRecord) :=
  readRecords (r.rest.length + 1) r

end RawSegmentReader

/-! ## What was written is what is read -/

/-- A frame the writer accepts, with a time that is an `i64`. -/
structure RawFrame.Fits (f : RawFrame) : Prop where
  len : f.recordLen ≤ Mfr1.maxRawRecordLen
  lo : -(2 ^ 63) ≤ f.receiveTsNs
  hi : f.receiveTsNs < 2 ^ 63

variable {f : RawFrame}

lemma RawSegmentWriter.writeRecord_ok_iff {w w' : RawSegmentWriter} :
    w.writeRecord f = (w', .ok ()) ↔ f.recordLen ≤ Mfr1.maxRawRecordLen ∧
      w' = ⟨w.bytes ++ f.record.bytes, w.recordsWritten + 1⟩ := by
  have hpayload : f.payload.length ≤ f.recordLen := Nat.le_add_left _ _
  have hmax : Mfr1.maxRawRecordLen < 2 ^ 32 := by decide
  unfold writeRecord
  by_cases hlen : f.recordLen ≤ Mfr1.maxRawRecordLen
  · rw [if_neg (by omega), if_neg (by omega)]
    simp [hlen, eq_comm]
  · rw [if_pos (Nat.lt_of_not_le hlen)]
    split <;> simp [hlen]

/-- A frame that is too long leaves the segment as it was. -/
lemma RawSegmentWriter.writeRecord_too_long (w : RawSegmentWriter)
    (h : ¬ f.recordLen ≤ Mfr1.maxRawRecordLen) : ∃ e, w.writeRecord f = (w, .error e) := by
  unfold writeRecord
  split_ifs with hwide
  · exact ⟨_, rfl⟩
  · exact ⟨_, rfl⟩
  · omega

/-- Every field of a header is found at its offset. -/
lemma RawRecordHeader.slices (h : RawRecordHeader) (payload : Bytes) :
    slice (h.bodyBytes ++ payload) 0 8 = leBytes 8 h.session.val.toNat ∧
    slice (h.bodyBytes ++ payload) 8 16 = leBytes 8 h.frameSeq.toNat ∧
    slice (h.bodyBytes ++ payload) 16 24 = leBytesInt 8 h.receiveTsNs ∧
    slice (h.bodyBytes ++ payload) 24 32 = leBytes 8 h.monotonicNs.toNat ∧
    slice (h.bodyBytes ++ payload) 35 39 = leBytes 4 h.payloadLen ∧
    slice (h.bodyBytes ++ payload) 39 43 = leBytes 4 h.payloadCrc32c.toNat := by
  refine ⟨?_, ?_, ?_, ?_, ?_, ?_⟩ <;>
    simp [slice, bodyBytes, List.drop_append, List.drop_eq_nil_of_le]

/-- The three one-octet fields are found at their offsets. -/
lemma RawRecordHeader.octets (h : RawRecordHeader) (payload : Bytes) :
    (h.bodyBytes ++ payload).getD 32 0 = h.direction.toU8 ∧
    (h.bodyBytes ++ payload).getD 33 0 = h.opcode.toU8 ∧
    (h.bodyBytes ++ payload).getD 34 0 = h.flags := by
  refine ⟨?_, ?_, ?_⟩ <;> simp [bodyBytes, List.getElem?_append]

lemma RawRecordHeader.length_bodyBytes (h : RawRecordHeader) :
    h.bodyBytes.length = Mfr1.rawHeaderBodyLen := by
  simp [bodyBytes, Mfr1.rawHeaderBodyLen]

lemma RawFrame.length_bytes (f : RawFrame) : f.record.bytes.length = f.recordLen := by
  rw [RawRecord.bytes, List.length_append, length_leBytes, List.length_append,
    f.record.header.length_bodyBytes, recordLen]
  simp only [record]
  omega

/-- The length field of an accepted frame holds its length. -/
lemma RawFrame.Fits.leNat_recordLen (hf : f.Fits) :
    leNat (leBytes 4 f.recordLen) = f.recordLen := by
  apply leNat_leBytes
  have hmax := hf.len
  simp only [Mfr1.maxRawRecordLen] at hmax
  omega

namespace RawSegmentReader

variable {f : RawFrame}

lemma parseRecord_record (hf : f.Fits) :
    parseRecord Mfr1.formatVersion f.recordLen (f.record.header.bodyBytes ++ f.payload) =
      .ok f.record := by
  obtain ⟨hsession, hseq, hts, hmono, hlen, hcrc⟩ := f.record.header.slices f.payload
  obtain ⟨hdir, hop, hflags⟩ := f.record.header.octets f.payload
  have hbody := f.record.header.length_bodyBytes
  have hdrop : (f.record.header.bodyBytes ++ f.payload).drop Mfr1.rawHeaderBodyLen = f.payload :=
    List.drop_left' hbody
  have hpayload : leNat (leBytes 4 f.record.header.payloadLen) = f.payload.length := by
    apply leNat_leBytes
    have hmax := hf.len
    simp only [RawFrame.recordLen, Mfr1.maxRawRecordLen, Mfr1.rawHeaderBodyLen] at hmax
    simp only [RawFrame.record]
    omega
  have htime : leInt (leBytesInt 8 f.record.header.receiveTsNs) = f.receiveTsNs := by
    have hlo := hf.lo
    have hhi := hf.hi
    apply leInt_leBytesInt <;> simp only [RawFrame.record] <;> omega
  unfold parseRecord
  simp only [hdir, hop, hflags, hsession, hseq, hts, hmono, hlen, hcrc, hdrop, hpayload, htime,
    Direction.fromU8_toU8, RecOpcode.fromU8ForVersion_toU8, ofNat_leNat_leBytes64,
    ofNat_leNat_leBytes32, List.length_append, hbody]
  simp [RawFrame.record]

/-- A whole record at the front is read, and nothing more. -/
lemma readRecord_bytes (hf : f.Fits) (tail : Bytes) (startTsNs : Int) (n : Nat) :
    readRecord ⟨f.record.bytes ++ tail, Mfr1.formatVersion, startTsNs, n⟩ =
      (⟨tail, Mfr1.formatVersion, startTsNs, n + 1⟩, .ok (some f.record)) := by
  have hmax := hf.len
  have hlen := hf.leNat_recordLen
  have hhead : splitExact 4 (f.record.bytes ++ tail) =
      some (leBytes 4 f.recordLen, (f.record.header.bodyBytes ++ f.payload) ++ tail) := by
    rw [RawRecord.bytes, List.append_assoc]
    exact splitExact_append (length_leBytes 4 _)
  have hbody : splitExact (f.recordLen - 4) ((f.record.header.bodyBytes ++ f.payload) ++ tail) =
      some (f.record.header.bodyBytes ++ f.payload, tail) := by
    apply splitExact_append
    rw [List.length_append, f.record.header.length_bodyBytes, RawFrame.recordLen]
    omega
  have hmin : ¬ f.recordLen < 4 + Mfr1.rawHeaderBodyLen := by rw [RawFrame.recordLen]; omega
  simp only [readRecord, hhead, hlen, hbody, if_neg hmin, if_neg (Nat.not_lt.mpr hmax),
    parseRecord_record hf]

/-- The octets of a list of frames, one record after the other. -/
def frameBytes (frames : List RawFrame) : Bytes := frames.flatMap fun f => f.record.bytes

lemma fromBytes_create {startTsNs : Int} (hlo : -(2 ^ 63) ≤ startTsNs) (hhi : startTsNs < 2 ^ 63)
    (tail : Bytes) :
    fromBytes ((RawSegmentWriter.create startTsNs).bytes ++ tail) =
      .ok ⟨tail, Mfr1.formatVersion, startTsNs, 0⟩ := by
  have htime : leInt (leBytesInt 8 startTsNs) = startTsNs := by
    apply leInt_leBytesInt <;> omega
  have hversion : leNat (leBytes 2 Mfr1.formatVersion) = Mfr1.formatVersion := by decide
  simp only [RawSegmentWriter.create, List.append_assoc, fromBytes, readExact]
  rw [splitExact_append (by decide : Mfr1.magic.length = 4)]
  simp only [bind, Except.bind, ne_eq, not_true_eq_false, if_false]
  rw [splitExact_append (length_leBytes 2 _)]
  simp only [hversion, lt_irrefl, or_false, if_neg (by decide : ¬ Mfr1.formatVersion < Mfr1.minSupportedFormatVersion)]
  rw [splitExact_append (length_leBytesInt 8 _)]
  simp only []
  rw [splitExact_append (length_leBytes 8 _)]
  simp only [htime]
  rfl

end RawSegmentReader

end Marketfeed
