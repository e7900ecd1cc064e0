import Marketfeed.Dispatch.Queue
import Marketfeed.Lib.Effect
import Marketfeed.Recording.Payload
import Marketfeed.Recording.Recovery

/-!
# The recording pipeline

Model of `crates/recording/src/pipeline.rs` and `crates/recording/src/queue.rs`. Frames wait in a
bounded queue; a flush takes them out one by one and writes them to the open segment, which is closed
when it has grown too large or too old. A fresh segment starts with all metadata registered so far.

File operations succeed. What the outside decides is an argument: what a free-space probe reads
(`none` when it is not consulted or has no answer), and how long the open segment has been open.

* **Metadata.** What a metadata record says is a parameter, as is its JSON text; its key and its
  session are the source's.
-/

namespace Marketfeed

/-! ## Metadata records -/

/-- Source: `metadata.rs` `MetadataRecord` -/
inductive MetadataRecord (μ : Type)
  | build (contents : μ)
  | session (sessionId : UInt64) (contents : μ)
deriving DecidableEq

namespace MetadataRecord

variable {μ : Type}

def sessionId : MetadataRecord μ → SessionId
  | .build _ => ⟨0⟩
  | .session sessionId _ => ⟨sessionId⟩

def stableKey : MetadataRecord μ → String
  | .build _ => "build"
  | .session sessionId _ => s!"session:{sessionId}"

end MetadataRecord

/-- The JSON text of a metadata record.
Source: `serde_json::to_vec` in `encode_metadata` -/
structure MetadataCodec (μ : Type) where
  toVec : MetadataRecord μ → Option Bytes

variable {μ : Type}

def encodeMetadata (C : MetadataCodec μ) (metadata : MetadataRecord μ) :
    Except RecordingError Bytes :=
  match C.toVec metadata with
  | none => .error .invalidHeader
  | some bytes =>
    if bytes.length > maxMetadataBytes then
      .error (.recordTooLarge (min bytes.length HttpPayload.u32Max) maxMetadataBytes)
    else .ok bytes

/-- The record that carries a metadata record.
Source: the arguments of `write_record` in `write_metadata` -/
def metadataFrame (startTsNs : Int) (metadata : MetadataRecord μ) (payload : Bytes) : RawFrame where
  session := metadata.sessionId
  frameSeq := 0
  receiveTsNs := startTsNs
  monotonicNs := 0
  direction := .inbound
  opcode := .metadata
  flags := 0
  payload := payload

def RawSegmentWriter.writeMetadata (C : MetadataCodec μ) (w : RawSegmentWriter)
    (metadata : MetadataRecord μ) (startTsNs : Int) :
    RawSegmentWriter × Except RecordingError Unit :=
  match encodeMetadata C metadata with
  | .error e => (w, .error e)
  | .ok payload => w.writeRecord (metadataFrame startTsNs metadata payload)

/-! ## The queue -/

/-- The same bounded queue as a dispatch lane's; only its answers to a full queue differ. -/
abbrev RecordingQueue := BoundedQueue RawFrame

namespace RecordingQueue

/-- The errors of a full queue. -/
def overflowError : DispatchError → RecordingError
  | .failEngine => .queueFull
  | .deadlineExceeded => .unsupportedOverflow OverflowPolicy.blockWithDeadline.debug
  | .unsupportedPolicy policy => .unsupportedOverflow policy.debug

def push (q : RecordingQueue) (frame : RawFrame) :
    RecordingQueue × Except RecordingError PushOutcome :=
  let (q, outcome) := q.tryPush frame
  (q, outcome.mapError overflowError)

def drainFront (q : RecordingQueue) (max : Nat) : List RawFrame × RecordingQueue :=
  (q.items.take max,
    { q with
      items := q.items.drop max
      length_le := by
        have hle := q.length_le
        rw [List.length_drop]
        omega })

def overflowEvents (outcome : PushOutcome) (droppedTotal : Nat) : List SystemEvent :=
  match outcome with
  | .accepted => []
  | .droppedNewest | .droppedOldest _ =>
    [.queuePressure "recording queue full",
      .eventsDropped 1 s!"recording_queue dropped_total={droppedTotal}"]

end RecordingQueue

/-! ## The pipeline -/

/-- Source: `RotationConfig`, `PipelineConfig` without its directory -/
structure PipelineConfig where
  queueCapacity : Nat
  overflow : OverflowPolicy
  maxBytes : Nat
  maxDurationNs : Nat
  minFreeBytes : Nat
deriving DecidableEq

structure RecordingPipeline (μ : Type) where
  cfg : PipelineConfig
  queue : RecordingQueue
  writer : Option RawSegmentWriter
  currentStartTsNs : Option Int
  segmentBytes : Nat
  diskPressureActive : Bool
  systemEvents : List SystemEvent
  recordsWritten : Nat
  segmentsOpened : Nat
  rotations : Nat
  metadata : List (MetadataRecord μ)
  closed : List Bytes

/-- What the outside answers while one frame is written: the two readings of the free-space probe and
how long the segment has been open. -/
structure WriteTick where
  before : Option Nat
  within : Option Nat
  elapsedNs : Nat
deriving DecidableEq

/-- A method of the pipeline that may fail. -/
abbrev PipelineM (μ : Type) := EStateM RecordingError (RecordingPipeline μ)

namespace RecordingPipeline

/-- Source: `validate_metadata_registry`, with the keys seen so far -/
def validateMetadataRegistry (C : MetadataCodec μ) :
    List (MetadataRecord μ) → List String → Except RecordingError Unit
  | [], _ => .ok ()
  | record :: records, keys => do
    let _ ← encodeMetadata C record
    if record.stableKey ∈ keys then .error .invalidHeader
    else validateMetadataRegistry C records (record.stableKey :: keys)

variable (C : MetadataCodec μ)

def openWithMetadata (cfg : PipelineConfig) (metadata : List (MetadataRecord μ)) :
    Except RecordingError (RecordingPipeline μ) :=
  if h : 0 < cfg.queueCapacity then do
    validateMetadataRegistry C metadata []
    return {
      cfg
      queue := .new cfg.queueCapacity h cfg.overflow
      writer := none
      currentStartTsNs := none
      segmentBytes := 0
      diskPressureActive := false
      systemEvents := []
      recordsWritten := 0
      segmentsOpened := 0
      rotations := 0
      metadata
      closed := [] }
  else .error (.io "queue_capacity must be > 0")

def refreshDiskPressure (reading : Option Nat) : PipelineM μ Unit := do
  let p ← get
  if p.cfg.minFreeBytes = 0 then return
  else match reading with
    | none => return
    | some free =>
      if free < p.cfg.minFreeBytes then
        if p.diskPressureActive then return
        else set { p with
          diskPressureActive := true
          systemEvents := p.systemEvents ++ [SystemEvent.diskPressure] }
      else if p.diskPressureActive then
        set { p with
          diskPressureActive := false
          systemEvents := p.systemEvents ++ [SystemEvent.sinkStateChanged "disk_ok"] }
      else return

def failClosedIfDiskFull : PipelineM μ Unit := do
  let p ← get
  if p.diskPressureActive ∧ p.cfg.overflow = .failEngine then throw .diskFull else return

def enqueue (reading : Option Nat) (frame : RawFrame) : PipelineM μ PushOutcome := do
  refreshDiskPressure reading
  failClosedIfDiskFull
  let p ← get
  match p.queue.push frame with
  | (_, .error e) => throw e
  | (queue, .ok outcome) =>
    set { p with
      queue
      systemEvents := p.systemEvents ++
        RecordingQueue.overflowEvents outcome queue.droppedTotal }
    return outcome

/-- The metadata at the head of a fresh segment, with the number of octets written.
Source: the loop of `open_segment` -/
def writeHead (C : MetadataCodec μ) (startTsNs : Int) :
    List (MetadataRecord μ) → RawSegmentWriter → Nat →
      Except RecordingError (RawSegmentWriter × Nat)
  | [], w, segmentBytes => .ok (w, segmentBytes)
  | record :: records, w, segmentBytes => do
    let encoded ← encodeMetadata C record
    match w.writeMetadata C record startTsNs with
    | (_, .error e) => .error e
    | (w, .ok ()) =>
      writeHead C startTsNs records w
        (segmentBytes + (4 + Mfr1.rawHeaderBodyLen + encoded.length))

def openSegment (startTsNs : Int) : PipelineM μ Unit := do
  let p ← get
  match writeHead C startTsNs p.metadata (.create startTsNs) Mfr1.headerSize with
  | .error e => throw e
  | .ok (w, segmentBytes) =>
    set { p with
      writer := some w
      currentStartTsNs := some startTsNs
      segmentBytes
      segmentsOpened := p.segmentsOpened + 1 }

def closeSegment : PipelineM μ Unit :=
  modify fun p => { p with
    closed := p.closed ++ (p.writer.map RawSegmentWriter.bytes).toList
    writer := none
    currentStartTsNs := none
    segmentBytes := 0 }

/-- Closing a segment to start another.
Source: the rotations of `rotate_now` and `write_frame` -/
def rotate : PipelineM μ Unit := do
  closeSegment
  modify fun p => { p with
    rotations := p.rotations + 1
    systemEvents := p.systemEvents ++ [.recordingRotated] }

def rotateNow (startTsNs : Int) : PipelineM μ Unit := do
  let p ← get
  if p.writer.isSome then rotate
  openSegment C startTsNs

def ensureSegment (startTsNs : Int) : PipelineM μ Unit := do
  let p ← get
  if p.writer.isNone then openSegment C startTsNs

def shouldRotateBeforeWrite (p : RecordingPipeline μ) (elapsedNs : Nat) : Bool :=
  p.cfg.maxDurationNs ≠ 0 ∧ p.cfg.maxDurationNs ≤ elapsedNs ∧ p.writer.isSome

def shouldRotateAfterWrite (p : RecordingPipeline μ) : Bool :=
  0 < p.cfg.maxBytes ∧ p.cfg.maxBytes ≤ p.segmentBytes ∧ p.writer.isSome

/-- Source: the call of `write_record` in `write_frame`, with its counters -/
def writeOpen (frame : RawFrame) : PipelineM μ Unit := do
  let p ← get
  match p.writer with
  | none => throw (.io "no open segment")
  | some w =>
    match w.writeRecord frame with
    | (_, .error e) => throw e
    | (w, .ok ()) =>
      set { p with
        writer := some w
        segmentBytes := p.segmentBytes + (4 + Mfr1.rawHeaderBodyLen + frame.payload.length)
        recordsWritten := p.recordsWritten + 1 }

/-- Source: the rotation before the write in `write_frame` -/
def rotateIfOld (startTsNs : Int) (elapsedNs : Nat) : PipelineM μ Unit := do
  let p ← get
  if p.shouldRotateBeforeWrite elapsedNs then rotateNow C startTsNs

/-- Source: the rotation after the write in `write_frame` -/
def rotateIfLarge : PipelineM μ Unit := do
  let p ← get
  if p.shouldRotateAfterWrite then rotate

def writeFrame (tick : WriteTick) (frame : RawFrame) : PipelineM μ Unit := do
  refreshDiskPressure tick.within
  failClosedIfDiskFull
  ensureSegment C frame.receiveTsNs
  rotateIfOld C frame.receiveTsNs tick.elapsedNs
  writeOpen frame
  rotateIfLarge

def writePendingFrame (tick : WriteTick) (frame : RawFrame) :
    PipelineM μ Unit := do
  refreshDiskPressure tick.before
  failClosedIfDiskFull
  writeFrame C tick frame

/-- The loop of `flush_pending` after `n` writes, for at most `remaining` more. -/
def flushLoop (C : MetadataCodec μ) (ticks : Nat → WriteTick) : Nat → Nat → PipelineM μ Nat
  | 0, n => return n
  | remaining + 1, n => do
    refreshDiskPressure (ticks n).before
    failClosedIfDiskFull
    let p ← get
    match p.queue.items with
    | [] => return n
    | frame :: _ =>
      set { p with queue := p.queue.popFront }
      writeFrame C (ticks n) frame
      flushLoop C ticks remaining (n + 1)

def flushPending (ticks : Nat → WriteTick) (max : Nat) : PipelineM μ Nat :=
  flushLoop C ticks max 0

def registerMetadata [DecidableEq μ] (metadata : MetadataRecord μ) :
    PipelineM μ Unit := do
  let p ← get
  let key := metadata.stableKey
  match p.metadata.find? fun existing => existing.stableKey = key with
  | some existing => if existing = metadata then return else throw (.metadataConflict key)
  | none =>
    match encodeMetadata C metadata with
    | .error e => throw e
    | .ok encoded =>
      match p.writer with
      | none => set { p with metadata := p.metadata ++ [metadata] }
      | some w =>
        match w.writeMetadata C metadata (p.currentStartTsNs.getD 0) with
        | (_, .error e) => throw e
        | (w, .ok ()) =>
          set { p with
            writer := some w
            segmentBytes := p.segmentBytes + (4 + Mfr1.rawHeaderBodyLen + encoded.length)
            metadata := p.metadata ++ [metadata] }

end RecordingPipeline

end Marketfeed
