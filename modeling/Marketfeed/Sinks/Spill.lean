import Marketfeed.Lib.BufWriter
import Marketfeed.Lib.Octets
import Marketfeed.Sinks.Sink

/-!
# The spill log

Model of `crates/sinks/src/spill.rs`. The sink keeps items in memory; what does not fit is appended to
a log file of length-prefixed records. A sink that is opened on a file with records hands them out
again (`popRecovered`), and `checkpointRecovery` then replaces the file by one without them.

There is one file, at the path of the configuration. What the file system answers to an operation is
an input of the call. JSON is a parameter, of which only that it reads back what it writes is known.
-/

namespace Marketfeed

inductive SpillItem
  | batch (batch : EventBatch)
  | system (event : SystemEvent)
deriving DecidableEq

/-- `serde_json` on spill items: it reads back what it has written. -/
structure SpillJson where
  toVec : SpillItem → Except String Bytes
  fromSlice : Bytes → Except String SpillItem
  fromSlice_toVec : ∀ {item body}, toVec item = .ok body → fromSlice body = .ok item

/-- Source: `SpillWalConfig`; the zero values on which `open` panics cannot be given -/
structure SpillWalConfig where
  batchCapacity : Nat
  systemCapacity : Nat
  walLimitBytes : UInt64
  batch_pos : 0 < batchCapacity
  system_pos : 0 < systemCapacity
  limit_pos : 0 < walLimitBytes.toNat

/-- The kinds of `std::io::Error` that the log makes itself, and the others. -/
inductive IoErrorKind
  | invalidInput
  | invalidData
  | unexpectedEof
  | other
deriving DecidableEq

/-- An `std::io::Error`: its kind and its text. -/
structure IoError where
  kind : IoErrorKind
  text : String
deriving DecidableEq

namespace SpillWal

def tagBatch : UInt8 := 1

def tagSystem : UInt8 := 2

/-- Source: `WAL_MAGIC`, the text `MFSPILL2` and a line feed -/
def walMagic : Bytes := [0x4D, 0x46, 0x53, 0x50, 0x49, 0x4C, 0x4C, 0x32, 0x0A]

def maxRecordBytes : Nat := 64 * 1024 * 1024

def saturatingAdd (a b : Nat) : Nat := min (a + b) (2 ^ 64 - 1)

/-- Source: the capacity of `BufWriter::new` -/
def bufCapacity : Nat := 8 * 1024

end SpillWal

open SpillWal

/-! ## Reading the log -/

/-- The tag a record of the item has. -/
def SpillItem.tag : SpillItem → UInt8
  | .batch _ => tagBatch
  | .system _ => tagSystem

variable (J : SpillJson)

def decodeItem (tag : UInt8) (body : Bytes) : Except SinkError SpillItem :=
  match J.fromSlice body with
  | .error text => .error (.io text)
  | .ok item => if tag = item.tag then .ok item else .error (.io "spill record tag/body mismatch")

def validateRecordLen (bodyLen walLimitBytes : Nat) : Except IoError Unit :=
  let maximum := min (walLimitBytes - (walMagic.length + 5)) maxRecordBytes
  if maximum < bodyLen then
    .error ⟨.invalidData, s!"spill record body length {bodyLen} exceeds maximum {maximum}"⟩
  else .ok ()

/-- Source: the error of `Read::read_exact` at the end of the file -/
def eofError : IoError := ⟨.unexpectedEof, "failed to fill whole buffer"⟩

/-- The error of a record that is complete and does not decode. -/
def invalidRecord (recordStart : Nat) (e : SinkError) : IoError :=
  ⟨.invalidData, s!"invalid spill record at offset {recordStart}: " ++ e.display⟩

def readMagic (file : Bytes) : Except IoError Bytes :=
  match splitExact walMagic.length file with
  | none => .error ⟨.invalidData, "spill WAL is missing the MFSPILL2 header; MFSPILL1 metadata WALs " ++
      "are not replay-compatible with complete-event records; quarantine or migrate the file before " ++
      "startup"⟩
  | some (magic, rest) =>
    if magic = walMagic then .ok rest
    else .error ⟨.invalidData, "legacy or unknown spill WAL format; MFSPILL1 metadata WALs are not " ++
      "replay-compatible with MFSPILL2 complete-event records; quarantine or migrate the file " ++
      "before startup"⟩

/-- What is found where a record may start: nothing, an incomplete record, or the octets after the
record. -/
inductive ScanStep
  | done
  | torn
  | record (bodyLen : Nat) (rest : Bytes)
deriving DecidableEq

/-- Source: the loop of `scan_spill_file` after `validate_record_len` -/
def scanBody (fileLen recordStart : Nat) (tag : UInt8) (bodyLen : Nat) (rest : Bytes) :
    Except IoError ScanStep :=
  if 2 ^ 64 ≤ recordStart + 5 + bodyLen then
    .error ⟨.invalidData, "spill record length overflow"⟩
  else if fileLen < recordStart + 5 + bodyLen then .ok .torn
  else match splitExact bodyLen rest with
    | none => .error eofError
    | some (body, rest) =>
      match decodeItem J tag body with
      | .error e => .error (invalidRecord recordStart e)
      | .ok _ => .ok (.record bodyLen rest)

/-- Source: one round of the loop of `scan_spill_file` -/
def scanRecord (walLimitBytes fileLen recordStart : Nat) :
    Bytes → Except IoError ScanStep
  | [] => .ok .done
  | tag :: rest =>
    match splitExact 4 rest with
    | none => .ok .torn
    | some (length, rest) => do
      validateRecordLen (leNat length) walLimitBytes
      scanBody J fileLen recordStart tag (leNat length) rest

/-- The number of records, and where the file is cut if its last record is incomplete. A record takes
octets, so there are no more rounds than octets.
Source: the loop of `scan_spill_file` -/
def scanLoop (J : SpillJson) (walLimitBytes fileLen : Nat) :
    (rounds recordStart recordCount : Nat) → Bytes → Except IoError (Nat × Option Nat)
  | 0, _, recordCount, _ => .ok (recordCount, none)
  | rounds + 1, recordStart, recordCount, rest => do
    match ← scanRecord J walLimitBytes fileLen recordStart rest with
    | .done => .ok (recordCount, none)
    | .torn => .ok (recordCount, some recordStart)
    | .record bodyLen rest =>
      if recordCount + 1 < 2 ^ 64 then
        scanLoop J walLimitBytes fileLen rounds (recordStart + 5 + bodyLen) (recordCount + 1) rest
      else .error ⟨.invalidData, "spill record count exceeds usize::MAX"⟩

/-- The error of a file over the limit. -/
def overLimit (fileLen walLimitBytes : Nat) : IoError :=
  ⟨.invalidData, s!"spill WAL length {fileLen} exceeds configured limit {walLimitBytes}"⟩

/-- The number of records and the file that is left. -/
def scanSpillFile (file : Bytes) (walLimitBytes : Nat) :
    Except IoError (Nat × Bytes) := do
  if walLimitBytes < file.length then .error (overLimit file.length walLimitBytes)
  else
    let rest ← readMagic file
    let (recordCount, cut) ←
      scanLoop J walLimitBytes file.length rest.length walMagic.length 0 rest
    .ok (recordCount, match cut with
      | none => file
      | some recordStart => file.take recordStart)

def readOneItem (walLimitBytes : Nat) : Reader IoError (SpillItem × Nat) := do
  let tag ← takeExact eofError 1
  let length ← takeExact eofError 4
  let bodyLen := leNat length
  validateRecordLen bodyLen walLimitBytes
  let body ← takeExact eofError bodyLen
  match decodeItem J (tag.headD 0) body with
  | .error e => throw ⟨.invalidData, e.display⟩
  | .ok item => pure (item, 5 + bodyLen)

/-! ## The sink -/

/-- Source: `SpillWalSink`; of the writer its buffer, and `none` when it is closed -/
structure SpillWalSink where
  batches : List EventBatch
  systems : List SystemEvent
  batchCapacity : Nat
  systemCapacity : Nat
  writer : Option Bytes
  walLimitBytes : Nat
  walBytes : Nat
  spilledBatches : Nat
  spilledSystems : Nat
  pendingSystemEvents : List SystemEvent
  recoveredRemaining : Nat
  recoveryNextOffset : Nat
  recoveryPrefixBytes : Nat
deriving DecidableEq

/-- A sink and the file at its path. -/
structure Spilling where
  sink : SpillWalSink
  file : Bytes
deriving DecidableEq

/-- A sink on a log with so many records. -/
def SpillWalSink.opened (cfg : SpillWalConfig) (recordCount walBytes : Nat) : SpillWalSink where
  batches := []
  systems := []
  batchCapacity := cfg.batchCapacity
  systemCapacity := cfg.systemCapacity
  writer := some []
  walLimitBytes := cfg.walLimitBytes.toNat
  walBytes := walBytes
  spilledBatches := 0
  spilledSystems := 0
  pendingSystemEvents := []
  recoveredRemaining := recordCount
  recoveryNextOffset := walMagic.length
  recoveryPrefixBytes := if recordCount = 0 then walMagic.length else walBytes

/-- The file is created if there is none, and a new file gets its header.
Source: `SpillWalSink::open` -/
def openWal (cfg : SpillWalConfig) (onDisk : Option Bytes) : Except IoError Spilling :=
  let limit := cfg.walLimitBytes.toNat
  let file := onDisk.getD []
  if limit < walMagic.length then
    .error ⟨.invalidInput, s!"spill WAL limit {limit} is smaller than MFSPILL2 header"⟩
  else if limit < file.length then .error (overLimit file.length limit)
  else do
    let (recordCount, file) ← scanSpillFile J (if file.length = 0 then walMagic else file) limit
    .ok ⟨.opened cfg recordCount file.length, file⟩

/-- A call ends with an error of the sink, or it panics. -/
inductive SpillFault
  | sink (e : SinkError)
  | panic (message : String)
deriving DecidableEq

abbrev SpillM := EStateM SpillFault Spilling

namespace SpillWal

/-! ## Writing the log -/

/-- Change the sink. -/
def onSink (f : SpillWalSink → SpillWalSink) : SpillM Unit :=
  modify fun w => { w with sink := f w.sink }

def noteIo {α : Type} (e : IoError) : SpillM α := do
  onSink fun s => { s with
    pendingSystemEvents := s.pendingSystemEvents ++
      [.diskPressure, .eventsDropped 1 ("spill_wal io: " ++ e.text)] }
  throw (.sink .failEngine)

def noteWalExhausted (count : Nat) : SpillM Unit :=
  onSink fun s => { s with
    pendingSystemEvents := s.pendingSystemEvents ++
      [.diskPressure, .eventsDropped count ("spill_wal limit reached wal_bytes=" ++
        toString s.walBytes ++ " limit=" ++ toString s.walLimitBytes)] }

/-- An operation that may fail, with its failure noted. -/
def asked : Option IoError → SpillM Unit
  | none => pure ()
  | some e => noteIo e

/-- The sink with this writer, on this file. -/
def writtenBy (w : Spilling) (b : BufWriter) : Spilling :=
  ⟨{ w.sink with writer := some b.buffer }, b.file⟩

/-- An operation of the writer on the file, with its failure noted. -/
def onWriter (op : EStateM IoError BufWriter Unit) : SpillM Unit := do
  let w ← get
  match w.sink.writer with
  | none => throw (.panic "spill WAL writer must be open outside checkpoint replacement")
  | some buffer =>
    match op.run ⟨buffer, w.file⟩ with
    | .ok _ b => set (writtenBy w b)
    | .error e b => do
      set (writtenBy w b)
      noteIo e

/-- What the file system answers to the writes of one record. -/
structure SpillAnswers where
  tag : BufWriter.WriteAnswers IoError
  length : BufWriter.WriteAnswers IoError
  body : BufWriter.WriteAnswers IoError
  flush : Option (ShortWrite IoError)
deriving DecidableEq

/-- Every write succeeds. -/
def SpillAnswers.clear : SpillAnswers := ⟨⟨none, none⟩, ⟨none, none⟩, ⟨none, none⟩, none⟩

/-- The octets of a record. -/
def frame (tag : UInt8) (body : Bytes) : Bytes := [tag] ++ leBytes 4 body.length ++ body

/-- Source: the writes of `spill_record` -/
def writeFrame (tag : UInt8) (body : Bytes) (answers : SpillAnswers) :
    EStateM IoError BufWriter Unit := do
  BufWriter.writeAll bufCapacity [tag] answers.tag
  BufWriter.writeAll bufCapacity (leBytes 4 body.length) answers.length
  BufWriter.writeAll bufCapacity body answers.body
  BufWriter.flush answers.flush

variable (s : SpillWalSink)

/-- The writer's own rule for the length of a record.
Source: the second `if` of `spill_record` -/
def Admits (body : Bytes) : Prop :=
  saturatingAdd s.walBytes (1 + 4 + body.length) ≤ s.walLimitBytes

instance (body : Bytes) : Decidable (Admits s body) :=
  inferInstanceAs (Decidable (_ ≤ _))

/-- The writer, with its own rule for what it admits. -/
def spillRecord (tag : UInt8) (body : Bytes) (answers : SpillAnswers) : SpillM Unit := do
  let w ← get
  if 2 ^ 32 ≤ body.length then throw (.sink (.io "spill record exceeds u32::MAX"))
  else if Admits w.sink body then do
    onWriter (writeFrame tag body answers)
    onSink fun s => { s with walBytes := saturatingAdd s.walBytes (1 + 4 + body.length) }
  else do
    noteWalExhausted 1
    throw (.sink .failEngine)

variable (J : SpillJson)

/-- Source: `spill_batch` and `spill_system`, which count their own items -/
def spillItem (item : SpillItem) (count : SpillWalSink → SpillWalSink) (answers : SpillAnswers) :
    SpillM Unit :=
  match J.toVec item with
  | .error text => throw (.sink (.io text))
  | .ok body => do
    spillRecord item.tag body answers
    onSink count

def spillBatch (batch : EventBatch) (answers : SpillAnswers) : SpillM Unit :=
  spillItem J (.batch batch) (fun s => { s with spilledBatches := s.spilledBatches + 1 }) answers

def spillSystem (event : SystemEvent) (answers : SpillAnswers) : SpillM Unit :=
  spillItem J (.system event) (fun s => { s with spilledSystems := s.spilledSystems + 1 }) answers

/-- Into memory if there is room, otherwise onto the log.
Source: `EventSink::push_batch` and `EventSink::push_system` -/
def pushItem (hasRoom : SpillWalSink → Bool) (store : SpillWalSink → SpillWalSink)
    (spill : SpillM Unit) : SpillM PushOutcome := do
  let w ← get
  if hasRoom w.sink then do
    onSink store
    return .accepted
  else do
    spill
    return .accepted

def batchRoom : Bool := s.batches.length < s.batchCapacity

def systemRoom : Bool := s.systems.length < s.systemCapacity

def pushBatch (batch : EventBatch) (answers : SpillAnswers) : SpillM PushOutcome :=
  pushItem batchRoom (fun s => { s with batches := s.batches ++ [batch] }) (spillBatch J batch answers)

def pushSystem (event : SystemEvent) (answers : SpillAnswers) : SpillM PushOutcome :=
  pushItem systemRoom (fun s => { s with systems := s.systems ++ [event] })
    (spillSystem J event answers)

def popBatch : SpillM (Option EventBatch) := do
  let w ← get
  onSink fun s => { s with batches := s.batches.tail }
  return w.sink.batches.head?

def popSystem : SpillM (Option SystemEvent) := do
  let w ← get
  onSink fun s => { s with systems := s.systems.tail }
  return w.sink.systems.head?

/-! ## Recovery -/

/-- What the file system answers to a read of one record. -/
structure ReadAnswers where
  openFile : Option IoError
  seek : Option IoError
  read : Option IoError
deriving DecidableEq

def ReadAnswers.clear : ReadAnswers := ⟨none, none, none⟩

/-- The record at an offset of the file. -/
def readAt (w : Spilling) (read : Option IoError) : Except IoError (SpillItem × Nat) :=
  match read with
  | some e => .error e
  | none => (readOneItem J w.sink.walLimitBytes (w.file.drop w.sink.recoveryNextOffset)).map Prod.fst

/-- The error of a recovered record that cannot be read. -/
def unreadable (offset : Nat) (e : IoError) : SpillFault :=
  .sink (.io (s!"read recovered spill record at offset {offset}: " ++ e.text))

def popRecovered (answers : ReadAnswers) : SpillM (Option SpillItem) := do
  let w ← get
  if w.sink.recoveredRemaining = 0 then return none
  else match answers.openFile, answers.seek, readAt J w answers.read with
    | some e, _, _ | none, some e, _ => throw (.sink (.io e.text))
    | none, none, .error e => throw (unreadable w.sink.recoveryNextOffset e)
    | none, none, .ok (item, recordLen) => do
      onSink fun s => { s with
        recoveryNextOffset := saturatingAdd s.recoveryNextOffset recordLen
        recoveredRemaining := s.recoveredRemaining - 1 }
      return some item

/-- What the file system answers to the operations of a checkpoint. The parent of a bare file name is
the empty path, of which `syncParent` always fails. -/
structure CheckpointAnswers where
  flush : Option (ShortWrite IoError)
  syncData : Option IoError
  openSource : Option IoError
  metadata : Option IoError
  seek : Option IoError
  newTemp : Option IoError
  writeMagic : Option IoError
  copy : Option IoError
  syncTemp : Option IoError
  persist : Option IoError
  syncParent : Option IoError
  reopen : Option IoError
deriving DecidableEq

def CheckpointAnswers.clear : CheckpointAnswers :=
  ⟨none, none, none, none, none, none, none, none, none, none, none, none⟩

/-- The file without its recovered prefix, in a temporary file, and the length of what is kept.
Source: `checkpoint_recovery` from `File::open` to `sync_all` -/
def copyTail (answers : CheckpointAnswers) : SpillM (Bytes × Nat) := do
  asked answers.openSource
  asked answers.metadata
  let w ← get
  if w.file.length < w.sink.recoveryPrefixBytes then
    noteIo ⟨.unexpectedEof, "spill WAL shortened before recovery checkpoint"⟩
  else do
    asked answers.seek
    asked answers.newTemp
    asked answers.writeMagic
    asked answers.copy
    asked answers.syncTemp
    return (walMagic ++ w.file.drop w.sink.recoveryPrefixBytes,
      w.file.length - w.sink.recoveryPrefixBytes)

/-- The file and what the replacement answers: the old file if it fails.
Source: `checkpoint_result` -/
def persisted (answers : CheckpointAnswers) (temp file : Bytes) : Bytes × Option IoError :=
  match answers.persist with
  | some e => (file, some e)
  | none => (temp, answers.syncParent)

/-- The error of a failed checkpoint whose log cannot be reopened either. -/
def bothFailed (checkpoint reopen : IoError) : IoError :=
  ⟨reopen.kind, "spill WAL checkpoint failed: " ++ checkpoint.text ++ "; reopening WAL failed: " ++
    reopen.text⟩

/-- The writer is closed, the file replaced, and the writer opened again. The closed writer had been
flushed.
Source: `checkpoint_recovery` from `drop(self.writer.take())` on -/
def replaceWal (answers : CheckpointAnswers) (temp : Bytes) (tailLen : Nat) : SpillM Unit := do
  let w ← get
  let (file, checkpointResult) := persisted answers temp w.file
  set (Spilling.mk { w.sink with writer := answers.reopen.elim (some []) fun _ => none } file)
  match checkpointResult, answers.reopen with
  | none, none =>
    onSink fun s => { s with
      walBytes := walMagic.length + tailLen
      recoveryPrefixBytes := walMagic.length
      recoveryNextOffset := walMagic.length }
  | some e, none => noteIo e
  | none, some e => noteIo e
  | some e, some e' => noteIo (bothFailed e e')

def checkpointRecovery (answers : CheckpointAnswers) : SpillM Unit := do
  let w ← get
  if w.sink.recoveredRemaining ≠ 0 then
    throw (.sink (.io "cannot checkpoint spill WAL with unprocessed recovered records"))
  else if w.sink.recoveryPrefixBytes = walMagic.length then pure ()
  else do
    onWriter (BufWriter.flush answers.flush)
    asked answers.syncData
    let (temp, tailLen) ← copyTail answers
    replaceWal answers temp tailLen

/-! ## Runs -/

/-- One call on the sink, with what the file system answers. -/
inductive SpillCall
  | pushBatch (batch : EventBatch) (answers : SpillAnswers)
  | pushSystem (event : SystemEvent) (answers : SpillAnswers)
  | popBatch
  | popSystem
  | popRecovered (answers : ReadAnswers)
  | checkpointRecovery (answers : CheckpointAnswers)

/-- What happens to the log: an item is accepted by spilling it, with this body, or a checkpoint is
completed. -/
inductive SpillEvent
  | spilled (item : SpillItem) (body : Bytes)
  | checkpointed
deriving DecidableEq

/-- The item a call has accepted by spilling it. -/
def spilledBy {α : Type} (item : SpillItem) (call : SpillM α) (w : Spilling) : List SpillEvent :=
  match J.toVec item with
  | .error _ => []
  | .ok body => if completes call w then [.spilled item body] else []

/-- One call, with what it does to the log. -/
def step (w : Spilling) : SpillCall → Spilling × List SpillEvent
  | .pushBatch batch answers =>
    (endState (pushBatch J batch answers) w,
      if batchRoom w.sink then [] else spilledBy J (.batch batch) (pushBatch J batch answers) w)
  | .pushSystem event answers =>
    (endState (pushSystem J event answers) w,
      if systemRoom w.sink then [] else spilledBy J (.system event) (pushSystem J event answers) w)
  | .popBatch => (endState popBatch w, [])
  | .popSystem => (endState popSystem w, [])
  | .popRecovered answers => (endState (popRecovered J answers) w, [])
  | .checkpointRecovery answers =>
    (endState (checkpointRecovery answers) w,
      if completes (checkpointRecovery answers) w then [.checkpointed] else [])

/-! ## What a call does to the log -/

/-- What of a sink is about the log. -/
structure LogState where
  writer : Option Bytes
  walLimitBytes : Nat
  walBytes : Nat
  recoveredRemaining : Nat
  recoveryNextOffset : Nat
  recoveryPrefixBytes : Nat

def logState : LogState where
  writer := s.writer
  walLimitBytes := s.walLimitBytes
  walBytes := s.walBytes
  recoveredRemaining := s.recoveredRemaining
  recoveryNextOffset := s.recoveryNextOffset
  recoveryPrefixBytes := s.recoveryPrefixBytes

/-- Neither the file nor what the sink knows of it has changed. -/
def SameLog (w w' : Spilling) : Prop := w'.file = w.file ∧ logState w'.sink = logState w.sink

instance : Std.Refl SameLog := ⟨fun _ => ⟨rfl, rfl⟩⟩

/-- The file has only grown, and only the writer's buffer may have changed of the rest. -/
structure Grown (w w' : Spilling) : Prop where
  file : w.file <+: w'.file
  prefixBytes : w'.sink.recoveryPrefixBytes = w.sink.recoveryPrefixBytes
  writer : w'.sink.writer.isSome → w.sink.writer.isSome

instance : Std.Refl Grown := ⟨fun _ => ⟨List.prefix_refl _, rfl, id⟩⟩

instance : IsTrans Spilling Grown :=
  ⟨fun _ _ _ h h' =>
    ⟨h.file.trans h'.file, h'.prefixBytes.trans h.prefixBytes, fun hw => h.writer (h'.writer hw)⟩⟩

variable {w : Spilling}

lemma SameLog.grown {w' : Spilling} (h : SameLog w w') : Grown w w' where
  file := h.1 ▸ List.prefix_refl _
  prefixBytes := congrArg LogState.recoveryPrefixBytes h.2
  writer := (congrArg (·.writer.isSome) h.2).mp

lemma sameLog_onSink {f : SpillWalSink → SpillWalSink} (h : ∀ s, logState (f s) = logState s) :
    Keeps SameLog (onSink f) :=
  Keeps.modify fun w => ⟨rfl, h w.sink⟩

section Write

variable {w : Spilling} {buffer : Bytes}

lemma ends_onWriter {op : EStateM IoError BufWriter Unit} {Q : Unit → BufWriter → Prop}
    {E : IoError → BufWriter → Prop} (hw : w.sink.writer = some buffer)
    (hop : Ends op ⟨buffer, w.file⟩ Q E) :
    Ends (onWriter op) w
      (fun _ w' => ∃ b, Q () b ∧ w' = writtenBy w b)
      (fun _ w' => ∃ e b, E e b ∧ SameLog (writtenBy w b) w') := by
  refine Ends.get ?_
  unfold Ends at hop
  rw [hw]
  dsimp only
  rcases hrun : op.run ⟨buffer, w.file⟩ with ⟨⟨⟩, b⟩ | ⟨e, b⟩
  · rw [hrun] at hop
    exact ⟨b, hop, rfl⟩
  · rw [hrun] at hop
    exact ⟨e, b, hop, rfl, rfl⟩

lemma run_onWriter_closed {op : EStateM IoError BufWriter Unit} (hw : w.sink.writer = none) :
    (onWriter op).run w =
      .error (.panic "spill WAL writer must be open outside checkpoint replacement") w := by
  rw [onWriter, run_get_seq, hw]
  rfl

/-- **A record is written** after what the buffer still holds, unless a write stops short. -/
theorem ends_writeFrame (tag : UInt8) (body : Bytes) (answers : SpillAnswers) (b : BufWriter) :
    Ends (writeFrame tag body answers) b
      (fun _ b' => b' = ⟨[], b.file ++ b.buffer ++ frame tag body⟩)
      (fun _ b' => b.file <+: b'.file ∧ answers ≠ .clear) := by
  have hcapacity : 0 < bufCapacity := by decide
  have hclear : answers = .clear → answers.tag.Clear ∧ answers.length.Clear ∧ answers.body.Clear ∧
      answers.flush = none := by
    rintro rfl
    exact ⟨⟨rfl, rfl⟩, ⟨rfl, rfl⟩, ⟨rfl, rfl⟩, rfl⟩
  refine ((BufWriter.ends_writeAll hcapacity [tag] answers.tag b).mono_error
    fun _ _ h => ⟨h.1, fun hc => h.2 (hclear hc).1⟩).seq ?_
  rintro ⟨⟩ b₁ ⟨hgrown₁, hfile₁⟩
  refine ((BufWriter.ends_writeAll hcapacity _ answers.length b₁).mono_error
    fun _ _ h => ⟨hgrown₁.trans h.1, fun hc => h.2 (hclear hc).2.1⟩).seq ?_
  rintro ⟨⟩ b₂ ⟨hgrown₂, hfile₂⟩
  refine ((BufWriter.ends_writeAll hcapacity body answers.body b₂).mono_error
    fun _ _ h => ⟨hgrown₁.trans (hgrown₂.trans h.1), fun hc => h.2 (hclear hc).2.2.1⟩).seq ?_
  rintro ⟨⟩ b₃ ⟨hgrown₃, hfile₃⟩
  refine (BufWriter.ends_flush answers.flush b₃).mono (fun _ b' h => ?_) fun _ b' h => ?_
  · rw [h, hfile₃, hfile₂, hfile₁, frame]
    simp only [List.append_assoc]
  · exact ⟨hgrown₁.trans (hgrown₂.trans (hgrown₃.trans h.1)), fun hc => h.2 (hclear hc).2.2.2⟩

/-- The item is on the log: its record follows what the file and the writer's buffer held. -/
structure Spilled (item : SpillItem) (body : Bytes) (w w' : Spilling) : Prop where
  short : body.length < 2 ^ 32
  admits : Admits w.sink body
  file : ∃ buffer, w.sink.writer = some buffer ∧
    w'.file = w.file ++ buffer ++ frame item.tag body
  log : logState w'.sink = { logState w.sink with
    writer := some []
    walBytes := saturatingAdd w.sink.walBytes (1 + 4 + body.length) }

/-- The item is not on the log. If the writer is open and every write succeeds, that is because its
record is not admitted. -/
structure Refused (J : SpillJson) (item : SpillItem) (answers : SpillAnswers) (w w' : Spilling) :
    Prop where
  grown : Grown w w'
  clear : answers = .clear → w.sink.writer.isSome → SameLog w w' ∧
    ∀ body, J.toVec item = .ok body → body.length < 2 ^ 32 → ¬Admits w.sink body

lemma ends_spillItem (J : SpillJson) (item : SpillItem) {count : SpillWalSink → SpillWalSink}
    (hcount : ∀ s, logState (count s) = logState s) (answers : SpillAnswers) (w : Spilling) :
    Ends (spillItem J item count answers) w
      (fun _ w' => ∃ body, J.toVec item = .ok body ∧ Spilled item body w w')
      (fun _ w' => Refused J item answers w w') := by
  unfold spillItem
  rcases hbody : J.toVec item with text | body
  · exact ⟨refl_of Grown w, fun _ _ => ⟨refl_of SameLog w, fun _ h => nomatch hbody.symm.trans h⟩⟩
  refine Ends.seq (P := fun _ => Spilled item body w) ?_ fun _ w' h => ?_
  · refine Ends.get ?_
    split_ifs with hlong hadmits
    · refine ⟨refl_of Grown w, fun _ _ => ⟨refl_of SameLog w, fun body' h hshort => ?_⟩⟩
      cases hbody.symm.trans h
      exact absurd hshort (by omega)
    · rcases hw : w.sink.writer with _ | buffer
      · rw [Ends, run_seq_of_error (run_onWriter_closed hw)]
        exact ⟨refl_of Grown w, fun _ hopen => by rw [hw] at hopen; cases hopen⟩
      · refine ((ends_onWriter hw (ends_writeFrame item.tag body answers _)).mono_error
          ?_).seq ?_
        · rintro _ w' ⟨e, b, ⟨hgrown, hfault⟩, hsame⟩
          refine ⟨trans_of Grown ?_ hsame.grown, fun hclear => absurd hclear hfault⟩
          exact ⟨hgrown, rfl, fun _ => by rw [hw]; rfl⟩
        · rintro ⟨⟩ w' ⟨b, rfl, rfl⟩
          exact ⟨by omega, hadmits, ⟨buffer, hw, rfl⟩, rfl⟩
    · have hsame : SameLog w (endState (noteWalExhausted 1) w) := sameLog_onSink (fun _ => rfl) w
      refine ⟨hsame.grown, fun _ _ => ⟨hsame, fun body' h _ => ?_⟩⟩
      cases hbody.symm.trans h
      exact hadmits
  · have hsame : SameLog w' (endState (onSink count) w') := sameLog_onSink hcount w'
    obtain ⟨buffer, hbuffer, hfile⟩ := h.file
    exact ⟨body, rfl, h.short, h.admits, ⟨buffer, hbuffer, hsame.1.trans hfile⟩,
      hsame.2.trans h.log⟩

end Write

/-- **What a push does**: the item is in memory, or on the log, or refused. -/
inductive Pushed (J : SpillJson) (item : SpillItem) (answers : SpillAnswers) (w : Spilling)
    (hasRoom : Bool) : Spilling × List SpillEvent → Prop
  | stored {w' : Spilling} (room : hasRoom = true) (same : SameLog w w') :
      Pushed J item answers w hasRoom (w', [])
  | spilled {w' : Spilling} {body : Bytes} (full : hasRoom = false) (encoded : J.toVec item = .ok body)
      (spilled : Spilled item body w w') :
      Pushed J item answers w hasRoom (w', [.spilled item body])
  | refused {w' : Spilling} (full : hasRoom = false) (refused : Refused J item answers w w') :
      Pushed J item answers w hasRoom (w', [])

lemma pushed_pushItem {hasRoom : SpillWalSink → Bool} {store count : SpillWalSink → SpillWalSink}
    (hstore : ∀ s, logState (store s) = logState s) (hcount : ∀ s, logState (count s) = logState s)
    (J : SpillJson) (item : SpillItem) (answers : SpillAnswers) (w : Spilling) :
    Pushed J item answers w (hasRoom w.sink)
      (endState (pushItem hasRoom store (spillItem J item count answers)) w,
        if hasRoom w.sink then []
        else spilledBy J item (pushItem hasRoom store (spillItem J item count answers)) w) := by
  rcases hroom : hasRoom w.sink with _ | _
  · have hrun : (pushItem hasRoom store (spillItem J item count answers)).run w =
        (spillItem J item count answers >>= fun _ => pure PushOutcome.accepted).run w := by
      rw [pushItem, run_get_seq, hroom]
      rfl
    have hends := ends_spillItem J item hcount answers w
    rw [endState, spilledBy, completes, hrun]
    rcases hspill : (spillItem J item count answers).run w with ⟨⟨⟩, w'⟩ | ⟨e, w'⟩
    · rw [run_seq_of_ok hspill]
      rw [Ends, hspill] at hends
      obtain ⟨body, hbody, hspilled⟩ := hends
      rw [hbody]
      exact .spilled rfl hbody hspilled
    · rw [run_seq_of_error hspill]
      rw [Ends, hspill] at hends
      rcases J.toVec item <;> exact .refused rfl hends
  · refine .stored rfl ?_
    rw [pushItem, endState_get_seq, hroom]
    exact ⟨rfl, hstore w.sink⟩

lemma pushed_batch (batch : EventBatch) (answers : SpillAnswers) (w : Spilling) :
    Pushed J (.batch batch) answers w (batchRoom w.sink) (step J w (.pushBatch batch answers)) := by
  refine pushed_pushItem ?_ ?_ J _ answers w <;> exact fun _ => rfl

lemma pushed_system (event : SystemEvent) (answers : SpillAnswers) (w : Spilling) :
    Pushed J (.system event) answers w (systemRoom w.sink) (step J w (.pushSystem event answers)) := by
  refine pushed_pushItem ?_ ?_ J _ answers w <;> exact fun _ => rfl

/-! ## What a checkpoint does -/

lemma ends_asked (answer : Option IoError) (w : Spilling) :
    Ends (asked answer) w (fun _ w' => w' = w) (fun _ w' => SameLog w w' ∧ answer ≠ none) := by
  cases answer with
  | none => exact rfl
  | some e => exact ⟨⟨rfl, rfl⟩, nofun⟩

/-- The file to put in place: the header and what follows the recovered prefix. -/
lemma ends_copyTail (answers : CheckpointAnswers) (w : Spilling) :
    Ends (copyTail answers) w
      (fun copied w' => w' = w ∧ w.sink.recoveryPrefixBytes ≤ w.file.length ∧
        copied = (walMagic ++ w.file.drop w.sink.recoveryPrefixBytes,
          w.file.length - w.sink.recoveryPrefixBytes))
      (fun _ w' => SameLog w w' ∧
        (answers = .clear → w.file.length < w.sink.recoveryPrefixBytes)) := by
  -- An operation that fails is one that the file system answers with an error.
  have hask : ∀ {α : Type} (field : CheckpointAnswers → Option IoError) {m : SpillM α}
      {Q : α → Spilling → Prop}, field .clear = none →
      Ends m w Q (fun _ w' => SameLog w w' ∧
        (answers = .clear → w.file.length < w.sink.recoveryPrefixBytes)) →
      Ends (asked (field answers) >>= fun _ => m) w Q (fun _ w' => SameLog w w' ∧
        (answers = .clear → w.file.length < w.sink.recoveryPrefixBytes)) := by
    intro α field m Q hfield hm
    refine ((ends_asked (field answers) w).mono_error fun _ w' h => ?_).seq ?_
    · exact ⟨h.1, fun hclear => absurd (hclear ▸ hfield) h.2⟩
    · rintro _ _ rfl
      exact hm
  refine hask (·.openSource) rfl (hask (·.metadata) rfl (.get ?_))
  split_ifs with hshort
  · exact ⟨⟨rfl, rfl⟩, fun _ => hshort⟩
  · refine hask (·.seek) rfl (hask (·.newTemp) rfl (hask (·.writeMagic) rfl
      (hask (·.copy) rfl (hask (·.syncTemp) rfl ?_))))
    exact ⟨rfl, not_lt.mp hshort, rfl⟩

/-- The file is replaced: what the file and the writer's buffer held after the recovered prefix follows
the header. -/
def Replaced (w w' : Spilling) : Prop :=
  ∃ buffer, w.sink.writer = some buffer ∧
    w.sink.recoveryPrefixBytes ≤ (w.file ++ buffer).length ∧
    w'.file = walMagic ++ (w.file ++ buffer).drop w.sink.recoveryPrefixBytes

/-- **What a checkpoint does.** It is refused while there are records to recover; it has nothing to do;
it fails with the file still in place; or the file is replaced, and then it is completed, or the log
cannot be reopened, or the new directory entry cannot be synced. -/
inductive Checkpointed (answers : CheckpointAnswers) (w : Spilling) :
    Spilling × List SpillEvent → Prop
  | early (left : w.sink.recoveredRemaining ≠ 0) : Checkpointed answers w (w, [])
  | idle (done : w.sink.recoveredRemaining = 0)
      (none : w.sink.recoveryPrefixBytes = walMagic.length) :
      Checkpointed answers w (w, [.checkpointed])
  | failed {w' : Spilling} (grown : Grown w w')
      (clear : answers = .clear → ∀ buffer, w.sink.writer = some buffer →
        (w.file ++ buffer).length < w.sink.recoveryPrefixBytes) :
      Checkpointed answers w (w', [])
  | completed {w' : Spilling} (done : w.sink.recoveredRemaining = 0) (replaced : Replaced w w')
      (log : logState w'.sink = { logState w.sink with
        writer := some []
        walBytes := w'.file.length
        recoveryNextOffset := walMagic.length
        recoveryPrefixBytes := walMagic.length }) :
      Checkpointed answers w (w', [.checkpointed])
  | closed {w' : Spilling} (replaced : Replaced w w') (persist : answers.persist = none)
      (reopen : answers.reopen ≠ none) (writer : w'.sink.writer = none) :
      Checkpointed answers w (w', [])
  | unsynced {w' : Spilling} (replaced : Replaced w w') (persist : answers.persist = none)
      (reopen : answers.reopen = none) (syncParent : answers.syncParent ≠ none) :
      Checkpointed answers w (w', [])

lemma Ends.checkpointed {answers : CheckpointAnswers} {s : Spilling} {m : SpillM Unit}
    (h : Ends m s (fun _ w' => Checkpointed answers w (w', [.checkpointed]))
      fun _ w' => Checkpointed answers w (w', [])) :
    Checkpointed answers w (endState m s, if completes m s then [.checkpointed] else []) := by
  unfold Ends at h
  unfold endState completes
  rcases hrun : m.run s with ⟨⟨⟩, w'⟩ | ⟨e, w'⟩
  · rwa [hrun] at h
  · rwa [hrun] at h

/-- The replacement, from the state in which the writer has been flushed. -/
lemma ends_replaceWal {answers : CheckpointAnswers} {buffer : Bytes}
    (hdone : w.sink.recoveredRemaining = 0) (hw : w.sink.writer = some buffer)
    (hlen : w.sink.recoveryPrefixBytes ≤ (w.file ++ buffer).length) :
    Ends (replaceWal answers (walMagic ++ (w.file ++ buffer).drop w.sink.recoveryPrefixBytes)
        ((w.file ++ buffer).length - w.sink.recoveryPrefixBytes))
      (writtenBy w ⟨[], w.file ++ buffer⟩)
      (fun _ w' => Checkpointed answers w (w', [.checkpointed]))
      fun _ w' => Checkpointed answers w (w', []) := by
  refine Ends.get ?_
  unfold persisted
  rcases hpersist : answers.persist with _ | e
  · rcases hsync : answers.syncParent with _ | e <;> rcases hreopen : answers.reopen with _ | e'
    · refine .completed hdone ⟨buffer, hw, hlen, rfl⟩ ?_
      have hbytes : walMagic.length + ((w.file ++ buffer).length - w.sink.recoveryPrefixBytes) =
          (walMagic ++ (w.file ++ buffer).drop w.sink.recoveryPrefixBytes).length := by
        rw [← List.length_drop, ← List.length_append]
      exact congrArg (fun n => LogState.mk (some []) w.sink.walLimitBytes n
        w.sink.recoveredRemaining walMagic.length walMagic.length) hbytes
    · exact .closed ⟨buffer, hw, hlen, rfl⟩ hpersist (by rw [hreopen]; nofun) rfl
    · exact .unsynced ⟨buffer, hw, hlen, rfl⟩ hpersist hreopen (by rw [hsync]; nofun)
    · exact .closed ⟨buffer, hw, hlen, rfl⟩ hpersist (by rw [hreopen]; nofun) rfl
  · have hfault : answers ≠ .clear := fun h => by rw [h] at hpersist; cases hpersist
    have hopen : w.sink.writer.isSome := by rw [hw]; rfl
    rcases answers.reopen with _ | e'
    · exact .failed ⟨List.prefix_append _ _, rfl, fun _ => hopen⟩ fun h => absurd h hfault
    · exact .failed ⟨List.prefix_append _ _, rfl, fun _ => hopen⟩ fun h => absurd h hfault

lemma checkpointed_step (answers : CheckpointAnswers) (w : Spilling) :
    Checkpointed answers w (step J w (.checkpointRecovery answers)) := by
  refine Ends.checkpointed (.get ?_)
  split_ifs with hleft hfront
  · exact .early hleft
  · exact .idle (not_not.mp hleft) hfront
  rcases hw : w.sink.writer with _ | buffer
  · rw [Ends, run_seq_of_error (run_onWriter_closed hw)]
    exact .failed (refl_of Grown w) fun _ buffer h =>
      absurd (h.symm.trans hw) (Option.some_ne_none buffer)
  have hopen : w.sink.writer.isSome := by rw [hw]; rfl
  -- Until the replacement the file can only grow.
  have hgrown : ∀ {b : BufWriter} {w' : Spilling}, w.file <+: b.file → SameLog (writtenBy w b) w' →
      Grown w w' := by
    intro b w' hfile hsame
    have hwritten : Grown w (writtenBy w b) := ⟨hfile, rfl, fun _ => hopen⟩
    exact trans_of Grown hwritten hsame.grown
  refine ((ends_onWriter hw (BufWriter.ends_flush answers.flush _)).mono_error ?_).seq ?_
  · rintro _ w' ⟨e, b, ⟨hfile, hfault⟩, hsame⟩
    exact .failed (hgrown hfile hsame) fun hclear => absurd (by rw [hclear]; rfl) hfault
  rintro ⟨⟩ _ ⟨b, rfl, rfl⟩
  refine ((ends_asked answers.syncData _).mono_error fun _ w' h => ?_).seq ?_
  · exact .failed (hgrown (List.prefix_append _ _) h.1) fun hclear =>
      absurd (by rw [hclear]; rfl) h.2
  rintro ⟨⟩ _ rfl
  refine ((ends_copyTail answers _).mono_error fun _ w' h => ?_).seq ?_
  · refine .failed (hgrown (List.prefix_append _ _) h.1) fun hclear buffer' hbuffer => ?_
    cases hw.symm.trans hbuffer
    exact h.2 hclear
  rintro _ _ ⟨rfl, hlen, rfl⟩
  exact ends_replaceWal (not_not.mp hleft) hw hlen

end SpillWal

end Marketfeed
