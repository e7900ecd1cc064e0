import Marketfeed.Dispatch.Queue
import Marketfeed.Lib.Effect
import Marketfeed.Recording.Payload

/-!
# The replay runner

Model of `crates/replay/src/runner.rs`: the recorded inbound frames are fed to a fresh session
machine one by one, and what the machine emits is collected. Outbound frames, pings and closes are
skipped, and a recorded subscription mutation is prepared again and compared with its recorded wire
frame before it is committed.

The runner, the machine it drives and the outcome it fills are one state, `Replay`; a method that may
fail is a `ReplayM` computation. Nothing is taken out of the dispatch lanes before the end, and drops
are counted by their detail text and reported after everything else.

* **The machine's turn** is `machineTurn`: the answer of any of its methods, pushed into the action
  buffer. The buffer has the default capacity, whatever capacity the live one had.
-/

namespace Marketfeed

inductive ReplayError
  | recording (e : RecordingError)
  | adapter (e : AdapterError)
  | dispatch (e : DispatchError)
  | subscriptionWireMismatch
deriving DecidableEq

/-- The parts of the recording format that are JSON; `μ` is a metadata record.
Source: `decode_subscription_command`, `decode_metadata` -/
structure ReplayCodec (μ : Type) where
  control : ControlJson
  metadataFromSlice : Bytes → Option μ

/-- Source: `crates/recording/src/metadata.rs` `decode_metadata` -/
def decodeMetadata {μ : Type} (D : ReplayCodec μ) (payload : Bytes) : Except RecordingError μ :=
  if payload.length > maxMetadataBytes then
    .error (.recordTooLarge (min payload.length HttpPayload.u32Max) maxMetadataBytes)
  else match D.metadataFromSlice payload with
    | some record => .ok record
    | none => .error .invalidHeader

structure ReplayOutcome (μ : Type) where
  marketBatches : List EventBatch
  systemEvents : List SystemEvent
  otherActions : List SessionAction
  metadata : List μ
  framesApplied : Nat
  droppedEvents : Nat

def ReplayOutcome.default {μ : Type} : ReplayOutcome μ := ⟨[], [], [], [], 0, 0⟩

structure ReplayRunner where
  dispatch : EventDispatcher
  actions : ActionBuffer
  dropCounts : Std.ExtTreeMap String Nat compare

/-- A replay under way: the runner, the machine and the outcome so far. -/
structure Replay (σ μ : Type) extends ReplayRunner where
  machine : σ
  outcome : ReplayOutcome μ

/-- A method of the replay runner. -/
abbrev ReplayM (σ μ : Type) := EStateM ReplayError (Replay σ μ)

namespace Replay

variable {σ μ : Type}

/-- Source: `u64::saturating_add` -/
def satAdd (a b : Nat) : Nat := min (a + b) (2 ^ 64 - 1)

/-! ## Drops -/

def recordDrop (detail : String) (count : Nat) : ReplayM σ μ Unit :=
  modify fun p => { p with
    dropCounts := p.dropCounts.insert detail (satAdd (p.dropCounts.getD detail 0) count) }

def notePushOutcome (lane : String) : PushOutcome → ReplayM σ μ Unit
  | .accepted => pure ()
  | .droppedNewest => recordDrop (lane ++ " DropNewest") 1
  | .droppedOldest dropped => recordDrop (lane ++ " DropOldest") dropped

def noteActionBufferDrops : ReplayM σ μ Unit := do
  let p ← get
  modify fun p => { p with actions := p.actions.takeDropped.2 }
  if p.actions.dropped = 0 then pure () else recordDrop "ActionBuffer DropNewest" p.actions.dropped

/-! ## Actions -/

/-- Source: the loop body of `absorb_actions` -/
def absorbAction : SessionAction → ReplayM σ μ Unit
  | .emitBatch batch => do
    let p ← get
    let pushed := p.dispatch.pushBatch batch
    modify fun p => { p with dispatch := pushed.1 }
    let outcome ← liftExcept .dispatch pushed.2
    notePushOutcome "market_batch" outcome
  | .emitSystem event => do
    let p ← get
    let pushed := p.dispatch.pushSystem event
    modify fun p => { p with dispatch := pushed.1 }
    let outcome ← liftExcept .dispatch pushed.2
    notePushOutcome "system_event" outcome
  | other => modify fun p => { p with
      outcome := { p.outcome with otherActions := p.outcome.otherActions ++ [other] } }

def absorbActions : ReplayM σ μ Unit := do
  let p ← get
  modify fun p => { p with actions := p.actions.clear }
  p.actions.actions.forM absorbAction

/-- What one call on the machine does to the machine and the action buffer. -/
def machineTurn (out : Outcome σ) : ReplayM σ μ Unit := do
  modify fun p => { p with machine := out.state, actions := p.actions.extend out.actions }
  liftExcept .adapter out.result

/-- Source: `note_action_buffer_drops` and `absorb_actions` after the machine's turn -/
def settle : ReplayM σ μ Unit := do
  noteActionBufferDrops
  absorbActions

/-! ## Records -/

variable (M : SessionMachine σ)

/-- Source: `actions.clear` and `machine.on_input` -/
def feed (input : SessionInput) : ReplayM σ μ Unit := do
  let p ← get
  machineTurn (M.onInput p.machine input)

/-- Source: `frames_applied += 1` after a frame was absorbed -/
def applied : ReplayM σ μ Unit := do
  settle
  modify fun p => { p with outcome := { p.outcome with framesApplied := p.outcome.framesApplied + 1 } }

/-- The wire frame is prepared again and has to be the recorded one.
Source: the `SubscriptionCommand` arm of `replay_records` -/
def commitRecorded (D : ReplayCodec μ) (payload : Bytes) : ReplayM σ μ Unit := do
  let decoded ← liftExcept .recording (ControlPayload.decode D.control payload)
  let p ← get
  let prepared ← liftExcept .adapter (M.prepareDynamicSubscription p.machine decoded.1)
  if prepared ≠ decoded.2 then throw .subscriptionWireMismatch
  else modify fun p => { p with machine := M.commitDynamicSubscription p.machine decoded.1 }

/-- **One record.** Metadata is decoded and kept.
Source: the loop body of `replay_records` -/
def replayRecord (D : ReplayCodec μ) (rec : RawRecord) : ReplayM σ μ Unit :=
  if rec.header.direction ≠ .inbound then pure ()
  else do
    let received : FrameStamp := ⟨⟨rec.header.receiveTsNs⟩, rec.header.monotonicNs⟩
    modify fun p => { p with actions := p.actions.clear }
    match rec.header.opcode with
    | .text => do
      feed M (.textFrame rec.payload received)
      applied
    | .binary => do
      feed M (.binaryFrame rec.payload received)
      applied
    | .pong => do
      feed M (.pong rec.payload received)
      applied
    | .httpResponse => do
      let decoded ← liftExcept .recording (HttpPayload.decode rec.payload)
      feed M (.httpResponse decoded.1 decoded.2 received)
      applied
    | .metadata => do
      let record ← liftExcept .recording (decodeMetadata D rec.payload)
      modify fun p => { p with
        outcome := { p.outcome with metadata := p.outcome.metadata ++ [record] } }
    | .subscriptionCommand => do
      commitRecorded M D rec.payload
      applied
    | .ping | .close => pure ()

def finishOutcome : ReplayM σ μ Unit :=
  modify fun p =>
    let drained := p.dispatch.drain
    { p with
      dispatch := drained.2
      dropCounts := ∅
      outcome := { p.outcome with
        marketBatches := p.outcome.marketBatches ++ drained.1.1
        systemEvents := p.outcome.systemEvents ++ drained.1.2 ++
          p.dropCounts.toList.map fun drop => .eventsDropped drop.2 drop.1
        droppedEvents := p.dropCounts.toList.foldl (fun total drop => satAdd total drop.2)
          p.outcome.droppedEvents } }

/-- Source: the head of `replay_records`, up to and with `on_replay_start` -/
def replayStart (connectTs : TimestampNs) : ReplayM σ μ Unit := do
  modify fun p => { p with
    dispatch := p.dispatch.drain.2
    actions := p.actions.clear.takeDropped.2
    dropCounts := ∅
    outcome := .default }
  let p ← get
  machineTurn (M.onReplayStart p.machine connectTs)
  settle

def replayRecords (D : ReplayCodec μ) (records : List RawRecord) (connectTs : TimestampNs) :
    ReplayM σ μ Unit := do
  replayStart M connectTs
  records.forM (replayRecord M D)
  finishOutcome

end Replay

end Marketfeed
