import Marketfeed.Engine.Metrics
import Marketfeed.Lib.Effect
import Marketfeed.Recording.Payload
import Marketfeed.Sinks.Sink

/-!
# The session runner

Model of `crates/engine/src/runner.rs`: the runner owns one session machine. It records every inbound
frame, feeds the machine, and carries out the actions the machine pushed: batches and system events
go to the bounded dispatch lanes, frames and requests to bounded pending queues, timers to a bounded
map, and readiness to a flag and a metric that other threads read.

A method that takes `&mut self` and may fail is an `EngineM` computation: what it changed before
failing stays changed. The diagnostic mirrors are modelled with their own overflow rules, because a
full mirror can fail a call. Tracing, counters and latency measurements are left out.

* **The recorder** is the in-memory segment, or a process-wide pipeline of which only the answers
  matter here: one answer per frame handed to it.
-/

namespace Marketfeed

/-- The errors a runner returns.
Source: `error.rs` `EngineError` -/
inductive EngineError
  | adapter (e : AdapterError)
  | dispatch (e : DispatchError)
  | recording (e : RecordingError)
  | internal (detail : String)
deriving DecidableEq

/-- Source: `state.rs` `SessionLifecycle` -/
inductive SessionLifecycle
  | planned
  | connecting
  | connected
  | subscribing
  | synchronizing
  | live
  | degraded
  | backoff
  | draining
  | stopped
deriving DecidableEq

/-- Source: `crates/transport/src/ws.rs` `FrameOpcode` -/
inductive FrameOpcode
  | text
  | binary
  | ping
  | pong
  | close
deriving DecidableEq

/-- Source: `crates/transport/src/ws.rs` `OutboundFrame` -/
structure OutboundFrame where
  opcode : FrameOpcode
  payload : Bytes
deriving DecidableEq

/-! ## Readiness -/

/-- What another thread can read of a session's readiness, with the history bit. -/
structure Moment where
  withdrawn : Bool
  live : Option Bool
  books : InstrumentSet

/-- The readiness state a runner shares. `withdrawn` and `seen` are history and not in the source.
Source: `live_signal`, `metrics` -/
structure Readiness where
  session : SessionId
  liveSignal : Option Bool
  metrics : EngineMetrics
  withdrawn : Bool
  seen : List Moment

namespace Readiness

variable (s : Readiness)

/-- What a reader sees now. -/
def moment : Moment :=
  ⟨s.withdrawn, s.liveSignal, s.metrics.validBooksBySession.books s.session⟩

/-- Every store can be read before the next one. -/
def noted : Readiness := { s with seen := s.seen ++ [s.moment] }

/-- Without a signal there is nothing to store. -/
def setLiveSignal (live : Bool) (s : Readiness) : Readiness :=
  noted { s with liveSignal := s.liveSignal.map fun _ => live }

/-- Source: `metrics.observe_system_for_session` -/
def observeSystem (event : SystemEvent) (s : Readiness) : Readiness :=
  noted { s with metrics := s.metrics.observeSystemForSession s.session event }

/-- Source: `metrics.clear_valid_books_for_session` -/
def clearValidBooks : Readiness :=
  noted { s with metrics := s.metrics.clearValidBooksForSession s.session }

/-- Source: `invalidate_live_readiness` -/
def invalidate : Readiness := (s.setLiveSignal false).clearValidBooks

/-- The invalidation of a `Reconnect` or `StopSession` action. -/
def withdraw : Readiness := noted { s.invalidate with withdrawn := true }

/-- A new connection ends the withdrawal. -/
def connect : Readiness := noted { s with withdrawn := false }

end Readiness

/-! ## The runner's state -/

/-- The answers of a process-wide recorder, by the number of frames already handed to it. An answer
that is accepted but not `Accepted` only counts.
Source: `RecordingHandle::enqueue` -/
abbrev RecordingHandle := Nat → Except RecordingError Unit

/-- The default dispatch capacity is positive. -/
lemma defaultCapacity_pos : 0 < 1024 := by decide

/-- The values are those of `SessionRunnerConfig::default`. -/
structure SessionRunnerConfig where
  venue : VenueId := ⟨0⟩
  connection : ConnectionId := ⟨1⟩
  session : SessionId := ⟨1⟩
  dispatchCapacity : Nat := 1024
  capacity_pos : 0 < dispatchCapacity
  overflow : OverflowPolicy := .failEngine
  record : Bool := true
  recordingPipeline : Option RecordingHandle := none
  mirrorCapacity : Nat := 1024
  liveSignal : Option Bool := none
  metrics : Option EngineMetrics := none
  stopSignal : Option Bool := none

/-- One session: its machine, its outputs and what it shares. -/
structure SessionRunner (σ : Type) where
  cfg : SessionRunnerConfig
  machine : σ
  dispatch : EventDispatcher
  actions : ActionBuffer
  recorder : Option RawSegmentWriter
  enqueued : Nat
  lifecycle : SessionLifecycle
  inboundFrameSeq : UInt64
  marketBatches : List EventBatch
  systemEvents : List SystemEvent
  otherActions : List SessionAction
  pendingWrites : List OutboundFrame
  pendingHttp : List HttpRequestSpec
  timers : Std.ExtTreeMap UInt64 TimestampNs compare
  reconnectRequested : Bool
  stopRequested : Bool
  stopSignal : Option Bool
  readiness : Readiness

/-- A method of the runner. -/
abbrev EngineM (σ : Type) := EStateM EngineError (SessionRunner σ)

namespace SessionRunner

variable {σ : Type}

/-- Armed timers at most. -/
def maxSessionTimers : Nat := 32

/-- Frames waiting to be written at most. -/
def maxPendingWrites : Nat := 256

/-- Requests waiting to be sent at most. -/
def maxPendingHttp : Nat := 64

/-- Source: `action_buffer_capacity` in `SessionRunner::new` -/
def actionBufferCapacity (cfg : SessionRunnerConfig) : Nat :=
  max (min (cfg.dispatchCapacity * 4) usizeMax) ActionBuffer.defaultCapacity

/-- A planned session with empty queues. -/
def new (machine : σ) (cfg : SessionRunnerConfig) : SessionRunner σ where
  cfg := cfg
  machine := machine
  dispatch := .new cfg.dispatchCapacity cfg.dispatchCapacity cfg.capacity_pos cfg.capacity_pos cfg.overflow
  actions := .withCapacity (actionBufferCapacity cfg)
  recorder := if cfg.record ∧ cfg.recordingPipeline.isNone then some (.create 0) else none
  enqueued := 0
  lifecycle := .planned
  inboundFrameSeq := 0
  marketBatches := []
  systemEvents := []
  otherActions := []
  pendingWrites := []
  pendingHttp := []
  timers := ∅
  reconnectRequested := false
  stopRequested := false
  stopSignal := cfg.stopSignal
  readiness := ⟨cfg.session, cfg.liveSignal, cfg.metrics.getD .new, false, []⟩

variable (r : SessionRunner σ)

/-- No larger than the dispatch lanes; zero turns the mirrors off. -/
def mirrorCapacity : Nat :=
  if r.cfg.mirrorCapacity = 0 then 0 else min r.cfg.dispatchCapacity r.cfg.mirrorCapacity

/-! ## Bounded queues and mirrors -/

/-- Whether a mirror lost an item. -/
inductive MirrorPush
  | ok
  | dropped (detail : String)
deriving DecidableEq

/-- A full mirror follows the overflow policy; a mirror of capacity zero takes nothing. -/
def tryPushMirror {α : Type} (items : List α) (capacity : Nat) (policy : OverflowPolicy)
    (item : α) : Except EngineError (List α × MirrorPush) :=
  if capacity = 0 then .ok (items, .ok)
  else if items.length < capacity then .ok (items ++ [item], .ok)
  else match policy with
    | .failEngine => .error (.dispatch .failEngine)
    | .dropNewest => .ok (items, .dropped "mirror DropNewest")
    | .dropOldest => .ok (items.tail ++ [item], .dropped "mirror DropOldest")
    | other => .error (.internal ("mirror overflow unsupported: " ++ other.debug))

/-- A full queue follows the overflow policy. -/
def enqueueBounded {α : Type} (buf : List α) (item : α) (capacity : Nat) (policy : OverflowPolicy) :
    Except EngineError (List α × PushOutcome) :=
  if buf.length < capacity then .ok (buf ++ [item], .accepted)
  else match policy with
    | .failEngine | .blockWithDeadline => .error (.dispatch .failEngine)
    | .dropNewest => .ok (buf, .droppedNewest)
    | .dropOldest => .ok (buf.tail ++ [item], .droppedOldest 1)
    | other => .error (.dispatch (.unsupportedPolicy other))

/-- A drop from this mirror is not reported. -/
def pushMirrorSystem (event : SystemEvent) : EngineM σ Unit := do
  let r ← get
  let pushed ← liftExcept id (tryPushMirror r.systemEvents r.mirrorCapacity r.cfg.overflow event)
  modify fun r => { r with systemEvents := pushed.1 }

/-- A drop from this mirror is not reported. -/
def pushMirrorAction (action : SessionAction) : EngineM σ Unit := do
  let r ← get
  let pushed ← liftExcept id (tryPushMirror r.otherActions r.mirrorCapacity r.cfg.overflow action)
  modify fun r => { r with otherActions := pushed.1 }

/-- Source: `dispatch.push_batch` -/
def pushDispatchBatch (batch : EventBatch) : EngineM σ PushOutcome := do
  let r ← get
  let pushed := r.dispatch.pushBatch batch
  modify fun r => { r with dispatch := pushed.1 }
  liftExcept .dispatch pushed.2

/-- Source: `dispatch.push_system` -/
def pushDispatchSystem (event : SystemEvent) : EngineM σ PushOutcome := do
  let r ← get
  let pushed := r.dispatch.pushSystem event
  modify fun r => { r with dispatch := pushed.1 }
  liftExcept .dispatch pushed.2

/-- The drop report, into the lane and the mirror. -/
def emitEventsDropped (count : Nat) (detail : String) : EngineM σ Unit := do
  let _ ← pushDispatchSystem (.eventsDropped count detail)
  pushMirrorSystem (.eventsDropped count detail)

/-- A drop from the batch mirror is itself reported. -/
def pushMirrorBatch (batch : EventBatch) : EngineM σ Unit := do
  let r ← get
  let pushed ← liftExcept id (tryPushMirror r.marketBatches r.mirrorCapacity r.cfg.overflow batch)
  modify fun r => { r with marketBatches := pushed.1 }
  match pushed.2 with
  | .ok => pure ()
  | .dropped detail => emitEventsDropped 1 detail

/-- The drop report of a lane or of a pending queue.
Source: `note_push_outcome`, and the matches of `enqueue_pending_write` and `enqueue_pending_http` -/
def notePushOutcome (lane : String) : PushOutcome → EngineM σ Unit
  | .accepted => pure ()
  | .droppedNewest => emitEventsDropped 1 (lane ++ " DropNewest")
  | .droppedOldest dropped => emitEventsDropped dropped (lane ++ " DropOldest")

/-- A batch into its lane and its mirror.
Source: the `match outcome` of `EmitBatch`, `emit_venue_status` and `publish_catalog_refresh` -/
def dispatchBatch (batch : EventBatch) : EngineM σ Unit := do
  match ← pushDispatchBatch batch with
  | .accepted => pushMirrorBatch batch
  | .droppedNewest => notePushOutcome "dispatch_batch" .droppedNewest
  | .droppedOldest dropped => do
    notePushOutcome "dispatch_batch" (.droppedOldest dropped)
    pushMirrorBatch batch

/-- A system event into its lane and its mirror.
Source: the `match` of `EmitSystem` and `push_system` -/
def dispatchSystem (event : SystemEvent) : EngineM σ Unit := do
  match ← pushDispatchSystem event with
  | .accepted => pushMirrorSystem event
  | .droppedNewest => notePushOutcome "dispatch_system" .droppedNewest
  | .droppedOldest dropped => do
    notePushOutcome "dispatch_system" (.droppedOldest dropped)
    pushMirrorSystem event

/-- A dropped frame is reported. -/
def enqueuePendingWrite (frame : OutboundFrame) : EngineM σ Unit := do
  let r ← get
  let pushed ←
    liftExcept id (enqueueBounded r.pendingWrites frame maxPendingWrites r.cfg.overflow)
  modify fun r => { r with pendingWrites := pushed.1 }
  notePushOutcome "pending_writes" pushed.2

/-- A dropped request is reported. -/
def enqueuePendingHttp (spec : HttpRequestSpec) : EngineM σ Unit := do
  let r ← get
  let pushed ←
    liftExcept id (enqueueBounded r.pendingHttp spec maxPendingHttp r.cfg.overflow)
  modify fun r => { r with pendingHttp := pushed.1 }
  notePushOutcome "pending_http" pushed.2

/-- A batch of one status event. -/
def emitVenueStatus (message : String) (now : TimestampNs) : EngineM σ Unit := do
  let r ← get
  let env : EventEnvelope :=
    ⟨1, r.cfg.venue, none, r.cfg.connection, r.cfg.session, r.inboundFrameSeq, 0, none, now, none,
      .empty, .venueStatus message⟩
  dispatchBatch ⟨r.cfg.session, r.inboundFrameSeq, [env]⟩

/-! ## Recording -/

/-- The process-wide recorder goes before the in-memory one. -/
def recordFrame (frame : RawFrame) : EngineM σ Unit := do
  let r ← get
  match r.cfg.recordingPipeline, r.recorder with
  | some pipeline, _ => do
    modify fun r => { r with enqueued := r.enqueued + 1 }
    liftExcept .recording (pipeline r.enqueued)
  | none, some recorder => do
    let written := recorder.writeRecord frame
    modify fun r => { r with recorder := some written.1 }
    liftExcept .recording written.2
  | none, none => pure ()

/-- Source: the `record_frame` call of an inbound frame -/
def recordInbound (opcode : RecOpcode) (payload : Bytes) (received : FrameStamp) :
    EngineM σ Unit := do
  let r ← get
  recordFrame ⟨r.cfg.session, r.inboundFrameSeq, received.receiveTs.ns, received.monoNs, .inbound,
    opcode, 0, payload⟩

/-- The clock is cast to a `u64`. -/
def recordOutbound (opcode : RecOpcode) (payload : Bytes) (now : TimestampNs) : EngineM σ Unit := do
  let r ← get
  recordFrame ⟨r.cfg.session, r.inboundFrameSeq, now.ns, UInt64.ofNat (now.ns % 2 ^ 64).toNat,
    .outbound, opcode, 0, payload⟩

/-! ## Actions -/

/-- Source: the `SendText`, `SendBinary` and `SendPing` branches -/
def sendFrame (recorded : RecOpcode) (opcode : FrameOpcode) (payload : Bytes)
    (action : SessionAction) (now : TimestampNs) (fatal : Bool) : EngineM σ Unit := do
  recordOutbound recorded payload now
  enqueuePendingWrite ⟨opcode, payload⟩
  attempt fatal (pushMirrorAction action)

/-- Source: the `ScheduleTimer` branch -/
def scheduleTimer (spec : TimerSpec) : EngineM σ Unit := do
  let r ← get
  if ¬ r.timers.contains spec.timerId ∧ r.timers.size ≥ maxSessionTimers then
    emitEventsDropped 1 "schedule_timer map full"
  else modify fun r => { r with timers := r.timers.insert spec.timerId spec.fireAt }

/-- A change of the shared readiness state. -/
def shared (f : Readiness → Readiness) : EngineM σ Unit :=
  modify fun r => { r with readiness := f r.readiness }

/-- **One action.** `fatal` says whether a failure to report diagnostics ends the call.
Source: the loop body of `apply_actions_with_system_policy` -/
def applyAction (now : TimestampNs) (fatal : Bool) : SessionAction → EngineM σ Unit
  | .emitBatch batch => dispatchBatch batch
  | .emitSystem event => do
    shared (.observeSystem event)
    attempt fatal (dispatchSystem event)
  | .sendText payload => sendFrame .text .text payload (.sendText payload) now fatal
  | .sendSensitiveText payload => enqueuePendingWrite ⟨.text, payload⟩
  | .sendBinary payload => sendFrame .binary .binary payload (.sendBinary payload) now fatal
  | .sendPing payload => sendFrame .ping .ping payload (.sendPing payload) now fatal
  | .requestHttp spec => do
    enqueuePendingHttp spec
    attempt fatal (pushMirrorAction (.requestHttp spec))
  | .scheduleTimer spec => do
    scheduleTimer spec
    pushMirrorAction (.scheduleTimer spec)
  | .cancelTimer timerId => do
    modify fun r => { r with timers := r.timers.erase timerId }
    pushMirrorAction (.cancelTimer timerId)
  | .markLive => do
    modify fun r => { r with lifecycle := .live }
    shared (.setLiveSignal true)
    pushMirrorAction .markLive
    emitVenueStatus "live" now
  | .markDegraded => do
    modify fun r => { r with lifecycle := .degraded }
    shared (.setLiveSignal false)
    pushMirrorAction .markDegraded
    emitVenueStatus "degraded" now
  | .reconnect reason => do
    modify fun r => { r with reconnectRequested := true, lifecycle := .backoff }
    shared .withdraw
    pushMirrorAction (.reconnect reason)
  | .stopSession reason => do
    modify fun r => { r with stopRequested := true }
    shared .withdraw
    pushMirrorAction (.stopSession reason)
  | .resyncInstrument instrument =>
    attempt fatal (pushMirrorAction (.resyncInstrument instrument))
  | .disableSubscription subscription =>
    attempt fatal (pushMirrorAction (.disableSubscription subscription))

/-- The buffer is drained first; the first failure ends the loop. -/
def applyActionsWithSystemPolicy (now : TimestampNs) (fatal : Bool) : EngineM σ Unit := do
  let r ← get
  modify fun r => { r with actions := r.actions.clear }
  r.actions.actions.forM (applyAction now fatal)

/-- Actions the full buffer refused are reported once. -/
def noteActionBufferDrops : EngineM σ Unit := do
  let r ← get
  modify fun r => { r with actions := r.actions.takeDropped.2 }
  if r.actions.dropped > 0 then emitEventsDropped r.actions.dropped "ActionBuffer DropNewest"
  else pure ()

/-! ## Inputs -/

variable (M : SessionMachine σ)

/-- The machine's turn: it pushes into a cleared buffer.
Source: `actions.clear` and `machine.on_input` -/
def feed (input : SessionInput) : EngineM σ Unit := do
  let r ← get
  let out := M.onInput r.machine input
  modify fun r => { r with machine := out.state, actions := r.actions.clear.extend out.actions }
  liftExcept .adapter out.result

/-- One input and its actions. -/
def deliver (input : SessionInput) (now : TimestampNs) (fatal : Bool) : EngineM σ Unit := do
  feed M input
  noteActionBufferDrops
  applyActionsWithSystemPolicy now fatal

/-- Timers of the last connection are gone. -/
def onConnected (now : TimestampNs) : EngineM σ Unit := do
  modify fun r => { r with lifecycle := .connected, timers := ∅ }
  shared .connect
  deliver M (.connected now) now true
  emitVenueStatus "connected" now

/-- Readiness is withdrawn before the machine hears of it. -/
def onDisconnected (reason : DisconnectReason) (now : TimestampNs) : EngineM σ Unit := do
  modify fun r => { r with lifecycle := .draining, timers := ∅ }
  shared .invalidate
  deliver M (.disconnected reason now) now true
  modify fun r => { r with lifecycle := .stopped }

/-- The session backs off instead of stopping. -/
def onTransportLost (reason : DisconnectReason) (now : TimestampNs) : EngineM σ Unit := do
  modify fun r => { r with lifecycle := .backoff, timers := ∅ }
  shared .invalidate
  deliver M (.disconnected reason now) now true
  modify fun r => { r with reconnectRequested := false }

/-- Source: `inbound_frame_seq += 1` -/
def nextFrame : EngineM σ Unit := modify fun r => { r with inboundFrameSeq := r.inboundFrameSeq + 1 }

/-- Recorded before the machine sees it. -/
def onTextFrame (bytes : Bytes) (received : FrameStamp) : EngineM σ Unit := do
  nextFrame
  recordInbound .text bytes received
  deliver M (.textFrame bytes received) received.receiveTs true

/-- Recorded before the machine sees it. -/
def onBinaryFrame (bytes : Bytes) (received : FrameStamp) : EngineM σ Unit := do
  nextFrame
  recordInbound .binary bytes received
  deliver M (.binaryFrame bytes received) received.receiveTs true

/-- Only recorded. -/
def onPingFrame (payload : Bytes) (received : FrameStamp) : EngineM σ Unit := do
  nextFrame
  recordInbound .ping payload received

/-- Only recorded. -/
def onCloseFrame (payload : Bytes) (received : FrameStamp) : EngineM σ Unit := do
  nextFrame
  recordInbound .close payload received

/-- Recorded before the machine sees it. -/
def onPongFrame (payload : Bytes) (received : FrameStamp) : EngineM σ Unit := do
  nextFrame
  recordInbound .pong payload received
  deliver M (.pong payload received) received.receiveTs true

/-- Source: `saturating_add(1)` on the frame counter -/
def nextFrameSaturating : EngineM σ Unit :=
  modify fun r => { r with inboundFrameSeq :=
    if r.inboundFrameSeq + 1 = 0 then r.inboundFrameSeq else r.inboundFrameSeq + 1 }

/-- A response that cannot be encoded never reaches the machine. -/
def onHttpResponse (requestId : UInt64) (response : HttpResponse) (received : FrameStamp) :
    EngineM σ Unit := do
  nextFrameSaturating
  let payload ← liftExcept .recording (HttpPayload.encode requestId response)
  recordInbound .httpResponse payload received
  deliver M (.httpResponse requestId response received) received.receiveTs true

/-! ## Timers -/

/-- One due timer: it is removed before the machine hears of it.
Source: the `for` loop body of `poll_timers` -/
def fireTimer (timerId : UInt64) (now : TimestampNs) : EngineM σ Unit := do
  modify fun r => { r with timers := r.timers.erase timerId }
  deliver M (.timer timerId now) now true

/-! ## Control -/

/-- The frame of a recorded command. -/
def commandFrame (payload : Bytes) (now : TimestampNs) : RawFrame :=
  ⟨r.cfg.session, r.inboundFrameSeq, now.ns, UInt64.ofNat now.ns.toNat, .inbound,
    .subscriptionCommand, 0, payload⟩

variable (J : ControlJson)

/-- Nothing is encoded when nothing records. -/
def recordSubscriptionCommand (command : SessionCommand) (wire : SubscriptionWireAction)
    (now : TimestampNs) : EngineM σ Unit := do
  let r ← get
  if r.cfg.recordingPipeline.isNone ∧ r.recorder.isNone then pure ()
  else do
    let payload ← liftExcept .recording (ControlPayload.encode J command wire)
    recordFrame (r.commandFrame payload now)

/-- Source: the `match &wire` of `deliver_subscription_control` -/
def wireFrame : SubscriptionWireAction → OutboundFrame × SessionAction
  | .text payload => (⟨.text, payload⟩, .sendText payload)
  | .binary payload => (⟨.binary, payload⟩, .sendBinary payload)
  | .ping payload => (⟨.ping, payload⟩, .sendPing payload)

/-- Recorded and queued before the machine commits. -/
def deliverSubscriptionControl (command : SessionCommand) (now : TimestampNs) : EngineM σ Unit := do
  let r ← get
  if r.pendingWrites.length ≥ maxPendingWrites then throw (.dispatch .failEngine)
  else do
    let wire ← liftExcept .adapter (M.prepareDynamicSubscription r.machine command)
    recordSubscriptionCommand J command wire now
    modify fun r => { r with
      pendingWrites := r.pendingWrites ++ [(wireFrame wire).1]
      machine := M.commitDynamicSubscription r.machine command }
    attempt false (pushMirrorAction (wireFrame wire).2)

/-- Subscription changes take the prepared path. -/
def deliverControl (command : SessionCommand) (now : TimestampNs) : EngineM σ Unit :=
  match command with
  | .subscribe _ | .unsubscribe _ | .replace _ => deliverSubscriptionControl M J command now
  | .resync _ | .stop => deliver M (.control command) now false

/-- Readiness falls with the stop signal. -/
def requestStop : EngineM σ Unit := do
  modify fun r => { r with stopRequested := true, stopSignal := r.stopSignal.map fun _ => true }
  shared .invalidate

/-- The metrics see the event before the lane does. -/
def pushSystem (event : SystemEvent) : EngineM σ Unit := do
  shared (.observeSystem event)
  dispatchSystem event

/-- The live signal falls before the status is emitted. -/
def markDegradedWithStatus (message : String) (now : TimestampNs) : EngineM σ Unit := do
  modify fun r => { r with lifecycle := .degraded }
  shared (.setLiveSignal false)
  emitVenueStatus message now

/-- The live signal rises before the status is emitted. -/
def markLiveWithStatus (now : TimestampNs) : EngineM σ Unit := do
  modify fun r => { r with lifecycle := .live }
  shared (.setLiveSignal true)
  emitVenueStatus "live" now

/-- The catalog columns the refresh reads are the instrument's id and status. -/
def publishCatalogRefresh (version : UInt64) (instruments : List (InstrumentId × InstrumentStatus))
    (now : TimestampNs) : EngineM σ Unit := do
  let r ← get
  let events := instruments.zipIdx.map fun (inst, i) =>
    ({ schemaVersion := 1, venue := r.cfg.venue, instrument := some inst.1,
       connection := r.cfg.connection, session := r.cfg.session, frameSeq := r.inboundFrameSeq,
       eventIndex := i % 65536, exchangeTs := none, receiveTs := now, sourceSequence := none,
       flags := .empty, payload := .instrumentUpdate inst.2 } : EventEnvelope)
  if events.isEmpty then pushSystem (.instrumentCatalogUpdated version)
  else do
    dispatchBatch ⟨r.cfg.session, r.inboundFrameSeq, events⟩
    pushSystem (.instrumentCatalogUpdated version)

/-! ## Consumers -/

/-- A push into a mirror whose failure is ignored.
Source: `let _ = Self::try_push_mirror(..)` -/
def mirrorOrKeep {α : Type} (capacity : Nat) (policy : OverflowPolicy) (items : List α) (item : α) :
    List α :=
  match tryPushMirror items capacity policy item with
  | .ok (items, _) => items
  | .error _ => items

/-- The lanes are emptied into the mirrors. -/
def drainDispatch : EngineM σ Unit :=
  modify fun r =>
    let ((batches, systems), dispatch) := r.dispatch.drain
    let keep {α : Type} := @mirrorOrKeep α r.mirrorCapacity r.cfg.overflow
    { r with
      dispatch
      marketBatches := batches.foldl keep r.marketBatches
      systemEvents := systems.foldl keep r.systemEvents }

/-- A sink's error as the engine's. -/
def sinkToEngine : SinkError → EngineError
  | .failEngine => .dispatch .failEngine
  | .deadlineExceeded => .dispatch .deadlineExceeded
  | .unsupportedPolicy policy => .dispatch (.unsupportedPolicy policy)
  | .io detail => .internal ("sink io: " ++ detail)
  | .unsupported detail => .internal ("sink unsupported: " ++ detail)

/-- What the sink took stays taken when it fails.
Source: `consume_dispatch` with a sink -/
def consumeDispatch {S : Type} (K : EventSink S) (sink : S) : EngineM σ S := do
  let r ← get
  let forwarded := forwardDispatcher K r.dispatch sink
  modify fun r => { r with dispatch := forwarded.1 }
  let report ← liftExcept sinkToEngine forwarded.2.2
  if report.droppedTotal > 0 then do
    emitEventsDropped report.droppedTotal "configured sink overflow policy"
    pure forwarded.2.1
  else pure forwarded.2.1

/-- The queued frames, leaving none. -/
def takePendingWrites : EngineM σ (List OutboundFrame) := do
  let r ← get
  modify fun r => { r with pendingWrites := [] }
  pure r.pendingWrites

/-- The queued requests, leaving none. -/
def takePendingHttp : EngineM σ (List HttpRequestSpec) := do
  let r ← get
  modify fun r => { r with pendingHttp := [] }
  pure r.pendingHttp

/-! ## Calls -/

/-- The calls on a runner. A poll of the timers is a list of `timer` calls; a failed call leaves what
it did, and the caller may go on. -/
inductive SessionCall (S : Type)
  | connected (now : TimestampNs)
  | disconnected (reason : DisconnectReason) (now : TimestampNs)
  | transportLost (reason : DisconnectReason) (now : TimestampNs)
  | text (bytes : Bytes) (received : FrameStamp)
  | binary (bytes : Bytes) (received : FrameStamp)
  | ping (payload : Bytes) (received : FrameStamp)
  | pong (payload : Bytes) (received : FrameStamp)
  | close (payload : Bytes) (received : FrameStamp)
  | http (requestId : UInt64) (response : HttpResponse) (received : FrameStamp)
  | timer (timerId : UInt64) (now : TimestampNs)
  | control (command : SessionCommand) (now : TimestampNs)
  | requestStop
  | pushSystem (event : SystemEvent)
  | markDegraded (message : String) (now : TimestampNs)
  | markLive (now : TimestampNs)
  | publishCatalog (version : UInt64) (instruments : List (InstrumentId × InstrumentStatus))
      (now : TimestampNs)
  | drain
  | consume (sink : S)
  | takeWrites
  | takeHttp

/-- The method a call stands for. -/
def exec {S : Type} (K : EventSink S) :
    SessionCall S → EngineM σ Unit
  | .connected now => onConnected M now
  | .disconnected reason now => onDisconnected M reason now
  | .transportLost reason now => onTransportLost M reason now
  | .text bytes received => onTextFrame M bytes received
  | .binary bytes received => onBinaryFrame M bytes received
  | .ping payload received => onPingFrame payload received
  | .pong payload received => onPongFrame M payload received
  | .close payload received => onCloseFrame payload received
  | .http requestId response received => onHttpResponse M requestId response received
  | .timer timerId now => fireTimer M timerId now
  | .control command now => deliverControl M J command now
  | .requestStop => requestStop
  | .pushSystem event => pushSystem event
  | .markDegraded message now => markDegradedWithStatus message now
  | .markLive now => markLiveWithStatus now
  | .publishCatalog version instruments now => publishCatalogRefresh version instruments now
  | .drain => drainDispatch
  | .consume sink => do
    let _ ← consumeDispatch K sink
    pure ()
  | .takeWrites => do
    let _ ← takePendingWrites
    pure ()
  | .takeHttp => do
    let _ ← takePendingHttp
    pure ()

/-- The runner after a call, returned or failed. -/
def step {S : Type} (K : EventSink S) (r : SessionRunner σ) (call : SessionCall S) :
    SessionRunner σ :=
  endState (exec M J K call) r

end SessionRunner

end Marketfeed
