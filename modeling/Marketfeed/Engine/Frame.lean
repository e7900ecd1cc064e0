import Marketfeed.Engine.Runner

/-!
# What the runner's methods leave alone

The runner's state falls into the part that only carries output (the dispatch lanes, the mirrors and
the pending queues) and the rest. `Quiet` says that only the first part changed; every helper that
delivers or reports is quiet, whether it returns or fails.
-/

namespace Marketfeed

namespace SessionRunner

variable {σ : Type}

/-- The runner without what it has delivered: of the lanes, only their policies are left. -/
def undelivered (r : SessionRunner σ) : SessionRunner σ :=
  { r with
    dispatch :=
      ⟨.new 1 Nat.one_pos r.dispatch.batches.policy, .new 1 Nat.one_pos r.dispatch.systems.policy⟩
    marketBatches := []
    systemEvents := []
    otherActions := []
    pendingWrites := []
    pendingHttp := [] }

/-- **Quiet**: only lanes, mirrors and pending queues may differ. -/
abbrev Quiet : SessionRunner σ → SessionRunner σ → Prop := SameOn undelivered

variable {r r' : SessionRunner σ}

/-- The action buffer is not output. -/
lemma Quiet.actions (h : Quiet r r') : r'.actions = r.actions := by
  have hactions : r'.undelivered.actions = r.undelivered.actions := congrArg _ h
  exact hactions

/-! ## Delivering and reporting -/

/-- **A relation that delivering keeps**: it allows a push into a lane and any change of the mirrors and
the pending queues. -/
structure Delivers (R : SessionRunner σ → SessionRunner σ → Prop) : Prop where
  batch : ∀ batch, Keeps R (pushDispatchBatch batch)
  system : ∀ event, Keeps R (pushDispatchSystem event)
  output : ∀ (r : SessionRunner σ) marketBatches systemEvents otherActions pendingWrites pendingHttp,
    R r { r with marketBatches, systemEvents, otherActions, pendingWrites, pendingHttp }

namespace Delivers

variable {R : SessionRunner σ → SessionRunner σ → Prop} [Std.Refl R] [IsTrans (SessionRunner σ) R]

variable (h : Delivers R)

include h

lemma pushMirrorSystem (event : SystemEvent) : Keeps R (pushMirrorSystem event) := by
  refine Keeps.get fun r => .seq (.lift _ _) fun pushed => ?_
  exact .modify fun r => h.output r _ _ _ _ _

lemma pushMirrorAction (action : SessionAction) : Keeps R (pushMirrorAction action) := by
  refine Keeps.get fun r => .seq (.lift _ _) fun pushed => ?_
  exact .modify fun r => h.output r _ _ _ _ _

lemma emitEventsDropped (count : Nat) (detail : String) :
    Keeps R (emitEventsDropped count detail) :=
  Keeps.seq (h.system _) fun _ => h.pushMirrorSystem _

lemma pushMirrorBatch (batch : EventBatch) : Keeps R (pushMirrorBatch batch) := by
  refine Keeps.get fun r => .seq (.lift _ _) fun pushed => ?_
  refine Keeps.seq (.modify fun r => h.output r _ _ _ _ _) fun _ => ?_
  rcases pushed with ⟨items, _ | detail⟩
  · exact .pure ()
  · exact h.emitEventsDropped 1 detail

lemma notePushOutcome (lane : String) (outcome : PushOutcome) :
    Keeps R (notePushOutcome lane outcome) := by
  rcases outcome with _ | _ | dropped
  · exact .pure ()
  · exact h.emitEventsDropped 1 _
  · exact h.emitEventsDropped dropped _

lemma dispatchBatch (batch : EventBatch) : Keeps R (dispatchBatch batch) := by
  refine Keeps.seq (h.batch batch) fun outcome => ?_
  rcases outcome with _ | _ | dropped
  · exact h.pushMirrorBatch batch
  · exact h.notePushOutcome _ _
  · exact Keeps.seq (h.notePushOutcome _ _) fun _ => h.pushMirrorBatch batch

lemma dispatchSystem (event : SystemEvent) : Keeps R (dispatchSystem event) := by
  refine Keeps.seq (h.system event) fun outcome => ?_
  rcases outcome with _ | _ | dropped
  · exact h.pushMirrorSystem event
  · exact h.notePushOutcome _ _
  · exact Keeps.seq (h.notePushOutcome _ _) fun _ => h.pushMirrorSystem event

lemma enqueuePendingWrite (frame : OutboundFrame) : Keeps R (enqueuePendingWrite frame) := by
  refine Keeps.get fun r => .seq (.lift _ _) fun pushed => ?_
  refine Keeps.seq (.modify fun r => h.output r _ _ _ _ _) fun _ => ?_
  exact h.notePushOutcome _ _

lemma enqueuePendingHttp (spec : HttpRequestSpec) : Keeps R (enqueuePendingHttp spec) := by
  refine Keeps.get fun r => .seq (.lift _ _) fun pushed => ?_
  refine Keeps.seq (.modify fun r => h.output r _ _ _ _ _) fun _ => ?_
  exact h.notePushOutcome _ _

lemma emitVenueStatus (message : String) (now : TimestampNs) :
    Keeps R (emitVenueStatus message now) :=
  Keeps.get fun _ => h.dispatchBatch _

/-- The dispatcher is emptied into the sink, and drops are reported. -/
lemma consumeDispatch {S : Type} (K : EventSink S) (sink : S)
    (hforward : ∀ r, R r { r with dispatch := (forwardDispatcher K r.dispatch sink).1 }) :
    Keeps R (consumeDispatch K sink) := by
  refine fun r => trans_of R (hforward r) (Keeps.seq (Keeps.lift _ _) (fun report => ?_) _)
  split_ifs
  · exact (h.emitEventsDropped _ _).seq fun _ => Keeps.pure _
  · exact .pure _

omit [Std.Refl R] [IsTrans (SessionRunner σ) R] in
/-- A weaker relation is kept as well. -/
lemma mono {Q : SessionRunner σ → SessionRunner σ → Prop} (hQ : ∀ r r', R r r' → Q r r') :
    Delivers Q where
  batch batch := (h.batch batch).mono hQ
  system event := (h.system event).mono hQ
  output r _ _ _ _ _ := hQ r _ (h.output r _ _ _ _ _)

end Delivers

/-! ## Delivering and reporting is quiet -/

/-- Whether or not the lane takes the batch, its policy stays. -/
lemma quiet_pushDispatchBatch (batch : EventBatch) :
    Keeps Quiet (pushDispatchBatch batch : EngineM σ PushOutcome) := by
  intro r
  have hpushed : Quiet r { r with dispatch := (r.dispatch.pushBatch batch).1 } := by
    rw [Quiet, SameOn, undelivered, undelivered, EventDispatcher.pushBatch, BoundedQueue.tryPush_policy]
  exact trans_of Quiet hpushed (Keeps.lift _ _ _)

/-- Whether or not the lane takes the event, its policy stays. -/
lemma quiet_pushDispatchSystem (event : SystemEvent) :
    Keeps Quiet (pushDispatchSystem event : EngineM σ PushOutcome) := by
  intro r
  have hpushed : Quiet r { r with dispatch := (r.dispatch.pushSystem event).1 } := by
    rw [Quiet, SameOn, undelivered, undelivered, EventDispatcher.pushSystem, BoundedQueue.tryPush_policy]
  exact trans_of Quiet hpushed (Keeps.lift _ _ _)

/-- **All of it is quiet.** -/
theorem delivers_quiet : Delivers (Quiet (σ := σ)) where
  batch := quiet_pushDispatchBatch
  system := quiet_pushDispatchSystem
  output _ _ _ _ _ _ := rfl

/-! ## The parts of a delivery -/

/-- The runner after the machine's turn. -/
def fed (M : SessionMachine σ) (input : SessionInput) (r : SessionRunner σ) : SessionRunner σ :=
  { r with
    machine := (M.onInput r.machine input).state
    actions := r.actions.clear.extend (M.onInput r.machine input).actions }

/-- The actions that fit the buffer. -/
def kept (M : SessionMachine σ) (input : SessionInput) (r : SessionRunner σ) : List SessionAction :=
  (M.onInput r.machine input).actions.take r.actions.capacity

variable (M : SessionMachine σ) (event : SystemEvent)

/-- The buffer after a turn: what fitted, and the drops counted. -/
lemma fed_actions (input : SessionInput) (r : SessionRunner σ) :
    (fed M input r).actions = { r.actions with
      actions := kept M input r
      dropped := r.actions.dropped +
        ((M.onInput r.machine input).actions.length - r.actions.capacity) } := by
  have h := ActionBuffer.extend_eq r.actions.clear (M.onInput r.machine input).actions
    (Nat.zero_le _)
  exact h

/-- The machine's state and actions stay when it fails. -/
lemma run_feed (input : SessionInput) (r : SessionRunner σ) :
    (feed M input).run r = match (M.onInput r.machine input).result with
      | .ok () => .ok () (fed M input r)
      | .error e => .error (.adapter e) (fed M input r) := by
  rw [feed, run_get_seq, run_modify_seq]
  rcases (M.onInput r.machine input).result with e | ⟨⟩ <;> rfl

/-- The drop report takes the drop count and is quiet otherwise. -/
lemma quiet_noteActionBufferDrops (r : SessionRunner σ) :
    Quiet { r with actions := { r.actions with dropped := 0 } }
      (endState noteActionBufferDrops r) := by
  show Quiet _ (endState (if r.actions.dropped > 0 then _ else _) _)
  split_ifs
  · exact delivers_quiet.emitEventsDropped _ _ _
  · rfl

/-! ## Readiness -/

/-- The shared readiness state is the same. -/
abbrev SameReadiness : SessionRunner σ → SessionRunner σ → Prop := SameOn readiness

/-- Output does not touch readiness. -/
lemma Quiet.sameReadiness (h : Quiet r r') : SameReadiness r r' := by
  have hreadiness : r'.undelivered.readiness = r.undelivered.readiness := congrArg _ h
  exact hreadiness

/-- Delivering leaves readiness alone. -/
lemma delivers_sameReadiness : Delivers (SameReadiness (σ := σ)) :=
  delivers_quiet.mono fun _ _ => Quiet.sameReadiness

variable {α : Type} {m : EngineM σ α}

/-- What the machine reads, what it is answered into, and the readiness state are the same. -/
structure SameInput (r r' : SessionRunner σ) : Prop where
  machine : r'.machine = r.machine
  actions : r'.actions = r.actions
  readiness : r'.readiness = r.readiness

instance : Std.Refl (SameInput (σ := σ)) := ⟨fun _ => ⟨rfl, rfl, rfl⟩⟩

instance : IsTrans (SessionRunner σ) SameInput :=
  ⟨fun _ _ _ h h' => ⟨h'.machine.trans h.machine, h'.actions.trans h.actions,
    h'.readiness.trans h.readiness⟩⟩

variable (frame : RawFrame)

/-- Recording a frame changes the segment or the number of frames handed to the pipeline. -/
lemma keeps_recordFrame {R : SessionRunner σ → SessionRunner σ → Prop} [Std.Refl R]
    [IsTrans (SessionRunner σ) R] (h : ∀ r recorder enqueued, R r { r with recorder, enqueued }) :
    Keeps R (recordFrame frame) := by
  refine Keeps.get fun r => ?_
  rcases r.cfg.recordingPipeline, r.recorder with ⟨_ | pipeline, _ | recorder⟩
  · exact .pure ()
  all_goals exact Keeps.seq (.modify fun r => h r _ _) fun _ => .lift _ _

/-- Recording leaves the input side alone. -/
lemma sameInput_recordFrame : Keeps SameInput (recordFrame frame : EngineM σ Unit) :=
  keeps_recordFrame frame fun _ _ _ => ⟨rfl, rfl, rfl⟩

/-- Recording leaves readiness alone. -/
lemma sameReadiness_recordFrame : Keeps SameReadiness (recordFrame frame : EngineM σ Unit) :=
  (sameInput_recordFrame frame).mono fun _ _ h => h.readiness

/-- What an action does to the shared readiness state. -/
def actionReadiness : SessionAction → Readiness → Readiness
  | .emitSystem event => .observeSystem event
  | .markLive => .setLiveSignal true
  | .markDegraded => .setLiveSignal false
  | .reconnect _ | .stopSession _ => .withdraw
  | _ => id

/-- A change of readiness followed by steps that leave it alone. -/
lemma readiness_shared_seq {f : Readiness → Readiness} {m : Unit → EngineM σ α}
    (h : ∀ u, Keeps SameReadiness (m u)) (r : SessionRunner σ) :
    (endState (shared f >>= m) r).readiness = f r.readiness :=
  h () { r with readiness := f r.readiness }

/-! ## Actions -/

/-- The runner without what it has delivered or recorded. -/
def settled (r : SessionRunner σ) : SessionRunner σ :=
  { r.undelivered with recorder := none, enqueued := 0 }

/-- **Outward**: only output and the recording may differ. -/
abbrev Outward : SessionRunner σ → SessionRunner σ → Prop := SameOn settled

/-- Delivering is outward. -/
lemma delivers_outward : Delivers (Outward (σ := σ)) := by
  refine delivers_quiet.mono fun r r' hquiet => ?_
  have hsame : r'.undelivered = r.undelivered := hquiet
  rw [Outward, SameOn, settled, settled, hsame]

/-- Recording is outward. -/
lemma outward_recordFrame : Keeps Outward (recordFrame frame : EngineM σ Unit) :=
  keeps_recordFrame frame fun _ _ _ => rfl

/-- So is sending a frame. -/
lemma outward_sendFrame (recorded : RecOpcode) (opcode : FrameOpcode) (payload : Bytes)
    (action : SessionAction) (now : TimestampNs) (fatal : Bool) :
    Keeps Outward (sendFrame recorded opcode payload action now fatal : EngineM σ Unit) := by
  refine Keeps.seq (.get fun r => outward_recordFrame _) fun _ => ?_
  refine Keeps.seq (delivers_outward.enqueuePendingWrite _) fun _ => ?_
  exact (delivers_outward.pushMirrorAction action).attempt

/-- What an action does to the timers: a full map refuses a new one. -/
def actionTimers (action : SessionAction) (timers : Std.ExtTreeMap UInt64 TimestampNs compare) :
    Std.ExtTreeMap UInt64 TimestampNs compare :=
  match action.timerEvent with
  | some event => event.keep maxSessionTimers timers
  | none => timers

/-- What an action does to the runner, besides output and the recording. -/
def actionEffect (action : SessionAction) (r : SessionRunner σ) : SessionRunner σ :=
  { r with
    readiness := actionReadiness action r.readiness
    timers := actionTimers action r.timers
    lifecycle := match action with
      | .markLive => .live
      | .markDegraded => .degraded
      | .reconnect _ => .backoff
      | _ => r.lifecycle
    reconnectRequested := match action with
      | .reconnect _ => true
      | _ => r.reconnectRequested
    stopRequested := match action with
      | .stopSession _ => true
      | _ => r.stopRequested }

/-- **One action changes exactly this**, whether it returns or fails. -/
theorem outward_applyAction (now : TimestampNs) (fatal : Bool) (action : SessionAction)
    (r : SessionRunner σ) :
    Outward (actionEffect action r) (endState (applyAction now fatal action) r) := by
  have hmirror : ∀ action, Keeps Outward (pushMirrorAction action : EngineM σ Unit) :=
    delivers_outward.pushMirrorAction
  have hstatus : ∀ message, Keeps Outward (emitVenueStatus message now : EngineM σ Unit) :=
    fun message => delivers_outward.emitVenueStatus message now
  cases action with
  | emitBatch batch => exact delivers_outward.dispatchBatch batch r
  | emitSystem event =>
    exact (delivers_outward.dispatchSystem event).attempt
      { r with readiness := r.readiness.observeSystem event }
  | sendText payload | sendBinary payload | sendPing payload =>
    exact outward_sendFrame _ _ _ _ _ _ r
  | sendSensitiveText payload => exact delivers_outward.enqueuePendingWrite _ r
  | requestHttp spec =>
    exact Keeps.seq (delivers_outward.enqueuePendingHttp spec)
      (fun _ => (hmirror _).attempt) r
  | scheduleTimer spec =>
    -- A full map reports the drop; otherwise the timer is inserted.
    show Outward _ (endState ((if ¬ r.timers.contains spec.timerId ∧
        r.timers.size ≥ maxSessionTimers then emitEventsDropped 1 "schedule_timer map full"
      else modify fun r => { r with timers := r.timers.insert spec.timerId spec.fireAt }) >>=
        fun _ => pushMirrorAction (.scheduleTimer spec)) r)
    by_cases hfull : ¬ r.timers.contains spec.timerId ∧ r.timers.size ≥ maxSessionTimers
    · have heffect : actionEffect (.scheduleTimer spec) r = r := by
        simp only [actionEffect, actionTimers, SessionAction.timerEvent, AlarmEvent.keep,
          if_pos hfull]
        rfl
      rw [if_pos hfull, heffect]
      exact Keeps.seq (delivers_outward.emitEventsDropped _ _) (fun _ => hmirror _) r
    · have heffect : actionEffect (.scheduleTimer spec) r =
          { r with timers := r.timers.insert spec.timerId spec.fireAt } := by
        simp only [actionEffect, actionTimers, SessionAction.timerEvent, AlarmEvent.keep,
          if_neg hfull]
        rfl
      rw [if_neg hfull, heffect]
      exact hmirror _ _
  | cancelTimer timerId => exact hmirror _ { r with timers := r.timers.erase timerId }
  | markLive =>
    exact Keeps.seq (hmirror _) (fun _ => hstatus _)
      { r with lifecycle := .live, readiness := r.readiness.setLiveSignal true }
  | markDegraded =>
    exact Keeps.seq (hmirror _) (fun _ => hstatus _)
      { r with lifecycle := .degraded, readiness := r.readiness.setLiveSignal false }
  | reconnect reason =>
    exact hmirror _ { r with
      reconnectRequested := true
      lifecycle := .backoff
      readiness := r.readiness.withdraw }
  | stopSession reason =>
    exact hmirror _ { r with stopRequested := true, readiness := r.readiness.withdraw }
  | resyncInstrument instrument | disableSubscription subscription => exact (hmirror _).attempt r

/-- Outward steps leave readiness alone. -/
lemma Outward.readiness (h : Outward r r') : r'.readiness = r.readiness := by
  have hreadiness : r'.settled.readiness = r.settled.readiness := congrArg _ h
  exact hreadiness

/-- **An action changes readiness exactly so**, whether it returns or fails. -/
theorem readiness_applyAction (now : TimestampNs) (fatal : Bool) (action : SessionAction)
    (r : SessionRunner σ) :
    (endState (applyAction now fatal action) r).readiness = actionReadiness action r.readiness :=
  (outward_applyAction now fatal action r).readiness

/-! ## Routine calls -/

/-- **Routine**: besides output and the recording, only the machine and the readiness state may
differ. -/
def Routine (r r' : SessionRunner σ) : Prop :=
  { r'.settled with machine := r.machine, readiness := r.readiness } = r.settled

instance : Std.Refl (Routine (σ := σ)) := ⟨fun _ => rfl⟩

instance : IsTrans (SessionRunner σ) Routine := by
  refine ⟨fun r r' r'' h h' => ?_⟩
  rw [Routine] at *
  rw [← h, ← h']

/-- Outward steps are routine. -/
lemma Outward.routine (h : Outward r r') : Routine r r' := by
  have hsame : r'.settled = r.settled := h
  rw [Routine, hsame]
  rfl

/-- Delivering is routine. -/
lemma delivers_routine : Delivers (Routine (σ := σ)) :=
  delivers_outward.mono fun _ _ => Outward.routine

/-- Routine steps leave the lifecycle alone. -/
lemma Routine.lifecycle (h : Routine r r') : r'.lifecycle = r.lifecycle := by
  have hlifecycle : ({ r'.settled with machine := r.machine, readiness := r.readiness } :
    SessionRunner σ).lifecycle = r.settled.lifecycle := by rw [h]
  exact hlifecycle

/-- A system event is routine, whatever it says of the books. -/
lemma routine_pushSystem : Keeps Routine (pushSystem event : EngineM σ Unit) :=
  Keeps.seq (.modify fun _ => rfl) fun _ => delivers_routine.dispatchSystem event

/-- A subscription command is recorded, queued and mirrored, and the machine commits it. -/
lemma keeps_subscriptionControl {R : SessionRunner σ → SessionRunner σ → Prop} [Std.Refl R]
    [IsTrans (SessionRunner σ) R]
    (h : ∀ r recorder enqueued pendingWrites machine otherActions,
      R r { r with recorder, enqueued, pendingWrites, machine, otherActions })
    (J : ControlJson) (command : SessionCommand) (now : TimestampNs) :
    Keeps R (deliverSubscriptionControl M J command now) := by
  refine Keeps.get fun r => ?_
  split_ifs
  · exact .throw _
  refine Keeps.seq (.lift _ _) fun wire => .seq (.get fun r => ?_) fun _ =>
    Keeps.seq (.modify fun r => h r _ _ _ _ _) fun _ => .attempt ?_
  · split_ifs
    · exact .pure ()
    · exact Keeps.seq (.lift _ _) fun _ => keeps_recordFrame _ fun r _ _ => h r _ _ _ _ _
  · exact Keeps.get fun r => .seq (.lift _ _) fun _ =>
      Keeps.modify fun r => h r _ _ _ _ _

/-- So is a subscription change. -/
lemma routine_subscriptionControl (J : ControlJson) (command : SessionCommand)
    (now : TimestampNs) : Keeps Routine (deliverSubscriptionControl M J command now) :=
  keeps_subscriptionControl M (fun _ _ _ _ _ _ => rfl) J command now

/-! ## Pushes that find room -/

/-- A mirror after a push that fits; a mirror of capacity zero is off. -/
def mirrored {α : Type} (capacity : Nat) (items : List α) (item : α) : List α :=
  if capacity = 0 then items else items ++ [item]

/-- With room in a mirror, the push is accepted. -/
lemma tryPushMirror_of_room {items : List α} {capacity : Nat}
    (h : capacity = 0 ∨ items.length < capacity) (policy : OverflowPolicy) (item : α) :
    tryPushMirror items capacity policy item = .ok (mirrored capacity items item, .ok) := by
  unfold tryPushMirror mirrored
  by_cases hzero : capacity = 0
  · rw [if_pos hzero, if_pos hzero]
  · rw [if_neg hzero, if_neg hzero, if_pos (h.resolve_left hzero)]

/-- With room, the batch is appended and nothing reported. -/
lemma pushMirrorBatch_of_room (b : EventBatch)
    (h : r.mirrorCapacity = 0 ∨ r.marketBatches.length < r.mirrorCapacity) :
    (pushMirrorBatch b).run r = .ok () { r with
      marketBatches := mirrored r.mirrorCapacity r.marketBatches b } := by
  rw [pushMirrorBatch, run_get_seq, tryPushMirror_of_room h]
  rfl

/-- With room, the event is appended. -/
lemma pushMirrorSystem_of_room
    (h : r.mirrorCapacity = 0 ∨ r.systemEvents.length < r.mirrorCapacity) :
    (pushMirrorSystem event).run r = .ok () { r with
      systemEvents := mirrored r.mirrorCapacity r.systemEvents event } := by
  rw [pushMirrorSystem, run_get_seq, tryPushMirror_of_room h]
  rfl

/-- With room, the lane accepts the batch. -/
lemma pushDispatchBatch_of_room (b : EventBatch)
    (h : r.dispatch.batches.items.length < r.dispatch.batches.capacity) :
    (pushDispatchBatch b).run r = .ok .accepted { r with dispatch :=
      { r.dispatch with batches := r.dispatch.batches.pushBack b h } } := by
  rw [pushDispatchBatch, run_get_seq, EventDispatcher.pushBatch, BoundedQueue.tryPush_of_room h]
  rfl

/-- With room, the lane accepts the event. -/
lemma pushDispatchSystem_of_room
    (h : r.dispatch.systems.items.length < r.dispatch.systems.capacity) :
    (pushDispatchSystem event).run r = .ok .accepted { r with dispatch :=
      { r.dispatch with systems := r.dispatch.systems.pushBack event h } } := by
  rw [pushDispatchSystem, run_get_seq, EventDispatcher.pushSystem, BoundedQueue.tryPush_of_room h]
  rfl

end SessionRunner

end Marketfeed
