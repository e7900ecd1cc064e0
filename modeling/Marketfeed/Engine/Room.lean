import Marketfeed.Engine.Frame

/-!
# When a push succeeds

Whether the runner can deliver a batch or a system event is read off its lanes and mirrors. A runner
is *wired* if both lanes have the overflow policy of its configuration; that is how it is built.
-/

namespace Marketfeed

/-- The policies that drop an item instead of failing. -/
def OverflowPolicy.Dropping (policy : OverflowPolicy) : Prop :=
  policy = .dropNewest ∨ policy = .dropOldest

instance (policy : OverflowPolicy) : Decidable policy.Dropping :=
  inferInstanceAs (Decidable (_ ∨ _))

variable {α : Type}

/-- A full queue that does not drop fails. -/
lemma BoundedQueue.tryPush_of_full {q : BoundedQueue α} (hfull : ¬ q.items.length < q.capacity)
    (hdrop : ¬ q.policy.Dropping) (item : α) : ∃ e, (q.tryPush item).2 = .error e := by
  unfold BoundedQueue.tryPush
  rw [dif_neg hfull]
  unfold OverflowPolicy.Dropping at hdrop
  split <;> simp_all

/-- A queue that drops takes everything. -/
lemma BoundedQueue.tryPush_of_dropping {q : BoundedQueue α} (hdrop : q.policy.Dropping)
    (item : α) : ∃ o, (q.tryPush item).2 = .ok o := by
  unfold BoundedQueue.tryPush
  split
  · exact ⟨_, rfl⟩
  · rcases hdrop with h | h <;> rw [h] <;> exact ⟨_, rfl⟩

namespace SessionRunner

variable {σ : Type}

/-! ## Wiring -/

/-- **Both lanes have the configured overflow policy.** -/
structure Wired (r : SessionRunner σ) : Prop where
  batches : r.dispatch.batches.policy = r.cfg.overflow
  systems : r.dispatch.systems.policy = r.cfg.overflow

/-- The configuration and the policies of the lanes, which is all that matters for this. -/
def wiring (r : SessionRunner σ) : SessionRunnerConfig × OverflowPolicy × OverflowPolicy :=
  (r.cfg, r.dispatch.batches.policy, r.dispatch.systems.policy)

/-- The wiring is the same. -/
abbrev SameWiring : SessionRunner σ → SessionRunner σ → Prop := SameOn wiring

/-- A runner is built wired. -/
lemma wired_new (machine : σ) (cfg : SessionRunnerConfig) : (new machine cfg).Wired := ⟨rfl, rfl⟩

/-- Wiring is kept. -/
lemma SameWiring.wired {r r' : SessionRunner σ} (h : SameWiring r r') (hw : r.Wired) : r'.Wired := by
  obtain ⟨hcfg, hbatches, hsystems⟩ : r'.cfg = r.cfg ∧ _ = _ ∧ _ = _ := by
    simpa only [SameWiring, SameOn, wiring, Prod.mk.injEq] using h
  exact ⟨by rw [hbatches, hcfg, hw.batches], by rw [hsystems, hcfg, hw.systems]⟩

/-- Routine steps leave the wiring alone. -/
lemma Routine.sameWiring {r r' : SessionRunner σ} (h : Routine r r') : SameWiring r r' := by
  have hsame := congrArg wiring h
  exact hsame

/-- Delivering changes no wiring. -/
lemma delivers_sameWiring : Delivers (SameWiring (σ := σ)) :=
  delivers_routine.mono fun _ _ => Routine.sameWiring

section Wiring

variable (M : SessionMachine σ) (J : ControlJson) (now : TimestampNs)

lemma sameWiring_applyAction (fatal : Bool) (action : SessionAction) :
    Keeps SameWiring (applyAction now fatal action : EngineM σ Unit) :=
  fun r => (outward_applyAction now fatal action r).routine.sameWiring

lemma sameWiring_deliver (input : SessionInput) (fatal : Bool) :
    Keeps SameWiring (deliver M input now fatal) := by
  have hfeed : Keeps SameWiring (feed M input) :=
    Keeps.get fun _ => .seq (.modify fun _ => rfl) fun _ => .lift _ _
  refine hfeed.seq fun _ => .seq (.get fun r => ?_) fun _ => .get fun r => ?_
  · refine Keeps.seq (.modify fun _ => rfl) fun _ => ?_
    split_ifs
    · exact delivers_sameWiring.emitEventsDropped _ _
    · exact .pure _
  · exact Keeps.seq (.modify fun _ => rfl) fun _ =>
      Keeps.forM fun action _ => sameWiring_applyAction now fatal action

lemma sameWiring_recordInbound (opcode : RecOpcode) (payload : Bytes) (received : FrameStamp) :
    Keeps SameWiring (recordInbound opcode payload received : EngineM σ Unit) :=
  Keeps.get fun _ => keeps_recordFrame _ fun _ _ _ => rfl

lemma sameWiring_deliverControl (command : SessionCommand) :
    Keeps SameWiring (deliverControl M J command now) := by
  rcases command with _ | _ | _ | _ | _
  case resync | stop => exact sameWiring_deliver M now _ false
  all_goals exact (routine_subscriptionControl M J _ now).mono fun _ _ => Routine.sameWiring

lemma sameWiring_pushSystem (event : SystemEvent) :
    Keeps SameWiring (pushSystem event : EngineM σ Unit) :=
  (routine_pushSystem event).mono fun _ _ => Routine.sameWiring

lemma sameWiring_requestStop : Keeps SameWiring (requestStop : EngineM σ Unit) :=
  Keeps.seq (.modify fun _ => rfl) fun _ => .modify fun _ => rfl

lemma sameWiring_markDegraded (message : String) :
    Keeps SameWiring (markDegradedWithStatus message now : EngineM σ Unit) :=
  Keeps.seq (.modify fun _ => rfl) fun _ => .seq (.modify fun _ => rfl) fun _ =>
    delivers_sameWiring.emitVenueStatus message now

/-- **Every call leaves the wiring alone.** -/
theorem sameWiring_exec {S : Type} (K : EventSink S) (call : SessionCall S) :
    Keeps SameWiring (exec M J K call) := by
  have hshared {f : Readiness → Readiness} {g : SessionRunner σ → SessionRunner σ}
      {k : Unit → EngineM σ Unit} (hg : ∀ r, SameWiring r (g r)) (hk : ∀ u, Keeps SameWiring (k u)) :
      Keeps SameWiring (modify g >>= fun _ => shared f >>= k) :=
    (Keeps.modify hg).seq fun _ => Keeps.seq (Keeps.modify fun _ => rfl) hk
  have hframe : Keeps SameWiring (nextFrame : EngineM σ Unit) := Keeps.modify fun _ => rfl
  cases call with
  | connected now =>
    exact hshared (fun _ => rfl) fun _ => (sameWiring_deliver M now _ true).seq fun _ =>
      delivers_sameWiring.emitVenueStatus _ now
  | disconnected reason now | transportLost reason now =>
    exact hshared (fun _ => rfl) fun _ => (sameWiring_deliver M now _ true).seq fun _ =>
      Keeps.modify fun _ => rfl
  | text payload received | binary payload received | pong payload received =>
    exact hframe.seq fun _ => (sameWiring_recordInbound _ _ _).seq fun _ => sameWiring_deliver M _ _ _
  | ping payload received | close payload received =>
    exact hframe.seq fun _ => sameWiring_recordInbound _ _ _
  | http requestId response received =>
    exact Keeps.seq (Keeps.modify fun _ => rfl) fun _ => (Keeps.lift _ _).seq fun _ =>
      (sameWiring_recordInbound _ _ _).seq fun _ => sameWiring_deliver M _ _ _
  | timer timerId now =>
    exact Keeps.seq (.modify fun _ => rfl) fun _ => sameWiring_deliver M now _ true
  | control command now => exact sameWiring_deliverControl M J now command
  | requestStop => exact sameWiring_requestStop
  | pushSystem event => exact sameWiring_pushSystem event
  | markDegraded message now => exact sameWiring_markDegraded now message
  | markLive now => exact hshared (fun _ => rfl) fun _ => delivers_sameWiring.emitVenueStatus _ now
  | publishCatalog version instruments now =>
    refine Keeps.get fun r => ?_
    dsimp only
    split_ifs
    · exact sameWiring_pushSystem _
    · exact (delivers_sameWiring.dispatchBatch _).seq fun _ => sameWiring_pushSystem _
  | drain => exact .modify fun r => rfl
  | consume sink =>
    refine (delivers_sameWiring.consumeDispatch K sink fun r => ?_).seq fun _ => .pure _
    obtain ⟨hbatches, hsystems⟩ := forwardDispatcher_policy K r.dispatch sink
    rw [SameWiring, SameOn, wiring, wiring, hbatches, hsystems]
  | takeWrites | takeHttp =>
    exact Keeps.seq (.get fun r => .seq (.modify fun _ => rfl) fun _ => .pure _)
      fun _ => .pure _

end Wiring

/-! ## Pushes that drop -/

/-- A wired runner whose policy drops. -/
structure Sheds (r : SessionRunner σ) : Prop where
  wired : r.Wired
  dropping : r.cfg.overflow.Dropping

variable (batch : EventBatch)

lemma sheds_pushDispatchBatch :
    Returns Sheds (pushDispatchBatch batch : EngineM σ PushOutcome) := by
  intro r h
  obtain ⟨o, ho⟩ := BoundedQueue.tryPush_of_dropping (h.wired.batches ▸ h.dropping) batch
  have hpolicy := BoundedQueue.tryPush_policy r.dispatch.batches batch
  have hpushed : (r.dispatch.pushBatch batch).2 = .ok o := ho
  show Ends (liftExcept _ (r.dispatch.pushBatch batch).2) _ _ _
  rw [hpushed]
  exact ⟨⟨hpolicy.trans h.wired.batches, h.wired.systems⟩, h.dropping⟩

variable (event : SystemEvent)

lemma sheds_pushDispatchSystem :
    Returns Sheds (pushDispatchSystem event : EngineM σ PushOutcome) := by
  intro r h
  obtain ⟨o, ho⟩ := BoundedQueue.tryPush_of_dropping (h.wired.systems ▸ h.dropping) event
  have hpolicy := BoundedQueue.tryPush_policy r.dispatch.systems event
  have hpushed : (r.dispatch.pushSystem event).2 = .ok o := ho
  show Ends (liftExcept _ (r.dispatch.pushSystem event).2) _ _ _
  rw [hpushed]
  exact ⟨⟨h.wired.batches, hpolicy.trans h.wired.systems⟩, h.dropping⟩

/-- A mirror that drops takes everything. -/
lemma tryPushMirror_of_dropping {α : Type} {policy : OverflowPolicy} (h : policy.Dropping)
    (items : List α) (capacity : Nat) (item : α) :
    ∃ pushed, tryPushMirror items capacity policy item = .ok pushed := by
  unfold tryPushMirror
  split_ifs
  · exact ⟨_, rfl⟩
  · exact ⟨_, rfl⟩
  · rcases h with rfl | rfl <;> exact ⟨_, rfl⟩

lemma sheds_pushMirrorSystem : Returns Sheds (pushMirrorSystem event : EngineM σ Unit) := by
  intro r h
  obtain ⟨pushed, hpushed⟩ :=
    tryPushMirror_of_dropping h.dropping r.systemEvents r.mirrorCapacity event
  show Ends (liftExcept id (tryPushMirror r.systemEvents r.mirrorCapacity r.cfg.overflow event) >>=
    fun pushed => modify fun r => { r with systemEvents := pushed.1 }) r _ _
  rw [hpushed]
  exact ⟨⟨h.wired.batches, h.wired.systems⟩, h.dropping⟩

lemma sheds_emitEventsDropped (count : Nat) (detail : String) :
    Returns Sheds (emitEventsDropped count detail : EngineM σ Unit) :=
  (sheds_pushDispatchSystem _).seq fun _ => sheds_pushMirrorSystem _

lemma sheds_pushMirrorBatch : Returns Sheds (pushMirrorBatch batch : EngineM σ Unit) := by
  intro r h
  obtain ⟨⟨items, pushed⟩, hpushed⟩ :=
    tryPushMirror_of_dropping h.dropping r.marketBatches r.mirrorCapacity batch
  have hr : Sheds { r with marketBatches := items } :=
    ⟨⟨h.wired.batches, h.wired.systems⟩, h.dropping⟩
  show Ends (liftExcept id (tryPushMirror r.marketBatches r.mirrorCapacity r.cfg.overflow batch) >>=
    fun pushed => (modify fun r => { r with marketBatches := pushed.1 }) >>= fun _ => _) r _ _
  rw [hpushed]
  rcases pushed with _ | detail
  · exact hr
  · exact sheds_emitEventsDropped 1 detail _ hr

lemma sheds_notePushOutcome (lane : String) (outcome : PushOutcome) :
    Returns Sheds (notePushOutcome lane outcome : EngineM σ Unit) := by
  rcases outcome with _ | _ | dropped
  · exact .pure ()
  · exact sheds_emitEventsDropped 1 _
  · exact sheds_emitEventsDropped dropped _

lemma sheds_dispatchBatch : Returns Sheds (dispatchBatch batch : EngineM σ Unit) := by
  refine (sheds_pushDispatchBatch batch).seq fun outcome => ?_
  rcases outcome with _ | _ | dropped
  · exact sheds_pushMirrorBatch batch
  · exact sheds_notePushOutcome _ _
  · exact (sheds_notePushOutcome _ _).seq fun _ => sheds_pushMirrorBatch batch

lemma sheds_dispatchSystem : Returns Sheds (dispatchSystem event : EngineM σ Unit) := by
  refine (sheds_pushDispatchSystem event).seq fun outcome => ?_
  rcases outcome with _ | _ | dropped
  · exact sheds_pushMirrorSystem event
  · exact sheds_notePushOutcome _ _
  · exact (sheds_notePushOutcome _ _).seq fun _ => sheds_pushMirrorSystem event

/-! ## Pushes that find room -/

/-- A mirror with `n` items has room for another one, or mirrors nothing. -/
def MirrorRoom (r : SessionRunner σ) (n : Nat) : Prop := r.mirrorCapacity = 0 ∨ n < r.mirrorCapacity

instance (r : SessionRunner σ) (n : Nat) : Decidable (r.MirrorRoom n) :=
  inferInstanceAs (Decidable (_ ∨ _))

/-- **A batch can be delivered.** -/
def TakesBatch (r : SessionRunner σ) : Prop :=
  r.cfg.overflow.Dropping ∨
    (r.dispatch.batches.items.length < r.dispatch.batches.capacity ∧
      r.MirrorRoom r.marketBatches.length)

/-- **A system event can be delivered.** -/
def TakesSystem (r : SessionRunner σ) : Prop :=
  r.cfg.overflow.Dropping ∨
    (r.dispatch.systems.items.length < r.dispatch.systems.capacity ∧
      r.MirrorRoom r.systemEvents.length)

instance (r : SessionRunner σ) : Decidable r.TakesBatch := inferInstanceAs (Decidable (_ ∨ _))

instance (r : SessionRunner σ) : Decidable r.TakesSystem := inferInstanceAs (Decidable (_ ∨ _))

/-- A full mirror that does not drop fails. -/
lemma tryPushMirror_of_full {α : Type} {items : List α} {capacity : Nat}
    (h : ¬ (capacity = 0 ∨ items.length < capacity)) {policy : OverflowPolicy}
    (hdrop : ¬ policy.Dropping) (item : α) :
    ∃ e, tryPushMirror items capacity policy item = .error e := by
  unfold tryPushMirror
  rw [if_neg fun hzero => h (.inl hzero), if_neg fun hroom => h (.inr hroom)]
  unfold OverflowPolicy.Dropping at hdrop
  cases policy <;> simp at hdrop ⊢

variable {r : SessionRunner σ}

lemma completes_pushMirrorSystem (h : ¬ r.cfg.overflow.Dropping) (event : SystemEvent) :
    completes (pushMirrorSystem event) r = true ↔ r.MirrorRoom r.systemEvents.length := by
  have hrun : completes (pushMirrorSystem event) r = completes (liftExcept id
    (tryPushMirror r.systemEvents r.mirrorCapacity r.cfg.overflow event) >>= fun pushed =>
      modify fun r => { r with systemEvents := pushed.1 }) r := rfl
  rw [hrun]
  by_cases hroom : r.MirrorRoom r.systemEvents.length
  · rw [tryPushMirror_of_room hroom]
    exact iff_of_true rfl hroom
  · obtain ⟨e, he⟩ := tryPushMirror_of_full hroom h event
    rw [he]
    exact iff_of_false Bool.false_ne_true hroom

/-- **A system event goes through iff there is room for it.** -/
theorem completes_dispatchSystem_iff (hw : r.Wired) (event : SystemEvent) :
    completes (dispatchSystem event) r = true ↔ r.TakesSystem := by
  by_cases hdrop : r.cfg.overflow.Dropping
  · exact iff_of_true ((sheds_dispatchSystem event).completes ⟨hw, hdrop⟩) (.inl hdrop)
  · rw [TakesSystem, or_iff_right hdrop]
    by_cases hroom : r.dispatch.systems.items.length < r.dispatch.systems.capacity
    · rw [dispatchSystem, completes_seq_of_ok (pushDispatchSystem_of_room event hroom),
        and_iff_right hroom]
      exact completes_pushMirrorSystem (r := { r with
        dispatch := ⟨r.dispatch.batches, r.dispatch.systems.pushBack event hroom⟩ }) hdrop event
    · obtain ⟨e, he⟩ := BoundedQueue.tryPush_of_full hroom (hw.systems ▸ hdrop) event
      have hpush : (r.dispatch.pushSystem event).2 = .error e := he
      have hrun : (pushDispatchSystem event).run r =
          .error (.dispatch e) { r with dispatch := (r.dispatch.pushSystem event).1 } := by
        rw [pushDispatchSystem, run_get_seq, run_modify_seq, hpush]
        rfl
      rw [dispatchSystem, completes_seq_of_error hrun]
      exact iff_of_false Bool.false_ne_true fun h => hroom h.1

/-- Only the batch lane and its mirror may differ. -/
structure BatchOnly (r r' : SessionRunner σ) : Prop where
  cfg : r'.cfg = r.cfg
  policy : r'.dispatch.batches.policy = r.dispatch.batches.policy
  systems : r'.dispatch.systems = r.dispatch.systems
  systemEvents : r'.systemEvents = r.systemEvents

/-- A batch that finds room touches nothing else. -/
lemma run_dispatchBatch_of_room
    (hroom : r.dispatch.batches.items.length < r.dispatch.batches.capacity)
    (hmirror : r.MirrorRoom r.marketBatches.length) :
    ∃ r', (dispatchBatch batch).run r = .ok () r' ∧ BatchOnly r r' := by
  have hpush := pushDispatchBatch_of_room batch hroom
  have hmirrored := pushMirrorBatch_of_room (r := { r with dispatch :=
    { r.dispatch with batches := r.dispatch.batches.pushBack batch hroom } }) batch hmirror
  exact ⟨_, (run_seq_of_ok hpush).trans hmirrored, ⟨rfl, rfl, rfl, rfl⟩⟩

/-- A batch that finds no room and is not dropped fails. -/
lemma completes_dispatchBatch_of_full (hw : r.Wired) (hdrop : ¬ r.cfg.overflow.Dropping)
    (batch : EventBatch) (h : ¬ (r.dispatch.batches.items.length < r.dispatch.batches.capacity ∧
      r.MirrorRoom r.marketBatches.length)) : completes (dispatchBatch batch) r = false := by
  by_cases hroom : r.dispatch.batches.items.length < r.dispatch.batches.capacity
  · obtain ⟨e, he⟩ := tryPushMirror_of_full (fun hmirror => h ⟨hroom, hmirror⟩) hdrop batch
    rw [dispatchBatch, completes_seq_of_ok (pushDispatchBatch_of_room batch hroom)]
    show completes (liftExcept id (tryPushMirror r.marketBatches r.mirrorCapacity r.cfg.overflow
      batch) >>= fun pushed => _) _ = false
    rw [he]
    rfl
  · obtain ⟨e, he⟩ := BoundedQueue.tryPush_of_full hroom (hw.batches ▸ hdrop) batch
    have hpush : (r.dispatch.pushBatch batch).2 = .error e := he
    have hrun : (pushDispatchBatch batch).run r =
        .error (.dispatch e) { r with dispatch := (r.dispatch.pushBatch batch).1 } := by
      rw [pushDispatchBatch, run_get_seq, run_modify_seq, hpush]
      rfl
    rw [dispatchBatch, completes_seq_of_error hrun]

lemma completes_pushSystem (hw : r.Wired) (event : SystemEvent) :
    completes (pushSystem event) r = true ↔ r.TakesSystem :=
  completes_dispatchSystem_iff (r := { r with readiness := r.readiness.observeSystem event })
    ⟨hw.batches, hw.systems⟩ event

/-- **A status and then a system event go through iff there is room for both.** -/
theorem completes_status_seq (hw : r.Wired) (message : String) (now : TimestampNs)
    (event : SystemEvent) :
    completes (emitVenueStatus message now >>= fun _ => pushSystem event) r = true ↔
      r.TakesBatch ∧ r.TakesSystem := by
  by_cases hdrop : r.cfg.overflow.Dropping
  · refine iff_of_true ?_ ⟨.inl hdrop, .inl hdrop⟩
    have hshed : Returns Sheds (emitVenueStatus message now >>= fun _ => pushSystem event :
        EngineM σ Unit) := by
      refine Returns.seq (fun r h => sheds_dispatchBatch _ r h) fun _ => ?_
      refine Returns.seq ?_ fun _ => sheds_dispatchSystem _
      exact .modify fun r h => ⟨⟨h.wired.batches, h.wired.systems⟩, h.dropping⟩
    exact hshed.completes ⟨hw, hdrop⟩
  · rw [TakesBatch, or_iff_right hdrop]
    by_cases hroom : r.dispatch.batches.items.length < r.dispatch.batches.capacity ∧
        r.MirrorRoom r.marketBatches.length
    · -- The status goes through, and the system lane is as before.
      obtain ⟨r', hrun, honly⟩ : ∃ r', (emitVenueStatus message now).run r = .ok () r' ∧
          BatchOnly r r' := run_dispatchBatch_of_room _ hroom.1 hroom.2
      have hwired : r'.Wired := ⟨by rw [honly.policy, honly.cfg]; exact hw.batches,
        by rw [honly.systems, honly.cfg]; exact hw.systems⟩
      have htakes : r'.TakesSystem ↔ r.TakesSystem := by
        unfold TakesSystem MirrorRoom mirrorCapacity
        rw [honly.cfg, honly.systems, honly.systemEvents]
      rw [completes_seq_of_ok hrun, completes_pushSystem hwired, htakes, and_iff_right hroom]
    · have hfull : completes (emitVenueStatus message now) r = false :=
        completes_dispatchBatch_of_full hw hdrop _ hroom
      rcases hrun : (emitVenueStatus message now).run r with ⟨⟨⟩, r'⟩ | ⟨e, r'⟩
      · rw [completes_of_ok hrun] at hfull
        cases hfull
      · rw [completes_seq_of_error hrun]
        exact iff_of_false Bool.false_ne_true fun h => hroom h.1

/-! ## Subscription commands -/

/-- **A frame can be recorded**: the pipeline takes it, or the segment does. -/
def Records (r : SessionRunner σ) (frame : RawFrame) : Prop :=
  match r.cfg.recordingPipeline, r.recorder with
  | some pipeline, _ => pipeline r.enqueued = .ok ()
  | none, some recorder => (recorder.writeRecord frame).2 = .ok ()
  | none, none => True

/-- **A subscription command can be carried out**: its write can be queued, the machine prepares it,
and what is recorded of it fits. -/
def TakesCommand (M : SessionMachine σ) (J : ControlJson) (command : SessionCommand)
    (now : TimestampNs) (r : SessionRunner σ) : Prop :=
  r.pendingWrites.length < maxPendingWrites ∧
    ∃ wire, M.prepareDynamicSubscription r.machine command = .ok wire ∧
      (r.cfg.recordingPipeline.isNone ∧ r.recorder.isNone ∨
        ∃ payload, ControlPayload.encode J command wire = .ok payload ∧
          r.Records (r.commandFrame payload now))

lemma completes_recordFrame (r : SessionRunner σ) (frame : RawFrame) :
    completes (recordFrame frame) r = true ↔ r.Records frame := by
  rw [completes, recordFrame, run_get_seq, Records]
  rcases r.cfg.recordingPipeline with _ | pipeline
  · rcases r.recorder with _ | recorder
    · exact iff_of_true rfl trivial
    · dsimp only
      rw [run_modify_seq]
      rcases (recorder.writeRecord frame).2 with e | ⟨⟩
      · exact iff_of_false Bool.false_ne_true (by rintro ⟨⟩)
      · exact iff_of_true rfl rfl
  · dsimp only
    rw [run_modify_seq]
    rcases pipeline r.enqueued with e | ⟨⟩
    · exact iff_of_false Bool.false_ne_true (by rintro ⟨⟩)
    · exact iff_of_true rfl rfl

lemma completes_recordSubscriptionCommand (J : ControlJson) (command : SessionCommand)
    (wire : SubscriptionWireAction) (now : TimestampNs) (r : SessionRunner σ) :
    completes (recordSubscriptionCommand J command wire now) r = true ↔
      (r.cfg.recordingPipeline.isNone ∧ r.recorder.isNone ∨
        ∃ payload, ControlPayload.encode J command wire = .ok payload ∧
          r.Records (r.commandFrame payload now)) := by
  rw [completes, recordSubscriptionCommand, run_get_seq, ← completes]
  split_ifs with hnone
  · exact iff_of_true rfl (.inl hnone)
  · rw [or_iff_right hnone]
    rcases hencode : ControlPayload.encode J command wire with e | payload
    · exact iff_of_false Bool.false_ne_true (by rintro ⟨_, ⟨⟩, -⟩)
    · have hframe := completes_recordFrame r (r.commandFrame payload now)
      refine hframe.trans ⟨fun h => ⟨payload, rfl, h⟩, ?_⟩
      rintro ⟨_, ⟨⟩, h⟩
      exact h

/-- **A subscription command goes through iff it can be carried out.** -/
theorem completes_subscriptionControl_iff (M : SessionMachine σ) (J : ControlJson)
    (command : SessionCommand) (now : TimestampNs) (r : SessionRunner σ) :
    completes (deliverSubscriptionControl M J command now) r = true ↔
      TakesCommand M J command now r := by
  rw [completes, deliverSubscriptionControl, run_get_seq, ← completes, TakesCommand]
  split_ifs with hfull
  · exact iff_of_false Bool.false_ne_true fun h => absurd h.1 (by omega)
  · rw [and_iff_right (by omega : r.pendingWrites.length < maxPendingWrites)]
    rcases hprepare : M.prepareDynamicSubscription r.machine command with e | wire
    · exact iff_of_false Bool.false_ne_true (by rintro ⟨_, ⟨⟩, -⟩)
    · have hrecord := completes_recordSubscriptionCommand J command wire now r
      have hwire : (completes (recordSubscriptionCommand J command wire now) r = true) ↔
          ∃ wire', Except.ok (ε := AdapterError) wire = .ok wire' ∧
            (r.cfg.recordingPipeline.isNone ∧ r.recorder.isNone ∨
              ∃ payload, ControlPayload.encode J command wire' = .ok payload ∧
                r.Records (r.commandFrame payload now)) := by
        refine hrecord.trans ⟨fun h => ⟨wire, rfl, h⟩, ?_⟩
        rintro ⟨_, ⟨⟩, h⟩
        exact h
      rw [← hwire]
      -- Once the command is recorded nothing can fail.
      show completes (recordSubscriptionCommand J command wire now >>= fun _ => _) r = true ↔ _
      rcases hrun : (recordSubscriptionCommand J command wire now).run r with ⟨⟨⟩, r'⟩ | ⟨e, r'⟩
      · rw [completes_seq_of_ok hrun, completes_of_ok hrun]
        exact iff_of_true (completes_attempt _ _) rfl
      · rw [completes_seq_of_error hrun, completes, hrun]

/-- The configuration, the lanes and the system mirror are the same. -/
structure SameLanes (r r' : SessionRunner σ) : Prop where
  cfg : r'.cfg = r.cfg
  dispatch : r'.dispatch = r.dispatch
  systemEvents : r'.systemEvents = r.systemEvents

instance : Std.Refl (SameLanes (σ := σ)) := ⟨fun _ => ⟨rfl, rfl, rfl⟩⟩

instance : IsTrans (SessionRunner σ) SameLanes :=
  ⟨fun _ _ _ h h' => ⟨h'.cfg.trans h.cfg, h'.dispatch.trans h.dispatch,
    h'.systemEvents.trans h.systemEvents⟩⟩

lemma SameLanes.wired {r' : SessionRunner σ} (h : SameLanes r r') (hw : r.Wired) : r'.Wired :=
  ⟨by rw [h.dispatch, h.cfg, hw.batches], by rw [h.dispatch, h.cfg, hw.systems]⟩

lemma SameLanes.takesSystem {r' : SessionRunner σ} (h : SameLanes r r') :
    r'.TakesSystem ↔ r.TakesSystem := by
  unfold TakesSystem MirrorRoom mirrorCapacity
  rw [h.cfg, h.dispatch, h.systemEvents]

end SessionRunner

end Marketfeed
