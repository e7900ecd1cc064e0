import Marketfeed.Engine.Patches

/-!
# Shutting down

Model of `finish_shutdown_to` in `crates/engine/src/supervisor.rs`. One session after the other is
told that the shutdown has completed, and its lanes are emptied into the sink. The push of that last
event obeys the overflow policy like any other: a full lane that drops its oldest entries loses two of
them, one to the event and one to the report of the drop, and a full lane that drops the newest loses
the event itself.
-/

namespace Marketfeed.EngineSupervisor

open SessionRunner

variable {σ S : Type}

/-- A method that fails with an engine error. -/
abbrev SupervisorM (σ : Type) := EStateM EngineError (EngineSupervisor σ)

/-- The body of the loop; `consume_dispatch` without a sink drains the lanes.
Source: `finish_shutdown_to` -/
def finishSession (K : EventSink S) (sink : Option S) : EngineM σ (Option S) := do
  pushSystem .shutdownCompleted
  match sink with
  | none => drainDispatch *> pure none
  | some sink => some <$> consumeDispatch K sink

/-- The sessions come in the order the hash map has them.
Source: the loop of `finish_shutdown_to` -/
def finishSessions (K : EventSink S) :
    List (SessionId × OwnedSession σ) → Option S → SupervisorM σ (Option S)
  | [], sink => pure sink
  | (session, owned) :: order, sink => do
    let keep (runner : SessionRunner σ) (s : EngineSupervisor σ) : EngineSupervisor σ :=
      { s with sessions := s.sessions.insert session ⟨owned.machine, runner⟩ }
    match (finishSession K sink).run owned.runner with
    | .ok sink runner => do
      modify (keep runner)
      finishSessions K order sink
    | .error e runner => do
      modify (keep runner)
      throw e

/-- Nothing is left. -/
def stopped (s : EngineSupervisor σ) : EngineSupervisor σ :=
  { s with
    lifecycle := .stopped, sessions := ∅, desiredSymbols := ∅, pausedVenues := ∅, rolling := ∅ }

/-- The order is that of `sessions.values_mut()`. -/
def finishShutdownTo (K : EventSink S) (order : List (SessionId × OwnedSession σ))
    (sink : Option S) : SupervisorM σ (Option S) := do
  let sink ← finishSessions K order sink
  modify stopped
  pure sink

/-! ## What a push leaves in the lanes -/

section Lane

variable {α : Type} {q : BoundedQueue α}

/-- A full lane that drops the oldest moves up by one. -/
lemma tryPush_dropOldest (hfull : ¬ q.items.length < q.capacity) (hpolicy : q.policy = .dropOldest)
    (item : α) :
    (q.tryPush item).2 = .ok (.droppedOldest 1) ∧ (q.tryPush item).1.policy = .dropOldest ∧
      (q.tryPush item).1.items = (q.items ++ [item]).drop 1 ∧
      ¬ (q.tryPush item).1.items.length < (q.tryPush item).1.capacity := by
  have hpos := q.capacity_pos
  have hne : q.items ≠ [] := by
    rintro hnil
    rw [hnil] at hfull
    exact hfull hpos
  have htail : (q.items ++ [item]).drop 1 = q.items.tail ++ [item] := by
    rw [List.drop_one, List.tail_append_of_ne_nil hne]
  rw [BoundedQueue.tryPush, dif_neg hfull, htail]
  simp only [hpolicy, List.length_append, List.length_tail, List.length_singleton, true_and]
  omega

/-- A full lane that drops the newest stays as it is. -/
lemma tryPush_dropNewest (hfull : ¬ q.items.length < q.capacity) (hpolicy : q.policy = .dropNewest)
    (item : α) :
    (q.tryPush item).2 = .ok .droppedNewest ∧ (q.tryPush item).1.policy = .dropNewest ∧
      (q.tryPush item).1.items = q.items ∧
      ¬ (q.tryPush item).1.items.length < (q.tryPush item).1.capacity := by
  rw [BoundedQueue.tryPush, dif_neg hfull]
  simp only [hpolicy]
  exact ⟨trivial, trivial, trivial, hfull⟩

end Lane

/-- **The system lane after a push that goes through.** With room the event is the last entry. A full
lane either stays as it is or, under `DropOldest`, gives up two entries, one for the event and one for
the report of the drop. -/
def systemsAfter (event : SystemEvent) (r : SessionRunner σ) : List SystemEvent :=
  let queued := r.dispatch.systems.items
  if queued.length < r.dispatch.systems.capacity then queued ++ [event]
  else if r.cfg.overflow = .dropOldest then
    (queued ++ [event, .eventsDropped 1 "dispatch_system DropOldest"]).drop 2
  else queued

/-- The lanes are these. -/
def Lanes (batches : List EventBatch) (systems : List SystemEvent) (r : SessionRunner σ) : Prop :=
  r.dispatch.batches.items = batches ∧ r.dispatch.systems.items = systems

variable {batches : List EventBatch} {systems : List SystemEvent} {r : SessionRunner σ}
  (event : SystemEvent)

lemma lanes_pushMirrorSystem (h : Lanes batches systems r) :
    Ends (pushMirrorSystem event) r (fun _ => Lanes batches systems) fun _ _ => True :=
  Ends.get (.lift (fun _ _ => h) fun _ _ => trivial)

/-- The outcome is the lane's. -/
lemma ends_pushDispatchSystem :
    Ends (pushDispatchSystem event) r (fun o r' => (r.dispatch.systems.tryPush event).2 = .ok o ∧
      r' = { r with dispatch := (r.dispatch.pushSystem event).1 }) fun _ _ => True := by
  refine Ends.get (.modify ?_)
  rcases hpush : (r.dispatch.pushSystem event).2 with e | o
  · exact trivial
  · exact ⟨hpush, rfl⟩

/-- The report of a drop. -/
lemma lanes_emitEventsDropped (count : Nat) (detail : String)
    (h : Lanes batches systems
      { r with dispatch := (r.dispatch.pushSystem (.eventsDropped count detail)).1 }) :
    Ends (emitEventsDropped count detail) r (fun _ => Lanes batches systems) fun _ _ => True := by
  refine (ends_pushDispatchSystem (.eventsDropped count detail)).seq ?_
  rintro o r' ⟨-, rfl⟩
  exact lanes_pushMirrorSystem _ h

lemma lanes_dispatchSystem (hw : r.Wired) :
    Ends (dispatchSystem event) r
      (fun _ => Lanes r.dispatch.batches.items (systemsAfter event r)) fun _ _ => True := by
  refine (ends_pushDispatchSystem event).seq ?_
  rintro o r' ⟨hpush, rfl⟩
  unfold systemsAfter
  by_cases hroom : r.dispatch.systems.items.length < r.dispatch.systems.capacity
  · rw [BoundedQueue.tryPush_of_room hroom] at hpush
    cases hpush
    refine lanes_pushMirrorSystem event ⟨rfl, ?_⟩
    simp only [EventDispatcher.pushSystem, BoundedQueue.tryPush_of_room hroom, if_pos hroom]
    rfl
  · simp only [if_neg hroom]
    by_cases holdest : r.cfg.overflow = .dropOldest
    · let report : SystemEvent := .eventsDropped 1 "dispatch_system DropOldest"
      obtain ⟨houtcome, hpolicy, hitems, hfull⟩ :=
        tryPush_dropOldest hroom (hw.systems.trans holdest) event
      obtain ⟨-, -, hreport, -⟩ := tryPush_dropOldest hfull hpolicy report
      cases houtcome.symm.trans hpush
      rw [if_pos holdest]
      have hlanes : Lanes r.dispatch.batches.items
          ((r.dispatch.systems.items ++ [event, report]).drop 2) { r with
            dispatch := ((r.dispatch.pushSystem event).1.pushSystem report).1 } := by
        refine ⟨rfl, hreport.trans ?_⟩
        rw [hitems, ← List.drop_append_of_le_length (by simp), List.drop_drop, List.append_assoc]
        rfl
      exact (lanes_emitEventsDropped (r := { r with dispatch := (r.dispatch.pushSystem event).1 }) 1 _
        hlanes).seq fun _ _ h => lanes_pushMirrorSystem event h
    · rw [if_neg holdest]
      by_cases hnewest : r.cfg.overflow = .dropNewest
      · -- Neither the event nor the report of its drop gets into the lane.
        obtain ⟨houtcome, hpolicy, hitems, hfull⟩ :=
          tryPush_dropNewest hroom (hw.systems.trans hnewest) event
        obtain ⟨-, -, hreport, -⟩ := tryPush_dropNewest hfull hpolicy
          (.eventsDropped 1 ("dispatch_system" ++ " DropNewest"))
        cases houtcome.symm.trans hpush
        exact lanes_emitEventsDropped (r := { r with dispatch := (r.dispatch.pushSystem event).1 })
          1 _ ⟨rfl, hreport.trans hitems⟩
      · obtain ⟨e, he⟩ := BoundedQueue.tryPush_of_full hroom
          (hw.systems ▸ fun h => h.elim hnewest holdest) event
        cases he.symm.trans hpush

/-- **A push that goes through** leaves the batches alone. -/
theorem run_pushSystem (hw : r.Wired) (h : r.TakesSystem) :
    ∃ r', (pushSystem event).run r = .ok () r' ∧
      Lanes r.dispatch.batches.items (systemsAfter event r) r' := by
  let seen : SessionRunner σ := { r with readiness := r.readiness.observeSystem event }
  have hlanes := lanes_dispatchSystem (r := seen) event ⟨hw.batches, hw.systems⟩
  have hrun := run_of_completes ((completes_pushSystem hw event).mpr h)
  rcases hcase : (pushSystem event).run r with ⟨⟨⟩, r'⟩ | ⟨e, r'⟩
  · refine ⟨r', rfl, ?_⟩
    have hends : Ends (pushSystem event) r
      (fun _ => Lanes r.dispatch.batches.items (systemsAfter event r)) fun _ _ => True := hlanes
    rw [Ends, hcase] at hends
    exact hends
  · cases hcase.symm.trans hrun

/-! ## What the sink is handed -/

section

variable (batch : S → EventBatch → S) (system : S → SystemEvent → S)

/-- What a session hands to a sink that takes everything: its batches, and then the system events that
are left when it has been told of the end. -/
def handed (sink : S) (r : SessionRunner σ) : S :=
  (systemsAfter .shutdownCompleted r).foldl system (r.dispatch.batches.items.foldl batch sink)

/-- The sessions, one after the other. -/
def handedAll (order : List (SessionId × OwnedSession σ)) (sink : S) : S :=
  order.foldl (fun sink e => handed batch system sink e.2.runner) sink

/-- **One session**: it goes through iff it can take the event. -/
theorem run_finishSession (hw : r.Wired) (sink : Option S) :
    (r.TakesSystem ∧ ∃ r', (finishSession (.accepting batch system) sink).run r =
      .ok (sink.map (handed batch system · r)) r') ∨
    (¬ r.TakesSystem ∧ ∃ e r', (finishSession (.accepting batch system) sink).run r = .error e r') := by
  by_cases htakes : r.TakesSystem
  · obtain ⟨r', hrun, hbatches, hsystems⟩ := run_pushSystem .shutdownCompleted hw htakes
    refine .inl ⟨htakes, ?_⟩
    unfold finishSession
    rw [run_seq_of_ok hrun]
    rcases sink with _ | sink
    · exact ⟨_, rfl⟩
    · have hconsume : (consumeDispatch (.accepting batch system) sink).run r' =
          .ok (handed batch system sink r) { r' with dispatch := r'.dispatch.drain.2 } := by
        rw [consumeDispatch, run_get_seq, run_modify_seq, forwardDispatcher_accepting, handed,
          ← hbatches, ← hsystems]
        rfl
      dsimp only
      rw [map_eq_pure_bind, run_seq_of_ok hconsume]
      exact ⟨_, rfl⟩
  · refine .inr ⟨htakes, ?_⟩
    rw [← completes_pushSystem hw .shutdownCompleted] at htakes
    rcases hrun : (pushSystem .shutdownCompleted).run r with ⟨⟨⟩, r'⟩ | ⟨e, r'⟩
    · exact absurd (completes_of_ok hrun) htakes
    · exact ⟨e, r', run_seq_of_error hrun⟩

/-- **All sessions.** -/
theorem run_finishSessions {order : List (SessionId × OwnedSession σ)}
    (hw : ∀ e ∈ order, e.2.runner.Wired) (sink : Option S) (s : EngineSupervisor σ) :
    ((∀ e ∈ order, e.2.runner.TakesSystem) ∧
      ∃ s', (finishSessions (.accepting batch system) order sink).run s =
        .ok (sink.map (handedAll batch system order)) s' ∧ stopped s' = stopped s) ∨
    ((¬ ∀ e ∈ order, e.2.runner.TakesSystem) ∧
      ∃ e s', (finishSessions (.accepting batch system) order sink).run s = .error e s') := by
  induction order generalizing sink s with
  | nil =>
    refine .inl ⟨fun e he => absurd he List.not_mem_nil, s, ?_, rfl⟩
    rw [show handedAll batch system [] = id from rfl, Option.map_id]
    rfl
  | cons e order ih =>
    obtain ⟨hfirst, hrest⟩ := List.forall_mem_cons.mp hw
    rw [List.forall_mem_cons, finishSessions]
    rcases run_finishSession batch system hfirst sink with ⟨htakes, r', hrun⟩ | ⟨htakes, e', r', hrun⟩
    · rw [hrun, and_iff_right htakes]
      rcases ih hrest (sink.map (handed batch system · e.2.runner)) _ with
        ⟨hall, s', hs', hstopped⟩ | ⟨hall, hs'⟩
      · refine .inl ⟨hall, s', hs'.trans ?_, hstopped⟩
        rw [Option.map_map]
        rfl
      · exact .inr ⟨hall, hs'⟩
    · rw [hrun]
      exact .inr ⟨fun h => htakes h.1, e', _, rfl⟩

/-- **Finishing a shutdown**, into a sink that takes everything or without one. If every session can
take one more system event, the sink is handed the lanes of one session after the other as the last
push leaves them, and nothing of the engine is left. Otherwise the call fails, and `finish_shutdown`
panics. -/
theorem finishShutdownTo_exact {s : EngineSupervisor σ} (hw : s.Wired)
    {order : List (SessionId × OwnedSession σ)} (horder : order.Perm s.sessions.toList)
    (sink : Option S) :
    ((∀ e ∈ s.sessions.toList, e.2.runner.TakesSystem) →
      (finishShutdownTo (.accepting batch system) order sink).run s =
        .ok (sink.map (handedAll batch system order)) (stopped s)) ∧
    ((∃ e ∈ s.sessions.toList, ¬ e.2.runner.TakesSystem) →
      ∃ e s', (finishShutdownTo (.accepting batch system) order sink).run s = .error e s') := by
  have hwired : ∀ e ∈ order, e.2.runner.Wired := fun e he =>
    hw e.1 e.2 (Std.ExtTreeMap.mem_toList_iff_getElem?_eq_some.mp (horder.mem_iff.mp he))
  simp only [← horder.mem_iff]
  rcases run_finishSessions batch system hwired sink s with
    ⟨hall, s', hrun, hstopped⟩ | ⟨hall, e, s', hrun⟩
  · refine ⟨fun _ => ?_, fun ⟨e, he, hfull⟩ => absurd (hall e he) hfull⟩
    rw [finishShutdownTo, run_seq_of_ok hrun, ← hstopped]
    rfl
  · exact ⟨fun h => absurd h hall, fun _ => ⟨e, s', run_seq_of_error hrun⟩⟩

end

/-- Two system events in a lane of capacity two, which drops its oldest entries. -/
def sheddingRunner : SessionRunner Unit :=
  endState (do
    pushSystem .heartbeatMissed
    pushSystem .shutdownStarted)
    (.new () { narrowConfig with
      dispatchCapacity := 2, capacity_pos := by decide, overflow := .dropOldest })

/-- A new session says that the shutdown has completed, and only that. A session whose full lane drops
its oldest entries says that and that an entry was dropped; the two events it held are lost. A session
whose full lane fails makes the call fail. -/
theorem finishShutdownTo_exact_one :
    let keep : EventSink (List SystemEvent) := .accepting (fun said _ => said) fun said e => said ++ [e]
    let one (r : SessionRunner Unit) := oneSession r ∅
    (finishShutdownTo keep (one (.new () narrowConfig)).sessions.toList (some [])).run
        (one (.new () narrowConfig)) =
      .ok (some [.shutdownCompleted]) (stopped (one (.new () narrowConfig))) ∧
    sheddingRunner.dispatch.systems.items = [.heartbeatMissed, .shutdownStarted] ∧
    (finishShutdownTo keep (one sheddingRunner).sessions.toList (some [])).run (one sheddingRunner) =
      .ok (some [.shutdownCompleted, .eventsDropped 1 "dispatch_system DropOldest"])
        (stopped (one sheddingRunner)) ∧
    ∃ e s', (finishShutdownTo keep (one fullRunner).sessions.toList none).run (one fullRunner) =
      .error e s' := by
  have hlist : ∀ r : SessionRunner Unit,
      (oneSession r ∅).sessions.toList = [(⟨1⟩, ⟨silentMachine, r⟩)] := fun r => rfl
  have hexact {r : SessionRunner Unit} (h : r.Wired) (sink : Option (List SystemEvent)) :=
    finishShutdownTo_exact (fun (said : List SystemEvent) _ => said) (fun said e => said ++ [e])
      (wired_oneSession h ∅) (List.Perm.refl _) sink
  refine ⟨?_, by decide +kernel, ?_, ?_⟩
  · exact (hexact (wired_new () narrowConfig) (some [])).1
      (by rw [hlist]; exact List.forall_mem_singleton.mpr (.inr ⟨by decide, by decide⟩))
  · exact (hexact ⟨by decide +kernel, by decide +kernel⟩ (some [])).1
      (by rw [hlist]; exact List.forall_mem_singleton.mpr (.inl (by decide +kernel)))
  · exact (hexact ⟨by decide +kernel, by decide +kernel⟩ none).2
      ⟨(⟨1⟩, ⟨silentMachine, fullRunner⟩), by rw [hlist]; exact List.mem_singleton_self _,
        by decide +kernel⟩

end Marketfeed.EngineSupervisor
