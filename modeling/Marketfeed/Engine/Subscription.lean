import Marketfeed.Engine.Runner
import Marketfeed.Recording.Pipeline

/-!
# Subscription commands are atomic

`deliver_control` moves three stores for a `Subscribe`, `Unsubscribe` or `Replace`: the queue of
pending writes, the recording and the adapter's own state. `deliverControl_atomic`: either none of
them changes, or each takes exactly its one step, whatever the queues, lanes and mirrors hold.

The process-wide recorder is seen by its answers; what they say of its queue is a hypothesis, that of
a queue under `FailEngine`.
-/

namespace Marketfeed.SessionRunner

variable {σ : Type}

/-- The commands that change subscriptions.
Source: the `matches!` of `deliver_control` -/
def IsSubscription : SessionCommand → Prop
  | .subscribe _ | .unsubscribe _ | .replace _ => True
  | .resync _ | .stop => False

/-- The recorder's queue after a call that handed it at most this frame. -/
def queueAfter (queue : RecordingQueue) (r r' : SessionRunner σ) (frame : RawFrame) :
    RecordingQueue :=
  if r'.enqueued = r.enqueued then queue else (queue.push frame).1

/-- The recording is as it was. -/
def RecordingSame (queue : RecordingQueue) (r r' : SessionRunner σ) : Prop :=
  r'.recorder = r.recorder ∧ ∀ frame, (queueAfter queue r r' frame).items = queue.items

/-- Exactly this frame was appended, to the recorder's queue or to the runner's own segment. -/
def RecordingAppends (queue : RecordingQueue) (r r' : SessionRunner σ) (frame : RawFrame) : Prop :=
  match r.cfg.recordingPipeline, r.recorder with
  | some _, recorder =>
    r'.recorder = recorder ∧ (queueAfter queue r r' frame).items = queue.items ++ [frame]
  | none, some recorder =>
    r'.recorder = some ⟨recorder.bytes ++ frame.record.bytes, recorder.recordsWritten + 1⟩ ∧
      r'.enqueued = r.enqueued
  | none, none => False

/-- The answers of the process-wide recorder are those of a queue under `FailEngine`. -/
structure AnswersFor (queue : RecordingQueue) (r : SessionRunner σ) : Prop where
  policy : queue.policy = .failEngine
  answers : ∀ pipeline ∈ r.cfg.recordingPipeline, ∀ frame,
    pipeline r.enqueued = (queue.push frame).2.map fun _ => ()

lemma push_failEngine {queue : RecordingQueue} (h : queue.policy = .failEngine)
    (frame : RawFrame) :
    (∃ o, (queue.push frame).2 = .ok o ∧ (queue.push frame).1.items = queue.items ++ [frame]) ∨
      ∃ e, (queue.push frame).2 = .error e ∧ (queue.push frame).1 = queue := by
  rcases BoundedQueue.tryPush_failEngine h frame with ⟨o, ho, hitems, -⟩ | ⟨e, he, hsame⟩
  · exact .inl ⟨o, congrArg (Except.mapError RecordingQueue.overflowError) ho, hitems⟩
  · exact .inr ⟨_, congrArg (Except.mapError RecordingQueue.overflowError) he, hsame⟩

/-- Recording a command: nothing to do, one frame appended, or nothing changed and an error. -/
lemma run_recordCommand (J : ControlJson) (command : SessionCommand)
    (wire : SubscriptionWireAction) (now : TimestampNs) {r : SessionRunner σ}
    {queue : RecordingQueue} (hq : AnswersFor queue r) :
    (∃ r', (recordSubscriptionCommand J command wire now).run r = .ok () r' ∧
        r'.pendingWrites = r.pendingWrites ∧ r'.machine = r.machine ∧
        (r.cfg.recordingPipeline = none ∧ r.recorder = none ∧ RecordingSame queue r r' ∨
          ∃ payload, ControlPayload.encode J command wire = .ok payload ∧
            RecordingAppends queue r r' (r.commandFrame payload now))) ∨
      ∃ e r', (recordSubscriptionCommand J command wire now).run r = .error e r' ∧
        r'.pendingWrites = r.pendingWrites ∧ r'.machine = r.machine ∧ RecordingSame queue r r' := by
  have hsame : RecordingSame queue r r :=
    ⟨rfl, fun frame => congrArg _ (if_pos rfl : queueAfter queue r r frame = queue)⟩
  rw [recordSubscriptionCommand, run_get_seq]
  split_ifs with hoff
  · exact .inl ⟨r, rfl, rfl, rfl, .inl ⟨Option.isNone_iff_eq_none.mp hoff.1,
      Option.isNone_iff_eq_none.mp hoff.2, hsame⟩⟩
  cases hencode : ControlPayload.encode J command wire with
  | error e => exact .inr ⟨.recording e, r, rfl, rfl, rfl, hsame⟩
  | ok payload =>
    obtain ⟨frame, hframe⟩ : ∃ frame, r.commandFrame payload now = frame := ⟨_, rfl⟩
    show (∃ r', (recordFrame (r.commandFrame payload now)).run r = .ok () r' ∧ _) ∨
      ∃ e r', (recordFrame (r.commandFrame payload now)).run r = .error e r' ∧ _
    rw [hframe, recordFrame, run_get_seq]
    rcases hpipe : r.cfg.recordingPipeline with _ | pipeline
    · rcases hrec : r.recorder with _ | recorder
      · exact absurd ⟨by rw [hpipe]; rfl, by rw [hrec]; rfl⟩ hoff
      dsimp only
      rw [run_modify_seq]
      by_cases hlen : frame.recordLen ≤ Mfr1.maxRawRecordLen
      · have hok := RawSegmentWriter.writeRecord_ok_iff (w := recorder).mpr ⟨hlen, rfl⟩
        rw [hok]
        refine .inl ⟨_, rfl, rfl, rfl, .inr ⟨payload, rfl, ?_⟩⟩
        rw [RecordingAppends, hpipe, hrec, hframe]
        exact ⟨rfl, rfl⟩
      · obtain ⟨e, herr⟩ := recorder.writeRecord_too_long hlen
        rw [herr]
        exact .inr ⟨_, _, rfl, rfl, rfl, hrec.symm, hsame.2⟩
    · dsimp only
      rw [run_modify_seq, hq.answers pipeline hpipe frame]
      have hnext : queueAfter queue r { r with enqueued := r.enqueued + 1 } =
          fun f => (queue.push f).1 := funext fun f => if_neg (Nat.succ_ne_self _)
      rcases push_failEngine hq.policy frame with ⟨o, ho, hitems⟩ | ⟨e, he, -⟩
      · rw [ho]
        refine .inl ⟨_, rfl, rfl, rfl, .inr ⟨payload, rfl, ?_⟩⟩
        rw [RecordingAppends, hpipe, hframe, hnext]
        exact ⟨rfl, hitems⟩
      · -- the queue was full, so no frame would have changed it
        rw [he]
        refine .inr ⟨_, _, rfl, rfl, rfl, rfl, fun f => ?_⟩
        rw [hnext]
        rcases push_failEngine hq.policy f with ⟨o', ho', -⟩ | ⟨e', -, hsame'⟩
        · have := (hq.answers pipeline hpipe frame).symm.trans (hq.answers pipeline hpipe f)
          rw [he, ho'] at this
          cases this
        · exact congrArg BoundedQueue.items hsame'

/-- The mirror takes the action or not, and the call goes on. -/
lemma run_attempt_mirror (action : SessionAction) (r : SessionRunner σ) :
    ∃ mirrored, (attempt false (pushMirrorAction action)).run r =
      .ok () { r with otherActions := mirrored } := by
  rw [run_of_completes (completes_attempt _ r), endState_attempt, pushMirrorAction,
    endState_get_seq]
  cases tryPushMirror r.otherActions r.mirrorCapacity r.cfg.overflow action with
  | error e => exact ⟨r.otherActions, rfl⟩
  | ok pushed => exact ⟨pushed.1, rfl⟩

/-- **Atomic subscription mutation.** -/
theorem deliverControl_atomic (M : SessionMachine σ) (J : ControlJson) (command : SessionCommand)
    (now : TimestampNs) (r : SessionRunner σ) (queue : RecordingQueue)
    (hcommand : IsSubscription command) (hq : AnswersFor queue r) :
    (∃ e r', (deliverControl M J command now).run r = .error e r' ∧
        r'.pendingWrites = r.pendingWrites ∧ r'.machine = r.machine ∧ RecordingSame queue r r') ∨
      ∃ r' wire, (deliverControl M J command now).run r = .ok () r' ∧
        M.prepareDynamicSubscription r.machine command = .ok wire ∧
        r'.pendingWrites = r.pendingWrites ++ [(wireFrame wire).1] ∧
        r'.machine = M.commitDynamicSubscription r.machine command ∧
        (r.cfg.recordingPipeline = none ∧ r.recorder = none ∧ RecordingSame queue r r' ∨
          ∃ payload, ControlPayload.encode J command wire = .ok payload ∧
            RecordingAppends queue r r' (r.commandFrame payload now)) := by
  have hcall : deliverControl M J command now = deliverSubscriptionControl M J command now := by
    cases command <;> first | rfl | exact hcommand.elim
  have hsame : RecordingSame queue r r :=
    ⟨rfl, fun frame => congrArg _ (if_pos rfl : queueAfter queue r r frame = queue)⟩
  rw [hcall, deliverSubscriptionControl, run_get_seq]
  split_ifs with hfull
  · exact .inl ⟨_, r, rfl, rfl, rfl, hsame⟩
  cases hprepare : M.prepareDynamicSubscription r.machine command with
  | error e => exact .inl ⟨.adapter e, r, rfl, rfl, rfl, hsame⟩
  | ok wire =>
    show (∃ e r', (recordSubscriptionCommand J command wire now >>= _).run r = .error e r' ∧ _) ∨
      ∃ r' wire', (recordSubscriptionCommand J command wire now >>= _).run r = .ok () r' ∧ _
    rcases run_recordCommand J command wire now hq with
      ⟨r₁, hrun, hwrites, hmachine, hrecord⟩ | ⟨e, r₁, hrun, hwrites, hmachine, hrecord⟩
    · rw [run_seq_of_ok hrun, run_modify_seq]
      obtain ⟨mirrored, hmirror⟩ := run_attempt_mirror (wireFrame wire).2 { r₁ with
        pendingWrites := r₁.pendingWrites ++ [(wireFrame wire).1]
        machine := M.commitDynamicSubscription r₁.machine command }
      refine .inr ⟨_, wire, hmirror, rfl, by rw [hwrites], by rw [hmachine], hrecord⟩
    · exact .inl ⟨e, r₁, run_seq_of_error hrun, hwrites, hmachine, hrecord⟩

/-- An adapter that prepares a ping and counts its commits. -/
def countingMachine : SessionMachine Nat where
  onInput s _ := ⟨s, [], .ok ()⟩
  prepareDynamicSubscription _ _ := .ok (.ping [])
  commitDynamicSubscription s _ := s + 1

/-- A runner with a process-wide recorder that has room for one frame. -/
def pipedRunner : SessionRunner Nat :=
  .new 0 ⟨⟨0⟩, ⟨0⟩, ⟨0⟩, 1, Nat.one_pos, .failEngine, true, some fun _ => .ok (), 0, none, none, none⟩

/-- What the runner records for the command below. -/
def pingMutation : RecordedSubscriptionMutation := ⟨.subscribe ["BTC-USD"], .ping []⟩

/-- The text `serde_json` writes for it. -/
def pingText : Bytes :=
  utf8 ("\x7b\"command\":\x7b\"kind\":\"subscribe\",\"symbols\":[\"BTC-USD\"]\x7d," ++
    "\"wire\":\x7b\"opcode\":\"ping\",\"payload\":[]\x7d\x7d")

def pingJson : ControlJson where
  toVec m := if m = pingMutation then some pingText else none
  fromSlice bytes := if bytes = pingText then some pingMutation else none

/-- The command goes through: one write is pending, one frame recorded and the machine committed. -/
theorem deliverControl_atomic_piped :
    ∃ r', (deliverControl countingMachine pingJson (.subscribe ["BTC-USD"]) ⟨0⟩).run pipedRunner =
        .ok () r' ∧
      r'.pendingWrites = [⟨.ping, []⟩] ∧ r'.machine = 1 ∧
      RecordingAppends (.new 1 (by decide) .failEngine) pipedRunner r'
        (pipedRunner.commandFrame pingText ⟨0⟩) := by
  have hq : AnswersFor (.new 1 (by decide) .failEngine) pipedRunner :=
    ⟨rfl, fun pipeline hmem frame => by obtain rfl := Option.some.inj hmem; rfl⟩
  obtain ⟨r₁, hok⟩ : ∃ r', (deliverControl countingMachine pingJson (.subscribe ["BTC-USD"]) ⟨0⟩).run
      pipedRunner = .ok () r' := ⟨_, rfl⟩
  rcases deliverControl_atomic countingMachine pingJson (.subscribe ["BTC-USD"]) ⟨0⟩ pipedRunner _
    trivial hq with ⟨e, r', hrun, -⟩ | ⟨r', wire, hrun, hwire, hwrites, hmachine, hrecord⟩
  · cases hrun.symm.trans hok
  · cases hwire
    refine ⟨r', hrun, hwrites, hmachine, ?_⟩
    rcases hrecord with ⟨hnone, -⟩ | ⟨payload, hpayload, happends⟩
    · cases hnone
    · have htext : ControlPayload.encode pingJson (.subscribe ["BTC-USD"]) (.ping []) = .ok pingText := by
        decide +kernel
      cases hpayload.symm.trans htext
      exact happends

end Marketfeed.SessionRunner
