import Marketfeed.Dispatch.Queue

/-!
# Sinks and the forward loop

Model of `crates/sinks/src/sink.rs`. A sink is any consumer of batches and system events; it may
refuse an item, and the item then stays at the front of its lane.

`forwardDispatcher` empties the batch lane before it looks at the system lane. Into a sink that
takes everything it is two folds, one after the other: `forwardDispatcher_accepting`.
-/

namespace Marketfeed

inductive SinkError
  | failEngine
  | deadlineExceeded
  | unsupportedPolicy (policy : OverflowPolicy)
  | io (detail : String)
  | unsupported (detail : String)
deriving DecidableEq

/-- Source: the derived `Display` of `SinkError` -/
def SinkError.display : SinkError → String
  | .failEngine => "sink queue full under FailEngine policy"
  | .deadlineExceeded => "sink queue full and BlockWithDeadline timed out"
  | .unsupportedPolicy policy => "overflow policy not implemented for this sink: " ++ policy.debug
  | .io detail => "sink I/O: " ++ detail
  | .unsupported detail => "sink unsupported: " ++ detail

structure EventSink (S : Type) where
  pushBatch : S → EventBatch → S × Except SinkError PushOutcome
  pushSystem : S → SystemEvent → S × Except SinkError PushOutcome

structure ForwardReport where
  droppedBatches : Nat
  droppedSystems : Nat
deriving DecidableEq

def ForwardReport.droppedTotal (report : ForwardReport) : Nat :=
  report.droppedBatches + report.droppedSystems

/-- One lane into a sink, over the items the lane holds: the lane, the sink, and how many items the
sink dropped. A refused item stays in the lane.
Source: one `while let` loop of `forward_dispatcher` -/
def forwardLane {S α : Type} (push : S → α → S × Except SinkError PushOutcome) :
    List α → BoundedQueue α → S → BoundedQueue α × S × Except SinkError Nat
  | [], lane, sink => (lane, sink, .ok 0)
  | item :: items, lane, sink =>
    match push sink item with
    | (sink, .error e) => (lane, sink, .error e)
    | (sink, .ok outcome) =>
      let (lane, sink, dropped) := forwardLane push items lane.popFront sink
      (lane, sink, dropped.map fun n => if outcome = .accepted then n else n + 1)

def forwardDispatcher {S : Type} (K : EventSink S) (src : EventDispatcher) (sink : S) :
    EventDispatcher × S × Except SinkError ForwardReport :=
  match forwardLane K.pushBatch src.batches.items src.batches sink with
  | (batches, sink, .error e) => ({ src with batches }, sink, .error e)
  | (batches, sink, .ok droppedBatches) =>
    match forwardLane K.pushSystem src.systems.items src.systems sink with
    | (systems, sink, .error e) => (⟨batches, systems⟩, sink, .error e)
    | (systems, sink, .ok droppedSystems) =>
      (⟨batches, systems⟩, sink, .ok ⟨droppedBatches, droppedSystems⟩)

/-- A sink of two functions that take everything. -/
def EventSink.accepting {S : Type} (batch : S → EventBatch → S) (system : S → SystemEvent → S) :
    EventSink S where
  pushBatch s b := (batch s b, .ok .accepted)
  pushSystem s e := (system s e, .ok .accepted)

lemma forwardLane_policy {S α : Type} (push : S → α → S × Except SinkError PushOutcome)
    (items : List α) (lane : BoundedQueue α) (sink : S) :
    (forwardLane push items lane sink).1.policy = lane.policy := by
  induction items generalizing lane sink with
  | nil => rfl
  | cons item items ih =>
    rw [forwardLane]
    rcases push sink item with ⟨sink', e | outcome⟩
    · rfl
    · exact ih lane.popFront sink'

/-- Forwarding empties lanes and leaves their policies as they are. -/
lemma forwardDispatcher_policy {S : Type} (K : EventSink S) (src : EventDispatcher) (sink : S) :
    (forwardDispatcher K src sink).1.batches.policy = src.batches.policy ∧
      (forwardDispatcher K src sink).1.systems.policy = src.systems.policy := by
  have hbatches := forwardLane_policy K.pushBatch src.batches.items src.batches sink
  unfold forwardDispatcher
  rcases hbatch : forwardLane K.pushBatch src.batches.items src.batches sink with
    ⟨batches, sink', e | droppedBatches⟩ <;> rw [hbatch] at hbatches
  · exact ⟨hbatches, rfl⟩
  · have hsystems := forwardLane_policy K.pushSystem src.systems.items src.systems sink'
    dsimp only
    rcases hsystem : forwardLane K.pushSystem src.systems.items src.systems sink' with
      ⟨systems, sink'', e | droppedSystems⟩ <;> rw [hsystem] at hsystems <;>
      exact ⟨hbatches, hsystems⟩

lemma forwardLane_accepting {S α : Type} (f : S → α → S) (lane : BoundedQueue α) (sink : S) :
    forwardLane (fun s x => (f s x, .ok .accepted)) lane.items lane sink =
      (lane.drain.2, lane.items.foldl f sink, .ok 0) := by
  obtain ⟨items, hitems⟩ : ∃ items, lane.items = items := ⟨_, rfl⟩
  rw [hitems]
  induction items generalizing lane sink with
  | nil =>
    obtain ⟨capacity, policy, items, dropped, hpos, hle⟩ := lane
    subst hitems
    rfl
  | cons item items ih =>
    have htail : lane.popFront.items = items := congrArg List.tail hitems
    simp only [forwardLane, ih lane.popFront (f sink item) htail, List.foldl_cons, if_true]
    rfl

/-- **The lanes one after the other.** A sink that takes everything sees all batches, in their
order, and then all system events, in theirs. -/
theorem forwardDispatcher_accepting {S : Type} (batch : S → EventBatch → S)
    (system : S → SystemEvent → S) (src : EventDispatcher) (sink : S) :
    forwardDispatcher (.accepting batch system) src sink =
      (src.drain.2, src.systems.items.foldl system (src.batches.items.foldl batch sink),
        .ok ⟨0, 0⟩) := by
  unfold forwardDispatcher EventSink.accepting
  simp only [forwardLane_accepting]
  rfl

end Marketfeed
