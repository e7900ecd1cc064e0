import Marketfeed.Adapter.Session

/-!
# Bounded queues and the event dispatcher

Model of `crates/dispatch/src/queue.rs`. A queue never holds more than its capacity, and its
capacity is positive: both are fields. What happens to an item that does not fit is the queue's
overflow policy.

The dispatcher keeps market batches and system events in two queues, its lanes. The order of two
items is kept within a lane; between the lanes it is not.
-/

namespace Marketfeed

/-- Source: `crates/model/src/overflow.rs` `OverflowPolicy` -/
inductive OverflowPolicy
  | blockWithDeadline
  | dropNewest
  | dropOldest
  | latestPerKey
  | spillToDisk
  | disableSink
  | failEngine
deriving DecidableEq

/-- Source: the derived `Debug` of `OverflowPolicy` -/
def OverflowPolicy.debug : OverflowPolicy → String
  | .blockWithDeadline => "BlockWithDeadline"
  | .dropNewest => "DropNewest"
  | .dropOldest => "DropOldest"
  | .latestPerKey => "LatestPerKey"
  | .spillToDisk => "SpillToDisk"
  | .disableSink => "DisableSink"
  | .failEngine => "FailEngine"

inductive DispatchError
  | failEngine
  | deadlineExceeded
  | unsupportedPolicy (policy : OverflowPolicy)
deriving DecidableEq

inductive PushOutcome
  | accepted
  | droppedNewest
  | droppedOldest (dropped : Nat)
deriving DecidableEq

/-- The items a push has cost.
Source: the counts added to `health.dropped` in `SinkWorker::enqueue` -/
def PushOutcome.lost : PushOutcome → Nat
  | .accepted => 0
  | .droppedNewest => 1
  | .droppedOldest dropped => dropped

structure BoundedQueue (α : Type) where
  capacity : Nat
  policy : OverflowPolicy
  items : List α
  droppedTotal : Nat
  capacity_pos : 0 < capacity
  length_le : items.length ≤ capacity

namespace BoundedQueue

variable {α : Type}

/-- The assertion on the capacity is the second argument. -/
def new (capacity : Nat) (h : 0 < capacity) (policy : OverflowPolicy) : BoundedQueue α :=
  ⟨capacity, policy, [], 0, h, Nat.zero_le capacity⟩

variable (q : BoundedQueue α)

/-- Source: `VecDeque::push_back` below the capacity -/
def pushBack (item : α) (h : q.items.length < q.capacity) : BoundedQueue α :=
  { q with items := q.items ++ [item], length_le := by rw [List.length_append]; exact h }

def tryPush (item : α) : BoundedQueue α × Except DispatchError PushOutcome :=
  if h : q.items.length < q.capacity then
    (q.pushBack item h, .ok .accepted)
  else match q.policy with
    | .dropNewest => ({ q with droppedTotal := q.droppedTotal + 1 }, .ok .droppedNewest)
    | .dropOldest =>
      ({ q with
          items := q.items.tail ++ [item]
          droppedTotal := q.droppedTotal + 1
          length_le := by
            have hpos := q.capacity_pos
            have hle := q.length_le
            simp only [List.length_append, List.length_tail, List.length_singleton]
            omega }, .ok (.droppedOldest 1))
    | .failEngine => (q, .error .failEngine)
    | .blockWithDeadline => (q, .error .deadlineExceeded)
    | policy => (q, .error (.unsupportedPolicy policy))

/-- Source: the `pop_front` loops of `drain_batches` and `drain_systems` -/
def drain : List α × BoundedQueue α :=
  (q.items, { q with items := [], length_le := Nat.zero_le q.capacity })

def popFront : BoundedQueue α :=
  { q with
    items := q.items.tail
    length_le := by
      have hle := q.length_le
      rw [List.length_tail]
      omega }

/-- With room left, every policy accepts at the back. -/
lemma tryPush_of_room {q : BoundedQueue α} (h : q.items.length < q.capacity) (item : α) :
    q.tryPush item = (q.pushBack item h, .ok .accepted) := by
  rw [tryPush, dif_pos h]

/-- A push leaves the policy as it is. -/
lemma tryPush_policy (item : α) : (q.tryPush item).1.policy = q.policy := by
  unfold tryPush
  split
  · rfl
  · split <;> rfl

/-- Under `FailEngine` a push accepts at the back or changes nothing. -/
lemma tryPush_failEngine {q : BoundedQueue α} (hpolicy : q.policy = .failEngine) (item : α) :
    (∃ o, (q.tryPush item).2 = .ok o ∧ (q.tryPush item).1.items = q.items ++ [item] ∧
        (q.tryPush item).1.policy = .failEngine) ∨
      ∃ e, (q.tryPush item).2 = .error e ∧ (q.tryPush item).1 = q := by
  unfold tryPush
  split
  · exact .inl ⟨_, rfl, rfl, hpolicy⟩
  · rw [hpolicy]
    exact .inr ⟨_, rfl, rfl⟩

end BoundedQueue

structure EventDispatcher where
  batches : BoundedQueue EventBatch
  systems : BoundedQueue SystemEvent

namespace EventDispatcher

/-- Both lanes have the same policy. -/
def new (batchCapacity systemCapacity : Nat) (hb : 0 < batchCapacity) (hs : 0 < systemCapacity)
    (policy : OverflowPolicy) : EventDispatcher :=
  ⟨.new batchCapacity hb policy, .new systemCapacity hs policy⟩

variable (d : EventDispatcher)

def pushBatch (batch : EventBatch) : EventDispatcher × Except DispatchError PushOutcome :=
  let (batches, outcome) := d.batches.tryPush batch
  ({ d with batches }, outcome)

def pushSystem (event : SystemEvent) : EventDispatcher × Except DispatchError PushOutcome :=
  let (systems, outcome) := d.systems.tryPush event
  ({ d with systems }, outcome)

/-- Source: `drain_batches` followed by `drain_systems` -/
def drain : (List EventBatch × List SystemEvent) × EventDispatcher :=
  ((d.batches.items, d.systems.items), ⟨d.batches.drain.2, d.systems.drain.2⟩)

end EventDispatcher

end Marketfeed
