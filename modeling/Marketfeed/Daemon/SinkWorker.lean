import Marketfeed.Lib.Ledger
import Marketfeed.Sinks.Sink

/-!
# The sink worker

Model of `SinkWorker` and `SinkMailbox` in `crates/daemon/src/sinks.rs`: a bounded mailbox that
producers push into, and one thread that takes items out and hands them to a sink. When the sink fails
the worker closes the mailbox, throws away what is queued and stops.

A step is one critical section of the mailbox, one call of the sink, or one update of the counters;
the state says between which of them the worker, a producer or a waiter is. A list of steps is an
interleaving, and a step that cannot be taken changes nothing.

* **History.** `accepted` are the items whose push the mailbox accepted, `reached` those the sink was
  handed and `delivered` those it accepted; `returned` are the waits that ended, with how many items
  had been accepted when they began.
-/

namespace Marketfeed

inductive SinkItem
  | batch (batch : EventBatch)
  | system (event : SystemEvent)
deriving DecidableEq

/-- Source: the `match item` of the worker's loop -/
def EventSink.push {S : Type} (K : EventSink S) (sink : S) :
    SinkItem → S × Except SinkError PushOutcome
  | .batch batch => K.pushBatch sink batch
  | .system event => K.pushSystem sink event

/-! ## The mailbox -/

/-- Source: `SinkMailbox` with its `SinkMailboxState` -/
structure SinkMailbox where
  capacity : Nat
  policy : OverflowPolicy
  items : List SinkItem
  closed : Bool
  inFlight : Nat
deriving DecidableEq

namespace SinkMailbox

def push (m : SinkMailbox) (item : SinkItem) : SinkMailbox × Except SinkError PushOutcome :=
  if m.closed then (m, .error (.io "sink worker is closed"))
  else if m.items.length < m.capacity then
    ({ m with items := m.items ++ [item] }, .ok .accepted)
  else match m.policy with
    | .dropNewest => (m, .ok .droppedNewest)
    | .dropOldest => ({ m with items := m.items.tail ++ [item] }, .ok (.droppedOldest 1))
    | .failEngine => (m, .error .failEngine)
    | .blockWithDeadline => (m, .error .deadlineExceeded)
    | other => (m, .error (.unsupportedPolicy other))

/-- Under `FailEngine` a push is accepted at the back of an open mailbox, or changes nothing. -/
lemma push_failEngine {m : SinkMailbox} (hpolicy : m.policy = .failEngine) (item : SinkItem) :
    (m.closed = false ∧ m.push item = ({ m with items := m.items ++ [item] }, .ok .accepted)) ∨
      ∃ e, m.push item = (m, .error e) := by
  unfold push
  rcases hclosed : m.closed with _ | _
  · rw [if_neg Bool.false_ne_true]
    split
    · exact .inl ⟨rfl, rfl⟩
    · rw [hpolicy]
      exact .inr ⟨_, rfl⟩
  · rw [if_pos rfl]
    exact .inr ⟨_, rfl⟩

def finishItem (m : SinkMailbox) (closeAndDiscard : Bool) : SinkMailbox × Nat :=
  if closeAndDiscard then
    ({ m with closed := true, items := [], inFlight := m.inFlight - 1 }, m.items.length)
  else ({ m with inFlight := m.inFlight - 1 }, 0)

end SinkMailbox

/-! ## The worker -/

structure SinkWorkerHealth where
  healthy : Bool
  enqueued : Nat
  dropped : Nat
  errors : Nat
  lastError : Option String
deriving DecidableEq

/-- Where the worker's thread is.
Source: the loop in `SinkWorker::start` -/
inductive WorkerState
  /-- Before `wait_pop`. -/
  | waiting
  /-- It has an item and has not called the sink yet. -/
  | calling (item : SinkItem)
  /-- The sink has answered. -/
  | answered (result : Except SinkError PushOutcome)
  /-- What the sink dropped is counted, and the item is not finished yet. -/
  | finishing
  /-- The error is noted, and the item is not finished yet. -/
  | failing
  /-- The queue is thrown away, and what it held is not counted yet. -/
  | discarding (discarded : Nat)
  | stopped
deriving DecidableEq

/-- Where a thread in `wait_for_drain` is: `began` is how many items had been accepted when it was
called, and `looked` has what it read of the mailbox. -/
inductive Waiter
  | idle
  | polling (began : Nat)
  | looked (began queueLen inFlight : Nat)
deriving DecidableEq

/-- Source: `SinkWorker`, with its threads and its history. `bookings` are the pushes that have left
the mailbox and not yet counted: what they will add to `enqueued` and `dropped`. -/
structure SinkWorker (S : Type) where
  id : String
  kind : String
  required : Bool
  mailbox : SinkMailbox
  sink : S
  health : SinkWorkerHealth
  worker : WorkerState
  bookings : List (Nat × Nat)
  waiters : Nat → Waiter
  accepted : List SinkItem
  reached : List SinkItem
  delivered : List SinkItem
  returned : List (Nat × Except String Unit)

/-- One step of a producer, the worker, or a thread that waits or shuts down. -/
inductive WorkerStep
  | push (item : SinkItem)
  | book (index : Nat)
  | work
  | waitBegin (thread : Nat)
  | waitLook (thread : Nat)
  | waitDecide (thread : Nat) (expired : Bool)
  | close
deriving DecidableEq

namespace SinkWorker

variable {S : Type}

/-- A worker that has reported that it runs. -/
def start (id kind : String) (required : Bool) (capacity : Nat) (policy : OverflowPolicy) (sink : S) :
    SinkWorker S where
  id := id
  kind := kind
  required := required
  mailbox := ⟨capacity, policy, [], false, 0⟩
  sink := sink
  health := ⟨true, 0, 0, 0, none⟩
  worker := .waiting
  bookings := []
  waiters := fun _ => .idle
  accepted := []
  reached := []
  delivered := []
  returned := []

/-- What a push adds to `enqueued` and `dropped`.
Source: the `match &result` of `SinkWorker::enqueue` -/
def booking (required : Bool) : Except SinkError PushOutcome → Option (Nat × Nat)
  | .ok .accepted => some (1, 0)
  | .ok .droppedNewest => some (0, 1)
  | .ok (.droppedOldest dropped) => some (1, dropped)
  | .error (.io _) => if required then none else some (0, 1)
  | .error _ => none

variable (w : SinkWorker S)

/-- The first half of a push, under the lock of the mailbox.
Source: `SinkWorker::enqueue` -/
def push (item : SinkItem) : SinkWorker S :=
  let (mailbox, result) := w.mailbox.push item
  let accepts := match result with
    | .ok .accepted | .ok (.droppedOldest _) => true
    | _ => false
  { w with
    mailbox
    bookings := w.bookings ++ (booking w.required result).toList
    accepted := if accepts then w.accepted ++ [item] else w.accepted }

/-- The second half of a push.
Source: `SinkWorker::enqueue` -/
def book (index : Nat) : SinkWorker S :=
  match w.bookings[index]? with
  | none => w
  | some (enqueued, dropped) =>
    { w with
      health := { w.health with
        enqueued := w.health.enqueued + enqueued
        dropped := w.health.dropped + dropped }
      bookings := w.bookings.eraseIdx index }

/-- The sink is handed an item. -/
def call (K : EventSink S) (w : SinkWorker S) (item : SinkItem) : SinkWorker S :=
  let (sink, result) := K.push w.sink item
  { w with
    sink
    worker := .answered result
    reached := w.reached ++ [item]
    delivered := if result = .ok .accepted then w.delivered ++ [item] else w.delivered }

/-- What the sink dropped is counted. -/
def countDropped (dropped : Nat) : SinkWorker S :=
  { w with health := { w.health with dropped := w.health.dropped + dropped } }

/-- One step of the worker's thread.
Source: the loop in `SinkWorker::start`, `SinkMailbox::wait_pop` -/
def work (K : EventSink S) (w : SinkWorker S) : SinkWorker S :=
  match w.worker with
  | .waiting =>
    match w.mailbox.items with
    | item :: items =>
      { w with
        mailbox := { w.mailbox with items, inFlight := w.mailbox.inFlight + 1 }
        worker := .calling item }
    | [] => if w.mailbox.closed then { w with worker := .stopped } else w
  | .calling item => w.call K item
  | .answered (.ok .accepted) =>
    { w with mailbox := (w.mailbox.finishItem false).1, worker := .waiting }
  | .answered (.ok .droppedNewest) => { w.countDropped 1 with worker := .finishing }
  | .answered (.ok (.droppedOldest dropped)) =>
    { w.countDropped dropped with worker := .finishing }
  | .finishing => { w with mailbox := (w.mailbox.finishItem false).1, worker := .waiting }
  | .answered (.error error) =>
    { w with
      health := { w.health with
        lastError := some error.display
        errors := w.health.errors + 1
        healthy := false }
      worker := .failing }
  | .failing =>
    let (mailbox, discarded) := w.mailbox.finishItem true
    { w with mailbox, worker := .discarding discarded }
  | .discarding discarded => { w.countDropped (discarded + 1) with worker := .stopped }
  | .stopped => w

/-- A waiter moves on. -/
def setWaiter (thread : Nat) (waiter : Waiter) : SinkWorker S :=
  { w with waiters := Function.update w.waiters thread waiter }

/-- A wait ends. -/
def endWait (thread began : Nat) (result : Except String Unit) : SinkWorker S :=
  { w.setWaiter thread .idle with returned := w.returned ++ [(began, result)] }

/-- What a wait does after it looked at the mailbox; the rest of its snapshot is read now.
Source: the loop of `wait_for_drain` -/
def decide (thread began queueLen inFlight : Nat) (expired : Bool) : SinkWorker S :=
  if w.required ∧ w.health.healthy = false then
    w.endWait thread began (.error ("required sink " ++ w.id ++ " (" ++ w.kind ++
      ") unhealthy during shutdown: " ++ w.health.lastError.getD "unknown error"))
  else if queueLen = 0 ∧ inFlight = 0 then w.endWait thread began (.ok ())
  else if expired then
    w.endWait thread began (.error ("sink " ++ w.id ++
      " drain deadline exceeded (queue:in_flight=" ++ toString queueLen ++ ":" ++
      toString inFlight ++ ")"))
  else w.setWaiter thread (.polling began)

/-- One step. -/
def step (K : EventSink S) (w : SinkWorker S) : WorkerStep → SinkWorker S
  | .push item => w.push item
  | .book index => w.book index
  | .work => w.work K
  | .waitBegin thread =>
    match w.waiters thread with
    | .idle => w.setWaiter thread (.polling w.accepted.length)
    | _ => w
  | .waitLook thread =>
    match w.waiters thread with
    | .polling began =>
      w.setWaiter thread (.looked began w.mailbox.items.length w.mailbox.inFlight)
    | _ => w
  | .waitDecide thread expired =>
    match w.waiters thread with
    | .looked began queueLen inFlight => w.decide thread began queueLen inFlight expired
    | _ => w
  | .close => { w with mailbox := { w.mailbox with closed := true } }

end SinkWorker

/-! ## What an interleaving keeps -/

/-- The item the worker has taken and not handed over yet. -/
def WorkerState.inHand : WorkerState → List SinkItem
  | .calling item => [item]
  | _ => []

/-- **The phases of a worker** whose sink accepts or fails: before a failure everything handed over is
delivered, and after it one item is not. The arguments are what was handed over and what was
delivered, what is queued and what was thrown away, the drop counter, the in-flight counter, the
health, and whether the mailbox is closed. -/
inductive Phase : WorkerState → (reached delivered items lost : List SinkItem) →
    (dropped inFlight : Nat) → (healthy closed : Bool) → Prop
  | waiting (done items : List SinkItem) (closed : Bool) :
      Phase .waiting done done items [] 0 0 true closed
  | calling (item : SinkItem) (done items : List SinkItem) (closed : Bool) :
      Phase (.calling item) done done items [] 0 1 true closed
  | accepted (done items : List SinkItem) (closed : Bool) :
      Phase (.answered (.ok .accepted)) done done items [] 0 1 true closed
  | refused (item : SinkItem) (e : SinkError) (done items : List SinkItem) (closed : Bool) :
      Phase (.answered (.error e)) (done ++ [item]) done items [] 0 1 true closed
  | failing (item : SinkItem) (done items : List SinkItem) (closed : Bool) :
      Phase .failing (done ++ [item]) done items [] 0 1 false closed
  | discarding (item : SinkItem) (done lost : List SinkItem) :
      Phase (.discarding lost.length) (done ++ [item]) done [] lost 0 0 false true
  | drained (done : List SinkItem) : Phase .stopped done done [] [] 0 0 true true
  | failed (item : SinkItem) (done lost : List SinkItem) :
      Phase .stopped (done ++ [item]) done [] lost (lost.length + 1) 0 false true

namespace Phase

variable {worker : WorkerState} {reached delivered items lost : List SinkItem}
  {dropped inFlight : Nat} {healthy closed : Bool}

/-- While the mailbox is open nothing is lost, and the queue may grow. -/
lemma push (h : Phase worker reached delivered items lost dropped inFlight healthy false)
    (items' : List SinkItem) :
    lost = [] ∧ Phase worker reached delivered items' lost dropped inFlight healthy false := by
  cases h <;> exact ⟨rfl, by constructor⟩

/-- A mailbox may be closed at any time. -/
lemma close (h : Phase worker reached delivered items lost dropped inFlight healthy closed) :
    Phase worker reached delivered items lost dropped inFlight healthy true := by
  cases h <;> constructor

/-- What was delivered was handed over. -/
lemma delivered_prefix
    (h : Phase worker reached delivered items lost dropped inFlight healthy closed) :
    delivered <+: reached := by
  cases h <;> first | exact List.prefix_refl _ | exact List.prefix_append _ _

/-- With an empty queue and nothing in flight, everything is delivered or the worker is unhealthy. -/
lemma drained_or_unhealthy
    (h : Phase worker reached delivered [] lost dropped 0 healthy closed) :
    (lost = [] ∧ reached = delivered ∧ worker.inHand = []) ∨ healthy = false := by
  cases h <;> first | exact .inl ⟨rfl, rfl, rfl⟩ | exact .inr rfl

/-- The accounts, while the worker is not between the sink's answer and the end of counting it. -/
lemma balance (h : Phase worker reached delivered items lost dropped inFlight healthy closed)
    (hsettled : worker = .waiting ∨ (∃ item, worker = .calling item) ∨ worker = .stopped) :
    (reached ++ worker.inHand ++ items ++ lost).length =
      delivered.length + dropped + items.length + inFlight := by
  cases h
  all_goals simp [WorkerState.inHand] at hsettled ⊢
  all_goals omega

end Phase

/-- What a wait knows: when it began, and that a wait which saw an empty queue and nothing in flight
will find everything accepted before it began delivered, or the worker unhealthy. -/
def Waiter.Sound (accepted delivered : List SinkItem) (healthy : Bool) : Waiter → Prop
  | .idle => True
  | .polling began => began ≤ accepted.length
  | .looked began queueLen inFlight => began ≤ accepted.length ∧
      (queueLen = 0 → inFlight = 0 → Covered accepted began delivered ∨ healthy = false)

namespace SinkWorker

variable {S : Type}

/-- What only grows. -/
structure Later (w w' : SinkWorker S) : Prop where
  accepted : w.accepted <+: w'.accepted
  delivered : w.delivered <+: w'.delivered
  healthy : w.health.healthy = false → w'.health.healthy = false

variable {w w' : SinkWorker S}

lemma Later.same (haccepted : w'.accepted = w.accepted)
    (hdelivered : w'.delivered = w.delivered) (hhealthy : w'.health.healthy = w.health.healthy) :
    Later w w' :=
  ⟨haccepted ▸ List.prefix_refl _, hdelivered ▸ List.prefix_refl _, fun h => hhealthy.trans h⟩

/-- **The items.** Accepted items are handed over, in hand, queued or thrown away, in this order; the
worker is in one of its phases; and every push is counted or about to be. -/
structure Flows (w : SinkWorker S) : Prop where
  policy : w.mailbox.policy = .failEngine
  required : w.required = true
  phase : ∃ lost, w.accepted = w.reached ++ w.worker.inHand ++ w.mailbox.items ++ lost ∧
    Phase w.worker w.reached w.delivered w.mailbox.items lost w.health.dropped w.mailbox.inFlight
      w.health.healthy w.mailbox.closed
  bookings : ∀ b ∈ w.bookings, b = (1, 0)
  enqueued : w.health.enqueued + w.bookings.length = w.accepted.length

/-- **The waits.** -/
structure Waits (w : SinkWorker S) : Prop where
  waiters : ∀ thread, (w.waiters thread).Sound w.accepted w.delivered w.health.healthy
  returned : ∀ r ∈ w.returned, r.2 = .ok () → Covered w.accepted r.1 w.delivered

lemma Later.waiter (hlater : Later w w') {waiter : Waiter}
    (h : waiter.Sound w.accepted w.delivered w.health.healthy) :
    waiter.Sound w'.accepted w'.delivered w'.health.healthy := by
  have hlength := hlater.accepted.length_le
  cases waiter with
  | idle => trivial
  | polling began => exact Nat.le_trans h hlength
  | looked began queueLen inFlight =>
    refine ⟨Nat.le_trans h.1 hlength, fun hqueue hflight => ?_⟩
    rcases h.2 hqueue hflight with hcovered | hunhealthy
    · exact .inl ((hcovered.extend hlater.accepted).mono hlater.delivered)
    · exact .inr (hlater.healthy hunhealthy)

/-- A step of a producer or the worker leaves the waits sound. -/
lemma Waits.later (h : w.Waits) (hlater : Later w w') (hwaiters : w'.waiters = w.waiters)
    (hreturned : w'.returned = w.returned) : w'.Waits := by
  constructor
  · intro thread
    rw [hwaiters]
    exact hlater.waiter (h.waiters thread)
  · intro r hr hok
    rw [hreturned] at hr
    exact ((h.returned r hr hok).extend hlater.accepted).mono hlater.delivered

/-! ### Producers -/

/-- A push into a required worker is accepted at the back of an open mailbox, or changes nothing. -/
lemma push_cases (h : w.Flows) (item : SinkItem) :
    (w.mailbox.closed = false ∧ w.push item =
      { w with
        mailbox := { w.mailbox with items := w.mailbox.items ++ [item] }
        bookings := w.bookings ++ [(1, 0)]
        accepted := w.accepted ++ [item] }) ∨ w.push item = w := by
  have hnone (e : SinkError) : booking w.required (.error e) = none := by
    rw [h.required]
    cases e <;> rfl
  rcases SinkMailbox.push_failEngine h.policy item with ⟨hopen, hpush⟩ | ⟨e, hpush⟩
  · left
    refine ⟨hopen, ?_⟩
    unfold push
    rw [hpush]
    rfl
  · right
    unfold push
    simp only [hpush, hnone, Option.toList_none, List.append_nil]
    rfl

lemma Flows.push (h : w.Flows) (item : SinkItem) : (w.push item).Flows ∧ Later w (w.push item) := by
  rcases push_cases h item with ⟨hopen, hpush⟩ | hpush
  · obtain ⟨lost, haccepted, hphase⟩ := h.phase
    rw [hopen] at hphase
    obtain ⟨rfl, hphase'⟩ := hphase.push (w.mailbox.items ++ [item])
    rw [hpush]
    refine ⟨⟨h.policy, h.required, ⟨[], ?_, ?_⟩, ?_, ?_⟩, List.prefix_append _ _,
      List.prefix_refl _, fun hfalse => hfalse⟩
    · show w.accepted ++ [item] = w.reached ++ w.worker.inHand ++ (w.mailbox.items ++ [item]) ++ []
      rw [haccepted, List.append_nil, List.append_nil, ← List.append_assoc]
    · rw [hopen]
      exact hphase'
    · intro b hb
      rcases List.mem_append.mp hb with hb | hb
      · exact h.bookings b hb
      · exact List.mem_singleton.mp hb
    · have hcount := h.enqueued
      show w.health.enqueued + (w.bookings ++ [(1, 0)]).length = (w.accepted ++ [item]).length
      rw [List.length_append, List.length_append, List.length_singleton, List.length_singleton]
      omega
  · rw [hpush]
    exact ⟨h, .same rfl rfl rfl⟩

lemma Flows.book (h : w.Flows) (index : Nat) : (w.book index).Flows ∧ Later w (w.book index) := by
  unfold SinkWorker.book
  rcases hbooking : w.bookings[index]? with _ | ⟨enqueued, dropped⟩
  · exact ⟨h, .same rfl rfl rfl⟩
  · obtain ⟨hindex, hget⟩ := List.getElem?_eq_some_iff.mp hbooking
    have hbook := h.bookings _ (List.mem_of_getElem? hbooking)
    cases hbook
    refine ⟨{ h with
      bookings := fun b hb => h.bookings b (List.mem_of_mem_eraseIdx hb)
      enqueued := ?_ }, .same rfl rfl rfl⟩
    · have hcount := h.enqueued
      show w.health.enqueued + 1 + (w.bookings.eraseIdx index).length = w.accepted.length
      rw [List.length_eraseIdx_of_lt hindex]
      omega

/-! ### The worker -/

/-- A sink that accepts an item or fails. -/
def AcceptsOrFails (K : EventSink S) : Prop :=
  ∀ sink item outcome, (K.push sink item).2 = .ok outcome → outcome = .accepted

/-- **One step of the worker** keeps the items in order and moves from phase to phase. -/
theorem Flows.work {K : EventSink S} (hK : AcceptsOrFails K) (h : w.Flows) :
    (w.work K).Flows ∧ Later w (w.work K) := by
  obtain ⟨hpolicy, hrequired, ⟨lost, haccepted, hphase⟩, hbookings, henqueued⟩ := h
  obtain ⟨id, kind, required, ⟨capacity, policy, items, closed, inFlight⟩, sink,
    ⟨healthy, enqueued, dropped, errors, lastError⟩, worker, bookings, waiters, accepted, reached,
    delivered, returned⟩ := w
  simp only at hpolicy hrequired haccepted hphase hbookings henqueued
  cases hphase with
  | waiting =>
    rcases items with _ | ⟨item, items⟩
    · rcases closed with _ | _
      · exact ⟨⟨hpolicy, hrequired, ⟨[], haccepted, .waiting _ _ _⟩, hbookings, henqueued⟩,
          .same rfl rfl rfl⟩
      · exact ⟨⟨hpolicy, hrequired, ⟨[], haccepted, .drained _⟩, hbookings, henqueued⟩,
          .same rfl rfl rfl⟩
    · refine ⟨⟨hpolicy, hrequired, ⟨[], ?_, .calling item _ _ _⟩, hbookings, henqueued⟩,
        .same rfl rfl rfl⟩
      rw [haccepted]
      simp [WorkerState.inHand, SinkWorker.work]
  | calling item =>
    -- The sink answers: the item is handed over, and delivered unless the sink failed.
    rcases hcall : K.push sink item with ⟨sink', e | outcome⟩
    · simp only [SinkWorker.work, call, hcall]
      refine ⟨⟨hpolicy, hrequired, ⟨[], ?_, .refused item e _ _ _⟩, hbookings, henqueued⟩,
        .same rfl rfl rfl⟩
      rw [haccepted]
      simp [WorkerState.inHand]
    · have haccepts : outcome = .accepted := hK sink item outcome (by rw [hcall])
      subst haccepts
      simp only [SinkWorker.work, call, hcall]
      refine ⟨⟨hpolicy, hrequired, ⟨[], ?_, .accepted _ _ _⟩, hbookings, henqueued⟩,
        List.prefix_refl _, List.prefix_append _ _, fun hfalse => hfalse⟩
      rw [haccepted]
      simp [WorkerState.inHand]
  | accepted =>
    exact ⟨⟨hpolicy, hrequired, ⟨[], haccepted, .waiting _ _ _⟩, hbookings, henqueued⟩,
      .same rfl rfl rfl⟩
  | refused item e =>
    exact ⟨⟨hpolicy, hrequired, ⟨[], haccepted, .failing item _ _ _⟩, hbookings, henqueued⟩,
      List.prefix_refl _, List.prefix_refl _, fun _ => rfl⟩
  | failing item =>
    -- What is queued is thrown away.
    refine ⟨⟨hpolicy, hrequired, ⟨items, ?_, .discarding item _ items⟩, hbookings, henqueued⟩,
      .same rfl rfl rfl⟩
    rw [haccepted]
    simp [WorkerState.inHand, SinkWorker.work, SinkMailbox.finishItem]
  | discarding item done =>
    refine ⟨⟨hpolicy, hrequired, ⟨lost, haccepted, ?_⟩, hbookings, henqueued⟩,
      .same rfl rfl rfl⟩
    show Phase .stopped _ _ _ _ (0 + (lost.length + 1)) _ _ _
    rw [Nat.zero_add]
    exact .failed item _ lost
  | drained =>
    exact ⟨⟨hpolicy, hrequired, ⟨[], haccepted, .drained _⟩, hbookings, henqueued⟩,
      .same rfl rfl rfl⟩
  | failed item =>
    exact ⟨⟨hpolicy, hrequired, ⟨lost, haccepted, .failed item _ lost⟩, hbookings, henqueued⟩,
      .same rfl rfl rfl⟩

/-! ### Waits -/

lemma book_waits (w : SinkWorker S) (index : Nat) :
    (w.book index).waiters = w.waiters ∧ (w.book index).returned = w.returned := by
  unfold book
  split <;> exact ⟨rfl, rfl⟩

lemma work_waits (K : EventSink S) (w : SinkWorker S) :
    (w.work K).waiters = w.waiters ∧ (w.work K).returned = w.returned := by
  unfold work
  repeat' split
  all_goals exact ⟨rfl, rfl⟩

lemma Flows.setWaiter (h : w.Flows) (thread : Nat) (waiter : Waiter) :
    (w.setWaiter thread waiter).Flows := { h with }

lemma Flows.decide (h : w.Flows) (thread began queueLen inFlight : Nat) (expired : Bool) :
    (w.decide thread began queueLen inFlight expired).Flows := by
  unfold SinkWorker.decide
  split_ifs <;> exact { h with }

/-- A waiter moves on to a state that is sound. -/
lemma Waits.setWaiter (h : w.Waits) (thread : Nat) {waiter : Waiter}
    (hsound : waiter.Sound w.accepted w.delivered w.health.healthy) :
    (w.setWaiter thread waiter).Waits := by
  refine ⟨fun other => ?_, h.returned⟩
  show (Function.update w.waiters thread waiter other).Sound _ _ _
  by_cases hother : other = thread
  · rw [hother, Function.update_self]
    exact hsound
  · rw [Function.update_of_ne hother]
    exact h.waiters other

lemma Waits.endWait (h : w.Waits) (thread began : Nat) {result : Except String Unit}
    (hok : result = .ok () → Covered w.accepted began w.delivered) :
    (w.endWait thread began result).Waits := by
  have hset := h.setWaiter thread
    (show Waiter.idle.Sound w.accepted w.delivered w.health.healthy from trivial)
  refine ⟨hset.waiters, fun r hr hresult => ?_⟩
  rcases List.mem_append.mp hr with hr | hr
  · exact h.returned r hr hresult
  · rw [List.mem_singleton.mp hr] at hresult ⊢
    exact hok hresult

/-- **A look at the mailbox.** -/
theorem Flows.looked (h : w.Flows) {began : Nat} (hbegan : began ≤ w.accepted.length) :
    (Waiter.looked began w.mailbox.items.length w.mailbox.inFlight).Sound w.accepted w.delivered
      w.health.healthy := by
  refine ⟨hbegan, fun hqueue hflight => ?_⟩
  obtain ⟨lost, haccepted, hphase⟩ := h.phase
  have hempty : w.mailbox.items = [] := List.eq_nil_of_length_eq_zero hqueue
  rw [hempty, hflight] at hphase
  rcases hphase.drained_or_unhealthy with ⟨rfl, hall, hhand⟩ | hunhealthy
  · left
    refine .of_all hbegan ?_
    rw [haccepted, hempty, hhand, hall, List.append_nil, List.append_nil, List.append_nil]
  · exact .inr hunhealthy

/-- **A wait decides.** Only a healthy worker's wait returns `Ok`, and healthy now means that it was
healthy when the mailbox was seen empty. -/
theorem Waits.decide (h : w.Waits) (hrequired : w.required = true)
    {thread began queueLen inFlight : Nat}
    (hsound : (Waiter.looked began queueLen inFlight).Sound w.accepted w.delivered w.health.healthy)
    (expired : Bool) : (w.decide thread began queueLen inFlight expired).Waits := by
  unfold SinkWorker.decide
  rw [hrequired]
  split_ifs with hunhealthy hdrained hexpired
  · exact h.endWait thread began (fun hok => by cases hok)
  · refine h.endWait thread began fun _ => ?_
    rcases hsound.2 hdrained.1 hdrained.2 with hcovered | hfalse
    · exact hcovered
    · exact absurd ⟨rfl, hfalse⟩ hunhealthy
  · exact h.endWait thread began (fun hok => by cases hok)
  · exact h.setWaiter thread hsound.1

lemma sound_step {K : EventSink S} (hK : AcceptsOrFails K) (h : w.Flows ∧ w.Waits)
    (x : WorkerStep) : (w.step K x).Flows ∧ (w.step K x).Waits := by
  obtain ⟨hflows, hwaits⟩ := h
  cases x with
  | push item =>
    obtain ⟨hflows', hlater⟩ := hflows.push item
    exact ⟨hflows', hwaits.later hlater rfl rfl⟩
  | book index =>
    obtain ⟨hflows', hlater⟩ := hflows.book index
    obtain ⟨hwaiters, hreturned⟩ := w.book_waits index
    exact ⟨hflows', hwaits.later hlater hwaiters hreturned⟩
  | work =>
    obtain ⟨hflows', hlater⟩ := hflows.work hK
    obtain ⟨hwaiters, hreturned⟩ := w.work_waits K
    exact ⟨hflows', hwaits.later hlater hwaiters hreturned⟩
  | waitBegin thread =>
    rcases hthread : w.waiters thread with _ | _ | _
    all_goals simp only [step, hthread]
    case idle => exact ⟨hflows.setWaiter thread _, hwaits.setWaiter thread (Nat.le_refl _)⟩
    all_goals exact ⟨hflows, hwaits⟩
  | waitLook thread =>
    have hsound := hwaits.waiters thread
    rcases hthread : w.waiters thread with _ | began | _
    all_goals simp only [step, hthread]
    case polling =>
      rw [hthread] at hsound
      exact ⟨hflows.setWaiter thread _, hwaits.setWaiter thread (hflows.looked hsound)⟩
    all_goals exact ⟨hflows, hwaits⟩
  | waitDecide thread expired =>
    have hsound := hwaits.waiters thread
    rcases hthread : w.waiters thread with _ | _ | ⟨began, queueLen, inFlight⟩
    all_goals simp only [step, hthread]
    case looked =>
      rw [hthread] at hsound
      exact ⟨hflows.decide _ _ _ _ expired, hwaits.decide hflows.required hsound expired⟩
    all_goals exact ⟨hflows, hwaits⟩
  | close =>
    obtain ⟨lost, haccepted, hphase⟩ := hflows.phase
    exact ⟨{ hflows with phase := ⟨lost, haccepted, hphase.close⟩ },
      hwaits.later (.same rfl rfl rfl) rfl rfl⟩

/-- No step is in progress: every push is counted, and the worker is waiting, about to call the sink,
or stopped. -/
def Settled (w : SinkWorker S) : Prop :=
  w.bookings = [] ∧
    (w.worker = .waiting ∨ (∃ item, w.worker = .calling item) ∨ w.worker = .stopped)

/-- **A required worker under `FailEngine`**, with any capacity and any sink that accepts or fails, in
every interleaving of pushes, the worker's steps, waits and a close.

* The items handed to the sink are, in order, the first ones accepted, each once; all but the one it
  failed on are delivered.
* When no step is in progress, the accepted items are those delivered, dropped, queued or in flight.
* A wait that returned `Ok` found every item accepted before it began delivered.
-/
theorem delivery_exact {K : EventSink S} (hK : AcceptsOrFails K) (id kind : String) (capacity : Nat)
    (sink : S) (steps : List WorkerStep) {w : SinkWorker S}
    (hrun : w = run (step K) (start id kind true capacity .failEngine sink) steps) :
    w.reached <+: w.accepted ∧ w.delivered <+: w.reached ∧
      (w.Settled → w.health.enqueued = w.accepted.length ∧ w.accepted.length =
        w.delivered.length + w.health.dropped + w.mailbox.items.length + w.mailbox.inFlight) ∧
      ∀ began, (began, .ok ()) ∈ w.returned → w.accepted.take began <+: w.delivered := by
  have hsound : w.Flows ∧ w.Waits := by
    rw [hrun]
    refine run_invariant' (P := fun w : SinkWorker S => w.Flows ∧ w.Waits)
      (fun w x h => sound_step hK h x) ⟨?_, ?_⟩ steps
    · exact ⟨rfl, rfl, ⟨[], rfl, .waiting _ _ _⟩, fun _ h => absurd h List.not_mem_nil, rfl⟩
    · exact ⟨fun _ => trivial, fun _ h => absurd h List.not_mem_nil⟩
  obtain ⟨hflows, hwaits⟩ := hsound
  obtain ⟨lost, haccepted, hphase⟩ := hflows.phase
  refine ⟨?_, hphase.delivered_prefix, ?_, ?_⟩
  · rw [haccepted, List.append_assoc, List.append_assoc]
    exact List.prefix_append _ _
  · rintro ⟨hbooked, hsettled⟩
    have hcount := hflows.enqueued
    rw [hbooked, List.length_nil, Nat.add_zero] at hcount
    refine ⟨hcount, ?_⟩
    rw [haccepted]
    exact hphase.balance hsettled
  · intro began hmem
    exact (hwaits.returned _ hmem rfl).2

/-- A sink that accepts two items and then fails. -/
def twoThenFail : EventSink Nat where
  pushBatch taken _ := if taken < 2 then (taken + 1, .ok .accepted) else (taken, .error (.io "full"))
  pushSystem taken _ := if taken < 2 then (taken + 1, .ok .accepted) else (taken, .error (.io "full"))

lemma acceptsOrFails_twoThenFail : AcceptsOrFails twoThenFail := by
  intro sink item outcome h
  have hpush : twoThenFail.push sink item =
      if sink < 2 then (sink + 1, .ok .accepted) else (sink, .error (.io "full")) := by
    cases item <;> rfl
  rw [hpush] at h
  split_ifs at h
  cases h
  rfl

/-- One item is delivered and waited for; three more are accepted, the sink fails on the second of
them and the last is thrown away. -/
def failingRun : List WorkerStep :=
  [.push (.system .shutdownStarted), .book 0, .work, .work, .work, .waitBegin 7, .waitLook 7,
    .waitDecide 7 false, .push (.system .diskPressure), .push (.system .rateLimited),
    .push (.system .heartbeatMissed), .book 0, .book 0, .book 0, .work, .work, .work, .work, .work,
    .work, .work, .work]

/-- A sink that fails after two items. -/
theorem delivery_exact_failing :
    ∃ w, w = run (step twoThenFail) (start "s" "file" true 4 .failEngine 0) failingRun ∧
      w.returned = [(1, .ok ())] ∧
      w.delivered = [.system .shutdownStarted, .system .diskPressure] ∧ w.health.dropped = 2 ∧
      w.Settled ∧ w.accepted.length =
        w.delivered.length + w.health.dropped + w.mailbox.items.length + w.mailbox.inFlight := by
  have hsettled : (run (step twoThenFail) (start "s" "file" true 4 .failEngine 0)
      failingRun).Settled := ⟨rfl, .inr (.inr rfl)⟩
  refine ⟨_, rfl, by decide, by decide, by decide, hsettled, ?_⟩
  exact ((delivery_exact acceptsOrFails_twoThenFail "s" "file" 4 0 failingRun rfl).2.2.1 hsettled).2

end SinkWorker

end Marketfeed
