import Marketfeed.Lib.Ledger
import Marketfeed.Sinks.Sink

/-!
# Forwarding under any order of pushes and failures

A dispatcher is pushed to and forwarded from in any order, into a sink that may refuse any item. An
item is **taken** when the sink's call returns `Ok`. On each lane the taken items followed by the
queued ones are what was pushed, less what the lane's own counter says was dropped, and a refused item
is the next one offered.
-/

namespace Marketfeed

/-- An item shown to a sink, and whether the sink took it. -/
structure Offer where
  item : EventBatch ⊕ SystemEvent
  taken : Bool
deriving DecidableEq

/-- The same sink, with a list of every item it was shown. -/
def EventSink.noting {S : Type} (K : EventSink S) : EventSink (S × List Offer) where
  pushBatch s batch :=
    let (sink, result) := K.pushBatch s.1 batch
    ((sink, s.2 ++ [⟨.inl batch, result.isOk⟩]), result)
  pushSystem s event :=
    let (sink, result) := K.pushSystem s.1 event
    ((sink, s.2 ++ [⟨.inr event, result.isOk⟩]), result)

/-- The items of one lane that a sink took, in order. -/
def takenOf {α : Type} (lane : EventBatch ⊕ SystemEvent → Option α) (offers : List Offer) :
    List α :=
  offers.filterMap fun o => if o.taken then lane o.item else none

variable {α : Type}

@[simp] lemma takenOf_append (lane : EventBatch ⊕ SystemEvent → Option α)
    (offers offers' : List Offer) :
    takenOf lane (offers ++ offers') = takenOf lane offers ++ takenOf lane offers' :=
  List.filterMap_append

/-! ## One pass -/

/-- What one pass over the items waiting can do: take them all, or take some and be refused the next.
`left` is what still waits and `shown` what the sink was shown. -/
inductive Passed {ρ : Type} : (items left : List (EventBatch ⊕ SystemEvent)) →
    (shown : List Offer) → Except SinkError ρ → Prop
  | emptied (items : List (EventBatch ⊕ SystemEvent)) (report : ρ) :
      Passed items [] (items.map fun x => ⟨x, true⟩) (.ok report)
  | refused (done : List (EventBatch ⊕ SystemEvent)) (x : EventBatch ⊕ SystemEvent)
      (rest : List (EventBatch ⊕ SystemEvent)) (e : SinkError) :
      Passed (done ++ x :: rest) (x :: rest)
        ((done.map fun y => ⟨y, true⟩) ++ [⟨x, false⟩]) (.error e)

namespace Passed

variable {ρ : Type} {items left : List (EventBatch ⊕ SystemEvent)} {shown : List Offer}
  {result : Except SinkError ρ}

/-- One more item in front that the sink takes. -/
lemma cons (x : EventBatch ⊕ SystemEvent) (f : ρ → ρ) (h : Passed items left shown result) :
    Passed (x :: items) left (⟨x, true⟩ :: shown) (result.map f) := by
  cases h with
  | emptied items report => exact .emptied (x :: items) (f report)
  | refused done y rest e => exact .refused (x :: done) y rest e

variable {ρ' : Type}

/-- A refused pass is one over any longer list. -/
lemma append_refused {e : SinkError}
    (h : Passed items left shown (.error e : Except SinkError ρ))
    (more : List (EventBatch ⊕ SystemEvent)) :
    Passed (items ++ more) (left ++ more) shown (.error e : Except SinkError ρ') := by
  cases h with
  | refused done x rest =>
    rw [List.append_assoc]
    exact .refused done x (rest ++ more) e

/-- A pass that took everything goes on with the next list. -/
lemma append_emptied {report : ρ} {more left' : List (EventBatch ⊕ SystemEvent)}
    {shown' : List Offer} {result' : Except SinkError ρ'}
    (h : Passed items left shown (.ok report)) (h' : Passed more left' shown' result') :
    left = [] ∧ Passed (items ++ more) left' (shown ++ shown') result' := by
  cases h with
  | emptied items =>
    refine ⟨rfl, ?_⟩
    cases h' with
    | emptied more report' =>
      rw [← List.map_append]
      exact .emptied _ report'
    | refused done x rest e =>
      rw [← List.append_assoc, ← List.append_assoc, ← List.map_append]
      exact .refused (items ++ done) x rest e

/-- The report of a pass can be any other. -/
lemma map (f : ρ → ρ') (h : Passed items left shown result) :
    Passed items left shown (result.map f) := by
  cases h with
  | emptied items report => exact .emptied items (f report)
  | refused done x rest e => exact .refused done x rest e

/-- What was taken in a pass, followed by what is left, is what waited: on each lane. -/
lemma taken_append {α : Type} (lane : EventBatch ⊕ SystemEvent → Option α)
    (h : Passed items left shown result) :
    takenOf lane shown ++ left.filterMap lane = items.filterMap lane := by
  have hall (xs : List (EventBatch ⊕ SystemEvent)) :
      takenOf lane (xs.map fun x => ⟨x, true⟩) = xs.filterMap lane := by
    rw [takenOf, List.filterMap_map]
    rfl
  cases h with
  | emptied items report => rw [hall, List.filterMap_nil, List.append_nil]
  | refused done x rest e =>
    rw [takenOf_append, hall, List.filterMap_append]
    simp [takenOf]

/-- A pass that is refused ends with the item that is then next. -/
lemma refused_last {e : SinkError} (h : Passed items left shown (.error e : Except SinkError ρ)) :
    ∃ done x rest, left = x :: rest ∧ shown = done ++ [⟨x, false⟩] := by
  cases h with
  | refused done x rest => exact ⟨_, x, rest, rfl, rfl⟩

/-- A pass starts with the item that is next. -/
lemma shown_first {x : EventBatch ⊕ SystemEvent} {rest : List (EventBatch ⊕ SystemEvent)}
    (h : Passed (x :: rest) left shown result) : ∃ taken more, shown = ⟨x, taken⟩ :: more := by
  generalize hitems : x :: rest = items at h
  cases h with
  | emptied items report =>
    subst hitems
    exact ⟨true, _, rfl⟩
  | refused done y rest' e =>
    cases done with
    | nil =>
      cases hitems
      exact ⟨false, [], rfl⟩
    | cons z done =>
      cases hitems
      exact ⟨true, _, rfl⟩

end Passed

variable {S : Type}

/-- **One pass over a lane** takes items from the front of the lane and stops at the first one
refused, which stays; no counter changes. -/
theorem forwardLane_passed (tag : α → EventBatch ⊕ SystemEvent)
    (push : S × List Offer → α → (S × List Offer) × Except SinkError PushOutcome)
    (hnote : ∀ s x, (push s x).1.2 = s.2 ++ [⟨tag x, (push s x).2.isOk⟩]) (lane : BoundedQueue α)
    (s : S × List Offer) :
    ∃ shown, Passed (lane.items.map tag) ((forwardLane push lane.items lane s).1.items.map tag)
        shown (forwardLane push lane.items lane s).2.2 ∧
      (forwardLane push lane.items lane s).2.1.2 = s.2 ++ shown ∧
      (forwardLane push lane.items lane s).1.droppedTotal = lane.droppedTotal := by
  obtain ⟨items, hitems⟩ : ∃ items, lane.items = items := ⟨_, rfl⟩
  rw [hitems]
  induction items generalizing lane s with
  | nil =>
    refine ⟨[], ?_, (List.append_nil _).symm, rfl⟩
    rw [forwardLane, hitems]
    exact .emptied [] 0
  | cons x items ih =>
    have hx := hnote s x
    rcases hpush : push s x with ⟨s', e | outcome⟩
    · -- Refused: the lane is left as it is.
      rw [hpush] at hx
      simp only [forwardLane, hpush]
      refine ⟨[⟨tag x, false⟩], ?_, hx, trivial⟩
      rw [hitems]
      exact .refused [] (tag x) (items.map tag) e
    · rw [hpush] at hx
      have htail : lane.popFront.items = items := congrArg List.tail hitems
      obtain ⟨shown, hpassed, hshown, hdropped⟩ := ih lane.popFront s' htail
      simp only [forwardLane, hpush]
      refine ⟨⟨tag x, true⟩ :: shown, hpassed.cons (tag x) _, ?_, hdropped⟩
      rw [hshown, hx, List.append_assoc]
      rfl

/-- What a forward will offer, in its order. -/
def EventDispatcher.upcoming (d : EventDispatcher) : List (EventBatch ⊕ SystemEvent) :=
  d.batches.items.map .inl ++ d.systems.items.map .inr

lemma EventDispatcher.upcoming_batches (d : EventDispatcher) :
    d.upcoming.filterMap Sum.getLeft? = d.batches.items := by
  simp [upcoming, List.filterMap_append, List.filterMap_map, Function.comp_def]

lemma EventDispatcher.upcoming_systems (d : EventDispatcher) :
    d.upcoming.filterMap Sum.getRight? = d.systems.items := by
  simp [upcoming, List.filterMap_append, List.filterMap_map, Function.comp_def]

/-- **One forward** is one pass over both lanes, the batches first. -/
theorem forwardDispatcher_passed (K : EventSink S) (d : EventDispatcher) (sink : S)
    (offers : List Offer) :
    ∃ shown, Passed d.upcoming (forwardDispatcher K.noting d (sink, offers)).1.upcoming shown
        (forwardDispatcher K.noting d (sink, offers)).2.2 ∧
      (forwardDispatcher K.noting d (sink, offers)).2.1.2 = offers ++ shown ∧
      (forwardDispatcher K.noting d (sink, offers)).1.batches.droppedTotal =
        d.batches.droppedTotal ∧
      (forwardDispatcher K.noting d (sink, offers)).1.systems.droppedTotal =
        d.systems.droppedTotal := by
  obtain ⟨shown, hpassed, hshown, hdropped⟩ := forwardLane_passed Sum.inl
    K.noting.pushBatch (fun s x => rfl) d.batches (sink, offers)
  rcases hbatches : forwardLane K.noting.pushBatch d.batches.items d.batches (sink, offers)
    with ⟨batches, s, e | droppedBatches⟩
  · -- The batch lane is refused: the system lane is not looked at.
    rw [hbatches] at hpassed hshown hdropped
    simp only [forwardDispatcher, hbatches]
    refine ⟨shown, ?_, hshown, hdropped, trivial⟩
    exact hpassed.append_refused _
  · rw [hbatches] at hpassed hshown hdropped
    obtain ⟨shown', hpassed', hshown', hdropped'⟩ := forwardLane_passed Sum.inr
      K.noting.pushSystem (fun s x => rfl) d.systems s
    obtain ⟨hempty, hboth⟩ := hpassed.append_emptied hpassed'
    have hoffers : (forwardLane K.noting.pushSystem d.systems.items d.systems s).2.1.2 =
        offers ++ (shown ++ shown') := by
      rw [hshown', hshown, List.append_assoc]
    rcases hsystems : forwardLane K.noting.pushSystem d.systems.items d.systems s
      with ⟨systems, s', e | droppedSystems⟩
    all_goals
      rw [hsystems] at hboth hoffers hdropped'
      simp only [forwardDispatcher, hbatches, hsystems]
      refine ⟨shown ++ shown', ?_, hoffers, hdropped, hdropped'⟩
      rw [EventDispatcher.upcoming, EventDispatcher.upcoming, hempty, List.nil_append]
      exact hboth.map (ForwardReport.mk droppedBatches)

/-- Two sinks that answer alike, one with more state: a pass over a lane does the same. -/
lemma forwardLane_congr {S' : Type} (f : S' → S)
    (push : S → α → S × Except SinkError PushOutcome)
    (push' : S' → α → S' × Except SinkError PushOutcome)
    (hpush : ∀ s x, push (f s) x = (f (push' s x).1, (push' s x).2)) (items : List α)
    (lane : BoundedQueue α) (s : S') :
    forwardLane push items lane (f s) =
      ((forwardLane push' items lane s).1, f (forwardLane push' items lane s).2.1,
        (forwardLane push' items lane s).2.2) := by
  induction items generalizing lane s with
  | nil => rfl
  | cons x items ih =>
    rcases hx : push' s x with ⟨s', e | outcome⟩
    all_goals simp only [forwardLane, hpush, hx, ih]

/-- Noting the items changes nothing else of a forward. -/
lemma forwardDispatcher_noting (K : EventSink S) (d : EventDispatcher) (sink : S)
    (offers : List Offer) :
    forwardDispatcher K d sink =
      ((forwardDispatcher K.noting d (sink, offers)).1,
        (forwardDispatcher K.noting d (sink, offers)).2.1.1,
        (forwardDispatcher K.noting d (sink, offers)).2.2) := by
  have hbatches := forwardLane_congr Prod.fst K.pushBatch K.noting.pushBatch
    (fun s x => rfl) d.batches.items d.batches (sink, offers)
  have hsystems := forwardLane_congr Prod.fst K.pushSystem K.noting.pushSystem
    (fun s x => rfl) d.systems.items d.systems
  unfold forwardDispatcher
  rw [hbatches]
  rcases forwardLane K.noting.pushBatch d.batches.items d.batches (sink, offers)
    with ⟨batches, s, e | droppedBatches⟩
  · rfl
  · simp only [hsystems]
    rcases forwardLane K.noting.pushSystem d.systems.items d.systems s
      with ⟨systems, s', e | droppedSystems⟩ <;> rfl

/-! ## Pushes -/

/-- **A push** keeps a lane's accounts, under every overflow policy: what it answers `Ok` counts as
accepted. `before` is what left the lane earlier. -/
theorem Accounts.tryPush {accepted before : List α} {lane : BoundedQueue α}
    (h : Accounts accepted (before ++ lane.items) lane.droppedTotal) (x : α) :
    Accounts (if (lane.tryPush x).2.isOk then accepted ++ [x] else accepted)
      (before ++ (lane.tryPush x).1.items) (lane.tryPush x).1.droppedTotal := by
  unfold BoundedQueue.tryPush
  split
  · have haccept := h.accept x
    rwa [List.append_assoc] at haccept
  · rename_i hfull
    split
    · exact h.refuse x
    · -- A full lane is not empty, and its oldest item goes.
      have hpos := lane.capacity_pos
      obtain ⟨y, items, hitems⟩ := List.exists_cons_of_length_pos (l := lane.items) (by omega)
      have hdropped : Accounts accepted (before ++ lane.items.tail) (lane.droppedTotal + 1) := by
        rw [hitems] at h ⊢
        exact h.discard
      have haccept := hdropped.accept x
      rwa [List.append_assoc] at haccept
    all_goals exact h

/-! ## Runs -/

/-- A dispatcher in use, with its history: which items were pushed with an `Ok` on each lane, and
what its sinks were shown. -/
structure Forwarding where
  dispatcher : EventDispatcher
  acceptedBatches : List EventBatch
  acceptedSystems : List SystemEvent
  offers : List Offer

/-- What can be done to a dispatcher. A forward is given its sink in the state it is then in. -/
inductive DispatcherCall (S : Type)
  | pushBatch (batch : EventBatch)
  | pushSystem (event : SystemEvent)
  | forward (sink : S)

namespace Forwarding

variable {S : Type}

/-- A dispatcher nothing was pushed to. -/
def start (dispatcher : EventDispatcher) : Forwarding := ⟨dispatcher, [], [], []⟩

/-- One call. -/
def step (K : EventSink S) (s : Forwarding) : DispatcherCall S → Forwarding
  | .pushBatch batch =>
    let (dispatcher, outcome) := s.dispatcher.pushBatch batch
    { s with
      dispatcher
      acceptedBatches :=
        if outcome.isOk then s.acceptedBatches ++ [batch] else s.acceptedBatches }
  | .pushSystem event =>
    let (dispatcher, outcome) := s.dispatcher.pushSystem event
    { s with
      dispatcher
      acceptedSystems :=
        if outcome.isOk then s.acceptedSystems ++ [event] else s.acceptedSystems }
  | .forward sink =>
    let (dispatcher, (_, offers), _) := forwardDispatcher K.noting s.dispatcher (sink, s.offers)
    { s with dispatcher, offers }

/-- The batches taken so far. -/
def takenBatches (s : Forwarding) : List EventBatch := takenOf Sum.getLeft? s.offers

/-- The system events taken so far. -/
def takenSystems (s : Forwarding) : List SystemEvent := takenOf Sum.getRight? s.offers

/-- The accounts of both lanes. -/
structure Exact (s : Forwarding) : Prop where
  batches : Accounts s.acceptedBatches (s.takenBatches ++ s.dispatcher.batches.items)
    s.dispatcher.batches.droppedTotal
  systems : Accounts s.acceptedSystems (s.takenSystems ++ s.dispatcher.systems.items)
    s.dispatcher.systems.droppedTotal

/-- A forward moves items of a lane from the queued to the taken ones. -/
lemma Exact.forward {K : EventSink S} {s : Forwarding} (h : s.Exact) (sink : S) :
    (step K s (.forward sink)).Exact := by
  obtain ⟨shown, hpassed, hoffers, hbatches, hsystems⟩ :=
    forwardDispatcher_passed K s.dispatcher sink s.offers
  have hleft := hpassed.taken_append Sum.getLeft?
  have hright := hpassed.taken_append Sum.getRight?
  rw [EventDispatcher.upcoming_batches, EventDispatcher.upcoming_batches] at hleft
  rw [EventDispatcher.upcoming_systems, EventDispatcher.upcoming_systems] at hright
  constructor
  · have hkept := h.batches
    rw [takenBatches, ← hleft, ← List.append_assoc, ← takenOf_append, ← hoffers, ← hbatches] at hkept
    exact hkept
  · have hkept := h.systems
    rw [takenSystems, ← hright, ← List.append_assoc, ← takenOf_append, ← hoffers, ← hsystems]
      at hkept
    exact hkept

lemma Exact.step {K : EventSink S} {s : Forwarding} (h : s.Exact) (call : DispatcherCall S) :
    (step K s call).Exact := by
  cases call with
  | pushBatch batch => exact ⟨h.batches.tryPush batch, h.systems⟩
  | pushSystem event => exact ⟨h.batches, h.systems.tryPush event⟩
  | forward sink => exact h.forward sink

/-- **A refused item is the next one offered.** -/
theorem resumes_after_refusal (K : EventSink S) (s : Forwarding) {sink : S} {e : SinkError}
    (hrefused : (forwardDispatcher K s.dispatcher sink).2.2 = .error e) :
    ∃ done x, (step K s (.forward sink)).offers = s.offers ++ done ++ [⟨x, false⟩] ∧
      ∀ sink', ∃ taken more, (step K (step K s (.forward sink)) (.forward sink')).offers =
        (step K s (.forward sink)).offers ++ ⟨x, taken⟩ :: more := by
  obtain ⟨shown, hpassed, hoffers, -, -⟩ := forwardDispatcher_passed K s.dispatcher sink s.offers
  rw [forwardDispatcher_noting K s.dispatcher sink s.offers] at hrefused
  rw [hrefused] at hpassed
  obtain ⟨done, x, rest, hleft, rfl⟩ := hpassed.refused_last
  refine ⟨done, x, hoffers.trans (List.append_assoc _ _ _).symm, fun sink' => ?_⟩
  obtain ⟨shown', hpassed', hoffers', -, -⟩ :=
    forwardDispatcher_passed K (step K s (.forward sink)).dispatcher sink'
      (step K s (.forward sink)).offers
  rw [show (step K s (.forward sink)).dispatcher.upcoming = x :: rest from hleft] at hpassed'
  obtain ⟨taken, more, rfl⟩ := hpassed'.shown_first
  exact ⟨taken, more, hoffers'⟩

/-- **Forwarding is exact.** A dispatcher with any capacities and any policy is pushed to and
forwarded from in any order, into sinks that may refuse any item. On each lane the taken items
followed by the queued ones are, in push order, the items whose push returned `Ok` less as many as
the lane's counter says were dropped; no item is taken or queued more often than it was pushed; and
when a forward fails, the next one starts with the item that was refused. -/
theorem forwarding_exact (K : EventSink S) {batchCapacity systemCapacity : Nat}
    (hb : 0 < batchCapacity) (hs : 0 < systemCapacity) (policy : OverflowPolicy)
    (calls : List (DispatcherCall S)) {s : Forwarding}
    (hrun : s = run (step K) (start (.new batchCapacity systemCapacity hb hs policy))
      calls) :
    Accounts s.acceptedBatches (s.takenBatches ++ s.dispatcher.batches.items)
        s.dispatcher.batches.droppedTotal ∧
      Accounts s.acceptedSystems (s.takenSystems ++ s.dispatcher.systems.items)
        s.dispatcher.systems.droppedTotal ∧
      (∀ batch, (s.takenBatches ++ s.dispatcher.batches.items).count batch ≤
        s.acceptedBatches.count batch) ∧
      (∀ event, (s.takenSystems ++ s.dispatcher.systems.items).count event ≤
        s.acceptedSystems.count event) ∧
      ∀ sink e, (forwardDispatcher K s.dispatcher sink).2.2 = .error e →
        ∃ done x, (step K s (.forward sink)).offers = s.offers ++ done ++ [⟨x, false⟩] ∧
          ∀ sink', ∃ taken more, (step K (step K s (.forward sink)) (.forward sink')).offers =
            (step K s (.forward sink)).offers ++ ⟨x, taken⟩ :: more := by
  have hexact : s.Exact := by
    rw [hrun]
    exact run_invariant' (fun s call h => h.step call) ⟨.nil, .nil⟩ calls
  exact ⟨hexact.batches, hexact.systems, hexact.batches.count_le, hexact.systems.count_le,
    fun sink e hrefused => resumes_after_refusal K s hrefused⟩

/-- A sink that takes batches and refuses system events. -/
def batchesOnly : EventSink Unit where
  pushBatch _ _ := ((), .ok .accepted)
  pushSystem _ _ := ((), .error (.io "system events refused"))

/-- Three batches into a lane of two, with a forward that fails at a system event: the oldest batch
is dropped, the other two are taken and the event stays. -/
theorem forwarding_exact_dropOldest :
    ∃ s : Forwarding,
      s = run (step batchesOnly) (start (.new 2 1 (by decide) (by decide) .dropOldest))
        [.pushBatch ⟨⟨1⟩, 1, []⟩, .pushBatch ⟨⟨1⟩, 2, []⟩, .pushBatch ⟨⟨1⟩, 3, []⟩,
          .pushSystem .shutdownStarted, .forward ()] ∧
      s.takenBatches.map EventBatch.frameSeq = [2, 3] ∧ s.dispatcher.batches.droppedTotal = 1 ∧
      s.dispatcher.systems.items = [.shutdownStarted] ∧
      Accounts s.acceptedBatches (s.takenBatches ++ s.dispatcher.batches.items)
        s.dispatcher.batches.droppedTotal :=
  ⟨_, rfl, by decide, by decide, by decide,
    (forwarding_exact batchesOnly (by decide) (by decide) .dropOldest _ rfl).1⟩

end Forwarding

end Marketfeed
