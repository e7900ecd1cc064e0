import Marketfeed.Engine.Frame
import Marketfeed.View.Plane

/-!
# From the adapter's emissions to the served books

An adapter emits batches and system events in one order. The runner puts them into two lanes, and one
forward call empties the batch lane into the sink before the system lane. This module compares the
books a view plane serves after that with the books it would serve had every emission been delivered
at its own place.
-/

namespace Marketfeed

/-- What an adapter emits for the data plane. -/
inductive Emission
  | batch (b : EventBatch)
  | system (event : SystemEvent)

namespace Emission

/-- The action that emits it. -/
def action : Emission → SessionAction
  | .batch b => .emitBatch b
  | .system event => .emitSystem event

/-- The share of the batch lane. -/
def batches (es : List Emission) : List EventBatch :=
  es.filterMap fun
    | .batch b => some b
    | .system _ => none

/-- The share of the system lane. -/
def systems (es : List Emission) : List SystemEvent :=
  es.filterMap fun
    | .batch _ => none
    | .system event => some event

lemma batches_cons (e : Emission) (es : List Emission) :
    batches (e :: es) = batches [e] ++ batches es := by
  rw [← List.singleton_append]
  exact List.filterMap_append

lemma systems_cons (e : Emission) (es : List Emission) :
    systems (e :: es) = systems [e] ++ systems es := by
  rw [← List.singleton_append]
  exact List.filterMap_append

/-- One emission into a view plane. -/
def deliver (p : ViewPlane) : Emission → ViewPlane
  | .batch b => p.pushBatch b
  | .system event => p.pushSystem event

end Emission

/-- The plane as a sink.
Source: `EventSink for ViewPlane` -/
def ViewPlane.sink : EventSink ViewPlane := .accepting ViewPlane.pushBatch ViewPlane.pushSystem

namespace SessionRunner

variable {σ : Type}

/-! ## Into the lanes -/

/-- Lanes and mirrors can take `n` more items each; mirrors may be off. -/
structure Roomy (r : SessionRunner σ) (n : Nat) : Prop where
  batches : r.dispatch.batches.items.length + n ≤ r.dispatch.batches.capacity
  systems : r.dispatch.systems.items.length + n ≤ r.dispatch.systems.capacity
  mirrors : r.mirrorCapacity = 0 ∨ r.marketBatches.length + n ≤ r.mirrorCapacity ∧
    r.systemEvents.length + n ≤ r.mirrorCapacity

lemma length_mirrored_le {α : Type} (capacity : Nat) (items : List α) (item : α) :
    (mirrored capacity items item).length ≤ items.length + 1 := by
  unfold mirrored
  split_ifs <;> simp

variable {r : SessionRunner σ}

/-- **One emission**: it is the last item of its lane, and one place less is left. -/
theorem applyAction_emission {n : Nat} (h : r.Roomy (n + 1)) (e : Emission) (now : TimestampNs)
    (fatal : Bool) :
    ∃ r', (applyAction now fatal e.action).run r = .ok () r' ∧ r'.Roomy n ∧
      r'.dispatch.batches.items = r.dispatch.batches.items ++ Emission.batches [e] ∧
      r'.dispatch.systems.items = r.dispatch.systems.items ++ Emission.systems [e] := by
  have hbatches := h.batches
  have hsystems := h.systems
  rcases e with b | event
  · have hroom : r.dispatch.batches.items.length < r.dispatch.batches.capacity := by omega
    have hpush := pushDispatchBatch_of_room b hroom
    have hmirror := pushMirrorBatch_of_room (r := { r with dispatch :=
      { r.dispatch with batches := r.dispatch.batches.pushBack b hroom } }) b
      (h.mirrors.imp id fun h => (by omega : r.marketBatches.length < r.mirrorCapacity))
    refine ⟨_, (run_seq_of_ok hpush).trans hmirror, ⟨?_, ?_, ?_⟩, rfl, (List.append_nil _).symm⟩
    · show (r.dispatch.batches.items ++ [b]).length + n ≤ r.dispatch.batches.capacity
      rw [List.length_append, List.length_singleton]
      omega
    · show r.dispatch.systems.items.length + n ≤ r.dispatch.systems.capacity
      omega
    · have hlen := length_mirrored_le r.mirrorCapacity r.marketBatches b
      show r.mirrorCapacity = 0 ∨
        (mirrored r.mirrorCapacity r.marketBatches b).length + n ≤ r.mirrorCapacity ∧
          r.systemEvents.length + n ≤ r.mirrorCapacity
      exact h.mirrors.imp id fun h => ⟨by omega, by omega⟩
  · let seen : SessionRunner σ := { r with readiness := r.readiness.observeSystem event }
    have hroom : seen.dispatch.systems.items.length < seen.dispatch.systems.capacity :=
      (by omega : r.dispatch.systems.items.length < r.dispatch.systems.capacity)
    have hpush := pushDispatchSystem_of_room event hroom
    have hmirror := pushMirrorSystem_of_room (r := { seen with dispatch :=
      { seen.dispatch with systems := seen.dispatch.systems.pushBack event hroom } }) event
      (h.mirrors.imp id fun h => (by omega : r.systemEvents.length < r.mirrorCapacity))
    have hrun : (dispatchSystem event).run seen = _ := (run_seq_of_ok hpush).trans hmirror
    refine ⟨_, (run_modify_seq _ _ r).trans (run_attempt_of_ok hrun), ⟨?_, ?_, ?_⟩,
      (List.append_nil _).symm, rfl⟩
    · show r.dispatch.batches.items.length + n ≤ r.dispatch.batches.capacity
      omega
    · show (r.dispatch.systems.items ++ [event]).length + n ≤ r.dispatch.systems.capacity
      rw [List.length_append, List.length_singleton]
      omega
    · have hlen := length_mirrored_le r.mirrorCapacity r.systemEvents event
      show r.mirrorCapacity = 0 ∨ r.marketBatches.length + n ≤ r.mirrorCapacity ∧
        (mirrored r.mirrorCapacity r.systemEvents event).length + n ≤ r.mirrorCapacity
      exact h.mirrors.imp id fun h => ⟨by omega, by omega⟩

/-- **All emissions of a call**: the lanes hold them in their order. -/
theorem forM_applyAction_emissions (es : List Emission) (h : r.Roomy es.length)
    (now : TimestampNs) (fatal : Bool) :
    ∃ r', ((es.map Emission.action).forM (applyAction now fatal)).run r = .ok () r' ∧
      r'.dispatch.batches.items = r.dispatch.batches.items ++ Emission.batches es ∧
      r'.dispatch.systems.items = r.dispatch.systems.items ++ Emission.systems es := by
  induction es generalizing r with
  | nil => exact ⟨r, rfl, (List.append_nil _).symm, (List.append_nil _).symm⟩
  | cons e es ih =>
    obtain ⟨r₁, hrun₁, hroom, hbatches₁, hsystems₁⟩ := applyAction_emission h e now fatal
    obtain ⟨r₂, hrun₂, hbatches₂, hsystems₂⟩ := ih hroom
    refine ⟨r₂, (run_seq_of_ok hrun₁).trans hrun₂, ?_, ?_⟩
    · rw [hbatches₂, hbatches₁, List.append_assoc, ← Emission.batches_cons]
    · rw [hsystems₂, hsystems₁, List.append_assoc, ← Emission.systems_cons]

/-- The runner's buffer holds exactly these emissions, and its lanes nothing yet. -/
structure Emits (r : SessionRunner σ) (es : List Emission) : Prop where
  actions : r.actions.actions = es.map Emission.action
  batches : r.dispatch.batches.items = []
  systems : r.dispatch.systems.items = []
  room : r.Roomy es.length

/-- With room in the lanes and mirrors, the lanes hold exactly the emissions. -/
lemma applyActions_emissions {es : List Emission} (h : r.Emits es) (now : TimestampNs)
    (fatal : Bool) :
    ∃ r', (applyActionsWithSystemPolicy now fatal).run r = .ok () r' ∧
      r'.dispatch.batches.items = Emission.batches es ∧
      r'.dispatch.systems.items = Emission.systems es := by
  obtain ⟨r', hrun, hbatches, hsystems⟩ := forM_applyAction_emissions es
    (r := { r with actions := r.actions.clear }) ⟨h.room.batches, h.room.systems, h.room.mirrors⟩
    now fatal
  refine ⟨r', ?_, ?_, ?_⟩
  · rw [applyActionsWithSystemPolicy, run_get_seq, run_modify_seq, h.actions]
    exact hrun
  · rw [hbatches]
    show r.dispatch.batches.items ++ _ = _
    rw [h.batches, List.nil_append]
  · rw [hsystems]
    show r.dispatch.systems.items ++ _ = _
    rw [h.systems, List.nil_append]

end SessionRunner

/-! ## Into the plane -/

/-- **The plane is the sink of one venue**: it knows the venue, or it has heard of none and holds no
book of this one. A plane built for a venue starts like this, and so does a new plane. -/
def ViewPlane.SinkOf (p : ViewPlane) (venue : VenueId) : Prop :=
  p.sinkVenue = some venue ∨ p.sinkVenue = none ∧ ∀ i, p.books (venue, i) = none

namespace Emission

open ViewPlane

/-- The emission comes from a session of the venue. -/
def Of (venue : VenueId) : Emission → Prop
  | .batch b => ∀ ev ∈ b.events, ev.venue = venue
  | .system _ => True

/-- What an event does to the book of an instrument. -/
def eventStep (i : InstrumentId) (book : Option LiveBook) (ev : EventEnvelope) : Option LiveBook :=
  if ev.instrument = some i then bookAfter book ev.payload else book

/-- The emission invalidates the instrument's book. -/
def invalidates (i : InstrumentId) : Emission → Bool
  | .system (.bookInvalidated j _) => j = i
  | _ => false

/-- What an emission does to the book of an instrument. -/
def bookStep (i : InstrumentId) (book : Option LiveBook) : Emission → Option LiveBook
  | .batch b => b.events.foldl (eventStep i) book
  | .system event => if invalidates i (.system event) then none else book

/-- The event is a snapshot of the instrument that the plane can hold. -/
def eventOpens (i : InstrumentId) (ev : EventEnvelope) : Bool :=
  ev.instrument = some i && match ev.payload with
    | .bookSnapshot snap => (LiveBook.fromSnapshot snap).isSome
    | _ => false

/-- The emission contains a snapshot of the instrument that the plane can hold. -/
def opensBook (i : InstrumentId) : Emission → Bool
  | .batch b => b.events.any (eventOpens i)
  | .system _ => false

variable {p : ViewPlane} {venue : VenueId}

lemma books_ingestEvents (events : List EventEnvelope) (h : ∀ ev ∈ events, ev.venue = venue)
    (key : BookKey) :
    (events.foldl ingestEvent p).books key =
      if key.1 = venue then events.foldl (eventStep key.2) (p.books key) else p.books key := by
  induction events generalizing p with
  | nil => simp
  | cons ev events ih =>
    have hvenue : ev.venue = venue := h ev List.mem_cons_self
    rw [List.foldl_cons, ih fun ev hev => h ev (List.mem_cons_of_mem _ hev),
      books_ingestEvent, hvenue]
    by_cases hkey : key.1 = venue
    · simp [hkey, eventStep]
    · simp [hkey, Ne.symm hkey]

/-- Only an invalidation seen by a sink that knows its venue does anything. -/
lemma ingestSystem_cases (p : ViewPlane) (sinkVenue : Option VenueId) (event : SystemEvent) :
    (∃ venue i reason, sinkVenue = some venue ∧ event = .bookInvalidated i reason) ∨
      p.ingestSystem sinkVenue event = p ∧ (sinkVenue = none ∨ ∀ i, invalidates i (.system event) = false) := by
  unfold ingestSystem
  split
  · rename_i venue i reason
    exact .inl ⟨venue, i, reason, rfl, rfl⟩
  · rename_i hother
    refine .inr ⟨rfl, ?_⟩
    rcases sinkVenue with _ | venue
    · exact .inl rfl
    · right
      intro i
      unfold invalidates
      split
      · rename_i j reason heq
        cases heq
        exact (hother venue j reason rfl rfl).elim
      · rfl

lemma books_ingestSystem (p : ViewPlane) (venue : VenueId) (event : SystemEvent) (key : BookKey) :
    (p.ingestSystem (some venue) event).books key =
      if key.1 = venue then bookStep key.2 (p.books key) (.system event) else p.books key := by
  rcases ingestSystem_cases p (some venue) event with ⟨_, i, reason, ⟨⟩, rfl⟩ | ⟨hsame, hquiet⟩
  · have hkey : key = (venue, i) ↔ key.1 = venue ∧ i = key.2 := by
      rw [Prod.ext_iff]
      exact and_congr_right fun _ => eq_comm
    simp only [ingestSystem, Function.update_apply, hkey, bookStep, invalidates,
      decide_eq_true_eq]
    by_cases hvenue : key.1 = venue <;> simp [hvenue]
  · rw [hsame, bookStep, hquiet.resolve_left (Option.some_ne_none venue)]
    simp

variable {e : Emission}

/-- **One delivery**: the venue's books take the step, all others stay. -/
theorem books_deliver (hp : p.SinkOf venue) (he : e.Of venue) (key : BookKey) :
    (deliver p e).books key =
      if key.1 = venue then bookStep key.2 (p.books key) e else p.books key := by
  rcases e with b | event
  · exact books_ingestEvents b.events he key
  · rcases hp with hsink | ⟨hsink, hbooks⟩
    · rw [deliver, pushSystem, hsink]
      exact books_ingestSystem p venue event key
    · -- no venue is known yet, and there is no book to lose
      have hnone : deliver p (.system event) = p := by
        rw [deliver, pushSystem, hsink]
        rcases ingestSystem_cases p none event with ⟨_, _, _, ⟨⟩, -⟩ | ⟨hsame, -⟩
        exact hsame
      rw [hnone]
      split_ifs with hkey
      · have hbook : p.books key = none := by
          rw [← hbooks key.2, ← hkey]
        rw [bookStep, hbook, ite_self]
      · rfl

lemma sinkVenue_ingestSystem (p : ViewPlane) (sinkVenue : Option VenueId) (event : SystemEvent) :
    (p.ingestSystem sinkVenue event).sinkVenue = p.sinkVenue := by
  unfold ingestSystem
  split <;> rfl

lemma sinkOf_deliver (hp : p.SinkOf venue) (he : e.Of venue) : (deliver p e).SinkOf venue := by
  rcases e with b | event
  · rcases hevents : b.events with _ | ⟨ev, events⟩
    · have hsame : (deliver p (.batch b)).sinkVenue = p.sinkVenue ∧
          (deliver p (.batch b)).books = p.books := by
        simp [deliver, pushBatch, ingestBatch, batchVenue, hevents]
      rw [SinkOf, hsame.1, hsame.2]
      exact hp
    · have hvenue : batchVenue b = some venue := by
        have hhead : ev.venue = venue := he ev (by rw [hevents]; exact List.mem_cons_self)
        rw [batchVenue, hevents, List.head?_cons, Option.map_some, hhead, ← hevents]
        exact Option.filter_some_pos (List.all_eq_true.mpr fun ev hev => decide_eq_true (he ev hev))
      left
      simp [deliver, pushBatch, ingestBatch, hvenue]
  · have hsink : (deliver p (.system event)).sinkVenue = p.sinkVenue :=
      sinkVenue_ingestSystem p p.sinkVenue event
    rw [SinkOf, hsink]
    refine hp.imp id fun h => ⟨h.1, fun i => ?_⟩
    rw [books_deliver hp he, if_pos rfl, bookStep, h.2 i, ite_self]

variable {es : List Emission}

/-- **A list of deliveries**, book by book. -/
theorem books_foldl_deliver (hp : p.SinkOf venue) (hes : ∀ e ∈ es, e.Of venue) (key : BookKey) :
    (es.foldl deliver p).books key =
      if key.1 = venue then es.foldl (bookStep key.2) (p.books key) else p.books key := by
  induction es generalizing p with
  | nil => simp
  | cons e es ih =>
    have he := hes e List.mem_cons_self
    rw [List.foldl_cons, ih (sinkOf_deliver hp he) fun e h => hes e (List.mem_cons_of_mem _ h),
      books_deliver hp he]
    split_ifs <;> rfl

/-! ## The two orders -/

/-- The order of the drain: all batches, then all system events. -/
def laneOrder (es : List Emission) : List Emission :=
  (batches es).map .batch ++ (systems es).map .system

lemma mem_of_mem_laneOrder (h : e ∈ laneOrder es) : e ∈ es := by
  rcases List.mem_append.mp h with h | h
  · obtain ⟨b, hb, rfl⟩ := List.mem_map.mp h
    obtain ⟨d, hd, hbatch⟩ := List.mem_filterMap.mp hb
    rcases d with b' | event <;> cases hbatch
    exact hd
  · obtain ⟨event, hevent, rfl⟩ := List.mem_map.mp h
    obtain ⟨d, hd, hsystem⟩ := List.mem_filterMap.mp hevent
    rcases d with b | event' <;> cases hsystem
    exact hd

/-- **No replaced book is invalidated late**: a snapshot of the instrument that the plane can hold
does not follow the instrument's last invalidation. -/
def KeepsOrderOf (i : InstrumentId) : List Emission → Prop
  | [] => True
  | e :: es => (e.invalidates i → (∃ e ∈ es, e.invalidates i) ∨ ∀ e ∈ es, ¬ e.opensBook i) ∧
      KeepsOrderOf i es

/-- The book after an event is there iff it was there or the event opens it. -/
lemma isSome_eventStep (i : InstrumentId) (book : Option LiveBook) (ev : EventEnvelope) :
    (eventStep i book ev).isSome = (book.isSome || eventOpens i ev) := by
  unfold eventStep eventOpens
  by_cases hi : ev.instrument = some i
  · rw [if_pos hi]
    rcases ev.payload with _ | _ | snap | delta | _ | _ | _ | _ | _ | _ | _ | _ | _
    case bookSnapshot => simp [bookAfter, hi, Bool.or_comm]
    all_goals simp [bookAfter]
  · simp [hi]

lemma isSome_foldl_eventStep (i : InstrumentId) (events : List EventEnvelope)
    (book : Option LiveBook) :
    (events.foldl (eventStep i) book).isSome = (book.isSome || events.any (eventOpens i)) := by
  induction events generalizing book with
  | nil => simp
  | cons ev events ih =>
    rw [List.foldl_cons, ih, isSome_eventStep, List.any_cons, Bool.or_assoc]

variable {i : InstrumentId}

/-- Without invalidations, the book of an instrument is there in the end iff it was there or some
emission opens it. -/
lemma isSome_foldl_bookStep (h : ∀ e ∈ es, e.invalidates i = false) (book : Option LiveBook) :
    (es.foldl (bookStep i) book).isSome = (book.isSome || es.any (opensBook i)) := by
  induction es generalizing book with
  | nil => simp
  | cons e es ih =>
    rw [List.foldl_cons, ih fun e he => h e (List.mem_cons_of_mem _ he), List.any_cons,
      ← Bool.or_assoc]
    congr 1
    rcases e with b | event
    · exact isSome_foldl_eventStep i b.events book
    · rw [bookStep, h _ List.mem_cons_self]
      simp [opensBook]

lemma foldl_bookStep_systems (i : InstrumentId) (events : List SystemEvent)
    (book : Option LiveBook) :
    (events.map .system).foldl (bookStep i) book =
      if ∃ event ∈ events, invalidates i (.system event) then none else book := by
  induction events generalizing book with
  | nil => simp
  | cons event events ih =>
    rw [List.map_cons, List.foldl_cons, ih, bookStep]
    by_cases hhead : invalidates i (.system event) <;>
      by_cases htail : ∃ event ∈ events, invalidates i (.system event) <;>
        simp [hhead, htail]

/-- The book after the drain: gone if the instrument is invalidated anywhere, else the batches'. -/
lemma foldl_laneOrder (i : InstrumentId) (es : List Emission) (book : Option LiveBook) :
    (laneOrder es).foldl (bookStep i) book =
      if ∃ e ∈ es, e.invalidates i then none
      else ((batches es).map .batch).foldl (bookStep i) book := by
  have hsystems : (∃ event ∈ systems es, invalidates i (.system event)) ↔
      ∃ e ∈ es, e.invalidates i := by
    constructor
    · rintro ⟨event, hevent, hinv⟩
      obtain ⟨e, he, heq⟩ := List.mem_filterMap.mp hevent
      rcases e with b | event'
      · cases heq
      · cases heq
        exact ⟨_, he, hinv⟩
    · rintro ⟨e, he, hinv⟩
      rcases e with b | event
      · cases hinv
      · exact ⟨event, List.mem_filterMap.mpr ⟨_, he, rfl⟩, hinv⟩
  rw [laneOrder, List.foldl_append, foldl_bookStep_systems]
  simp only [hsystems]

/-- Without a later invalidation nothing is asked. -/
lemma keepsOrderOf_of_none (h : ∀ e ∈ es, e.invalidates i = false) : KeepsOrderOf i es := by
  induction es with
  | nil => trivial
  | cons e es ih =>
    refine ⟨fun hinv => ?_, ih fun e he => h e (List.mem_cons_of_mem _ he)⟩
    rw [h e List.mem_cons_self] at hinv
    cases hinv

/-- An emission that invalidates nothing of the instrument keeps its place in the drain. -/
lemma foldl_laneOrder_cons (h : e.invalidates i = false) (es : List Emission)
    (book : Option LiveBook) :
    (laneOrder (e :: es)).foldl (bookStep i) book =
      (laneOrder es).foldl (bookStep i) (bookStep i book e) := by
  have hex : (∃ d ∈ e :: es, d.invalidates i) ↔ ∃ d ∈ es, d.invalidates i := by simp [h]
  rw [foldl_laneOrder, foldl_laneOrder]
  simp only [hex]
  congr 1
  rcases e with b | event
  · rfl
  · rw [bookStep, h]
    rfl

/-- **The two orders agree on one book iff it is not invalidated late.** -/
theorem foldl_laneOrder_iff (i : InstrumentId) (es : List Emission) (book : Option LiveBook) :
    (laneOrder es).foldl (bookStep i) book = es.foldl (bookStep i) book ↔ KeepsOrderOf i es := by
  induction es generalizing book with
  | nil => exact iff_of_true rfl trivial
  | cons e es ih =>
    rcases hinv : e.invalidates i with _ | _
    · rw [foldl_laneOrder_cons hinv, List.foldl_cons, ih]
      simp [KeepsOrderOf, hinv]
    · -- the drain ends without the book, the emission order goes on without it
      have hstep : bookStep i book e = none := by
        rcases e with b | event
        · cases hinv
        · rw [bookStep, hinv]
          rfl
      rw [foldl_laneOrder, if_pos ⟨e, List.mem_cons_self, hinv⟩, List.foldl_cons, hstep]
      by_cases hlater : ∃ d ∈ es, d.invalidates i
      · have hes := ih none
        rw [foldl_laneOrder, if_pos hlater] at hes
        rw [hes]
        exact ⟨fun h => ⟨fun _ => .inl hlater, h⟩, And.right⟩
      · have hnone : ∀ d ∈ es, d.invalidates i = false := by simpa using hlater
        have hsome := isSome_foldl_bookStep hnone none
        have hopen : none = es.foldl (bookStep i) none ↔ ∀ d ∈ es, ¬ d.opensBook i := by
          rw [eq_comm, ← Option.isNone_iff_eq_none, ← Option.not_isSome, hsome]
          simp
        rw [hopen]
        exact ⟨fun h => ⟨fun _ => .inr h, keepsOrderOf_of_none hnone⟩,
          fun h => (h.1 hinv).resolve_left hlater⟩

end Emission

namespace SessionRunner

open ViewPlane Emission

variable {σ : Type}

/-- The drained plane is the plane after the lanes, one after the other. -/
lemma drained_eq {r : SessionRunner σ} {es : List Emission} (h : r.Emits es) (now : TimestampNs)
    (fatal : Bool) (p : ViewPlane) :
    ∃ r', (applyActionsWithSystemPolicy now fatal).run r = .ok () r' ∧
      forwardDispatcher ViewPlane.sink r'.dispatch p =
        (r'.dispatch.drain.2, (laneOrder es).foldl Emission.deliver p, .ok ⟨0, 0⟩) := by
  obtain ⟨r', hrun, hbatches, hsystems⟩ := applyActions_emissions h now fatal
  refine ⟨r', hrun, ?_⟩
  rw [ViewPlane.sink, forwardDispatcher_accepting, hbatches, hsystems, laneOrder,
    List.foldl_append, List.foldl_map, List.foldl_map]
  rfl

/-- **Draining against the order of emission.** A runner with room carries out the emissions of one
call, and one forward call empties its lanes into the plane of the session's venue. The plane then
serves the same books as after delivering each emission at its own place, iff for every instrument
no snapshot the plane can hold follows the instrument's last invalidation. -/
theorem drained_books_iff {r : SessionRunner σ} {es : List Emission} (h : r.Emits es)
    (now : TimestampNs) (fatal : Bool) {p : ViewPlane} {venue : VenueId} (hp : p.SinkOf venue)
    (hes : ∀ e ∈ es, e.Of venue) :
    ∃ r' drained p', (applyActionsWithSystemPolicy now fatal).run r = .ok () r' ∧
      forwardDispatcher ViewPlane.sink r'.dispatch p = (drained, p', .ok ⟨0, 0⟩) ∧
      ((∀ key, p'.books key = (es.foldl Emission.deliver p).books key) ↔
        ∀ i, KeepsOrderOf i es) := by
  obtain ⟨r', hrun, hforward⟩ := drained_eq h now fatal p
  have hlanes : ∀ e ∈ laneOrder es, e.Of venue :=
    fun e he => hes e (mem_of_mem_laneOrder he)
  refine ⟨r', _, _, hrun, hforward, ?_⟩
  simp only [books_foldl_deliver hp hlanes, books_foldl_deliver hp hes]
  constructor
  · intro hbooks i
    have hbook := hbooks (venue, i)
    rw [if_pos rfl, if_pos rfl] at hbook
    exact (foldl_laneOrder_iff i es _).mp hbook
  · intro horder key
    split_ifs
    · exact (foldl_laneOrder_iff key.2 es _).mpr (horder key.2)
    · rfl

/-! ## Examples -/

/-- A session of the example venue with the default capacities. -/
def exampleConfig : SessionRunnerConfig :=
  { venue := exampleKey.1, capacity_pos := defaultCapacity_pos, liveSignal := some false }

/-- A new runner whose machine has just pushed the emissions. -/
def exampleRunner (es : List Emission) : SessionRunner Unit :=
  { new () exampleConfig with actions := (ActionBuffer.new).extend (es.map Emission.action) }

lemma exampleRunner_emits (es : List Emission) (h : es.length ≤ 1024) :
    (exampleRunner es).Emits es := by
  have hbuffer := ActionBuffer.extend_eq ActionBuffer.new (es.map Emission.action) (Nat.zero_le _)
  refine ⟨?_, rfl, rfl, ?_, ?_, .inr ⟨?_, ?_⟩⟩
  · show ((ActionBuffer.new).extend (es.map Emission.action)).actions = es.map Emission.action
    rw [hbuffer]
    exact List.take_of_length_le (by rw [List.length_map]; exact h)
  all_goals exact (Nat.zero_add _).le.trans h

/-- The plane as the daemon builds it for a session of the example venue. -/
def examplePlane : ViewPlane := { ViewPlane.new with sinkVenue := some exampleKey.1 }

/-- A gap, and the snapshot that replaces the book. -/
def gapThenSnapshot : List Emission :=
  [.system (.bookInvalidated exampleKey.2 "sequence gap"),
    .batch (exampleEvents (.bookSnapshot wholeSnapshot))]

/-- **A replaced book is lost.** The snapshot is emitted after the invalidation of its instrument, and
delivered in that order the plane serves the book. After the drain it does not. -/
theorem snapshot_after_invalidation_lost :
    ∃ r' drained p', (applyActionsWithSystemPolicy ⟨0⟩ true).run (exampleRunner gapThenSnapshot) =
        .ok () r' ∧
      forwardDispatcher ViewPlane.sink r'.dispatch examplePlane = (drained, p', .ok ⟨0, 0⟩) ∧
      p'.books exampleKey = none ∧
      ((gapThenSnapshot.foldl Emission.deliver examplePlane).books exampleKey).isSome := by
  obtain ⟨r', hrun, hforward⟩ := drained_eq (exampleRunner_emits gapThenSnapshot (by decide))
    ⟨0⟩ true examplePlane
  exact ⟨r', _, _, hrun, hforward, by decide +kernel, by decide +kernel⟩

/-- A snapshot, and a gap that nothing follows. -/
def snapshotThenGap : List Emission := gapThenSnapshot.reverse

/-- The condition is met when the invalidation is the last word on its instrument. -/
theorem drained_books_iff_snapshotThenGap :
    ∃ r' drained p', (applyActionsWithSystemPolicy ⟨0⟩ true).run (exampleRunner snapshotThenGap) =
        .ok () r' ∧
      forwardDispatcher ViewPlane.sink r'.dispatch examplePlane = (drained, p', .ok ⟨0, 0⟩) ∧
      ∀ key, p'.books key = (snapshotThenGap.foldl Emission.deliver examplePlane).books key := by
  have hes : ∀ e ∈ snapshotThenGap, e.Of exampleKey.1 := by
    simp [snapshotThenGap, gapThenSnapshot, Of, exampleEvents]
  have horder : ∀ i, KeepsOrderOf i snapshotThenGap := by
    simp [snapshotThenGap, gapThenSnapshot, KeepsOrderOf, invalidates]
  have hsink : examplePlane.SinkOf exampleKey.1 := .inl rfl
  obtain ⟨r', drained, p', hrun, hforward, hbooks⟩ := drained_books_iff
    (exampleRunner_emits snapshotThenGap (by decide)) ⟨0⟩ true hsink hes
  exact ⟨r', drained, p', hrun, hforward, hbooks.mpr horder⟩

end SessionRunner

end Marketfeed
