import Marketfeed.Adapter.Readiness
import Marketfeed.Engine.Frame

/-!
# Withdrawn readiness

A `Reconnect` or `StopSession` action withdraws the session's readiness: the live signal is false and
the session contributes no valid book. This module asks when that lasts until the next connection,
over every run of a runner and at every moment another thread could look.
-/

namespace Marketfeed

/-- Nothing of the session looks ready. -/
def Moment.Withheld (m : Moment) : Prop := m.live ≠ some true ∧ m.books = ∅

/-! ## The readiness state -/

namespace Readiness

variable {s : Readiness}

/-- **No moment is withdrawn and ready.** -/
structure Sound (s : Readiness) : Prop where
  now : s.withdrawn = true → s.moment.Withheld
  past : ∀ m ∈ s.seen, m.withdrawn = true → m.Withheld

lemma sound_noted (now : s.withdrawn = true → s.moment.Withheld)
    (past : ∀ m ∈ s.seen, m.withdrawn = true → m.Withheld) : s.noted.Sound := by
  refine ⟨now, fun m hm => ?_⟩
  rcases List.mem_append.mp hm with hm | hm
  · exact past m hm
  · rw [List.mem_singleton.mp hm]
    exact now

lemma Sound.setLiveSignal (hs : s.Sound) {live : Bool}
    (h : s.withdrawn = true → live = false) : (s.setLiveSignal live).Sound := by
  refine sound_noted (fun hw => ⟨?_, (hs.now hw).2⟩) hs.past
  show s.liveSignal.map (fun _ => live) ≠ some true
  rw [h hw]
  rcases s.liveSignal with _ | b <;> simp

lemma Sound.observeSystem (hs : s.Sound) {event : SystemEvent}
    (h : s.withdrawn = true → ∀ i, event ≠ .bookResynchronized i) :
    (s.observeSystem event).Sound := by
  refine sound_noted (fun hw => ⟨(hs.now hw).1, ?_⟩) hs.past
  have hbooks : s.metrics.validBooksBySession.books s.session = ∅ := (hs.now hw).2
  show (s.metrics.observeSystemForSession s.session event).validBooksBySession.books s.session = ∅
  unfold EngineMetrics.observeSystemForSession
  split
  · exact ValidBooks.books_remove_of_empty hbooks _
  · exact absurd rfl (h hw _)
  · exact hbooks

lemma withheld_invalidate (s : Readiness) : s.invalidate.moment.Withheld := by
  constructor
  · show s.liveSignal.map (fun _ => false) ≠ some true
    rcases s.liveSignal with _ | b <;> simp
  · exact ValidBooks.books_clearSession _ _

lemma Sound.invalidate (hs : s.Sound) : s.invalidate.Sound :=
  sound_noted (fun _ => withheld_invalidate s)
    (hs.setLiveSignal fun _ => rfl : (s.setLiveSignal false).Sound).past

lemma Sound.withdraw (hs : s.Sound) : s.withdraw.Sound :=
  sound_noted (fun _ => withheld_invalidate s) hs.invalidate.past

lemma Sound.connect (hs : s.Sound) : s.connect.Sound :=
  sound_noted (fun hw => nomatch hw) hs.past

end Readiness

/-! ## Lists of actions -/

/-- The action raises readiness: it sets the live signal or adds a valid book. -/
def SessionAction.raises : SessionAction → Bool
  | .markLive | .emitSystem (.bookResynchronized _) => true
  | _ => false

/-- The action withdraws readiness. -/
def SessionAction.withdraws : SessionAction → Bool
  | .reconnect _ | .stopSession _ => true
  | _ => false

/-- **Nothing is raised once readiness is withdrawn**, before the list or within it. -/
def StaysWithdrawn : Bool → List SessionAction → Prop
  | _, [] => True
  | withdrawn, action :: actions =>
    (withdrawn = true → action.raises = false) ∧
      StaysWithdrawn (withdrawn || action.withdraws) actions

instance decidableStaysWithdrawn : (withdrawn : Bool) → (actions : List SessionAction) →
    Decidable (StaysWithdrawn withdrawn actions)
  | _, [] => isTrue trivial
  | withdrawn, action :: actions =>
    @instDecidableAnd _ _ _ (decidableStaysWithdrawn (withdrawn || action.withdraws) actions)

namespace SessionRunner

variable {σ : Type}

lemma withdrawn_actionReadiness (action : SessionAction) (s : Readiness) :
    (actionReadiness action s).withdrawn = (s.withdrawn || action.withdraws) := by
  cases action <;> simp [actionReadiness, SessionAction.withdraws] <;> rfl

/-- One action that does not raise withdrawn readiness. -/
lemma sound_actionReadiness {s : Readiness} (hs : s.Sound) {action : SessionAction}
    (h : s.withdrawn = true → action.raises = false) : (actionReadiness action s).Sound := by
  cases action with
  | emitSystem event =>
    refine hs.observeSystem fun hw i heq => ?_
    subst heq
    exact absurd (h hw) (by simp [SessionAction.raises])
  | markLive => exact hs.setLiveSignal fun hw => absurd (h hw) (by simp [SessionAction.raises])
  | markDegraded => exact hs.setLiveSignal fun _ => rfl
  | reconnect reason | stopSession reason => exact hs.withdraw
  | _ => exact hs

variable {r : SessionRunner σ}

/-- A list of actions, wherever its loop stops. -/
lemma sound_forM_applyAction {actions : List SessionAction} (hs : r.readiness.Sound)
    (h : StaysWithdrawn r.readiness.withdrawn actions) (now : TimestampNs) (fatal : Bool) :
    (endState (actions.forM (applyAction now fatal)) r).readiness.Sound := by
  induction actions generalizing r with
  | nil => exact hs
  | cons action actions ih =>
    have hsound := sound_actionReadiness hs h.1
    show (endState (applyAction now fatal action >>= fun _ =>
      actions.forM (applyAction now fatal)) r).readiness.Sound
    refine endState_seq_induct (Q := fun r' : SessionRunner σ => r'.readiness.Sound)
      (P := fun r' => r'.readiness = actionReadiness action r.readiness)
      (readiness_applyAction now fatal action r) ?_ ?_
    · intro r' hstep
      rw [hstep]
      exact hsound
    · intro _ r' hstep
      refine ih (by rw [hstep]; exact hsound) ?_
      rw [hstep, withdrawn_actionReadiness]
      exact h.2

/-- The machine answers the input with a list that fits and raises no withdrawn readiness, or it
fails and nothing is applied. -/
def InputStays (M : SessionMachine σ) (r : SessionRunner σ) (withdrawn : Bool)
    (input : SessionInput) : Prop :=
  (M.onInput r.machine input).result.isOk → StaysWithdrawn withdrawn (kept M input r)

instance (M : SessionMachine σ) (r : SessionRunner σ) (withdrawn : Bool) (input : SessionInput) :
    Decidable (InputStays M r withdrawn input) :=
  inferInstanceAs (Decidable (_ → _))

variable {M : SessionMachine σ} {input : SessionInput}

/-- **One delivery.** -/
theorem sound_deliver (hs : r.readiness.Sound) (h : InputStays M r r.readiness.withdrawn input)
    (now : TimestampNs) (fatal : Bool) :
    (endState (deliver M input now fatal) r).readiness.Sound := by
  rw [deliver, endState_seq, run_feed]
  rcases hresult : (M.onInput r.machine input).result with e | ⟨⟩
  · exact hs
  · show (endState (noteActionBufferDrops >>= _) (fed M input r)).readiness.Sound
    refine endState_seq_induct (quiet_noteActionBufferDrops (fed M input r))
      (Q := fun r' : SessionRunner σ => r'.readiness.Sound) ?_ ?_
    · intro r' hquiet
      rw [hquiet.sameReadiness]
      exact hs
    · intro _ r' hquiet
      have hreadiness : r'.readiness = r.readiness := hquiet.sameReadiness
      have hactions : r'.actions.actions = kept M input r := by
        rw [hquiet.actions, fed_actions]
      show (endState (r'.actions.actions.forM (applyAction now fatal))
        { r' with actions := r'.actions.clear }).readiness.Sound
      rw [hactions]
      apply sound_forM_applyAction
      · rw [← hreadiness] at hs
        exact hs
      · show StaysWithdrawn r'.readiness.withdrawn _
        rw [hreadiness]
        exact h (by rw [hresult]; rfl)

lemma InputStays.congr {r' : SessionRunner σ} {withdrawn : Bool}
    (h : InputStays M r withdrawn input) (hsame : SameInput r r') :
    InputStays M r' withdrawn input := by
  unfold InputStays kept at *
  rw [hsame.machine, hsame.actions]
  exact h

/-- Steps that leave readiness alone may follow. -/
lemma sound_seq_same {α β : Type} {m : EngineM σ α} {f : α → EngineM σ β}
    (h : (endState m r).readiness.Sound) (hf : ∀ a, Keeps SameReadiness (f a)) :
    (endState (m >>= f) r).readiness.Sound := by
  refine endState_seq_induct (Q := fun r' : SessionRunner σ => r'.readiness.Sound) h (fun _ h => h) ?_
  intro a r' h
  rw [hf a r']
  exact h

/-- A delivery after steps that the machine does not notice. -/
lemma sound_then_deliver {α : Type} {m : EngineM σ α} (hm : Keeps SameInput m)
    (hs : r.readiness.Sound) (h : InputStays M r r.readiness.withdrawn input) (now : TimestampNs)
    (fatal : Bool) : (endState (m >>= fun _ => deliver M input now fatal) r).readiness.Sound := by
  refine endState_seq_induct (hm r) (Q := fun r' : SessionRunner σ => r'.readiness.Sound) ?_ ?_
  · intro r' hsame
    rw [hsame.readiness]
    exact hs
  · intro _ r' hsame
    have hstay := h.congr hsame
    rw [← hsame.readiness] at hs hstay
    exact sound_deliver hs hstay now fatal

/-! ## Runs -/

variable {S : Type}

/-- **The call raises nothing while readiness is withdrawn.** An input is judged by the machine's
answer; the two setters a caller can use are barred while readiness is withdrawn. -/
def Admissible (M : SessionMachine σ) (r : SessionRunner σ) : SessionCall S → Prop
  | .connected now => InputStays M r false (.connected now)
  | .disconnected reason now | .transportLost reason now =>
    InputStays M r r.readiness.withdrawn (.disconnected reason now)
  | .text bytes received => InputStays M r r.readiness.withdrawn (.textFrame bytes received)
  | .binary bytes received => InputStays M r r.readiness.withdrawn (.binaryFrame bytes received)
  | .pong payload received => InputStays M r r.readiness.withdrawn (.pong payload received)
  | .http requestId response received =>
    InputStays M r r.readiness.withdrawn (.httpResponse requestId response received)
  | .timer timerId now => InputStays M r r.readiness.withdrawn (.timer timerId now)
  | .control command _ => match command with
    | .resync _ | .stop => InputStays M r r.readiness.withdrawn (.control command)
    -- these are not handed to the machine as an input
    | .subscribe _ | .unsubscribe _ | .replace _ => True
  | .pushSystem event =>
    r.readiness.withdrawn = true → (SessionAction.emitSystem event).raises = false
  | .markLive _ => r.readiness.withdrawn = false
  | _ => True

instance (M : SessionMachine σ) (r : SessionRunner σ) (call : SessionCall S) :
    Decidable (Admissible M r call) := by
  cases call with
  | control command _ => cases command <;> unfold Admissible <;> infer_instance
  | _ => unfold Admissible; infer_instance

/-! ### One call -/

lemma sameInput_recordInbound (opcode : RecOpcode) (payload : Bytes) (received : FrameStamp) :
    Keeps SameInput (recordInbound opcode payload received : EngineM σ Unit) :=
  Keeps.get fun _ => sameInput_recordFrame _

/-- A connection event: the runner prepares, readiness changes, the machine hears of it. -/
lemma sound_connection {now : TimestampNs} {prepare : SessionRunner σ → SessionRunner σ}
    {change : Readiness → Readiness} {rest : Unit → EngineM σ Unit}
    (hprepare : SameInput r (prepare r)) (hs : (change r.readiness).Sound)
    (h : InputStays M r (change r.readiness).withdrawn input)
    (hrest : ∀ u, Keeps SameReadiness (rest u)) :
    (endState (modify prepare >>= fun _ => shared change >>= fun _ =>
      deliver M input now true >>= rest) r).readiness.Sound := by
  rw [endState_modify_seq]
  show (endState (deliver M input now true >>= rest)
    { prepare r with readiness := change (prepare r).readiness }).readiness.Sound
  rw [hprepare.readiness]
  have hsame : InputStays M { prepare r with readiness := change r.readiness }
      (change r.readiness).withdrawn input := by
    unfold InputStays kept at *
    rw [hprepare.machine, hprepare.actions]
    exact h
  exact sound_seq_same (sound_deliver hs hsame now true) hrest

/-- A frame that is counted, recorded and delivered. -/
lemma sound_received {g : SessionRunner σ → SessionRunner σ} (hcount : SameInput r (g r))
    (hs : r.readiness.Sound) (h : InputStays M r r.readiness.withdrawn input) (opcode : RecOpcode)
    (payload : Bytes) (received : FrameStamp) :
    (endState (modify g >>= fun _ => recordInbound opcode payload received >>= fun _ =>
      deliver M input received.receiveTs true) r).readiness.Sound := by
  rw [endState_modify_seq]
  have hstay := h.congr hcount
  rw [← hcount.readiness] at hs hstay
  exact sound_then_deliver (sameInput_recordInbound opcode payload received) hs hstay _ _

/-- A response that cannot be recorded is only counted. -/
lemma sound_httpResponse {requestId : UInt64} {response : HttpResponse} {received : FrameStamp}
    (hs : r.readiness.Sound)
    (h : InputStays M r r.readiness.withdrawn (.httpResponse requestId response received)) :
    (endState (onHttpResponse M requestId response received) r).readiness.Sound := by
  unfold onHttpResponse nextFrameSaturating
  rcases HttpPayload.encode requestId response with e | payload
  · exact hs
  · exact sound_received (g := fun r => { r with inboundFrameSeq :=
      if r.inboundFrameSeq + 1 = 0 then r.inboundFrameSeq else r.inboundFrameSeq + 1 })
      ⟨rfl, rfl, rfl⟩ hs h .httpResponse payload received

lemma sound_pushSystem (hs : r.readiness.Sound) {event : SystemEvent}
    (h : r.readiness.withdrawn = true → (SessionAction.emitSystem event).raises = false) :
    (endState (pushSystem event) r).readiness.Sound := by
  rw [pushSystem,
    readiness_shared_seq fun _ => delivers_sameReadiness.dispatchSystem event]
  have hsound : (actionReadiness (.emitSystem event) r.readiness).Sound := sound_actionReadiness hs h
  exact hsound

lemma sound_publishCatalog (hs : r.readiness.Sound) (version : UInt64)
    (instruments : List (InstrumentId × InstrumentStatus)) (now : TimestampNs) :
    (endState (publishCatalogRefresh version instruments now) r).readiness.Sound := by
  show (endState (if _ then _ else _) r).readiness.Sound
  split_ifs
  · exact sound_pushSystem hs fun _ => rfl
  · refine endState_seq_induct (delivers_sameReadiness.dispatchBatch _ r)
      (Q := fun r' : SessionRunner σ => r'.readiness.Sound) ?_ ?_
    · intro r' hsame
      rw [hsame]
      exact hs
    · intro _ r' hsame
      exact sound_pushSystem (by rw [hsame]; exact hs) fun _ => rfl

/-- **One admissible call**, returned or failed. -/
theorem sound_step (J : ControlJson) (K : EventSink S) {call : SessionCall S}
    (hs : r.readiness.Sound) (h : Admissible M r call) : (step M J K r call).readiness.Sound := by
  have hstatus : ∀ message now,
      Keeps SameReadiness (emitVenueStatus message now : EngineM σ Unit) :=
    fun message now => delivers_sameReadiness.emitVenueStatus message now
  cases call with
  | connected now =>
    exact sound_connection ⟨rfl, rfl, rfl⟩ hs.connect h fun _ => hstatus _ _
  | disconnected reason now | transportLost reason now =>
    exact sound_connection ⟨rfl, rfl, rfl⟩ hs.invalidate h fun _ => .modify fun _ => rfl
  | text bytes received =>
    exact sound_received ⟨rfl, rfl, rfl⟩ hs h .text bytes received
  | binary bytes received =>
    exact sound_received ⟨rfl, rfl, rfl⟩ hs h .binary bytes received
  | pong payload received =>
    exact sound_received ⟨rfl, rfl, rfl⟩ hs h .pong payload received
  | ping payload received | close payload received =>
    have hsame {opcode : RecOpcode} : Keeps SameReadiness (nextFrame >>= fun _ =>
        recordInbound opcode payload received : EngineM σ Unit) :=
      Keeps.seq (.modify fun _ => rfl) fun _ => .get fun _ => sameReadiness_recordFrame _
    exact (hsame r).symm ▸ hs
  | http requestId response received => exact sound_httpResponse hs h
  | timer timerId now =>
    exact sound_deliver (r := { r with timers := r.timers.erase timerId }) hs h now true
  | control command now =>
    have hsub : SameReadiness r _ :=
      keeps_subscriptionControl M (fun _ _ _ _ _ _ => rfl) J command now r
    cases command with
    | resync instrument | stop => exact sound_deliver hs h now false
    | subscribe sub | unsubscribe sub | replace subs => exact hsub ▸ hs
  | requestStop => exact hs.invalidate
  | pushSystem event => exact sound_pushSystem hs h
  | markDegraded message now =>
    exact sound_seq_same (m := shared (.setLiveSignal false))
      (r := { r with lifecycle := .degraded }) (hs.setLiveSignal fun _ => rfl) fun _ => hstatus _ _
  | markLive now =>
    exact sound_seq_same (m := shared (.setLiveSignal true)) (r := { r with lifecycle := .live })
      (hs.setLiveSignal fun hw => absurd hw (by rw [show r.readiness.withdrawn = false from h]; simp))
      fun _ => hstatus _ _
  | publishCatalog version instruments now => exact sound_publishCatalog hs version instruments now
  | drain | takeWrites | takeHttp => exact hs
  | consume sink =>
    have hsame : SameReadiness r _ := delivers_sameReadiness.consumeDispatch K sink (fun _ => rfl) r
    exact sound_seq_same (hsame ▸ hs) fun _ => .pure ()

/-! ### Every run -/

/-- **Withdrawn readiness stays withdrawn** in every run of a new runner whose calls raise nothing
while it is: at no moment between a `Reconnect` or `StopSession` action and the next connection is the
live signal true, and at none does the session contribute a valid book. -/
theorem withdrawn_stays (M : SessionMachine σ) (J : ControlJson) (K : EventSink S) (machine : σ)
    (cfg : SessionRunnerConfig) (calls : List (SessionCall S))
    (h : Guarded (step M J K) (Admissible M) (new machine cfg) calls) :
    ∀ m ∈ (run (step M J K) (new machine cfg) calls).readiness.seen, m.withdrawn = true →
      m.live ≠ some true ∧ m.books = ∅ := by
  have hnew : (new machine cfg).readiness.Sound := by
    constructor
    · intro hw
      cases hw
    · intro m hm
      cases hm
  have hsound : (run (step M J K) (new machine cfg) calls).readiness.Sound :=
    run_invariant (P := fun r : SessionRunner σ => r.readiness.Sound)
      (fun r call hs hok => sound_step J K hs hok) hnew h
  exact hsound.past

/-! ## Two symbols on one session -/

def spotConfig : SessionRunnerConfig :=
  { venue := ⟨2⟩, capacity_pos := defaultCapacity_pos, liveSignal := some false }

/-- The Binance spot session with two symbols. -/
def spotSession : BinanceSession := .new BinanceSpotSession.rules [] twoSymbols

def spotMachine : SessionMachine BinanceSession := BinanceSpotSession.machine snapshotSpotCodec

/-- The consumer that drops what it takes. -/
def nullSink : EventSink Unit := .accepting (fun s _ => s) fun s _ => s

/-- The answer to a snapshot request, as the driver hands it in. -/
def snapshotCall (requestId : UInt64) (status : UInt16) : SessionCall Unit :=
  .http requestId ⟨status, [], if status = 200 then utf8 BinanceSession.snapshotText else []⟩ ⟨⟨0⟩, 0⟩

/-- The driver flushes the two snapshot requests of a connect: the first is refused, the second is
answered. -/
def refusedThenAnswered : List (SessionCall Unit) :=
  [.connected ⟨0⟩, .takeWrites, .takeHttp, snapshotCall 1 429, snapshotCall 2 200]

/-- **A later answer raises withdrawn readiness.** The refused snapshot makes the session push
`Reconnect`; the answered one then makes it push `BookResynchronized` and `MarkLive`. -/
theorem refused_snapshot_goes_live :
    ∃ m ∈ (run (step spotMachine .silent nullSink) (new spotSession spotConfig)
        refusedThenAnswered).readiness.seen,
      m.withdrawn = true ∧ m.live = some true ∧ 2 ∈ m.books := by
  have hany : (run (step spotMachine .silent nullSink) (new spotSession spotConfig)
      refusedThenAnswered).readiness.seen.any
      (fun m => m.withdrawn ∧ m.live = some true ∧ 2 ∈ m.books) = true := by
    decide +kernel
  obtain ⟨m, hm, hmoment⟩ := List.any_eq_true.mp hany
  exact ⟨m, hm, of_decide_eq_true hmoment⟩

/-- The first snapshot is answered, the second refused; the session reconnects and loads again. -/
def reconnectsAfterRefusal : List (SessionCall Unit) :=
  [.connected ⟨0⟩, snapshotCall 1 200, snapshotCall 2 429, .transportLost .reconnectRequested ⟨0⟩,
    .connected ⟨0⟩, snapshotCall 3 200]

/-- The condition is met when nothing is answered between the withdrawal and the next connection. -/
theorem withdrawn_stays_reconnectsAfterRefusal :
    (run (step spotMachine .silent nullSink) (new spotSession spotConfig)
      reconnectsAfterRefusal).readiness.seen.any (·.withdrawn) = true ∧
      ∀ m ∈ (run (step spotMachine .silent nullSink) (new spotSession spotConfig)
          reconnectsAfterRefusal).readiness.seen, m.withdrawn = true →
        m.live ≠ some true ∧ m.books = ∅ := by
  refine ⟨by decide +kernel, ?_⟩
  exact withdrawn_stays spotMachine .silent nullSink spotSession spotConfig
    reconnectsAfterRefusal (by decide +kernel)

end SessionRunner

end Marketfeed
