import Marketfeed.Engine.Control
import Marketfeed.Engine.Room

/-!
# Patches that fail

A subscription patch that fails should leave the control plane as it was. The patches of one session
do. A pause and a resume change the paused venues first and then go through the sessions of the venue,
each of which may fail; a pause also sets a session's lifecycle before it reports it.
-/

namespace Marketfeed

/-- The part of a list up to the first element that fails, which is included. -/
def reached {α : Type} (p : α → Bool) : List α → List α
  | [] => []
  | x :: xs => x :: if p x then reached p xs else []

lemma reached_congr {α : Type} {p q : α → Bool} {xs : List α} (h : ∀ x ∈ xs, p x = q x) :
    reached p xs = reached q xs := by
  induction xs with
  | nil => rfl
  | cons x xs ih =>
    rw [reached, reached, h x List.mem_cons_self,
      ih fun y hy => h y (List.mem_cons_of_mem x hy)]

namespace EngineSupervisor

variable {σ : Type}

/-- The lifecycle of a session. -/
def lifecycleOf (s : EngineSupervisor σ) (session : SessionId) : Option SessionLifecycle :=
  s.sessions[session]?.map (·.runner.lifecycle)

/-- **The control-plane state.** -/
structure ControlState where
  planVersion : UInt64
  desiredSymbols : SessionMap (List String)
  pausedVenues : Finset VenueId
  lifecycles : SessionId → Option SessionLifecycle

def controlState (s : EngineSupervisor σ) : ControlState :=
  ⟨s.planVersion, s.desiredSymbols, s.pausedVenues, s.lifecycleOf⟩

/-- The control-plane state is the same. -/
abbrev SameControl : EngineSupervisor σ → EngineSupervisor σ → Prop := SameOn controlState

/-! ## A call on one session -/

section Call

variable {s : EngineSupervisor σ} {session : SessionId} {owned : OwnedSession σ}
  {call : SessionMachine σ → EngineM σ Unit}

lemma run_onSession (h : s.sessions[session]? = some owned) :
    (onSession session call).run s = match (call owned.machine).run owned.runner with
      | .ok _ _ => .ok () (s.called session owned call)
      | .error e _ => .error (.ofEngine e) (s.called session owned call) := by
  rw [onSession, run_get_seq, h]
  show (set _ >>= fun _ => _ : ControlM σ Unit).run s = _
  rcases (call owned.machine).run owned.runner with ⟨⟨⟩, r⟩ | ⟨e, r⟩ <;> rfl

lemma endState_onSession (h : s.sessions[session]? = some owned) :
    endState (onSession session call) s = s.called session owned call := by
  rw [endState, run_onSession h]
  rcases (call owned.machine).run owned.runner with ⟨⟨⟩, r⟩ | ⟨e, r⟩ <;> rfl

lemma endState_onSession_none (h : s.sessions[session]? = none) :
    endState (onSession session call) s = s := by
  rw [onSession, endState_get_seq, h]
  rfl

variable (s session owned call) in
lemma getElem?_called (other : SessionId) :
    (s.called session owned call).sessions[other]? =
      if session = other then
        some ⟨owned.machine, endState (call owned.machine) owned.runner⟩
      else s.sessions[other]? :=
  getElem?_insert_key s.sessions other session _

/-- The lifecycles after a call. -/
lemma lifecycleOf_called (other : SessionId) :
    (s.called session owned call).lifecycleOf other =
      if session = other then some (endState (call owned.machine) owned.runner).lifecycle
      else s.lifecycleOf other := by
  rw [lifecycleOf, getElem?_called]
  split_ifs <;> rfl

/-- What a call on a session does is a matter of the sessions that are there. -/
lemma keeps_onSession {R : EngineSupervisor σ → EngineSupervisor σ → Prop} [Std.Refl R]
    (h : ∀ s owned, s.sessions[session]? = some owned → R s (s.called session owned call)) :
    Keeps R (onSession session call) := by
  intro s
  rcases howned : s.sessions[session]? with _ | owned
  · rw [endState_onSession_none howned]
    exact refl_of R s
  · rw [endState_onSession howned]
    exact h s owned howned

/-- A routine call leaves the control plane alone. -/
lemma sameControl_onSession (h : ∀ M, Keeps SessionRunner.Routine (call M)) :
    Keeps SameControl (onSession session call) := by
  refine keeps_onSession fun s owned howned => ?_
  have hlifecycles : (s.called session owned call).lifecycleOf = s.lifecycleOf := by
    funext other
    rw [lifecycleOf_called]
    split_ifs with heq
    · subst heq
      rw [(h owned.machine owned.runner).lifecycle, lifecycleOf, howned]
      rfl
    · rfl
  show ControlState.mk _ _ _ _ = ControlState.mk _ _ _ _
  rw [hlifecycles]
  rfl

/-- It may fail, and then nothing of the plan has changed. -/
lemma ends_onSession (h : ∀ M, Keeps SessionRunner.Routine (call M))
    (howned : s.sessions[session]? = some owned) :
    Ends (onSession session call) s (fun _ s' => s' = s.called session owned call)
      fun _ s' => SameControl s s' := by
  have hsame : SameControl s (s.called session owned call) := by
    rw [← endState_onSession howned]
    exact sameControl_onSession h s
  rw [Ends, run_onSession howned]
  rcases (call owned.machine).run owned.runner with ⟨⟨⟩, r⟩ | ⟨e, r⟩
  · rfl
  · exact hsame

end Call

/-! ## Loops over sessions -/

/-- The call on a session returns. -/
def takes (s : EngineSupervisor σ) (call : SessionId → SessionMachine σ → EngineM σ Unit)
    (session : SessionId) : Bool :=
  match s.sessions[session]? with
  | none => false
  | some owned => completes (call session owned.machine) owned.runner

section Loop

variable {call : SessionId → SessionMachine σ → EngineM σ Unit}

variable {s : EngineSupervisor σ} {session : SessionId}

/-- A call on one session decides nothing about the others. -/
lemma takes_called {other : SessionId} (h : session ≠ other) (owned : OwnedSession σ)
    (f : SessionMachine σ → EngineM σ Unit) :
    (s.called session owned f).takes call other = s.takes call other := by
  rw [takes, takes, getElem?_called, if_neg h]

/-- How a call on one session ends. -/
lemma run_onSession_of_takes (h : s.takes call session = true) :
    ∃ owned, s.sessions[session]? = some owned ∧
      (onSession session (call session)).run s = .ok () (s.called session owned (call session)) := by
  rcases howned : s.sessions[session]? with _ | owned
  · rw [takes, howned] at h
    cases h
  · refine ⟨owned, rfl, ?_⟩
    rw [takes, howned] at h
    rw [run_onSession howned, run_of_completes h]

lemma run_onSession_of_not_takes (h : ¬ s.takes call session = true) :
    ∃ e, (onSession session (call session)).run s =
      .error e (endState (onSession session (call session)) s) := by
  rcases howned : s.sessions[session]? with _ | owned
  · rw [endState_onSession_none howned, onSession, run_get_seq, howned]
    exact ⟨_, rfl⟩
  · rw [takes, howned] at h
    rw [endState_onSession howned, run_onSession howned]
    rcases hrun : (call session owned.machine).run owned.runner with ⟨⟨⟩, r⟩ | ⟨e, r⟩
    · exact absurd (completes_of_ok hrun) h
    · exact ⟨_, rfl⟩

/-- **A loop over distinct sessions gets to the first that fails.** -/
theorem attempted_loop (call : SessionId → SessionMachine σ → EngineM σ Unit)
    {sessions : List SessionId} (hnodup : sessions.Nodup) (s : EngineSupervisor σ) :
    attempted (fun session => onSession session (call session)) sessions s =
      reached (s.takes call) sessions := by
  induction sessions generalizing s with
  | nil => rfl
  | cons session sessions ih =>
    obtain ⟨hfresh, hnodup⟩ := List.nodup_cons.mp hnodup
    rw [attempted, reached]
    refine congrArg (session :: ·) ?_
    by_cases htakes : s.takes call session = true
    · obtain ⟨owned, -, hrun⟩ := run_onSession_of_takes htakes
      rw [hrun, if_pos htakes]
      refine (ih hnodup _).trans ?_
      refine reached_congr fun other hother => ?_
      have hne : session ≠ other := fun heq => hfresh (heq ▸ hother)
      exact takes_called hne owned (call session)
    · obtain ⟨e, hrun⟩ := run_onSession_of_not_takes htakes
      rw [hrun, if_neg htakes]

/-- **It returns iff no session fails.** -/
theorem completes_loop (call : SessionId → SessionMachine σ → EngineM σ Unit)
    {sessions : List SessionId} (hnodup : sessions.Nodup) (s : EngineSupervisor σ) :
    completes (sessions.forM fun session => onSession session (call session)) s = true ↔
      ∀ session ∈ sessions, s.takes call session = true := by
  induction sessions generalizing s with
  | nil => exact iff_of_true rfl (fun _ h => absurd h List.not_mem_nil)
  | cons session sessions ih =>
    obtain ⟨hfresh, hnodup⟩ := List.nodup_cons.mp hnodup
    rw [List.forall_mem_cons]
    show completes (onSession session (call session) >>= fun _ => _) s = true ↔ _
    by_cases htakes : s.takes call session = true
    · obtain ⟨owned, -, hrun⟩ := run_onSession_of_takes htakes
      rw [completes_seq_of_ok hrun, and_iff_right htakes]
      refine (ih hnodup _).trans (forall₂_congr fun other hother => ?_)
      have hne : session ≠ other := fun heq => hfresh (heq ▸ hother)
      rw [takes_called hne]
    · obtain ⟨e, hrun⟩ := run_onSession_of_not_takes htakes
      rw [completes_seq_of_error hrun]
      exact iff_of_false Bool.false_ne_true fun h => htakes h.1

end Loop

/-! ## One session -/

variable {s : EngineSupervisor σ}

/-- A best-effort push on a session that exists cannot fail. -/
lemma ends_bestEffort {session : SessionId} (h : s.sessions[session]?.isSome)
    (event : SystemEvent) {E : ControlError → EngineSupervisor σ → Prop} :
    Ends (onSession session fun _ => pushSystemBestEffort event) s (fun _ _ => True) E := by
  have htakes : s.takes (fun _ _ => pushSystemBestEffort event) session = true := by
    obtain ⟨owned, howned⟩ := Option.isSome_iff_exists.mp h
    rw [takes, howned]
    exact completes_attempt _ _
  obtain ⟨_, -, hrun⟩ := run_onSession_of_takes htakes
  exact Ends.of_ok hrun trivial

variable (J : ControlJson)

/-- **A patch of one session that fails leaves the control plane alone.** -/
theorem patchSession_atomic (session : SessionId) (now : TimestampNs) (command : SessionCommand)
    (hcommand : ∀ M : SessionMachine σ,
      Keeps SessionRunner.Routine (SessionRunner.deliverControl M J command now))
    (desired : List String) (s : EngineSupervisor σ) :
    Ends (patchSession J session now command desired) s (fun _ _ => True)
      fun _ s' => SameControl s s' := by
  refine Ends.get ?_
  rcases howned : s.sessions[session]? with _ | owned
  · exact refl_of SameControl s
  · dsimp only
    split_ifs
    · exact refl_of SameControl s
    · refine (ends_onSession hcommand howned).seq ?_
      rintro ⟨⟩ _ rfl
      -- The report is best effort, and the session is there.
      refine Ends.modify (ends_bestEffort ?_ _)
      dsimp only
      rw [getElem?_called, if_pos rfl]
      rfl

/-! ## All sessions of a venue -/

/-- The sessions' runners are wired. -/
def Wired (s : EngineSupervisor σ) : Prop :=
  ∀ (session : SessionId) (owned : OwnedSession σ), s.sessions[session]? = some owned → owned.runner.Wired

/-- **A session can be paused**: its status batch and its system event can be delivered. -/
def TakesPause (s : EngineSupervisor σ) (session : SessionId) : Prop :=
  match s.sessions[session]? with
  | none => False
  | some owned => owned.runner.TakesBatch ∧ owned.runner.TakesSystem

instance (s : EngineSupervisor σ) : DecidablePred s.TakesPause := by
  intro session
  unfold TakesPause
  split <;> infer_instance

/-- **A session can be resumed**: its symbols can be subscribed again and its system event can be
delivered. -/
def TakesResume (now : TimestampNs) (s : EngineSupervisor σ) (session : SessionId) : Prop :=
  match s.sessions[session]? with
  | none => False
  | some owned =>
    (s.desired session = [] ∨
      SessionRunner.TakesCommand owned.machine J (.subscribe (s.desired session)) now
        owned.runner) ∧
    owned.runner.TakesSystem

lemma completes_pauseSession {r : SessionRunner σ} (hw : r.Wired) (now : TimestampNs) :
    completes (pauseSession now) r = true ↔ r.TakesBatch ∧ r.TakesSystem :=
  SessionRunner.completes_status_seq
    (r := { r with lifecycle := .degraded, readiness := r.readiness.setLiveSignal false })
    ⟨hw.batches, hw.systems⟩ "venue paused" now (.subscriptionStateChanged "paused")

lemma takes_pause_iff (hw : s.Wired) (now : TimestampNs) (session : SessionId) :
    s.takes (fun _ _ => pauseSession now) session = true ↔ s.TakesPause session := by
  rw [takes, TakesPause]
  rcases howned : s.sessions[session]? with _ | owned
  · exact iff_of_false Bool.false_ne_true id
  · exact completes_pauseSession (hw session owned howned) now

lemma completes_resumeSession {r : SessionRunner σ} (hw : r.Wired) (M : SessionMachine σ)
    (J : ControlJson) (symbols : List String) (now : TimestampNs) :
    completes (resumeSession J symbols now M) r = true ↔
      (symbols = [] ∨ SessionRunner.TakesCommand M J (.subscribe symbols) now r) ∧
        r.TakesSystem := by
  rw [resumeSession, resubscribe]
  rcases symbols with _ | ⟨symbol, symbols⟩
  · exact (SessionRunner.completes_pushSystem hw _).trans (and_iff_right (.inl rfl)).symm
  · rw [or_iff_right (List.cons_ne_nil symbol symbols),
      ← SessionRunner.completes_subscriptionControl_iff]
    show completes (SessionRunner.deliverSubscriptionControl M J (.subscribe (symbol :: symbols)) now
      >>= fun _ => _) r = true ↔ _
    rcases hrun : (SessionRunner.deliverSubscriptionControl M J (.subscribe (symbol :: symbols))
        now).run r with ⟨⟨⟩, r'⟩ | ⟨e, r'⟩
    · have hlanes := (SessionRunner.keeps_subscriptionControl (R := SessionRunner.SameLanes) M
        (fun _ _ _ _ _ _ => ⟨rfl, rfl, rfl⟩) J _ now).of_ok hrun
      rw [completes_seq_of_ok hrun, completes_of_ok hrun, and_iff_right rfl,
        SessionRunner.completes_pushSystem (hlanes.wired hw), hlanes.takesSystem]
    · rw [completes_seq_of_error hrun, completes, hrun]
      exact iff_of_false Bool.false_ne_true fun h => Bool.false_ne_true h.1

lemma takes_resume_iff (hw : s.Wired) (J : ControlJson) (now : TimestampNs)
    (session : SessionId) :
    s.takes (fun session => resumeSession J (s.desired session) now) session = true ↔
      s.TakesResume J now session := by
  rw [takes, TakesResume]
  rcases howned : s.sessions[session]? with _ | owned
  · exact iff_of_false Bool.false_ne_true id
  · exact completes_resumeSession (hw session owned howned) owned.machine J _ now

lemma nodup_sessionOrder (s : EngineSupervisor σ) (order : List SessionId) (venue : VenueId) :
    (s.sessionOrder order venue).Nodup := by
  have hkeys : (s.sessionsOf venue).Nodup := nodup_keys_filter _ _
  rw [sessionOrder]
  split_ifs with horder
  · exact horder.nodup_iff.mpr hkeys
  · exact hkeys

/-- A session of the venue exists. -/
lemma isSome_of_mem_sessionOrder {order : List SessionId} {venue : VenueId}
    {session : SessionId} (h : session ∈ s.sessionOrder order venue) :
    (s.lifecycleOf session).isSome := by
  have hmem : session ∈ s.sessionsOf venue := by
    rw [sessionOrder] at h
    split_ifs at h with horder
    · exact horder.mem_iff.mp h
    · exact h
  obtain ⟨owned, howned, -⟩ := mem_keys_filter.mp hmem
  rw [lifecycleOf, howned]
  rfl

/-- A pause leaves a session degraded, whether it goes through or not. -/
lemma lifecycle_pauseSession (now : TimestampNs) (r : SessionRunner σ) :
    (endState (pauseSession now) r).lifecycle = .degraded := by
  have hroutine := Keeps.seq (R := SessionRunner.Routine)
    (SessionRunner.delivers_routine.emitVenueStatus "venue paused" now)
    (fun _ => SessionRunner.routine_pushSystem (.subscriptionStateChanged "paused"))
    { r with lifecycle := .degraded, readiness := r.readiness.setLiveSignal false }
  exact hroutine.lifecycle

/-- What a pause of a session does. -/
def degrade (c : ControlState) (session : SessionId) : ControlState :=
  { c with
    lifecycles := fun other =>
      if session = other then (c.lifecycles other).map fun _ => .degraded else c.lifecycles other }

lemma controlState_pause (now : TimestampNs) (session : SessionId) (s : EngineSupervisor σ) :
    (endState (onSession session fun _ => pauseSession now) s).controlState =
      degrade s.controlState session := by
  rcases howned : s.sessions[session]? with _ | owned
  · rw [endState_onSession_none howned]
    refine congrArg (ControlState.mk _ _ _) (funext fun other => ?_)
    show _ = if session = other then (s.lifecycleOf other).map fun _ => .degraded else s.lifecycleOf other
    grind [lifecycleOf]
  · rw [endState_onSession howned]
    refine congrArg (ControlState.mk _ _ _) (funext fun other => ?_)
    show _ = if session = other then (s.lifecycleOf other).map fun _ => .degraded else s.lifecycleOf other
    grind [lifecycleOf, lifecycleOf_called, lifecycle_pauseSession]

lemma foldl_degrade (sessions : List SessionId) (c : ControlState) :
    sessions.foldl degrade c = { c with
      lifecycles := fun other =>
        if other ∈ sessions then (c.lifecycles other).map fun _ => .degraded
        else c.lifecycles other } := by
  induction sessions generalizing c with
  | nil => rfl
  | cons session sessions ih =>
    rw [List.foldl_cons, ih]
    refine congrArg (ControlState.mk _ _ _) (funext fun other => ?_)
    rcases hlifecycle : c.lifecycles other with _ | lifecycle <;> grind [degrade]

/-- The loop of a pause. -/
def pauseLoop (now : TimestampNs) (sessions : List SessionId) : ControlM σ Unit :=
  sessions.forM fun session => onSession session fun _ => pauseSession now

/-- **What a pause that fails leaves behind**: it has reached the first session that cannot take it. -/
theorem controlState_pauseLoop (hw : s.Wired) (now : TimestampNs) {sessions : List SessionId}
    (hnodup : sessions.Nodup) :
    (endState (pauseLoop now sessions) s).controlState = { s.controlState with
      lifecycles := fun other =>
        if other ∈ reached (fun session => decide (s.TakesPause session)) sessions then
          (s.lifecycleOf other).map fun _ => .degraded
        else s.lifecycleOf other } := by
  have hreached : reached (s.takes fun _ _ => pauseSession now) sessions =
      reached (fun session => decide (s.TakesPause session)) sessions :=
    reached_congr fun session _ => by
      rw [Bool.eq_iff_iff, takes_pause_iff hw, decide_eq_true_iff]
  rw [pauseLoop, endState_forM controlState (controlState_pause now),
    attempted_loop (fun _ _ => pauseSession now) hnodup, hreached, foldl_degrade]
  rfl

/-- **The condition** on the supervisor before the patch. -/
def PatchSafe (order : List SessionId) (now : TimestampNs) (s : EngineSupervisor σ) :
    SubscriptionPatch → Prop
  | .add _ _ | .remove _ _ | .replace _ _ => True
  | .pauseVenue venue =>
    (∀ session ∈ s.sessionOrder order venue, s.TakesPause session) ∨
      venue ∈ s.pausedVenues ∧
        ∀ session ∈ reached (fun session => decide (s.TakesPause session))
            (s.sessionOrder order venue),
          s.lifecycleOf session = some .degraded
  | .resumeVenue venue =>
    (∀ session ∈ s.sessionOrder order venue, s.TakesResume J now session) ∨
      venue ∉ s.pausedVenues

/-- A failure shows iff the computation does not return. -/
lemma atomic_iff {α : Type} {m : ControlM σ α} :
    (∀ e s', m.run s = .error e s' → SameControl s s') ↔
      (completes m s = true ∨ SameControl s (endState m s)) := by
  unfold completes endState
  rcases m.run s with ⟨a, s'⟩ | ⟨e, s'⟩
  · exact iff_of_true (fun _ _ h => nomatch h) (.inl rfl)
  · rw [or_iff_right Bool.false_ne_true]
    refine ⟨fun h => h e s' rfl, ?_⟩
    rintro h _ _ ⟨⟩
    exact h

lemma subset_of_mem_reached {α : Type} {p : α → Bool} {xs : List α} {x : α}
    (h : x ∈ reached p xs) : x ∈ xs := by
  induction xs with
  | nil => exact h
  | cons y xs ih =>
    rw [reached, List.mem_cons] at h
    rcases h with rfl | h
    · exact List.mem_cons_self
    · split_ifs at h
      · exact List.mem_cons_of_mem y (ih h)
      · exact absurd h List.not_mem_nil

lemma pause_atomic_iff (hw : s.Wired) (J : ControlJson) (order : List SessionId)
    (now : TimestampNs) (venue : VenueId) :
    (∀ e s', (applyPatch J order now (.pauseVenue venue)).run s = .error e s' → SameControl s s') ↔
      PatchSafe J order now s (.pauseVenue venue) := by
  have hnodup := nodup_sessionOrder s order venue
  have hwired : Wired { s with pausedVenues := insert venue s.pausedVenues } := hw
  have hcompletes : completes (applyPatch J order now (.pauseVenue venue)) s = true ↔
      ∀ session ∈ s.sessionOrder order venue, s.TakesPause session := by
    refine (completes_loop (fun _ _ => pauseSession now) hnodup
      { s with pausedVenues := insert venue s.pausedVenues }).trans ?_
    exact forall₂_congr fun session _ => takes_pause_iff hwired now session
  have hend : (endState (applyPatch J order now (.pauseVenue venue)) s).controlState =
      ⟨s.planVersion, s.desiredSymbols, insert venue s.pausedVenues, fun other =>
        if other ∈ reached (fun session => decide (s.TakesPause session))
            (s.sessionOrder order venue) then
          (s.lifecycleOf other).map fun _ => .degraded
        else s.lifecycleOf other⟩ := controlState_pauseLoop hwired now hnodup
  rw [atomic_iff, hcompletes, PatchSafe, SameControl, SameOn, hend, controlState,
    ControlState.mk.injEq, funext_iff, and_iff_right rfl, and_iff_right rfl]
  refine or_congr_right (and_congr Finset.insert_eq_self (forall_congr' fun session => ?_))
  split_ifs with hmem
  · obtain ⟨lifecycle, hlifecycle⟩ := Option.isSome_iff_exists.mp
      (isSome_of_mem_sessionOrder (subset_of_mem_reached hmem))
    rw [hlifecycle, forall_prop_of_true hmem]
    exact eq_comm
  · exact iff_of_true rfl fun h => absurd h hmem

lemma routine_resumeSession (symbols : List String) (now : TimestampNs) (M : SessionMachine σ) :
    Keeps SessionRunner.Routine (resumeSession J symbols now M) := by
  refine Keeps.seq ?_ fun _ => SessionRunner.routine_pushSystem _
  rw [resubscribe]
  split_ifs
  · exact .pure ()
  · exact SessionRunner.routine_subscriptionControl M J _ now

/-- The loop of a resume. -/
def resumeLoop (now : TimestampNs) (desired : SessionId → List String) (sessions : List SessionId) :
    ControlM σ Unit :=
  sessions.forM fun session => onSession session (resumeSession J (desired session) now)

lemma forM_resume (now : TimestampNs) (desired : SessionId → List String)
    (sessions : List SessionId) :
    ((sessions.map fun session => (session, desired session)).forM fun entry =>
      onSession entry.1 (resumeSession J entry.2 now) : ControlM σ Unit) =
        resumeLoop J now desired sessions := by
  induction sessions with
  | nil => rfl
  | cons session sessions ih =>
    rw [resumeLoop] at ih ⊢
    show (onSession session (resumeSession J (desired session) now) >>= fun _ => _ :
      ControlM σ Unit) = onSession session (resumeSession J (desired session) now) >>= fun _ => _
    rw [ih]

lemma run_resume (order : List SessionId) (now : TimestampNs) (venue : VenueId)
    (s : EngineSupervisor σ) :
    (applyPatch J order now (.resumeVenue venue)).run s =
      (resumeLoop J now s.desired (s.sessionOrder order venue)).run
        { s with pausedVenues := s.pausedVenues.erase venue } := by
  rw [← forM_resume]
  rfl

lemma resume_atomic_iff (hw : s.Wired) (J : ControlJson) (order : List SessionId)
    (now : TimestampNs) (venue : VenueId) :
    (∀ e s', (applyPatch J order now (.resumeVenue venue)).run s = .error e s' →
      SameControl s s') ↔ PatchSafe J order now s (.resumeVenue venue) := by
  have hnodup := nodup_sessionOrder s order venue
  have hwired : Wired { s with pausedVenues := s.pausedVenues.erase venue } := hw
  have hcompletes : completes (applyPatch J order now (.resumeVenue venue)) s = true ↔
      ∀ session ∈ s.sessionOrder order venue, s.TakesResume J now session := by
    rw [completes, run_resume, ← completes]
    refine (completes_loop (fun session => resumeSession J (s.desired session) now) hnodup _).trans ?_
    exact forall₂_congr fun session _ => takes_resume_iff hwired J now session
  have hsame : SameControl { s with pausedVenues := s.pausedVenues.erase venue }
      (endState (applyPatch J order now (.resumeVenue venue)) s) := by
    rw [endState, run_resume, ← endState]
    exact Keeps.forM (fun session _ =>
      sameControl_onSession fun M => routine_resumeSession J _ now M) _
  rw [atomic_iff, hcompletes, PatchSafe]
  refine or_congr_right ?_
  -- A resume leaves everything but the paused venues alone.
  rw [SameControl, SameOn, hsame]
  show ControlState.mk s.planVersion s.desiredSymbols (s.pausedVenues.erase venue) s.lifecycleOf =
    ControlState.mk s.planVersion s.desiredSymbols s.pausedVenues s.lifecycleOf ↔ _
  simp only [ControlState.mk.injEq, and_true, true_and]
  exact Finset.erase_eq_self

/-- The patches of one session are atomic. -/
lemma applyPatch_atomic_iff (hw : s.Wired) (J : ControlJson) (order : List SessionId)
    (now : TimestampNs) (patch : SubscriptionPatch) :
    (∀ e s', (applyPatch J order now patch).run s = .error e s' → SameControl s s') ↔
      PatchSafe J order now s patch := by
  have hone : ∀ m : ControlM σ Unit, Ends m s (fun _ _ => True) (fun _ s' => SameControl s s') →
      ((∀ e s', m.run s = .error e s' → SameControl s s') ↔ True) := by
    intro m hm
    refine iff_of_true (fun e s' hrun => ?_) trivial
    rw [Ends, hrun] at hm
    exact hm
  cases patch with
  | add session symbols =>
    refine hone _ (.get (patchSession_atomic J session now (.subscribe symbols) ?_ _ s))
    exact fun M => SessionRunner.routine_subscriptionControl M J _ now
  | remove session symbols =>
    refine hone _ (.get (patchSession_atomic J session now (.unsubscribe symbols) ?_ _ s))
    exact fun M => SessionRunner.routine_subscriptionControl M J _ now
  | replace session symbols =>
    refine hone _ (patchSession_atomic J session now (.replace symbols) ?_ _ s)
    exact fun M => SessionRunner.routine_subscriptionControl M J _ now
  | pauseVenue venue => exact pause_atomic_iff hw J order now venue
  | resumeVenue venue => exact resume_atomic_iff hw J order now venue

/-- **When a failed patch leaves the control plane alone.** The engine is not running; or the patch is
one of a single session; or it is a pause that every session can take, or one of a venue already
paused that reaches only degraded sessions; or it is a resume that every session can take, or one of a
venue that is not paused. -/
theorem applySubscriptions_atomic_iff (J : ControlJson) (order : List SessionId)
    (patch : SubscriptionPatch) (now : TimestampNs) {s : EngineSupervisor σ} (hw : s.Wired) :
    (∀ e s', (applySubscriptions J order patch now).run s = .error e s' →
      s'.controlState = s.controlState) ↔
      s.lifecycle ≠ .running ∨ PatchSafe J order now s patch := by
  by_cases hrunning : s.lifecycle = .running
  · have hensure : (ensureRunning : ControlM σ Unit).run s = .ok () s := by
      rw [ensureRunning, run_get_seq, if_neg (not_not.mpr hrunning)]
      rfl
    rw [or_iff_right (not_not.mpr hrunning), ← applyPatch_atomic_iff hw, applySubscriptions,
      run_seq_of_ok hensure]
    -- The plan is bumped last, and that cannot fail.
    refine forall₂_congr fun e s' => imp_congr_left ?_
    rcases hpatch : (applyPatch J order now patch).run s with ⟨⟨⟩, s₁⟩ | ⟨e₁, s₁⟩
    · rw [run_seq_of_ok hpatch]
      exact iff_of_false nofun nofun
    · rw [run_seq_of_error hpatch]
      exact ⟨fun h => by cases h; rfl, fun h => by cases h; rfl⟩
  · refine iff_of_true ?_ (.inl hrunning)
    intro e s' hrun
    have hensure : (ensureRunning : ControlM σ Unit).run s = .error .stopped s := by
      rw [ensureRunning, run_get_seq, if_pos hrunning]
      rfl
    rw [applySubscriptions, run_seq_of_error hensure] at hrun
    cases hrun
    rfl

/-! ## A session with full lanes -/

/-- A session that answers nothing. -/
def silentMachine : SessionMachine Unit where
  onInput _ _ := ⟨(), [], .ok ()⟩

def narrowConfig : SessionRunnerConfig :=
  { venue := ⟨1⟩, dispatchCapacity := 1, capacity_pos := Nat.one_pos, record := false,
    mirrorCapacity := 1 }

/-- Connected, with one batch and one system event in lanes of capacity one. -/
def fullRunner : SessionRunner Unit :=
  endState (do
    SessionRunner.onConnected silentMachine ⟨0⟩
    SessionRunner.pushSystem .heartbeatMissed) (.new () narrowConfig)

/-- A running engine with one session. -/
def oneSession (runner : SessionRunner Unit) (pausedVenues : Finset VenueId) :
    EngineSupervisor Unit where
  lifecycle := .running
  sessions := (∅ : SessionMap (OwnedSession Unit)).insert ⟨1⟩ ⟨silentMachine, runner⟩
  planVersion := 7
  desiredSymbols := ∅
  pausedVenues := pausedVenues
  rolling := ∅

lemma wired_oneSession {runner : SessionRunner Unit} (h : runner.Wired)
    (pausedVenues : Finset VenueId) : (oneSession runner pausedVenues).Wired := by
  intro session owned howned
  rw [oneSession, getElem?_insert_key] at howned
  split_ifs at howned
  · cases howned
    exact h
  · simp at howned

def pauseFull : ControlM Unit UInt64 := applySubscriptions .silent [] (.pauseVenue ⟨1⟩) ⟨5⟩

def resumeFull : ControlM Unit UInt64 := applySubscriptions .silent [] (.resumeVenue ⟨1⟩) ⟨5⟩

/-- **Failed patches that are half done.** A pause fails because the session's lane is full, with the
venue paused and the session degraded; a resume fails for the same reason, with the venue resumed. -/
theorem failed_patches_half_done :
    completes pauseFull (oneSession fullRunner ∅) = false ∧
    (oneSession fullRunner ∅).pausedVenues = ∅ ∧
    (endState pauseFull (oneSession fullRunner ∅)).pausedVenues = {⟨1⟩} ∧
    (oneSession fullRunner ∅).lifecycleOf ⟨1⟩ = some .connected ∧
    (endState pauseFull (oneSession fullRunner ∅)).lifecycleOf ⟨1⟩ = some .degraded ∧
    completes resumeFull (oneSession fullRunner {⟨1⟩}) = false ∧
    (oneSession fullRunner {⟨1⟩}).pausedVenues = {⟨1⟩} ∧
    (endState resumeFull (oneSession fullRunner {⟨1⟩})).pausedVenues = ∅ := by
  decide +kernel

/-- The session after the failed pause. -/
def degradedRunner : SessionRunner Unit := endState (pauseSession ⟨5⟩) fullRunner

/-- The condition is met when the pause is tried again: it fails again and changes nothing. -/
theorem applySubscriptions_atomic_iff_again :
    completes pauseFull (oneSession degradedRunner {⟨1⟩}) = false ∧
      ∀ e s', pauseFull.run (oneSession degradedRunner {⟨1⟩}) = .error e s' →
        s'.controlState = (oneSession degradedRunner {⟨1⟩}).controlState := by
  have hwired : (oneSession degradedRunner {⟨1⟩}).Wired :=
    wired_oneSession ⟨by decide +kernel, by decide +kernel⟩ _
  refine ⟨by decide +kernel, ?_⟩
  refine (applySubscriptions_atomic_iff .silent [] (.pauseVenue ⟨1⟩) ⟨5⟩ hwired).mpr (.inr ?_)
  exact .inr ⟨by decide +kernel, by decide +kernel⟩

end EngineSupervisor

end Marketfeed
