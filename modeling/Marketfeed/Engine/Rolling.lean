import Marketfeed.Engine.Patches

/-!
# Rolling replacements

A session is replaced while it runs: a new session is inserted next to the old one and the pair is
tracked; once the new session is live the replacement is completed and the old session is removed.
A tracked pair can only be completed while both its sessions are there.

The new session of a pair may itself be replaced. When that second replacement is completed first, the
session it removes is one the first pair still names, and the first pair can never be completed.
-/

namespace Marketfeed.EngineSupervisor

variable {σ : Type}

/-! ## The roster -/

/-- The sessions that are there, and the pairs that are tracked. -/
structure Roster where
  present : SessionId → Bool
  rolling : SessionMap RollingReplace

def roster (s : EngineSupervisor σ) : Roster := ⟨fun session => s.sessions[session]?.isSome, s.rolling⟩

namespace Roster

/-- A session joins. -/
def join (session : SessionId) (r : Roster) : Roster :=
  { r with present := fun other => if session = other then true else r.present other }

/-- A session leaves. -/
def leave (session : SessionId) (r : Roster) : Roster :=
  { r with present := fun other => if session = other then false else r.present other }

/-- A pair is tracked from now on. -/
def track (pair : RollingReplace) (r : Roster) : Roster :=
  { r with rolling := r.rolling.insert pair.new pair }

/-- A pair is no longer tracked. -/
def untrack (pair : RollingReplace) (r : Roster) : Roster :=
  { r with rolling := r.rolling.erase pair.new }

/-- The pair is tracked. -/
def Tracks (r : Roster) (pair : RollingReplace) : Prop := r.rolling[pair.new]? = some pair

/-- **A replacement is completed**: the pair is forgotten and its old session leaves. -/
def complete (pair : RollingReplace) (r : Roster) : Roster := (r.untrack pair).leave pair.old

/-- **What every call but a completion can do to the roster.** -/
inductive Grow (r : Roster) : Roster → Prop
  | stay : Grow r r
  | insert (session : SessionId) : Grow r (r.join session)
  | begin (pair : RollingReplace) (hne : pair.new ≠ pair.old) (hold : r.present pair.old = true)
      (hfree : ∀ other, r.Tracks other → other.old ≠ pair.old) :
      Grow r ((r.join pair.new).track pair)

/-- **The pairs fit together**: each is kept under its new session, which is not its old one, and no
session is the old side of two pairs. -/
structure Paired (r : Roster) : Prop where
  key : ∀ {session : SessionId} {pair : RollingReplace},
    r.rolling[session]? = some pair → pair.new = session
  distinct : ∀ {pair : RollingReplace}, r.Tracks pair → pair.new ≠ pair.old
  unique : ∀ {pair other : RollingReplace},
    r.Tracks pair → r.Tracks other → pair.old = other.old → pair = other

/-- **Both sessions of every tracked pair are there.** -/
def Held (r : Roster) : Prop :=
  ∀ pair, r.Tracks pair → r.present pair.old = true ∧ r.present pair.new = true

variable {r r' : Roster}

variable {pair : RollingReplace}

lemma tracks_join {session : SessionId} : (r.join session).Tracks pair ↔ r.Tracks pair := .rfl

lemma tracks_track {other : RollingReplace} :
    (r.track pair).Tracks other ↔
      pair.new = other.new ∧ pair = other ∨ pair.new ≠ other.new ∧ r.Tracks other := by
  grind [Tracks, track]

lemma tracks_untrack {other : RollingReplace} :
    (r.untrack pair).Tracks other ↔ pair.new ≠ other.new ∧ r.Tracks other := by
  grind [Tracks, untrack]

lemma Paired.grow (h : r.Paired) (hgrow : r.Grow r') : r'.Paired := by
  rcases hgrow with _ | session | ⟨pair, hne, hold, hfree⟩
  · exact h
  · exact ⟨h.key, h.distinct, h.unique⟩
  · refine ⟨?_, ?_, ?_⟩
    · intro session other hother
      change (r.rolling.insert pair.new pair)[session]? = some other at hother
      grind [h.key]
    · intro other hother
      grind [tracks_join, tracks_track, h.distinct]
    · intro first second hfirst hsecond heq
      grind [tracks_join, tracks_track, h.unique]

lemma Paired.complete (h : r.Paired) (pair : RollingReplace) : (r.complete pair).Paired := by
  refine ⟨?_, ?_, ?_⟩
  · intro session other hother
    change (r.rolling.erase pair.new)[session]? = some other at hother
    grind [h.key]
  · intro other hother
    exact h.distinct (tracks_untrack.mp hother).2
  · intro first second hfirst hsecond
    exact h.unique (tracks_untrack.mp hfirst).2 (tracks_untrack.mp hsecond).2

/-- Joining takes nobody away. -/
lemma present_join {session other : SessionId} (h : r.present other = true) :
    (r.join session).present other = true := by
  simp [join, h]

lemma Held.grow (h : r.Held) (hgrow : r.Grow r') : r'.Held := by
  have hjoin : ∀ session, (r.join session).Held := by
    intro session pair htracks
    obtain ⟨hold, hnew⟩ := h pair htracks
    exact ⟨present_join hold, present_join hnew⟩
  rcases hgrow with _ | session | ⟨pair, hne, hold, hfree⟩
  · exact h
  · exact hjoin session
  · intro other hother
    rcases tracks_track.mp hother with ⟨-, rfl⟩ | ⟨-, hother⟩
    · exact ⟨present_join hold, if_pos rfl⟩
    · exact hjoin pair.new other hother

/-- **Completing a replacement**: the other pairs keep both sessions iff none of them is waiting for
the session that is removed. -/
theorem held_complete_iff (h : r.Held) (hpaired : r.Paired) (htracks : r.Tracks pair) :
    (r.complete pair).Held ↔ r.rolling[pair.old]? = none := by
  constructor
  · intro hheld
    rcases hchained : r.rolling[pair.old]? with _ | other
    · rfl
    · -- The pair that waits for the removed session is still tracked.
      exfalso
      have hkey := hpaired.key hchained
      have hother : r.Tracks other := by
        rw [Tracks, hkey]
        exact hchained
      have hne : pair.new ≠ other.new := hkey ▸ hpaired.distinct htracks
      have hgone := (hheld other (tracks_untrack.mpr ⟨hne, hother⟩)).2
      simp [complete, leave, hkey] at hgone
  · intro hfree other hother
    obtain ⟨hne, hother⟩ := tracks_untrack.mp hother
    have hold : pair.old ≠ other.old := by
      grind [hpaired.unique htracks hother]
    have hnew : pair.old ≠ other.new := by
      grind [Tracks]
    obtain ⟨hpresent, hpresent'⟩ := h other hother
    exact ⟨(if_neg hold).trans hpresent, (if_neg hnew).trans hpresent'⟩

end Roster

/-! ## Calls that go through the sessions -/

/-- **A relation that driving the sessions keeps**: it allows a call on a runner that leaves its wiring
alone, and any change of the plan, the symbols and the paused venues. -/
structure Drives (R : EngineSupervisor σ → EngineSupervisor σ → Prop) : Prop where
  session : ∀ session call, (∀ M, Keeps SessionRunner.SameWiring (call M)) →
    Keeps R (onSession session call)
  plan : ∀ (s : EngineSupervisor σ) planVersion desiredSymbols pausedVenues,
    R s { s with planVersion, desiredSymbols, pausedVenues }

namespace Drives

variable {R : EngineSupervisor σ → EngineSupervisor σ → Prop} [Std.Refl R]
  [IsTrans (EngineSupervisor σ) R] (h : Drives R) (J : ControlJson) (now : TimestampNs)

include h

lemma patchSession (session : SessionId) (command : SessionCommand) (desired : List String) :
    Keeps R (patchSession J session now command desired) := by
  refine Keeps.get fun s => ?_
  rcases s.sessions[session]? with _ | owned
  · exact .throw _
  · dsimp only
    split_ifs
    · exact .throw _
    · refine (h.session _ _ fun M => SessionRunner.sameWiring_deliverControl M J now command).seq
        fun _ => .seq (.modify fun s => h.plan s _ _ _) fun _ => h.session _ _ fun _ => ?_
      exact (SessionRunner.sameWiring_pushSystem _).attempt

lemma applyPatch (order : List SessionId) (patch : SubscriptionPatch) :
    Keeps R (applyPatch J order now patch) := by
  rcases patch with ⟨session, symbols⟩ | ⟨session, symbols⟩ | ⟨session, symbols⟩ | venue | venue
  · exact Keeps.get fun s => h.patchSession J now session _ _
  · exact Keeps.get fun s => h.patchSession J now session _ _
  · exact h.patchSession J now session _ _
  · refine fun s => trans_of R (h.plan s _ _ _) (Keeps.forM (fun session _ => ?_) _)
    exact h.session _ _ fun _ => (SessionRunner.sameWiring_markDegraded now _).seq fun _ =>
      SessionRunner.sameWiring_pushSystem _
  · refine fun s => trans_of R (h.plan s _ _ _) (Keeps.forM (fun entry _ => ?_) _)
    refine h.session _ _ fun M => .seq ?_ fun _ => SessionRunner.sameWiring_pushSystem _
    rw [resubscribe]
    split_ifs
    · exact .pure ()
    · exact SessionRunner.sameWiring_deliverControl M J now _

omit [Std.Refl R] [IsTrans (EngineSupervisor σ) R] in
lemma bumpPlan : Keeps R bumpPlan := fun s => h.plan s _ _ _

omit h [IsTrans (EngineSupervisor σ) R] in
lemma ensureRunning : Keeps R ensureRunning := by
  refine Keeps.get fun s => ?_
  split_ifs
  · exact .throw _
  · exact .pure _

lemma applySubscriptions (order : List SessionId) (patch : SubscriptionPatch) :
    Keeps R (applySubscriptions J order patch now) :=
  ensureRunning.seq fun _ => (h.applyPatch J now order patch).seq fun _ => h.bumpPlan

end Drives

/-! ## What the calls do to the roster -/

/-- The roster is the same. -/
abbrev SameRoster : EngineSupervisor σ → EngineSupervisor σ → Prop := SameOn roster

/-- A call on a session leaves it where it is. -/
lemma sameRoster_onSession (session : SessionId) (call : SessionMachine σ → EngineM σ Unit) :
    Keeps SameRoster (onSession session call) := by
  refine keeps_onSession fun s owned howned => ?_
  have hpresent : ∀ other : SessionId, (s.called session owned call).sessions[other]?.isSome =
      s.sessions[other]?.isSome := by
    intro other
    rw [getElem?_called]
    split_ifs with heq
    · rw [← heq, howned]
      rfl
    · rfl
  exact congrArg (Roster.mk · s.rolling) (funext hpresent)

/-- It does not depend on what the plan says. -/
lemma drives_sameRoster : Drives (SameRoster (σ := σ)) where
  session session call _ := sameRoster_onSession session call
  plan _ _ _ _ := rfl

lemma roster_inserted (s : EngineSupervisor σ) (session : SessionId) (owned : OwnedSession σ) :
    roster { s with sessions := s.sessions.insert session owned } = s.roster.join session := by
  refine congrArg (Roster.mk · s.rolling) (funext fun other => ?_)
  rw [getElem?_insert_key]
  split_ifs <;> rfl

lemma roster_dropSession (s : EngineSupervisor σ) (session : SessionId) :
    (dropSession session s).roster = s.roster.leave session := by
  refine congrArg (Roster.mk · s.rolling) (funext fun other => ?_)
  show (s.sessions.erase session)[other]?.isSome = _
  rw [getElem?_erase_key]
  split_ifs <;> rfl

/-- A session that joined and leaves again. -/
lemma Roster.leave_join {r : Roster} {session : SessionId} (h : r.present session = false) :
    (r.join session).leave session = r := by
  refine congrArg (Roster.mk · r.rolling) (funext fun other => ?_)
  show (if session = other then false else if session = other then true else r.present other) = _
  split_ifs with heq
  · rw [← heq, h]
  · rfl

lemma ends_insertSession (machine : SessionMachine σ) (state : σ) (cfg : SessionRunnerConfig)
    (s : EngineSupervisor σ) :
    Ends (insertSession machine state cfg) s (fun _ s' => s'.roster = s.roster.join cfg.session)
      fun _ s' => s'.roster = s.roster := by
  refine Ends.get ?_
  split_ifs
  · exact rfl
  · exact roster_inserted s cfg.session _

variable (J : ControlJson)

/-- A replacement that cannot subscribe is gone again. -/
lemma ends_subscribeReplacement (new : SessionId) (symbols : List String) (now : TimestampNs)
    (s : EngineSupervisor σ) :
    Ends (subscribeReplacement J new symbols now) s (fun _ s' => s'.roster = s.roster)
      fun _ s' => s'.roster = s.roster.leave new := by
  rw [subscribeReplacement]
  split_ifs
  · exact rfl
  · have hcall := (sameRoster_onSession new
      fun M => SessionRunner.deliverControl M J (.subscribe symbols) now).ends s
    refine (Ends.tryCatch hcall ?_).seq ?_
    · intro e s' h
      exact (roster_dropSession s' new).trans (congrArg (Roster.leave new) h)
    · intro _ s' h
      exact h

/-- A list of checks passes iff its first check and the rest do. -/
lemma check_eq_none_iff {ε : Type} {c : Prop} [Decidable c] {e : ε} {rest : Option ε} :
    (if c then some e else rest) = none ↔ ¬ c ∧ rest = none := by
  by_cases h : c <;> simp [h]

variable {s : EngineSupervisor σ}

/-- What is known when a replacement may begin. -/
lemma refusesBegin_eq_none_iff {old new : SessionId} :
    s.refusesBegin old new = none ↔
      s.roster.present old = true ∧ new ≠ old ∧ s.roster.present new = false ∧
        ∀ entry ∈ s.rolling.toList, entry.2.old ≠ old := by
  unfold refusesBegin
  rw [check_eq_none_iff, check_eq_none_iff, check_eq_none_iff, check_eq_none_iff, and_iff_left rfl,
    Bool.not_eq_true, Option.isNone_eq_false_iff, Bool.not_eq_true, List.any_eq_true]
  simp only [decide_eq_true_eq, not_exists, not_and]
  exact Iff.rfl

lemma ends_beginRollingReplace (old : SessionId) (machine : SessionMachine σ) (state : σ)
    (cfg : SessionRunnerConfig) (now : TimestampNs) (s : EngineSupervisor σ) :
    Ends (beginRollingReplace J old machine state cfg now) s
      (fun _ s' => s.roster.Grow s'.roster) fun _ s' => s'.roster = s.roster := by
  have hensure : Ends ensureRunning s (fun _ s' => s' = s) fun _ s' => s'.roster = s.roster := by
    refine Ends.get ?_
    split_ifs <;> exact rfl
  refine hensure.seq ?_
  rintro ⟨⟩ s rfl
  refine Ends.get ?_
  rcases hrefuses : s.refusesBegin old cfg.session with _ | e
  · obtain ⟨hold, hne, hnew, hfree⟩ := refusesBegin_eq_none_iff.mp hrefuses
    refine (ends_insertSession machine state cfg s).seq ?_
    rintro ⟨⟩ s₁ hjoined
    have hsubscribe := ends_subscribeReplacement J cfg.session (s.desired old) now s₁
    refine Ends.seq (hsubscribe.mono_error ?_) ?_
    · intro _ s' h
      rw [h, hjoined, Roster.leave_join hnew]
    · rintro ⟨⟩ s₂ hsame
      show s.roster.Grow (s₂.roster.track ⟨old, cfg.session⟩)
      rw [hsame, hjoined]
      refine .begin ⟨old, cfg.session⟩ hne hold ?_
      intro other hother
      exact hfree (other.new, other) (Std.ExtTreeMap.mem_toList_iff_getElem?_eq_some.mpr hother)
  · exact rfl

/-- **A replacement can be completed**: the engine runs or drains, the pair is tracked, both sessions
are there with the same symbols, and the new one is live. -/
structure Ready (s : EngineSupervisor σ) (replace : RollingReplace) : Prop where
  engine : s.lifecycle = .running ∨ s.lifecycle = .draining
  tracks : s.roster.Tracks replace
  old : s.roster.present replace.old = true
  symbols : sameSymbols (s.desired replace.old) (s.desired replace.new) = true
  live : s.lifecycleOf replace.new = some .live

variable {replace : RollingReplace}

lemma refusesComplete_eq_none_iff : s.refusesComplete replace = none ↔ s.Ready replace := by
  unfold refusesComplete
  rw [check_eq_none_iff, not_and_or, not_not, not_not]
  rcases htracked : s.rolling[replace.new]? with _ | tracked
  · refine iff_of_false (fun h => Option.some_ne_none _ h.2) fun h => ?_
    exact Option.some_ne_none _ (h.tracks.symm.trans htracked)
  · dsimp only
    rw [check_eq_none_iff, check_eq_none_iff, check_eq_none_iff, not_not, not_not,
      Bool.not_eq_true, Option.isNone_eq_false_iff]
    rcases hnew : s.sessions[replace.new]? with _ | replacement
    · refine iff_of_false (fun h => Option.some_ne_none _ h.2.2.2.2) fun h => ?_
      have hlive := h.live
      rw [lifecycleOf, hnew] at hlive
      exact Option.some_ne_none _ hlive.symm
    · dsimp only
      have hlive : s.lifecycleOf replace.new = some replacement.runner.lifecycle := by
        rw [lifecycleOf, hnew]
        rfl
      rw [check_eq_none_iff, not_not, and_iff_left rfl]
      constructor
      · rintro ⟨hengine, rfl, hold, hsymbols, heq⟩
        exact ⟨hengine, htracked, hold, hsymbols, hlive.trans (congrArg some heq)⟩
      · intro h
        have heq : some tracked = some replace := htracked.symm.trans h.tracks
        have heq' : some replacement.runner.lifecycle = some .live := hlive.symm.trans h.live
        exact ⟨h.engine, Option.some.inj heq, h.old, h.symbols, Option.some.inj heq'⟩

/-- A completion that goes through. -/
lemma ends_complete_of_ready (h : s.Ready replace) :
    Ends (completeRollingReplace replace) s (fun _ s' => s'.roster = s.roster.complete replace)
      fun _ _ => False := by
  refine Ends.get ?_
  rw [refusesComplete_eq_none_iff.mpr h]
  refine Ends.modify ?_
  have hstop : Keeps SameRoster (attempt false (onSession (σ := σ) replace.old fun _ => stopReplaced)) :=
    (sameRoster_onSession replace.old _).attempt
  refine Ends.seq (P := fun _ s' => SameRoster { s with rolling := s.rolling.erase replace.new } s')
    (.of_ok (run_of_completes (completes_attempt _ _)) (hstop _)) ?_
  rintro ⟨⟩ s' hsame
  refine (roster_dropSession s' replace.old).trans ?_
  rw [hsame]
  rfl

/-- A completion that is refused changes nothing. -/
lemma ends_complete_of_not_ready (h : ¬ s.Ready replace) :
    Ends (completeRollingReplace replace) s (fun _ _ => False) fun _ s' => s' = s := by
  refine Ends.get ?_
  rcases hrefuses : s.refusesComplete replace with _ | e
  · exact absurd (refusesComplete_eq_none_iff.mp hrefuses) h
  · exact rfl

/-! ## Runs -/

/-- The calls on a supervisor. A runner is driven through `session_mut`, by anything. -/
inductive Call (σ : Type)
  | markRunning
  | insertSession (machine : SessionMachine σ) (state : σ) (cfg : SessionRunnerConfig)
  | applySubscriptions (order : List SessionId) (patch : SubscriptionPatch) (now : TimestampNs)
  | drive (session : SessionId) (call : SessionMachine σ → EngineM σ Unit)
  | beginRollingReplace (old : SessionId) (machine : SessionMachine σ) (state : σ)
      (cfg : SessionRunnerConfig) (now : TimestampNs)
  | completeRollingReplace (replace : RollingReplace)

/-- The supervisor after a call, returned or failed. -/
def step (s : EngineSupervisor σ) : Call σ → EngineSupervisor σ
  | .markRunning => endState EngineSupervisor.markRunning s
  | .insertSession machine state cfg => endState (EngineSupervisor.insertSession machine state cfg) s
  | .applySubscriptions order patch now =>
    endState (EngineSupervisor.applySubscriptions J order patch now) s
  | .drive session call => endState (onSession session call) s
  | .beginRollingReplace old machine state cfg now =>
    endState (EngineSupervisor.beginRollingReplace J old machine state cfg now) s
  | .completeRollingReplace replace => endState (EngineSupervisor.completeRollingReplace replace) s

/-- **No chain is cut**: a replacement that is completed does not remove a session that is itself
the new side of a tracked pair. -/
def Unchained (s : EngineSupervisor σ) : Call σ → Prop
  | .completeRollingReplace replace => s.Ready replace → s.rolling[replace.old]? = none
  | _ => True

/-- A call either grows the roster or completes a replacement. -/
lemma roster_step (s : EngineSupervisor σ) (call : Call σ) :
    (s.roster.Grow (step J s call).roster ∧ s.Unchained call) ∨
      ∃ replace, call = .completeRollingReplace replace ∧ s.Ready replace ∧
        (step J s call).roster = s.roster.complete replace := by
  have hsame : ∀ {s' : EngineSupervisor σ}, s'.roster = s.roster → s.roster.Grow s'.roster := by
    intro s' h
    rw [h]
    exact .stay
  rcases call with _ | ⟨machine, state, cfg⟩ | ⟨order, patch, now⟩ | ⟨session, call⟩ |
    ⟨old, machine, state, cfg, now⟩ | replace
  · exact .inl ⟨hsame rfl, trivial⟩
  · refine .inl ⟨?_, trivial⟩
    refine Ends.endState (P := fun s' => s.roster.Grow s'.roster)
      ((ends_insertSession machine state cfg s).mono ?_ ?_)
    · intro _ s' h
      rw [h]
      exact .insert cfg.session
    · intro _ s' h
      exact hsame h
  · exact .inl ⟨hsame (drives_sameRoster.applySubscriptions J now order patch s), trivial⟩
  · exact .inl ⟨hsame (sameRoster_onSession session call s), trivial⟩
  · refine .inl ⟨?_, trivial⟩
    exact ((ends_beginRollingReplace J old machine state cfg now s).mono_error
      fun _ _ h => hsame h).endState
  · by_cases hready : s.Ready replace
    · refine .inr ⟨replace, rfl, hready, ?_⟩
      exact ((ends_complete_of_ready hready).mono_error fun _ _ h => h.elim).endState
    · have hkept : endState (EngineSupervisor.completeRollingReplace replace) s = s :=
        Ends.endState (P := fun s' => s' = s)
          ((ends_complete_of_not_ready hready).mono (fun _ _ h => h.elim) fun _ _ h => h)
      exact .inl ⟨hsame (congrArg roster hkept), fun h => absurd h hready⟩

lemma paired_step (h : s.roster.Paired) (call : Call σ) : (step J s call).roster.Paired := by
  obtain ⟨hgrow, -⟩ | ⟨replace, rfl, -, hcomplete⟩ := roster_step J s call
  · exact h.grow hgrow
  · rw [hcomplete]
    exact h.complete replace

/-- **One call** keeps both sessions of every tracked pair iff it cuts no chain. -/
theorem held_step_iff (hpaired : s.roster.Paired) (h : s.roster.Held) (call : Call σ) :
    (step J s call).roster.Held ↔ s.Unchained call := by
  obtain ⟨hgrow, hunchained⟩ | ⟨replace, rfl, hready, hcomplete⟩ := roster_step J s call
  · exact iff_of_true (h.grow hgrow) hunchained
  · rw [hcomplete, Roster.held_complete_iff h hpaired hready.tracks]
    exact ⟨fun hfree _ => hfree, fun hfree => hfree hready⟩

/-- The supervisor after some calls on a new one. -/
def after (calls : List (Call σ)) : EngineSupervisor σ := run (step J) new calls

/-! ### Wiring -/

/-- Wired sessions stay wired. -/
def StaysWired (s s' : EngineSupervisor σ) : Prop := s.Wired → s'.Wired

instance : Std.Refl (StaysWired (σ := σ)) := ⟨fun _ h => h⟩

instance : IsTrans (EngineSupervisor σ) StaysWired := ⟨fun _ _ _ h h' hw => h' (h hw)⟩

lemma wired_insert {session : SessionId} {owned : OwnedSession σ} (hw : s.Wired)
    (hnew : owned.runner.Wired) :
    Wired { s with sessions := s.sessions.insert session owned } := by
  intro other found hfound
  replace hfound : (s.sessions.insert session owned)[other]? = some found := hfound
  grind [hw other found]

lemma staysWired_dropSession (session : SessionId) :
    Keeps StaysWired (modify (dropSession session) : ControlM σ Unit) := by
  refine Keeps.modify fun s hw other found hfound => ?_
  replace hfound : (s.sessions.erase session)[other]? = some found := hfound
  grind [hw other found]

lemma drives_staysWired : Drives (StaysWired (σ := σ)) where
  session session _ hcall := keeps_onSession fun _ owned howned hw =>
    wired_insert hw ((hcall owned.machine owned.runner).wired (hw session owned howned))
  plan _ _ _ _ hw := hw

lemma staysWired_insertSession (machine : SessionMachine σ) (state : σ)
    (cfg : SessionRunnerConfig) : Keeps StaysWired (insertSession machine state cfg) := by
  intro s hw
  show Wired (endState (if _ then _ else _) s)
  split_ifs
  · exact hw
  · exact wired_insert hw (SessionRunner.wired_new state cfg)

lemma staysWired_subscribeReplacement (new : SessionId) (symbols : List String)
    (now : TimestampNs) : Keeps StaysWired (subscribeReplacement (σ := σ) J new symbols now) := by
  rw [subscribeReplacement]
  split_ifs
  · exact .pure ()
  · have hcall : Keeps StaysWired (onSession (σ := σ) new _) := drives_staysWired.session new _ fun M =>
      SessionRunner.sameWiring_deliverControl M J now (.subscribe symbols)
    refine Keeps.seq (fun s => ?_) fun _ => .modify fun _ hw => hw
    refine Ends.endState (P := fun s' => StaysWired s s') ((hcall.ends s).tryCatch fun e s' h => ?_)
    refine Ends.seq (P := fun _ s'' => StaysWired s s'') ?_ fun _ _ h => h
    exact ((staysWired_dropSession new).ends s').mono (fun _ _ h' => trans_of StaysWired h h')
      fun _ _ h' => trans_of StaysWired h h'

lemma staysWired_beginRollingReplace (old : SessionId) (machine : SessionMachine σ) (state : σ)
    (cfg : SessionRunnerConfig) (now : TimestampNs) :
    Keeps StaysWired (beginRollingReplace J old machine state cfg now) := by
  refine Keeps.seq Drives.ensureRunning fun _ => .get fun s => ?_
  rcases s.refusesBegin old cfg.session with _ | e
  · exact (staysWired_insertSession machine state cfg).seq fun _ =>
      (staysWired_subscribeReplacement J _ _ now).seq fun _ =>
        Keeps.seq (.modify fun _ hw => hw) fun _ =>
          drives_staysWired.bumpPlan.seq fun _ => .pure _
  · exact .throw e

lemma staysWired_completeRollingReplace (replace : RollingReplace) :
    Keeps StaysWired (completeRollingReplace (σ := σ) replace) := by
  refine Keeps.get fun s => ?_
  rcases s.refusesComplete replace with _ | e
  · refine Keeps.seq (.modify fun _ hw => hw) fun _ => .seq ?_ fun _ =>
      (staysWired_dropSession _).seq fun _ => drives_staysWired.bumpPlan.seq fun _ => .pure _
    refine (drives_staysWired.session _ _ fun _ => ?_).attempt
    exact SessionRunner.sameWiring_requestStop.seq fun _ =>
      (SessionRunner.sameWiring_pushSystem _).attempt
  · exact .throw e

/-- A call that drives a session does so through the runner's own methods. -/
def Call.Driven : Call σ → Prop
  | .drive _ call => ∀ M, Keeps SessionRunner.SameWiring (call M)
  | _ => True

/-- **One call leaves wired sessions wired.** -/
theorem wired_step (hw : s.Wired) {call : Call σ} (hcall : call.Driven) : (step J s call).Wired := by
  cases call with
  | markRunning => exact hw
  | insertSession machine state cfg => exact staysWired_insertSession machine state cfg s hw
  | applySubscriptions order patch now =>
    exact drives_staysWired.applySubscriptions J now order patch s hw
  | drive session call => exact drives_staysWired.session session call hcall s hw
  | beginRollingReplace old machine state cfg now =>
    exact staysWired_beginRollingReplace J old machine state cfg now s hw
  | completeRollingReplace replace => exact staysWired_completeRollingReplace replace s hw

lemma wired_run (hw : s.Wired) {calls : List (Call σ)} (h : ∀ call ∈ calls, call.Driven) :
    (run (step J) s calls).Wired := by
  induction calls generalizing s with
  | nil => exact hw
  | cons call calls ih =>
    obtain ⟨hcall, hcalls⟩ := List.forall_mem_cons.mp h
    exact ih (wired_step J hw hcall) hcalls

/-- **The sessions of a supervisor are wired, whatever happens to it.** -/
theorem wired_after {calls : List (Call σ)} (h : ∀ call ∈ calls, call.Driven) :
    (after J calls).Wired := by
  refine wired_run J (fun session owned howned => ?_) h
  exact absurd (Std.ExtTreeMap.getElem?_empty.symm.trans howned) (Option.some_ne_none _).symm

/-! ### Tracked pairs -/

/-- No run tracks pairs that do not fit together. -/
lemma paired_after (calls : List (Call σ)) : (after J calls).roster.Paired := by
  refine run_invariant' (P := fun s : EngineSupervisor σ => s.roster.Paired)
    (fun s call h => paired_step J h call) ?_ calls
  have hempty : ∀ (session : SessionId), (∅ : SessionMap RollingReplace)[session]? = none := fun _ =>
    Std.ExtTreeMap.getElem?_empty
  refine ⟨fun h => ?_, fun h => ?_, fun h => ?_⟩
  all_goals exact absurd ((hempty _).symm.trans h).symm (Option.some_ne_none _)

/-- **The tracked pairs are sound**: both sessions of a tracked pair are there, no session is the old
side of two of them, and each can be completed once its new session is live with the symbols of the
old one. -/
structure TrackedSound (s : EngineSupervisor σ) : Prop where
  present : ∀ (session : SessionId) (pair : RollingReplace), s.rolling[session]? = some pair →
    s.sessions[pair.old]?.isSome ∧ s.sessions[pair.new]?.isSome
  unique : ∀ (first second : SessionId) (pair other : RollingReplace),
    s.rolling[first]? = some pair → s.rolling[second]? = some other →
    pair.old = other.old → first = second
  completable : ∀ (session : SessionId) (pair : RollingReplace), s.rolling[session]? = some pair →
    s.lifecycle = .running ∨ s.lifecycle = .draining →
    sameSymbols (s.desired pair.old) (s.desired pair.new) = true →
    s.lifecycleOf pair.new = some .live →
    completes (completeRollingReplace pair) s = true

lemma trackedSound_iff (hpaired : s.roster.Paired) : s.TrackedSound ↔ s.roster.Held := by
  have htracks : ∀ {session : SessionId} {pair : RollingReplace},
      s.rolling[session]? = some pair → s.roster.Tracks pair := by
    intro session pair h
    have hkey : pair.new = session := hpaired.key h
    show s.rolling[pair.new]? = some pair
    rw [hkey]
    exact h
  constructor
  · intro h pair hpair
    exact h.present pair.new pair hpair
  · intro h
    refine ⟨?_, ?_, ?_⟩
    · intro session pair hpair
      exact h pair (htracks hpair)
    · intro first second pair other hpair hother heq
      rw [← hpaired.key hpair, ← hpaired.key hother,
        hpaired.unique (htracks hpair) (htracks hother) heq]
    · intro session pair hpair hengine hsymbols hlive
      have hready : s.Ready pair :=
        ⟨hengine, htracks hpair, (h pair (htracks hpair)).1, hsymbols, hlive⟩
      rcases (ends_complete_of_ready hready).cases with ⟨⟨⟩, s', hrun, -⟩ | ⟨e, s', -, hfalse⟩
      · exact completes_of_ok hrun
      · exact hfalse.elim

/-- **Which runs keep the tracked pairs sound**: exactly those in which no completion removes a session
that another tracked pair is still waiting for. -/
theorem tracked_sound_iff (J : ControlJson) (calls : List (Call σ)) :
    (∀ n, (after J (calls.take n)).TrackedSound) ↔ Guarded (step J) Unchained new calls := by
  have hstep : ∀ (s : EngineSupervisor σ) (call : Call σ), s.roster.Paired ∧ s.roster.Held →
      ((step J s call).roster.Paired ∧ (step J s call).roster.Held ↔ s.Unchained call) := by
    rintro s call ⟨hpaired, hheld⟩
    rw [and_iff_right (paired_step J hpaired call), held_step_iff J hpaired hheld]
  have hnew : (new : EngineSupervisor σ).roster.Held := by
    intro pair hpair
    have hempty : (new : EngineSupervisor σ).roster.rolling[pair.new]? = none :=
      Std.ExtTreeMap.getElem?_empty
    exact absurd (hempty.symm.trans hpair).symm (Option.some_ne_none _)
  refine Iff.trans ?_ (forall_run_take_iff hstep (s := new) ⟨paired_after J [], hnew⟩)
  refine forall_congr' fun n => ?_
  have hpaired := paired_after J (calls.take n)
  rw [trackedSound_iff hpaired]
  exact (and_iff_right hpaired).symm

/-! ## A chain of replacements -/

instance (s : EngineSupervisor σ) : DecidablePred s.Ready := fun _ =>
  decidable_of_iff _ refusesComplete_eq_none_iff

instance (s : EngineSupervisor σ) : DecidablePred s.Unchained
  | .completeRollingReplace replace =>
    inferInstanceAs (Decidable (s.Ready replace → s.rolling[replace.old]? = none))
  | .markRunning => isTrue trivial
  | .insertSession _ _ _ => isTrue trivial
  | .applySubscriptions _ _ _ => isTrue trivial
  | .drive _ _ => isTrue trivial
  | .beginRollingReplace _ _ _ _ _ => isTrue trivial

def replacementConfig (session : SessionId) : SessionRunnerConfig := { narrowConfig with session }

/-- Session 1 is being replaced by session 2, and that one by session 3; both are live. -/
def chain : List (Call Unit) :=
  [.markRunning,
   .insertSession silentMachine () (replacementConfig ⟨1⟩),
   .beginRollingReplace ⟨1⟩ silentMachine () (replacementConfig ⟨2⟩) ⟨0⟩,
   .beginRollingReplace ⟨2⟩ silentMachine () (replacementConfig ⟨3⟩) ⟨0⟩,
   .drive ⟨2⟩ fun _ => SessionRunner.markLiveWithStatus ⟨1⟩,
   .drive ⟨3⟩ fun _ => SessionRunner.markLiveWithStatus ⟨1⟩]

/-- **A chain completed from its end.** Both replacements can be completed. The second is completed
first and removes session 2; the first is still tracked and can no longer be completed, and session 1
can no longer be replaced. -/
theorem chain_cut :
    (after .silent chain).Ready ⟨⟨1⟩, ⟨2⟩⟩ ∧
    (after .silent chain).Ready ⟨⟨2⟩, ⟨3⟩⟩ ∧
    (let cut := after .silent (chain ++ [.completeRollingReplace ⟨⟨2⟩, ⟨3⟩⟩])
    cut.rolling[(⟨2⟩ : SessionId)]? = some ⟨⟨1⟩, ⟨2⟩⟩ ∧
    cut.sessions[(⟨2⟩ : SessionId)]?.isSome = false ∧
    completes (completeRollingReplace ⟨⟨1⟩, ⟨2⟩⟩) cut = false ∧
    cut.refusesBegin ⟨1⟩ ⟨4⟩ = some
      (.unsupported "rolling replace is already in progress for the old session")) := by
  decide +kernel

/-- The chain completed from its front. -/
def chainInOrder : List (Call Unit) :=
  chain ++ [.completeRollingReplace ⟨⟨1⟩, ⟨2⟩⟩, .completeRollingReplace ⟨⟨2⟩, ⟨3⟩⟩]

/-- It keeps every pair sound, and completes both. -/
theorem tracked_sound_in_order :
    (∀ n, (after .silent (chainInOrder.take n)).TrackedSound) ∧
      (after .silent chainInOrder).rolling.isEmpty = true := by
  refine ⟨(tracked_sound_iff .silent chainInOrder).mpr ?_, ?_⟩ <;> decide +kernel

end Marketfeed.EngineSupervisor
