import Marketfeed.Engine.Frame

/-!
# The control plane

Model of `EngineSupervisor` in `crates/engine/src/supervisor.rs` and of the subscription patches and
the rolling replacements of `crates/engine/src/control.rs`. The supervisor owns the session runners;
next to them it keeps the plan version, the symbols each session is meant to have, the paused venues
and the replacements that are under way.

A session's machine is a trait object, so every session has a machine of its own; `σ` holds the states
of all of them. A loop over the sessions of a venue follows a hash map, so it is given its order.
-/

namespace Marketfeed

/-! ## Errors -/

/-- Source: the `Display` of `AdapterError` -/
def AdapterError.display : AdapterError → String
  | .unsupportedCapability detail => "unsupported capability: " ++ detail
  | .protocol detail => "protocol error: " ++ detail
  | .parse detail => "parse error: " ++ detail
  | .subscription detail => "subscription error: " ++ detail
  | .catalog detail => "instrument catalog error: " ++ detail
  | .bookInvariant detail => "book invariant: " ++ detail
  | .internal detail => "internal: " ++ detail

/-- Source: the `Display` of `DispatchError` -/
def DispatchError.display : DispatchError → String
  | .failEngine => "queue full under FailEngine policy"
  | .deadlineExceeded => "queue full and BlockWithDeadline timed out"
  | .unsupportedPolicy policy =>
    "overflow policy not implemented for this queue: " ++ policy.debug

/-- Source: the `Display` of `RecordingError` -/
def RecordingError.display : RecordingError → String
  | .io detail => "io: " ++ detail
  | .badMagic => "bad magic"
  | .unsupportedVersion version => "unsupported version " ++ toString version
  | .truncated => "truncated / incomplete record"
  | .crcMismatch => "payload crc mismatch"
  | .invalidHeader => "invalid header field"
  | .metadataConflict key => "conflicting recording metadata for " ++ key
  | .invalidControlCommand detail => "invalid recorded control command: " ++ detail
  | .recordTooLarge recordLen max =>
    "raw record length " ++ toString recordLen ++ " exceeds maximum " ++ toString max
  | .queueFull => "recording queue full"
  | .unsupportedOverflow detail => "unsupported overflow policy: " ++ detail
  | .shutdownTimeout remaining =>
    "shutdown drain timed out with " ++ toString remaining ++ " frames still queued"
  | .normalizedBoundExceeded kind limit =>
    "normalized recording bound exceeded (" ++ kind ++ " limit " ++ toString limit ++ ")"
  | .diskFull => "disk full under FailEngine recording policy"

/-- Source: the `Display` of `EngineError` -/
def EngineError.display : EngineError → String
  | .adapter e => e.display
  | .dispatch e => e.display
  | .recording e => e.display
  | .internal detail => "internal: " ++ detail

/-- The errors of the patches and the replacements. -/
inductive ControlError
  | stopped
  | sessionNotFound
  | venuePaused (venue : VenueId)
  | unsupported (detail : String)
  | engine (detail : String)
deriving DecidableEq

/-- A runner never returns `Stopped` or `SessionNotFound`.
Source: `From<EngineError> for ControlError` -/
def ControlError.ofEngine (e : EngineError) : ControlError := .engine e.display

/-! ## The supervisor -/

inductive EngineLifecycle
  | starting
  | running
  | draining
  | stopped
deriving DecidableEq

/-- Source: `crates/adapter-api/src/subscription.rs` `SubscriptionPatch` -/
inductive SubscriptionPatch
  | add (session : SessionId) (symbols : List String)
  | remove (session : SessionId) (symbols : List String)
  | replace (session : SessionId) (symbols : List String)
  | pauseVenue (venue : VenueId)
  | resumeVenue (venue : VenueId)
deriving DecidableEq

/-- A map keyed by sessions. -/
abbrev SessionMap (α : Type) := Std.ExtTreeMap SessionId α (compareOn SessionId.val)

instance : Std.LawfulEqCmp (compareOn SessionId.val) where
  compare_self {a} := show compare a.val a.val = .eq from Std.ReflCmp.compare_self
  eq_of_compare {a b} h := by
    have hval : compare a.val b.val = .eq := h
    obtain ⟨a⟩ := a
    obtain ⟨b⟩ := b
    exact congrArg SessionId.mk (Std.LawfulEqCmp.eq_of_compare hval)

/-- A runner with its machine. -/
structure OwnedSession (σ : Type) where
  machine : SessionMachine σ
  runner : SessionRunner σ

structure RollingReplace where
  old : SessionId
  new : SessionId
deriving DecidableEq

structure EngineSupervisor (σ : Type) where
  lifecycle : EngineLifecycle
  sessions : SessionMap (OwnedSession σ)
  planVersion : UInt64
  desiredSymbols : SessionMap (List String)
  pausedVenues : Finset VenueId
  rolling : SessionMap RollingReplace

/-- A method of the supervisor. -/
abbrev ControlM (σ : Type) := EStateM ControlError (EngineSupervisor σ)

namespace EngineSupervisor

variable {σ : Type}

def new : EngineSupervisor σ := ⟨.starting, ∅, 0, ∅, ∅, ∅⟩

variable (s : EngineSupervisor σ)

/-- Source: `saturating_add(1)` on the plan version -/
def nextPlan : UInt64 :=
  if s.planVersion + 1 = 0 then s.planVersion else s.planVersion + 1

def bumpPlan : ControlM σ UInt64 := do
  let s ← get
  set { s with planVersion := s.nextPlan }
  pure s.nextPlan

def ensureRunning : ControlM σ Unit := do
  let s ← get
  if s.lifecycle ≠ .running then throw .stopped else pure ()

/-- The supervisor after a call on the runner of a session, returned or failed. -/
def called (session : SessionId) (owned : OwnedSession σ)
    (call : SessionMachine σ → EngineM σ Unit) : EngineSupervisor σ :=
  let runner := endState (call owned.machine) owned.runner
  { s with sessions := s.sessions.insert session ⟨owned.machine, runner⟩ }

/-- A call on the runner of a session; what a failed call did to the runner stays.
Source: `self.session_mut(id)?` and a method with `?` -/
def onSession (session : SessionId) (call : SessionMachine σ → EngineM σ Unit) : ControlM σ Unit := do
  let s ← get
  match s.sessions[session]? with
  | none => throw .sessionNotFound
  | some owned => do
    set (s.called session owned call)
    match (call owned.machine).run owned.runner with
    | .ok _ _ => pure ()
    | .error e _ => throw (.ofEngine e)

def pushSystemBestEffort (event : SystemEvent) : EngineM σ Unit :=
  attempt false (SessionRunner.pushSystem event)

variable (J : ControlJson)

def patchSession (session : SessionId) (now : TimestampNs) (command : SessionCommand)
    (desired : List String) : ControlM σ Unit := do
  let s ← get
  match s.sessions[session]? with
  | none => throw .sessionNotFound
  | some owned =>
    if owned.runner.cfg.venue ∈ s.pausedVenues then throw (.venuePaused owned.runner.cfg.venue)
    else do
      onSession session fun M => SessionRunner.deliverControl M J command now
      modify fun s => { s with desiredSymbols := s.desiredSymbols.insert session desired }
      onSession session fun _ =>
        pushSystemBestEffort (.subscriptionStateChanged ("plan=" ++ toString s.nextPlan))

/-- Source: the `for` loop of `SubscriptionPatch::Add` -/
def addSymbols (desired symbols : List String) : List String :=
  symbols.foldl (fun desired s => if desired.contains s then desired else desired ++ [s]) desired

/-- Source: the `retain` of `SubscriptionPatch::Remove` -/
def removeSymbols (desired symbols : List String) : List String :=
  desired.filter fun d => !symbols.contains d

/-- Source: `self.desired_symbols.get(&session).cloned().unwrap_or_default()` -/
def desired (session : SessionId) : List String :=
  s.desiredSymbols[session]?.getD []

/-- The sessions of a venue.
Source: the filter of `PauseVenue` and `ResumeVenue` -/
def sessionsOf (venue : VenueId) : List SessionId :=
  (s.sessions.toList.filter fun entry => entry.2.runner.cfg.venue = venue).map (·.1)

/-- The sessions of a venue in the order of the hash map: the one that is given, if it is one. -/
def sessionOrder (order : List SessionId) (venue : VenueId) : List SessionId :=
  if order.Perm (s.sessionsOf venue) then order else s.sessionsOf venue

/-- Source: the loop body of `PauseVenue` -/
def pauseSession (now : TimestampNs) : EngineM σ Unit := do
  SessionRunner.markDegradedWithStatus "venue paused" now
  SessionRunner.pushSystem (.subscriptionStateChanged "paused")

/-- Source: the `if` of `ResumeVenue` -/
def resubscribe (symbols : List String) (now : TimestampNs) (M : SessionMachine σ) :
    EngineM σ Unit :=
  if symbols.isEmpty then pure () else SessionRunner.deliverControl M J (.subscribe symbols) now

/-- Source: the loop body of `ResumeVenue` -/
def resumeSession (symbols : List String) (now : TimestampNs) (M : SessionMachine σ) :
    EngineM σ Unit := do
  resubscribe J symbols now M
  SessionRunner.pushSystem (.subscriptionStateChanged "resumed")

/-- Source: the `match patch` of `apply_subscriptions` -/
def applyPatch (order : List SessionId) (now : TimestampNs) :
    SubscriptionPatch → ControlM σ Unit
  | .add session symbols => do
    let s ← get
    patchSession J session now (.subscribe symbols) (addSymbols (s.desired session) symbols)
  | .remove session symbols => do
    let s ← get
    patchSession J session now (.unsubscribe symbols) (removeSymbols (s.desired session) symbols)
  | .replace session symbols => patchSession J session now (.replace symbols) symbols
  | .pauseVenue venue => do
    let s ← get
    set { s with pausedVenues := insert venue s.pausedVenues }
    (s.sessionOrder order venue).forM fun session => onSession session fun _ => pauseSession now
  | .resumeVenue venue => do
    let s ← get
    set { s with pausedVenues := s.pausedVenues.erase venue }
    ((s.sessionOrder order venue).map fun session => (session, s.desired session)).forM
      fun entry => onSession entry.1 (resumeSession J entry.2 now)

def applySubscriptions (order : List SessionId) (patch : SubscriptionPatch) (now : TimestampNs) :
    ControlM σ UInt64 := do
  ensureRunning
  applyPatch J order now patch
  bumpPlan

/-! ## Rolling replacements -/

def markRunning : ControlM σ Unit := modify fun s => { s with lifecycle := .running }

def insertSession (machine : SessionMachine σ) (state : σ) (cfg : SessionRunnerConfig) :
    ControlM σ Unit := do
  let s ← get
  if s.lifecycle = .stopped ∨ s.lifecycle = .draining then throw .stopped
  else set { s with sessions := s.sessions.insert cfg.session ⟨machine, .new state cfg⟩ }

/-- Why a replacement cannot begin.
Source: the checks of `begin_rolling_replace` -/
def refusesBegin (old new : SessionId) : Option ControlError :=
  if s.sessions[old]?.isNone then some .sessionNotFound
  else if new = old then some (.unsupported "rolling replace requires a distinct session id")
  else if s.sessions[new]?.isSome then some (.unsupported "replacement session id already exists")
  else if s.rolling.toList.any fun entry => entry.2.old = old then
    some (.unsupported "rolling replace is already in progress for the old session")
  else none

/-- A session with its symbols is gone.
Source: `self.sessions.remove(..)` and `self.desired_symbols.remove(..)` -/
def dropSession (session : SessionId) (s : EngineSupervisor σ) : EngineSupervisor σ :=
  { s with
    sessions := s.sessions.erase session
    desiredSymbols := s.desiredSymbols.erase session }

/-- The new session takes over the symbols of the old one, or is dropped again.
Source: the `if !symbols.is_empty()` of `begin_rolling_replace` -/
def subscribeReplacement (new : SessionId) (symbols : List String) (now : TimestampNs) :
    ControlM σ Unit :=
  if symbols.isEmpty then pure ()
  else do
    tryCatch (onSession new fun M => SessionRunner.deliverControl M J (.subscribe symbols) now)
      fun e => do
        modify (dropSession new)
        throw e
    modify fun s => { s with desiredSymbols := s.desiredSymbols.insert new symbols }

def beginRollingReplace (old : SessionId) (machine : SessionMachine σ) (state : σ)
    (cfg : SessionRunnerConfig) (now : TimestampNs) : ControlM σ RollingReplace := do
  ensureRunning
  let s ← get
  match s.refusesBegin old cfg.session with
  | some e => throw e
  | none => do
    insertSession machine state cfg
    subscribeReplacement J cfg.session (s.desired old) now
    modify fun s => { s with rolling := s.rolling.insert cfg.session ⟨old, cfg.session⟩ }
    let _ ← bumpPlan
    pure ⟨old, cfg.session⟩

/-- Source: the comparison of the two sets of symbols in `complete_rolling_replace` -/
def sameSymbols (xs ys : List String) : Bool := xs.all ys.contains && ys.all xs.contains

/-- Why a replacement cannot be completed.
Source: the checks of `complete_rolling_replace` -/
def refusesComplete (replace : RollingReplace) : Option ControlError :=
  if s.lifecycle ≠ .running ∧ s.lifecycle ≠ .draining then some .stopped
  else match s.rolling[replace.new]? with
  | none => some (.unsupported "rolling replace is not tracked")
  | some tracked =>
    if tracked ≠ replace then some (.unsupported "rolling replace pair mismatch")
    else if s.sessions[replace.old]?.isNone then some .sessionNotFound
    else if ¬ sameSymbols (s.desired replace.old) (s.desired replace.new) then
      some (.unsupported "replacement desired subscriptions do not match the old session")
    else match s.sessions[replace.new]? with
    | none => some .sessionNotFound
    | some replacement =>
      if replacement.runner.lifecycle ≠ .live then
        some (.unsupported "replacement session is not live")
      else none

/-- Source: what `complete_rolling_replace` does to the runner it removes -/
def stopReplaced : EngineM σ Unit := do
  SessionRunner.requestStop
  attempt false (SessionRunner.pushSystem (.subscriptionStateChanged "replaced"))

def completeRollingReplace (replace : RollingReplace) : ControlM σ Unit := do
  let s ← get
  match s.refusesComplete replace with
  | some e => throw e
  | none => do
    modify fun s => { s with rolling := s.rolling.erase replace.new }
    attempt false (onSession replace.old fun _ => stopReplaced)
    modify (dropSession replace.old)
    let _ ← bumpPlan

end EngineSupervisor

end Marketfeed
