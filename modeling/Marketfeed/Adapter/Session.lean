import Marketfeed.Lib.Alarm
import Marketfeed.Lib.Octets
import Marketfeed.Lib.Run
import Marketfeed.Model.Events

/-!
# Session machines: inputs, actions and the action buffer

Model of `crates/adapter-api/src/session.rs`. A venue session is a deterministic state machine: the
engine feeds it one input at a time and it pushes actions into a bounded buffer.
-/

namespace Marketfeed

/-- Raw bytes on the wire. -/
abbrev Bytes := List UInt8

/-- Source: `error.rs` `AdapterError` -/
inductive AdapterError
  | unsupportedCapability (detail : String)
  | protocol (detail : String)
  | parse (detail : String)
  | subscription (detail : String)
  | catalog (detail : String)
  | bookInvariant (detail : String)
  | internal (detail : String)
deriving DecidableEq

inductive DisconnectReason
  | remoteClose
  | transportError
  | heartbeatTimeout
  | localStop
  | reconnectRequested
deriving DecidableEq

inductive ReconnectReason
  | protocol
  | sequenceGap
  | checksumMismatch
  | heartbeat
  | control
deriving DecidableEq

inductive StopReason
  | control
  | fatalProtocol
  | unsupported
deriving DecidableEq

inductive HttpMethod
  | get
  | post
  | put
  | delete
deriving DecidableEq

structure HttpRequestSpec where
  id : UInt64
  method : HttpMethod
  url : String
  headers : List (String × String)
  body : Option Bytes
deriving DecidableEq

structure HttpResponse where
  status : UInt16
  headers : List (String × String)
  body : Bytes
deriving DecidableEq

structure TimerSpec where
  timerId : UInt64
  fireAt : TimestampNs
deriving DecidableEq

inductive SessionCommand
  | subscribe (symbols : List String)
  | unsubscribe (symbols : List String)
  | replace (symbols : List String)
  | resync (instrument : InstrumentId)
  | stop
deriving DecidableEq

inductive SubscriptionWireAction
  | text (payload : Bytes)
  | binary (payload : Bytes)
  | ping (payload : Bytes)
deriving DecidableEq

/-- Engine-owned inputs delivered to adapters. -/
inductive SessionInput
  | connected (now : TimestampNs)
  | disconnected (reason : DisconnectReason) (now : TimestampNs)
  | textFrame (bytes : Bytes) (received : FrameStamp)
  | binaryFrame (bytes : Bytes) (received : FrameStamp)
  | pong (payload : Bytes) (received : FrameStamp)
  | httpResponse (requestId : UInt64) (response : HttpResponse) (received : FrameStamp)
  | timer (timerId : UInt64) (now : TimestampNs)
  | control (command : SessionCommand)
deriving DecidableEq

structure EventBatch where
  session : SessionId
  frameSeq : UInt64
  events : List EventEnvelope
deriving DecidableEq

/-- Actions the engine executes on behalf of the adapter. -/
inductive SessionAction
  | sendText (payload : Bytes)
  | sendSensitiveText (payload : Bytes)
  | sendBinary (payload : Bytes)
  | sendPing (payload : Bytes)
  | requestHttp (request : HttpRequestSpec)
  | scheduleTimer (timer : TimerSpec)
  | cancelTimer (timerId : UInt64)
  | emitBatch (batch : EventBatch)
  | emitSystem (event : SystemEvent)
  | markLive
  | markDegraded
  | resyncInstrument (instrument : InstrumentId)
  | reconnect (reason : ReconnectReason)
  | disableSubscription (subscription : UInt64)
  | stopSession (reason : StopReason)
deriving DecidableEq

/-- What an action says about the timers. -/
def SessionAction.timerEvent : SessionAction → Option (AlarmEvent UInt64 TimestampNs)
  | .scheduleTimer spec => some (.set spec.timerId spec.fireAt)
  | .cancelTimer timerId => some (.cancel timerId)
  | _ => none

/-- What one call on a machine does: its new state, the actions it pushed, and its result. -/
structure Outcome (σ : Type) where
  state : σ
  actions : List SessionAction
  result : Except AdapterError Unit

/-- **A deterministic venue session.** -/
structure SessionMachine (σ : Type) where
  onInput : σ → SessionInput → Outcome σ
  /-- Replay initialisation; the trait's default is a `Connected` input. -/
  onReplayStart : σ → TimestampNs → Outcome σ := fun s now => onInput s (.connected now)
  /-- Read-only first phase of a subscription mutation. -/
  prepareDynamicSubscription : σ → SessionCommand → Except AdapterError SubscriptionWireAction :=
    fun _ _ => .error (.unsupportedCapability "dynamic subscriptions")
  /-- Infallible second phase; it has no access to the action buffer. -/
  commitDynamicSubscription : σ → SessionCommand → σ := fun s _ => s

/-- The state after a list of inputs, whatever their results. -/
def SessionMachine.run {σ : Type} (M : SessionMachine σ) (s : σ) (inputs : List SessionInput) : σ :=
  Marketfeed.run (fun s input => (M.onInput s input).state) s inputs

/-! ## The bounded action buffer -/

/-- The bounded sink of a session's actions. -/
structure ActionBuffer where
  actions : List SessionAction
  capacity : Nat
  dropped : Nat
deriving DecidableEq

namespace ActionBuffer

/-- Source: `DEFAULT_ACTION_BUFFER_CAPACITY` -/
def defaultCapacity : Nat := 1024

def withCapacity (capacity : Nat) : ActionBuffer := ⟨[], max capacity 1, 0⟩

def new : ActionBuffer := withCapacity defaultCapacity

variable (b : ActionBuffer)

/-- Drops the newest action when full. -/
def push (action : SessionAction) : ActionBuffer :=
  if b.actions.length ≥ b.capacity then { b with dropped := b.dropped + 1 }
  else { b with actions := b.actions ++ [action] }

def extend (actions : List SessionAction) : ActionBuffer := actions.foldl push b

/-- The drop counter is kept. -/
def clear : ActionBuffer := { b with actions := [] }

def takeDropped : Nat × ActionBuffer := (b.dropped, { b with dropped := 0 })

/-- **The buffer keeps the first actions that fit** and counts the others. -/
theorem extend_eq (actions : List SessionAction) (h : b.actions.length ≤ b.capacity) :
    b.extend actions =
      { b with
        actions := b.actions ++ actions.take (b.capacity - b.actions.length)
        dropped := b.dropped + (actions.length - (b.capacity - b.actions.length)) } := by
  unfold extend
  induction actions generalizing b with
  | nil => simp
  | cons a actions ih =>
    rw [List.foldl_cons]
    by_cases hfull : b.actions.length ≥ b.capacity
    · have hpush : b.push a = { b with dropped := b.dropped + 1 } := if_pos hfull
      have hroom : b.capacity - b.actions.length = 0 := by omega
      rw [hpush, ih { b with dropped := b.dropped + 1 } h]
      simp only [hroom, List.take_zero, List.length_cons, Nat.sub_zero]
      congr 1
      omega
    · have hpush : b.push a = { b with actions := b.actions ++ [a] } := if_neg hfull
      obtain ⟨k, hk⟩ : ∃ k, b.capacity - b.actions.length = k + 1 :=
        ⟨b.capacity - b.actions.length - 1, by omega⟩
      have hk' : b.capacity - (b.actions.length + 1) = k := by omega
      rw [hpush, ih _ (by simp; omega)]
      simp [hk, hk']

end ActionBuffer

/-! ## Helpers the venue adapters share -/

/-- Source: `subscription.rs` `CandleInterval` -/
inductive CandleInterval
  | m1
  | m5
  | m15
  | h1
  | d1
deriving DecidableEq

/-- Source: `level_op` of the adapters' message modules -/
def levelOp (qty : Quantity) : BookOperation × Option Quantity :=
  if qty.fixed.coefficient = 0 then (.delete, none) else (.upsert, some qty)

/-- Source: `to_book_levels` of the adapters' message modules -/
def toBookLevels (levels : List (Price × Quantity)) : List BookLevel :=
  levels.map fun (price, quantity) => ⟨price, quantity⟩

/-- The `changes` vector of an incremental update, bids before asks. -/
def levelChanges (bids asks : List (Price × Quantity)) : List BookChange :=
  let side (side : BookSide) (levels : List (Price × Quantity)) : List BookChange :=
    levels.map fun (price, qty) => ⟨side, (levelOp qty).1, price, (levelOp qty).2⟩
  side .bid bids ++ side .ask asks

/-- Nanoseconds of a millisecond venue time, saturating. -/
def msToTimestamp (ms : Int) : TimestampNs := ⟨satI64 (ms * 1000000)⟩

end Marketfeed
