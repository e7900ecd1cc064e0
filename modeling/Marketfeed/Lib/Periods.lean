import Marketfeed.Lib.Effect
import Marketfeed.Lib.Run

/-!
# Builders that cut a stream into periods

A builder takes timed items one by one and returns a period once it is over: when an item of a later
period comes in, when the clock is advanced past its end, or when it is told to finish.
-/

namespace Marketfeed

/-- The methods of a builder. -/
structure PeriodBuilder (ε σ τ ω : Type) where
  ingest : τ → EStateM ε σ (Option ω)
  advanceTo : Int → EStateM ε σ (Option ω)
  finish : EStateM ε σ (Option ω)
  liveSnapshot : σ → Except ε (Option ω)
  clock : σ → Option Int
  time : τ → Int

namespace PeriodBuilder

variable {ε σ τ ω : Type} (B : PeriodBuilder ε σ τ ω)

/-! ## Calls -/

/-- The calls that change a builder. -/
inductive Call (τ : Type)
  | ingest (x : τ)
  | advanceTo (timestampNs : Int)
  | finish

/-- The item a call brings. -/
def Call.items : Call τ → List τ
  | .ingest x => [x]
  | .advanceTo _ | .finish => []

def perform : Call τ → EStateM ε σ (Option ω)
  | .ingest x => B.ingest x
  | .advanceTo timestampNs => B.advanceTo timestampNs
  | .finish => B.finish

/-- The builder after a call, whichever way it ended. -/
def step (s : σ) (call : Call τ) : σ := endState (B.perform call) s

/-- The builder's clock is not past the time. -/
def NotLate (s : σ) (timestampNs : Int) : Prop := ∀ last, B.clock s = some last → last ≤ timestampNs

/-- **What has been accepted can be snapshotted and finalized**: a snapshot, a finish, a clock tick and
an item of a later period that a fresh builder would accept all succeed, or fail with an error in
`E`. -/
structure Finalizable (E : ε → Prop) (fresh : σ) (later : τ → Prop) (s : σ) : Prop where
  live : FailsOnly E (B.liveSnapshot s)
  finish : Ends B.finish s (fun _ _ => True) fun e _ => E e
  advanceTo : ∀ timestampNs, B.NotLate s timestampNs →
    Ends (B.advanceTo timestampNs) s (fun _ _ => True) fun e _ => E e
  ingest : ∀ x, B.NotLate s (B.time x) → later x → completes (B.ingest x) fresh = true →
    Ends (B.ingest x) s (fun out _ => out.isSome = true) fun e _ => E e

/-- An item that ends the current period, if that can be taken. -/
lemma ends_of_roll {m : EStateM ε σ (Option ω)} {f : σ → Except ε (Option ω × σ)} {s next : σ}
    {x : Except ε ω} {E : ε → Prop} (hrun : m.run s = (atomically f).run s)
    (hf : f s = (fun w => (some w, next)) <$> x) (hx : FailsOnly E x) :
    Ends m s (fun out _ => out.isSome = true) fun e _ => E e := by
  refine Ends.of_atomically hrun ?_ ?_
  · intro out s' hok
    rw [hf] at hok
    rcases x with err | w <;> cases hok
    rfl
  · rw [hf]
    exact FailsOnly.map _ hx

end PeriodBuilder

end Marketfeed
