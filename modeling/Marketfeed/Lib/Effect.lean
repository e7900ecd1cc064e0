import Mathlib.Order.Defs.Unbundled

/-!
# Stateful computations that may fail

`EStateM ε σ α` is code over a mutable state that may return early with an error. What it had done
to the state by then stays done.
-/

namespace Marketfeed

variable {ε σ α β : Type}

/-- The state a computation leaves behind. -/
def endState (m : EStateM ε σ α) (s : σ) : σ :=
  match m.run s with
  | .ok _ s' => s'
  | .error _ s' => s'

variable {m : EStateM ε σ α} {s s' : σ} {a : α}

lemma endState_of_ok (h : m.run s = .ok a s') : endState m s = s' := by
  rw [endState, h]

/-- A computation that reads its error from elsewhere. -/
def liftExcept {δ : Type} (wrap : δ → ε) : Except δ α → EStateM ε σ α
  | .ok a => pure a
  | .error e => throw (wrap e)

/-- A change of the state that may be refused, and then is not made. -/
def update (f : σ → Except ε σ) : EStateM ε σ Unit := fun s =>
  match f s with
  | .ok s' => .ok () s'
  | .error e => .error e s

/-- A computation on a part of the state, which is written back whichever way it ends. -/
def within {τ : Type} (part : σ → τ) (put : τ → σ → σ) (m : EStateM ε τ α) : EStateM ε σ α := fun s =>
  match m.run (part s) with
  | .ok a t => .ok a (put t s)
  | .error e t => .error e (put t s)

/-- A computation whose failure is dropped unless it is fatal; what it did to the state stays. -/
def attempt (fatal : Bool) (m : EStateM ε σ Unit) : EStateM ε σ Unit := fun s =>
  match m.run s with
  | .ok () s' => .ok () s'
  | .error e s' => if fatal then .error e s' else .ok () s'

/-- A computation that happens as a whole or not at all. -/
def atomically (f : σ → Except ε (α × σ)) : EStateM ε σ α := fun s =>
  match f s with
  | .ok (a, s') => .ok a s'
  | .error e => .error e s

lemma run_atomically_ok_iff {f : σ → Except ε (α × σ)} :
    (atomically f).run s = .ok a s' ↔ f s = .ok (a, s') := by
  simp only [atomically, EStateM.run]
  rcases f s with e | ⟨b, t⟩ <;> simp

variable {e : ε}

lemma run_atomically_error_iff {f : σ → Except ε (α × σ)} :
    (atomically f).run s = .error e s' ↔ f s = .error e ∧ s' = s := by
  simp only [atomically, EStateM.run]
  rcases f s with e' | ⟨b, t⟩ <;> simp [eq_comm]

/-- From `s`, a failure leaves everything as it was. -/
def Atomic (m : EStateM ε σ α) (s : σ) : Prop := ∀ e s', m.run s = .error e s' → s' = s

lemma atomic_of_atomically {f : σ → Except ε (α × σ)} (h : m.run s = (atomically f).run s) :
    Atomic m s := by
  intro e s' hrun
  rw [h] at hrun
  exact (run_atomically_error_iff.mp hrun).2

/-! ## Running a sequence -/

variable {f : α → EStateM ε σ β} {t : σ}

/-- A sequence returns iff both parts do. -/
lemma run_seq_ok_iff {b : β} :
    (m >>= f).run s = .ok b t ↔ ∃ a s', m.run s = .ok a s' ∧ (f a).run s' = .ok b t := by
  show EStateM.bind m f s = _ ↔ _
  unfold EStateM.bind EStateM.run
  rcases m s with ⟨a, s'⟩ | ⟨e, s'⟩ <;> simp [and_assoc]

lemma run_seq_of_ok (h : m.run s = .ok a s') : (m >>= f).run s = (f a).run s' := by
  have h' : m s = .ok a s' := h
  show EStateM.bind m f s = f a s'
  rw [EStateM.bind, h']

lemma run_seq_of_error (h : m.run s = .error e s') : (m >>= f).run s = .error e s' := by
  have h' : m s = .error e s' := h
  show EStateM.bind m f s = _
  rw [EStateM.bind, h']

/-- A sequence ends where its second part does, or where the first part failed. -/
lemma endState_seq (m : EStateM ε σ α) (f : α → EStateM ε σ β) (s : σ) :
    endState (m >>= f) s = match m.run s with
      | .ok a s' => endState (f a) s'
      | .error _ s' => s' := by
  show endState (EStateM.bind m f) s = _
  unfold endState EStateM.run EStateM.bind
  rcases m s with ⟨a, s'⟩ | ⟨e, s'⟩ <;> rfl

/-- **The rule for a sequence**: what holds where the first part ends carries over to the end, whether
the second part runs or not. -/
theorem endState_seq_induct {P Q : σ → Prop} (hm : P (endState m s)) (hfail : ∀ s', P s' → Q s')
    (hf : ∀ a s', P s' → Q (endState (f a) s')) : Q (endState (m >>= f) s) := by
  rw [endState_seq]
  unfold endState at hm
  generalize m.run s = result at *
  rcases result with ⟨a, s'⟩ | ⟨e, s'⟩
  · exact hf a s' hm
  · exact hfail s' hm

lemma run_get_seq (f : σ → EStateM ε σ β) (s : σ) : (get >>= f).run s = (f s).run s := rfl

lemma endState_get_seq (f : σ → EStateM ε σ β) (s : σ) :
    endState (get >>= f) s = endState (f s) s := rfl

lemma run_modify_seq (g : σ → σ) (f : PUnit → EStateM ε σ β) (s : σ) :
    (modify g >>= f).run s = (f ⟨⟩).run (g s) := rfl

lemma endState_modify_seq (g : σ → σ) (f : PUnit → EStateM ε σ β) (s : σ) :
    endState (modify g >>= f) s = endState (f ⟨⟩) (g s) := rfl

lemma run_lift_ok_iff {δ : Type} {wrap : δ → ε} {x : Except δ α} :
    (liftExcept wrap x : EStateM ε σ α).run s = .ok a t ↔ x = .ok a ∧ t = s := by
  rcases x with e | b
  · exact iff_of_false nofun (nomatch ·.1)
  · constructor
    · rintro ⟨⟩
      exact ⟨rfl, rfl⟩
    · rintro ⟨⟨⟩, rfl⟩
      rfl

lemma run_update_of_ok {f : σ → Except ε σ} (h : f s = .ok s') : (update f).run s = .ok () s' := by
  show update f s = _
  rw [update, h]

lemma run_update_seq {f : σ → Except ε σ} {g : PUnit → EStateM ε σ β} (h : f s = .ok s') :
    (update f >>= g).run s = (g ⟨⟩).run s' :=
  run_seq_of_ok (run_update_of_ok h)

lemma run_within_of_ok {τ : Type} {part : σ → τ} {put : τ → σ → σ} {m : EStateM ε τ α} {t : τ}
    (h : m.run (part s) = .ok a t) : (within part put m).run s = .ok a (put t s) := by
  show within part put m s = _
  rw [within, h]

/-- What a loop that stops at the first failure gets to: the one that failed is the last. -/
def attempted (f : β → EStateM ε σ PUnit) : List β → σ → List β
  | [], _ => []
  | x :: xs, s => x :: match (f x).run s with
      | .ok _ s' => attempted f xs s'
      | .error _ _ => []

/-- **The rule for a loop**: a part of the state that each turn changes by `g`, whether it returns or
fails, has been changed by `g` for everything the loop got to. -/
theorem endState_forM {γ : Type} {f : β → EStateM ε σ PUnit} (part : σ → γ) {g : γ → β → γ}
    (h : ∀ x s, part (endState (f x) s) = g (part s) x) (xs : List β) (s : σ) :
    part (endState (xs.forM f) s) = (attempted f xs s).foldl g (part s) := by
  induction xs generalizing s with
  | nil => rfl
  | cons x xs ih =>
    have hx := h x s
    show part (endState (f x >>= fun _ => xs.forM f) s) = _
    rw [endState_seq, attempted, List.foldl_cons, ← hx]
    unfold endState
    rcases hrun : (f x).run s with ⟨⟨⟩, s'⟩ | ⟨e, s'⟩
    · exact ih s'
    · rfl

/-- Whether a computation returns. -/
def completes (m : EStateM ε σ α) (s : σ) : Bool :=
  match m.run s with
  | .ok _ _ => true
  | .error _ _ => false

lemma completes_of_ok (h : m.run s = .ok a t) : completes m s = true := by
  rw [completes, h]

lemma completes_iff : completes m s = true ↔ ∃ a t, m.run s = .ok a t := by
  unfold completes
  rcases m.run s with ⟨a, t⟩ | ⟨e, t⟩
  · exact iff_of_true rfl ⟨a, t, rfl⟩
  · refine iff_of_false Bool.false_ne_true ?_
    rintro ⟨a, t', ⟨⟩⟩

lemma completes_seq_of_ok (h : m.run s = .ok a s') :
    completes (m >>= f) s = completes (f a) s' := by
  rw [completes, run_seq_of_ok h, completes]

lemma completes_seq_of_error (h : m.run s = .error e s') : completes (m >>= f) s = false := by
  rw [completes, run_seq_of_error h]

lemma exists_run_of_completes (h : completes m s = true) : ∃ a, m.run s = .ok a (endState m s) := by
  obtain ⟨a, t, hrun⟩ := completes_iff.mp h
  exact ⟨a, by rw [endState, hrun]⟩

lemma run_of_completes {m : EStateM ε σ PUnit} (h : completes m s = true) :
    m.run s = .ok ⟨⟩ (endState m s) :=
  (exists_run_of_completes h).elim fun _ hrun => hrun

lemma run_attempt_of_ok {fatal : Bool} {m : EStateM ε σ Unit} (h : m.run s = .ok () s') :
    (attempt fatal m).run s = .ok () s' := by
  unfold attempt
  simp only [EStateM.run] at *
  rw [h]

/-- A failure that is not fatal is dropped. -/
lemma completes_attempt (m : EStateM ε σ Unit) (s : σ) : completes (attempt false m) s = true := by
  unfold completes attempt
  simp only [EStateM.run]
  rcases m s with ⟨⟨⟩, s'⟩ | ⟨e, s'⟩ <;> rfl

lemma endState_attempt (fatal : Bool) (m : EStateM ε σ Unit) (s : σ) :
    endState (attempt fatal m) s = endState m s := by
  unfold endState attempt
  simp only [EStateM.run]
  rcases m s with ⟨⟨⟩, s'⟩ | ⟨e, s'⟩
  · rfl
  · cases fatal <;> rfl

/-- What every turn of a loop over a list keeps, holds if the loop returns. -/
lemma mapM_invariant {f : β → EStateM ε σ α} {P : σ → Prop} {xs : List β}
    (hstep : ∀ x ∈ xs, ∀ s a s', P s → (f x).run s = .ok a s' → P s') {as : List α} (hs : P s)
    (h : (xs.mapM f).run s = .ok as t) : P t := by
  induction xs generalizing s as with
  | nil =>
    rw [List.mapM_nil] at h
    cases h
    exact hs
  | cons x xs ih =>
    rw [List.mapM_cons] at h
    obtain ⟨a, s', hx, h⟩ := run_seq_ok_iff.mp h
    obtain ⟨as', t', hxs, h⟩ := run_seq_ok_iff.mp h
    cases h
    refine ih (fun y hy => hstep y (List.mem_cons_of_mem x hy)) ?_ hxs
    exact hstep x List.mem_cons_self s a s' hs hx

/-! ## How a computation ends -/

/-- From `s` the computation returns with `Q`, or fails with `E`. -/
def Ends (m : EStateM ε σ α) (s : σ) (Q : α → σ → Prop) (E : ε → σ → Prop) : Prop :=
  match m.run s with
  | .ok a s' => Q a s'
  | .error e s' => E e s'

namespace Ends

variable {Q : α → σ → Prop} {E : ε → σ → Prop} {s : σ}

variable {m : EStateM ε σ α}

lemma of_ok {a : α} {s' : σ} (h : m.run s = .ok a s') (hQ : Q a s') : Ends m s Q E := by
  rw [Ends, h]
  exact hQ

lemma of_error {e : ε} {s' : σ} (h : m.run s = .error e s') (hE : E e s') : Ends m s Q E := by
  rw [Ends, h]
  exact hE

/-- The two ways a computation can end. -/
lemma cases (h : Ends m s Q E) :
    (∃ a s', m.run s = .ok a s' ∧ Q a s') ∨ ∃ e s', m.run s = .error e s' ∧ E e s' := by
  unfold Ends at h
  rcases hrun : m.run s with ⟨a, s'⟩ | ⟨e, s'⟩
  · rw [hrun] at h
    exact .inl ⟨a, s', rfl, h⟩
  · rw [hrun] at h
    exact .inr ⟨e, s', rfl, h⟩

lemma mono {Q' : α → σ → Prop} {E' : ε → σ → Prop} (h : Ends m s Q E)
    (hQ : ∀ a s', Q a s' → Q' a s') (hE : ∀ e s', E e s' → E' e s') : Ends m s Q' E' := by
  rcases h.cases with ⟨a, s', hrun, h⟩ | ⟨e, s', hrun, h⟩
  · exact .of_ok hrun (hQ a s' h)
  · exact .of_error hrun (hE e s' h)

lemma mono_error {E' : ε → σ → Prop} (h : Ends m s Q E) (hE : ∀ e s', E e s' → E' e s') :
    Ends m s Q E' :=
  h.mono (fun _ _ h => h) hE

/-- **The rule for a sequence**: the second part starts where the first one returned. -/
theorem seq {P : β → σ → Prop} {m : EStateM ε σ β} {f : β → EStateM ε σ α} (hm : Ends m s P E)
    (hf : ∀ b s', P b s' → Ends (f b) s' Q E) : Ends (m >>= f) s Q E := by
  rcases hm.cases with ⟨b, s', hrun, hm⟩ | ⟨e, s', hrun, hm⟩
  · rw [Ends, run_seq_of_ok hrun]
    exact hf b s' hm
  · exact .of_error (run_seq_of_error hrun) hm

/-- The rule for a sequence whose first part does not fail. -/
lemma seq_of_returns {P : β → σ → Prop} {m : EStateM ε σ β} {f : β → EStateM ε σ α}
    (hm : Ends m s P fun _ _ => False) (hf : ∀ b s', P b s' → Ends (f b) s' Q E) :
    Ends (m >>= f) s Q E :=
  (hm.mono_error fun _ _ h => h.elim).seq hf

/-- **The rule for a handler**: it starts where the guarded part failed. -/
theorem tryCatch {P : ε → σ → Prop} {handler : ε → EStateM ε σ α} (hm : Ends m s Q P)
    (hh : ∀ e s', P e s' → Ends (handler e) s' Q E) : Ends (tryCatch m handler) s Q E := by
  show Ends (EStateM.tryCatch m handler) s Q E
  unfold Ends EStateM.run EStateM.tryCatch at *
  rcases hrun : m s with ⟨b, s'⟩ | ⟨e, s'⟩
  · rw [hrun] at hm
    exact hm
  · rw [hrun] at hm
    exact hh e s' hm

lemma get {f : σ → EStateM ε σ α} (h : Ends (f s) s Q E) : Ends (MonadState.get >>= f) s Q E := h

lemma modify {g : σ → σ} {f : PUnit → EStateM ε σ α} (h : Ends (f ⟨⟩) (g s) Q E) :
    Ends (modify g >>= f) s Q E :=
  h

/-- **The rule for a check**: it fails where it stands, or the rest goes on with its answer. -/
theorem lift {δ : Type} {wrap : δ → ε} {x : Except δ β} {f : β → EStateM ε σ α}
    (hok : ∀ b, x = .ok b → Ends (f b) s Q E) (herror : ∀ e, x = .error e → E (wrap e) s) :
    Ends (liftExcept wrap x >>= f) s Q E := by
  rcases x with e | b
  · exact herror e rfl
  · exact hok b rfl

/-- Two facts about one computation. -/
lemma and {Q' : α → σ → Prop} {E' : ε → σ → Prop} (h : Ends m s Q E) (h' : Ends m s Q' E') :
    Ends m s (fun a s' => Q a s' ∧ Q' a s') fun e s' => E e s' ∧ E' e s' := by
  unfold Ends at *
  generalize m.run s = result at *
  cases result <;> exact ⟨h, h'⟩

/-- How a computation ends that happens as a whole or not at all. -/
lemma of_atomically {f : σ → Except ε (α × σ)} (hrun : m.run s = (atomically f).run s)
    (hok : ∀ a s', f s = .ok (a, s') → Q a s') (herror : ∀ e, f s = .error e → E e s) :
    Ends m s Q E := by
  unfold Ends
  rw [hrun]
  rcases hf : (atomically f).run s with ⟨a, s'⟩ | ⟨e, s'⟩
  · exact hok a s' (run_atomically_ok_iff.mp hf)
  · obtain ⟨he, rfl⟩ := run_atomically_error_iff.mp hf
    exact herror e he

/-- Where a computation ends, if both ways of ending say the same. -/
lemma endState {P : σ → Prop} (h : Ends m s (fun _ => P) fun _ => P) : P (endState m s) := by
  unfold Ends at h
  unfold Marketfeed.endState
  generalize m.run s = result at *
  cases result <;> exact h

lemma of_endState {P : σ → Prop} (h : P (Marketfeed.endState m s)) :
    Ends m s (fun _ => P) fun _ => P := by
  unfold Ends
  unfold Marketfeed.endState at h
  generalize m.run s = result at *
  cases result <;> exact h

end Ends

/-- **The computation does what `x` says, or nothing**: it returns with the value and the state of `x`, or
fails as `x` does and has changed nothing. -/
def Performs (m : EStateM ε σ α) (s : σ) (x : Except ε (α × σ)) : Prop :=
  Ends m s (fun a s' => x = .ok (a, s')) fun e s' => x = .error e ∧ s' = s

namespace Performs

variable {x : Except ε (α × σ)}

lemma run_eq_atomically {f : σ → Except ε (α × σ)} (h : Performs m s (f s)) :
    m.run s = (atomically f).run s := by
  rcases h.cases with ⟨a, s', hrun, hf⟩ | ⟨e, s', hrun, hf⟩
  · rw [hrun, run_atomically_ok_iff.mpr hf]
  · rw [hrun, run_atomically_error_iff.mpr hf]

lemma of_run (h : m.run s = .ok a s') : Performs m s (.ok (a, s')) := Ends.of_ok h rfl

lemma throw (e : ε) : Performs (throw e : EStateM ε σ α) s (.error e) := ⟨rfl, rfl⟩

lemma get {f : σ → EStateM ε σ α} (h : Performs (f s) s x) : Performs (MonadState.get >>= f) s x :=
  h

lemma lift {y : Except ε β} {f : β → EStateM ε σ α} {g : β → Except ε (α × σ)}
    (h : ∀ b, y = .ok b → Performs (f b) s (g b)) :
    Performs (liftExcept id y >>= f) s (y >>= g) := by
  rcases y with e | b
  · exact ⟨rfl, rfl⟩
  · exact h b rfl

section Seq

variable {m : EStateM ε σ PUnit} {y : Except ε β} {next : β → σ}

lemma ends (h : Performs m s (y >>= fun b => .ok (⟨⟩, next b))) :
    Ends m s (fun _ s' => ∃ b, y = .ok b ∧ s' = next b) fun e s' => y = .error e ∧ s' = s := by
  refine Ends.mono h ?_ ?_
  · rintro ⟨⟩ s' hx
    rcases y with e | b <;> cases hx
    exact ⟨b, rfl, rfl⟩
  · rintro e s' ⟨hx, rfl⟩
    rcases y with e' | b <;> cases hx
    exact ⟨rfl, rfl⟩

lemma cases (h : Performs m s (y >>= fun b => .ok (⟨⟩, next b))) :
    (∃ b, y = .ok b ∧ m.run s = .ok ⟨⟩ (next b)) ∨ ∃ e, y = .error e ∧ m.run s = .error e s := by
  rcases h.ends.cases with ⟨⟨⟩, _, hrun, b, hy, rfl⟩ | ⟨e, _, hrun, hy, rfl⟩
  · exact .inl ⟨b, hy, hrun⟩
  · exact .inr ⟨e, hy, hrun⟩

/-- **The rule for a sequence**: after a first part that does what it says, the second one returns. -/
theorem seq {f : PUnit → EStateM ε σ α} {r : β → α × σ}
    (hm : Performs m s (y >>= fun b => .ok (⟨⟩, next b)))
    (hf : ∀ b, y = .ok b → (f ⟨⟩).run (next b) = .ok (r b).1 (r b).2) :
    Performs (m >>= f) s (y >>= fun b => .ok (r b)) := by
  rcases hm.cases with ⟨b, rfl, hrun⟩ | ⟨e, rfl, hrun⟩
  · exact .of_run ((run_seq_of_ok hrun).trans (hf b rfl))
  · unfold Performs Ends
    rw [run_seq_of_error hrun]
    exact ⟨rfl, rfl⟩

end Seq

end Performs

/-- From a state with `P` the computation returns, and `P` holds again. -/
def Returns (P : σ → Prop) (m : EStateM ε σ α) : Prop :=
  ∀ s, P s → Ends m s (fun _ => P) fun _ _ => False

namespace Returns

variable {P : σ → Prop}

lemma pure (a : α) : Returns P (pure a : EStateM ε σ α) := fun _ h => h

lemma modify {f : σ → σ} (h : ∀ s, P s → P (f s)) : Returns P (modify f : EStateM ε σ PUnit) := h

lemma seq {m : EStateM ε σ α} {f : α → EStateM ε σ β} (hm : Returns P m)
    (hf : ∀ a, Returns P (f a)) : Returns P (m >>= f) :=
  fun s hs => (hm s hs).seq fun a s' h => hf a s' h

lemma completes {m : EStateM ε σ α} (h : Returns P m) {s : σ} (hs : P s) :
    completes m s = true := by
  rcases (h s hs).cases with ⟨a, s', hrun, -⟩ | ⟨e, s', -, hfalse⟩
  · exact completes_of_ok hrun
  · exact hfalse.elim

end Returns

/-! ## What a computation may do to the state -/

/-- Two states look the same to `f`. -/
def SameOn {τ : Type} (f : σ → τ) (s s' : σ) : Prop := f s' = f s

instance {τ : Type} (f : σ → τ) : Std.Refl (SameOn f) := ⟨fun _ => rfl⟩

instance {τ : Type} (f : σ → τ) : IsTrans σ (SameOn f) := ⟨fun _ _ _ h h' => Eq.trans h' h⟩

/-- Whichever way it ends, the computation has moved the state within the relation. -/
def Keeps (R : σ → σ → Prop) (m : EStateM ε σ α) : Prop := ∀ s, R s (endState m s)

namespace Keeps

variable {R : σ → σ → Prop}

variable {m : EStateM ε σ α}

/-- A stronger relation keeps a weaker one. -/
lemma mono {Q : σ → σ → Prop} (h : Keeps Q m) (hQR : ∀ s t, Q s t → R s t) : Keeps R m :=
  fun s => hQR _ _ (h s)

/-- What a computation that returns has done. -/
lemma of_ok (h : Keeps R m) {s t : σ} {a : α} (hrun : m.run s = .ok a t) : R s t := by
  have hs := h s
  rw [endState_of_ok hrun] at hs
  exact hs

/-- Both ways a computation can end have moved the state within the relation. -/
lemma ends (h : Keeps R m) (s : σ) : Ends m s (fun _ => R s) fun _ => R s :=
  Ends.of_endState (h s)

/-- A change of the state that returns at once. -/
lemma modify {f : σ → σ} (h : ∀ s, R s (f s)) : Keeps R (modify f : EStateM ε σ PUnit) := h

/-- A computation chosen by the current state. -/
lemma get {f : σ → EStateM ε σ β} (h : ∀ s, Keeps R (f s)) : Keeps R (MonadState.get >>= f) :=
  fun s => h s s

lemma attempt {fatal : Bool} {m : EStateM ε σ Unit} (h : Keeps R m) :
    Keeps R (attempt fatal m) := by
  intro s
  rw [endState_attempt]
  exact h s

section Preorder

variable [Std.Refl R]

lemma pure (a : α) : Keeps R (pure a : EStateM ε σ α) := fun s => refl_of R s

lemma throw (e : ε) : Keeps R (throw e : EStateM ε σ α) := fun s => refl_of R s

lemma lift {δ : Type} (wrap : δ → ε) (x : Except δ α) :
    Keeps R (liftExcept wrap x : EStateM ε σ α) := by
  rcases x with e | a
  · exact .throw (wrap e)
  · exact .pure a

variable [IsTrans σ R]

omit [Std.Refl R] in
lemma seq {m : EStateM ε σ α} {f : α → EStateM ε σ β} (hm : Keeps R m)
    (hf : ∀ a, Keeps R (f a)) : Keeps R (m >>= f) := by
  intro s
  exact endState_seq_induct (hm s) (fun _ h => h) fun a s' h => trans_of R h (hf a s')

/-- The loop over a list. -/
lemma forM {f : β → EStateM ε σ PUnit} {xs : List β} (h : ∀ x ∈ xs, Keeps R (f x)) :
    Keeps R (xs.forM f) := by
  induction xs with
  | nil => exact .pure PUnit.unit
  | cons x xs ih =>
    exact Keeps.seq (h x List.mem_cons_self) fun _ =>
      ih fun y hy => h y (List.mem_cons_of_mem x hy)

end Preorder

end Keeps

/-! ## What a computation does not read -/

/-- The outcome with the state moved by `f`. -/
def mapState (f : σ → σ) : EStateM.Result ε σ α → EStateM.Result ε σ α
  | .ok a s => .ok a (f s)
  | .error e s => .error e (f s)

/-- **The computation does not read what `f` changes**: it does the same from either state. -/
def Ignores (f : σ → σ) (m : EStateM ε σ α) : Prop := ∀ s, m.run (f s) = mapState f (m.run s)

namespace Ignores

variable {f : σ → σ}

lemma pure (a : α) : Ignores f (pure a : EStateM ε σ α) := fun _ => rfl

lemma throw (e : ε) : Ignores f (throw e : EStateM ε σ α) := fun _ => rfl

lemma lift {δ : Type} (wrap : δ → ε) (x : Except δ α) :
    Ignores f (liftExcept wrap x : EStateM ε σ α) := by
  rcases x with e | a
  · exact .throw (wrap e)
  · exact .pure a

lemma modify {g : σ → σ} (h : ∀ s, g (f s) = f (g s)) :
    Ignores f (modify g : EStateM ε σ PUnit) := by
  intro s
  show EStateM.Result.ok PUnit.unit (g (f s)) = .ok PUnit.unit (f (g s))
  rw [h]

lemma seq {m : EStateM ε σ α} {k : α → EStateM ε σ β} (hm : Ignores f m)
    (hk : ∀ a, Ignores f (k a)) : Ignores f (m >>= k) := by
  intro s
  have hs := hm s
  rcases hrun : m.run s with ⟨a, s'⟩ | ⟨e, s'⟩
  · rw [hrun] at hs
    rw [run_seq_of_ok hrun, run_seq_of_ok hs]
    exact hk a s'
  · rw [hrun] at hs
    rw [run_seq_of_error hrun, run_seq_of_error hs]
    rfl

/-- A computation chosen by a part of the state that `f` leaves alone. -/
lemma get {k : σ → EStateM ε σ β} (hsame : ∀ s, k (f s) = k s) (h : ∀ s, Ignores f (k s)) :
    Ignores f (MonadState.get >>= k) := by
  intro s
  show (k (f s)).run (f s) = mapState f ((k s).run s)
  rw [hsame]
  exact h s s

lemma forM {k : β → EStateM ε σ PUnit} (h : ∀ x, Ignores f (k x)) (xs : List β) :
    Ignores f (xs.forM k) := by
  induction xs with
  | nil => exact .pure PUnit.unit
  | cons x xs ih => exact Ignores.seq (h x) fun _ => ih

end Ignores

end Marketfeed
