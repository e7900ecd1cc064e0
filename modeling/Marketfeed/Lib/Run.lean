import Mathlib.Algebra.Order.BigOperators.Group.List
import Mathlib.Algebra.Ring.Int.Defs

/-!
# Runs of a step function

A run folds a step function over a list of inputs. The rules here turn a fact about one step into
a fact about every run.
-/

namespace Marketfeed

/-! ## Computations that may fail -/

variable {ε α β : Type} {x : Except ε α} {f : α → Except ε β}

/-- A sequenced computation answers iff both parts do. -/
lemma bind_eq_ok {r : β} : (x >>= f) = .ok r ↔ ∃ a, x = .ok a ∧ f a = .ok r := by
  cases x <;> simp [bind, Except.bind]

lemma map_eq_ok {g : α → β} {r : β} : g <$> x = .ok r ↔ ∃ a, x = .ok a ∧ g a = r := by
  cases x <;> simp [Functor.map, Except.map]

lemma seq_eq_ok {x : Except ε Unit} {y : Except ε β} {r : β} :
    (x >>= fun _ => y) = .ok r ↔ x = .ok () ∧ y = .ok r := by
  cases x <;> simp [bind, Except.bind]

/-- Two computations with the same first part answer after the same answer of it. -/
lemma bind_eq_ok_both {γ : Type} {g : α → Except ε γ} {r : β} {r' : γ} (h : (x >>= f) = .ok r)
    (h' : (x >>= g) = .ok r') : ∃ a, f a = .ok r ∧ g a = .ok r' := by
  obtain ⟨a, hx, h⟩ := bind_eq_ok.mp h
  rw [hx] at h'
  exact ⟨a, h, h'⟩

lemma exists_bind_eq_ok : (∃ r, (x >>= f) = .ok r) ↔ ∃ a, x = .ok a ∧ ∃ r, f a = .ok r := by
  simp only [bind_eq_ok]
  constructor
  · rintro ⟨r, a, ha, hr⟩
    exact ⟨a, ha, r, hr⟩
  · rintro ⟨a, ha, r, hr⟩
    exact ⟨r, a, ha, hr⟩

/-- A checked computation answers iff the check passes and the rest answers. -/
lemma check_eq_ok {c : Prop} [Decidable c] {e : ε} {a : α} :
    (if c then .error e else x) = .ok a ↔ ¬ c ∧ x = .ok a := by
  by_cases h : c
  · rw [if_pos h]
    exact iff_of_false (by rintro ⟨⟩) fun h' => h'.1 h
  · rw [if_neg h, and_iff_right h]

/-- A computation on every element of a list answers iff it does on each of them. -/
lemma mapM_eq_ok_iff {ε α β : Type} {f : α → Except ε β} {p : α → Prop} {g : α → β} {xs : List α}
    (h : ∀ x ∈ xs, ∀ y, f x = .ok y ↔ p x ∧ y = g x) {ys : List β} :
    xs.mapM f = .ok ys ↔ (∀ x ∈ xs, p x) ∧ ys = xs.map g := by
  induction xs generalizing ys with
  | nil => simp [pure, Except.pure, eq_comm]
  | cons x xs ih =>
    have hx := h x List.mem_cons_self
    have hxs := @ih fun y hy => h y (List.mem_cons_of_mem x hy)
    rw [List.mapM_cons, bind_eq_ok, List.forall_mem_cons, List.map_cons]
    constructor
    · rintro ⟨y, hy, hrest⟩
      obtain ⟨zs, hzs, hys⟩ := bind_eq_ok.mp hrest
      obtain ⟨hp, rfl⟩ := (hx y).mp hy
      obtain ⟨hps, rfl⟩ := hxs.mp hzs
      cases hys
      exact ⟨⟨hp, hps⟩, rfl⟩
    · rintro ⟨⟨hp, hps⟩, rfl⟩
      exact ⟨g x, (hx _).mpr ⟨hp, rfl⟩, bind_eq_ok.mpr ⟨_, hxs.mpr ⟨hps, rfl⟩, rfl⟩⟩

variable {xs : List α} {ys : List β}

lemma forall₂_of_mapM (h : xs.mapM f = .ok ys) : List.Forall₂ (fun x y => f x = .ok y) xs ys := by
  induction xs generalizing ys with
  | nil =>
    cases h
    exact .nil
  | cons x xs ih =>
    rw [List.mapM_cons] at h
    obtain ⟨y, hy, h⟩ := bind_eq_ok.mp h
    obtain ⟨ys, hys, h⟩ := bind_eq_ok.mp h
    cases h
    exact .cons hy (ih hys)

lemma exists_of_forall₂ {R : α → β → Prop} (h : List.Forall₂ R xs ys) {y : β} (hy : y ∈ ys) :
    ∃ x ∈ xs, R x y := by
  induction h with
  | nil => exact absurd hy List.not_mem_nil
  | @cons x y' xs ys hxy _ ih =>
    rcases List.mem_cons.mp hy with rfl | hy
    · exact ⟨x, List.mem_cons_self, hxy⟩
    · obtain ⟨x', hx', hxy'⟩ := ih hy
      exact ⟨x', List.mem_cons_of_mem x hx', hxy'⟩

lemma exists_of_mem_mapM (h : xs.mapM f = .ok ys) {y : β} (hy : y ∈ ys) : ∃ x ∈ xs, f x = .ok y :=
  exists_of_forall₂ (forall₂_of_mapM h) hy

/-- A check of every element of a list passes iff it does for each of them. -/
lemma forM_eq_ok_iff {f : α → Except ε Unit} : xs.forM f = .ok () ↔ ∀ x ∈ xs, f x = .ok () := by
  induction xs with
  | nil => exact iff_of_true rfl fun x hx => absurd hx List.not_mem_nil
  | cons x xs ih =>
    rw [List.forall_mem_cons, ← ih]
    show (f x >>= fun _ => xs.forM f) = _ ↔ _
    exact seq_eq_ok

/-- A fold that adds a value for each element, as long as the sum stays within a bound. -/
lemma foldlM_add_eq_ok {f : Int → α → Except ε Int} {value : α → Int} (bound : Int)
    (hvalue : ∀ x ∈ xs, 0 ≤ value x)
    (hf : ∀ x ∈ xs, ∀ sum, 0 ≤ sum → sum + value x ≤ bound → f sum x = .ok (sum + value x))
    {start : Int} (hstart : 0 ≤ start) (hbound : start + (xs.map value).sum ≤ bound) :
    xs.foldlM f start = .ok (start + (xs.map value).sum) := by
  induction xs generalizing start with
  | nil =>
    rw [List.map_nil, List.sum_nil, add_zero]
    rfl
  | cons x xs ih =>
    rw [List.map_cons, List.sum_cons, ← add_assoc] at hbound ⊢
    have hx := hvalue x List.mem_cons_self
    have hrest : 0 ≤ (xs.map value).sum := by
      refine List.sum_nonneg fun v hv => ?_
      obtain ⟨y, hy, rfl⟩ := List.mem_map.mp hv
      exact hvalue y (List.mem_cons_of_mem x hy)
    rw [List.foldlM_cons, hf x List.mem_cons_self start hstart (by omega)]
    exact ih (fun y hy => hvalue y (List.mem_cons_of_mem x hy))
      (fun y hy => hf y (List.mem_cons_of_mem x hy)) (by omega) hbound

/-- A checked sum answers iff the sum stays within its bound. -/
lemma foldlM_sum_eq_ok_iff {M : Type} [AddCommMonoid M] [PartialOrder M] [IsOrderedAddMonoid M]
    {f : M → α → Except ε M} {value : α → M} {bound : M} (hvalue : ∀ x ∈ xs, 0 ≤ value x)
    (hf : ∀ x ∈ xs, ∀ sum r, 0 ≤ sum → (f sum x = .ok r ↔ sum + value x ≤ bound ∧ r = sum + value x))
    {start r : M} (hstart : 0 ≤ start) (hbound : start ≤ bound) :
    xs.foldlM f start = .ok r ↔
      start + (xs.map value).sum ≤ bound ∧ r = start + (xs.map value).sum := by
  induction xs generalizing start with
  | nil =>
    rw [List.map_nil, List.sum_nil, add_zero]
    constructor
    · rintro ⟨⟩
      exact ⟨hbound, rfl⟩
    · rintro ⟨-, rfl⟩
      rfl
  | cons x xs ih =>
    have hx := hvalue x List.mem_cons_self
    have hxs : ∀ y ∈ xs, 0 ≤ value y := fun y hy => hvalue y (List.mem_cons_of_mem x hy)
    have hrest : 0 ≤ (xs.map value).sum := by
      refine List.sum_nonneg fun v hv => ?_
      obtain ⟨y, hy, rfl⟩ := List.mem_map.mp hv
      exact hxs y hy
    have hnext := add_nonneg hstart hx
    have hfx := hf x List.mem_cons_self start
    have ih' := @ih hxs (fun y hy => hf y (List.mem_cons_of_mem x hy)) (start + value x) hnext
    rw [List.foldlM_cons, bind_eq_ok, List.map_cons, List.sum_cons, ← add_assoc]
    constructor
    · rintro ⟨sum, hsum, h⟩
      obtain ⟨hle, rfl⟩ := (hfx sum hstart).mp hsum
      exact (ih' hle).mp h
    · rintro ⟨hle, rfl⟩
      have hle' := (le_add_of_nonneg_right hrest).trans hle
      exact ⟨_, (hfx _ hstart).mpr ⟨hle', rfl⟩, (ih' hle').mpr ⟨hle, rfl⟩⟩

/-- A fold whose steps answer whatever the accumulator is answers iff each of them does. -/
lemma exists_foldlM_eq_ok_iff {f : β → α → Except ε β} {p : α → Prop}
    (hf : ∀ b, ∀ x ∈ xs, (∃ b', f b x = .ok b') ↔ p x) (b : β) :
    (∃ r, xs.foldlM f b = .ok r) ↔ ∀ x ∈ xs, p x := by
  induction xs generalizing b with
  | nil => exact iff_of_true ⟨b, rfl⟩ fun x hx => absurd hx List.not_mem_nil
  | cons x xs ih =>
    have ih' := fun b => ih (fun b y hy => hf b y (List.mem_cons_of_mem x hy)) b
    rw [List.forall_mem_cons, ← hf b x List.mem_cons_self]
    constructor
    · rintro ⟨r, hr⟩
      rw [List.foldlM_cons] at hr
      obtain ⟨b', hb', hr⟩ := bind_eq_ok.mp hr
      exact ⟨⟨b', hb'⟩, (ih' b').mp ⟨r, hr⟩⟩
    · rintro ⟨⟨b', hb'⟩, hxs⟩
      obtain ⟨r, hr⟩ := (ih' b').mpr hxs
      rw [List.foldlM_cons]
      exact ⟨r, bind_eq_ok.mpr ⟨b', hb', hr⟩⟩

/-- What every step of a fold that answered keeps. -/
lemma foldlM_invariant {f : β → α → Except ε β} {P : β → Prop}
    (hstep : ∀ b, ∀ x ∈ xs, ∀ b', P b → f b x = .ok b' → P b') {b r : β} (hb : P b)
    (h : xs.foldlM f b = .ok r) : P r := by
  induction xs generalizing b with
  | nil =>
    cases h
    exact hb
  | cons x xs ih =>
    rw [List.foldlM_cons] at h
    obtain ⟨b', hx, h⟩ := bind_eq_ok.mp h
    refine ih (fun b y hy => hstep b y (List.mem_cons_of_mem x hy)) ?_ h
    exact hstep b x List.mem_cons_self b' hb hx

/-- A fold whose every step keeps the accumulator keeps it. -/
lemma foldl_eq_self {f : α → β → α} {xs : List β} (h : ∀ a, ∀ x ∈ xs, f a x = a) (a : α) :
    xs.foldl f a = a := by
  induction xs with
  | nil => rfl
  | cons x xs ih =>
    rw [List.foldl_cons, h a x List.mem_cons_self]
    exact ih fun a y hy => h a y (List.mem_cons_of_mem x hy)

/-! ## What a computation can fail with -/

/-- Every error of the computation has the property. -/
def FailsOnly {ε α : Type} (E : ε → Prop) (x : Except ε α) : Prop := ∀ e, x = .error e → E e

namespace FailsOnly

variable {ε α β : Type} {E : ε → Prop}

lemma ok (a : α) : FailsOnly E (.ok a) := by
  rintro e ⟨⟩

lemma error {e : ε} (h : E e) : FailsOnly E (.error e : Except ε α) := by
  rintro e' ⟨⟩
  exact h

/-- **The rule for a sequence.** -/
theorem bind {x : Except ε α} {f : α → Except ε β} (hx : FailsOnly E x)
    (hf : ∀ a, x = .ok a → FailsOnly E (f a)) : FailsOnly E (x >>= f) := by
  rcases x with e | a
  · exact fun e' h => hx e' (by cases h; rfl)
  · exact hf a rfl

lemma map {x : Except ε α} (g : α → β) (hx : FailsOnly E x) : FailsOnly E (g <$> x) := by
  rcases x with e | a
  · exact fun e' h => hx e' (by cases h; rfl)
  · exact ok (g a)

variable {xs : List α}

/-- **The rule for a check of every element.** -/
theorem forM {f : α → Except ε Unit} (h : ∀ x ∈ xs, FailsOnly E (f x)) :
    FailsOnly E (xs.forM f) := by
  induction xs with
  | nil => exact ok ()
  | cons x xs ih =>
    refine bind (h x List.mem_cons_self) fun _ _ => ih fun y hy => ?_
    exact h y (List.mem_cons_of_mem x hy)

/-- **The rule for a computation on every element.** -/
theorem mapM {f : α → Except ε β} (h : ∀ x ∈ xs, FailsOnly E (f x)) : FailsOnly E (xs.mapM f) := by
  induction xs with
  | nil =>
    rw [List.mapM_nil]
    exact ok []
  | cons x xs ih =>
    rw [List.mapM_cons]
    refine bind (h x List.mem_cons_self) fun _ _ => bind (ih fun y hy => ?_) fun _ _ => ok _
    exact h y (List.mem_cons_of_mem x hy)

/-- **The rule for a fold.** -/
theorem foldlM {f : β → α → Except ε β} (h : ∀ b, ∀ x ∈ xs, FailsOnly E (f b x)) (b : β) :
    FailsOnly E (xs.foldlM f b) := by
  induction xs generalizing b with
  | nil => exact ok b
  | cons x xs ih =>
    rw [List.foldlM_cons]
    refine bind (h b x List.mem_cons_self) fun b' _ => ih (fun b y hy => ?_) b'
    exact h b y (List.mem_cons_of_mem x hy)

end FailsOnly

/-! ## Runs -/

section Plain

variable {σ ι : Type} (step : σ → ι → σ)

/-- The state after a list of inputs. -/
def run (s : σ) (xs : List ι) : σ := xs.foldl step s

@[simp] lemma run_nil (s : σ) : run step s [] = s := rfl

@[simp] lemma run_cons (s : σ) (x : ι) (xs : List ι) :
    run step s (x :: xs) = run step (step s x) xs := rfl

lemma run_append (s : σ) (xs ys : List ι) : run step s (xs ++ ys) = run step (run step s xs) ys :=
  List.foldl_append

/-- Every input of the list meets the condition in the state it is applied to. -/
def Guarded (ok : σ → ι → Prop) : σ → List ι → Prop
  | _, [] => True
  | s, x :: xs => ok s x ∧ Guarded ok (step s x) xs

instance decidableGuarded (ok : σ → ι → Prop) [∀ s x, Decidable (ok s x)] (s : σ) :
    (xs : List ι) → Decidable (Guarded step ok s xs)
  | [] => isTrue trivial
  | x :: xs => @instDecidableAnd _ _ _ (decidableGuarded ok (step s x) xs)

variable {step}

variable {ok : σ → ι → Prop} {s : σ} {xs : List ι}

/-- The front of a guarded run is guarded. -/
lemma Guarded.take (h : Guarded step ok s xs) (n : Nat) : Guarded step ok s (xs.take n) := by
  induction n generalizing s xs with
  | zero => exact trivial
  | succ n ih =>
    rcases xs with _ | ⟨x, xs⟩
    · exact trivial
    · exact ⟨h.1, ih h.2⟩

variable {P : σ → Prop}

/-- **Invariant rule.** -/
theorem run_invariant (hstep : ∀ s x, P s → ok s x → P (step s x)) (h0 : P s)
    (hg : Guarded step ok s xs) : P (run step s xs) := by
  induction xs generalizing s with
  | nil => exact h0
  | cons x xs ih => exact ih (hstep s x h0 hg.1) hg.2

/-- **Invariant rule, unguarded.** -/
theorem run_invariant' (hstep : ∀ s x, P s → P (step s x)) (h0 : P s) (xs : List ι) :
    P (run step s xs) := by
  induction xs generalizing s with
  | nil => exact h0
  | cons x xs ih => exact ih (hstep s x h0)

/-- **Exact guards.** If, on states satisfying the invariant, a step keeps it exactly when the
guard holds, then a run stays within the invariant iff it is guarded throughout. -/
theorem forall_run_take_iff (hstep : ∀ s x, P s → (P (step s x) ↔ ok s x)) (h0 : P s) :
    (∀ n, P (run step s (xs.take n))) ↔ Guarded step ok s xs := by
  induction xs generalizing s with
  | nil => simp [Guarded, h0]
  | cons x xs ih =>
    constructor
    · intro h
      have h1 : P (step s x) := h 1
      exact ⟨(hstep s x h0).mp h1, (ih h1).mp fun n => h (n + 1)⟩
    · rintro ⟨hok, hg⟩ n
      cases n with
      | zero => exact h0
      | succ n => exact (ih ((hstep s x h0).mpr hok)).mpr hg n

/-- Guards that say the same wherever a guarded run gets to. -/
lemma guarded_congr {g ok' : σ → ι → Prop} (hstep : ∀ s x, P s → g s x → P (step s x))
    (hiff : ∀ s x, P s → g s x → (ok s x ↔ ok' s x)) (h0 : P s) (hg : Guarded step g s xs) :
    Guarded step ok s xs ↔ Guarded step ok' s xs := by
  induction xs generalizing s with
  | nil => exact Iff.rfl
  | cons x xs ih => exact and_congr (hiff s x h0 hg.1) (ih (hstep s x h0 hg.1) hg.2)

end Plain

section Emitting

variable {σ ι ω : Type} (step : σ → ι → σ × List ω)

/-- The state after a list of inputs with everything emitted on the way. -/
def runLog (s : σ) (xs : List ι) : σ × List ω :=
  run (fun p x => ((step p.1 x).1, p.2 ++ (step p.1 x).2)) (s, []) xs

lemma runLog_nil (s : σ) : runLog step s [] = (s, []) := rfl

/-- What a run emits is what its first step emits, and then the rest. -/
lemma runLog_cons (s : σ) (x : ι) (xs : List ι) :
    runLog step s (x :: xs) =
      ((runLog step (step s x).1 xs).1, (step s x).2 ++ (runLog step (step s x).1 xs).2) := by
  -- What has been emitted before stays in front.
  have hfront : ∀ (xs : List ι) (s : σ) (log : List ω),
      run (fun p x => ((step p.1 x).1, p.2 ++ (step p.1 x).2)) (s, log) xs =
        ((runLog step s xs).1, log ++ (runLog step s xs).2) := by
    intro xs
    induction xs with
    | nil => exact fun s log => by rw [runLog_nil, List.append_nil]; rfl
    | cons x xs ih =>
      intro s log
      have hcons : runLog step s (x :: xs) =
          ((runLog step (step s x).1 xs).1, [] ++ (step s x).2 ++ (runLog step (step s x).1 xs).2) :=
        ih (step s x).1 ([] ++ (step s x).2)
      rw [run_cons, ih, hcons, List.nil_append, List.append_assoc]
  exact hfront xs (step s x).1 ([] ++ (step s x).2)

lemma runLog_concat (s : σ) (xs : List ι) (x : ι) :
    runLog step s (xs ++ [x]) = ((step (runLog step s xs).1 x).1,
      (runLog step s xs).2 ++ (step (runLog step s xs).1 x).2) := by
  unfold runLog
  rw [run_append]
  rfl

variable {step}

variable {s : σ}

/-- **Invariant rule for emitting steps.** The invariant relates the state with the emissions so
far; a step may rely on it and has to re-establish it with its own emissions appended. -/
theorem runLog_invariant {P : σ → List ω → Prop}
    (hstep : ∀ s log x, P s log → P (step s x).1 (log ++ (step s x).2)) (h0 : P s [])
    (xs : List ι) : P (runLog step s xs).1 (runLog step s xs).2 :=
  run_invariant' (P := fun p : σ × List ω => P p.1 p.2)
    (fun p x h => hstep p.1 p.2 x h) h0 xs

/-- **Invariant rule for emitting steps under a guard** on the state alone. -/
theorem runLog_guarded {ok : σ → ι → Prop} {P : σ → List ω → Prop}
    (hstep : ∀ s log x, P s log → ok s x → P (step s x).1 (log ++ (step s x).2)) (h0 : P s [])
    {xs : List ι} (hg : Guarded (fun s x => (step s x).1) ok s xs) :
    P (runLog step s xs).1 (runLog step s xs).2 := by
  -- The emissions do not matter to the guard.
  have hguard : ∀ (s : σ) (log : List ω), Guarded (fun s x => (step s x).1) ok s xs →
      Guarded (fun (p : σ × List ω) x => ((step p.1 x).1, p.2 ++ (step p.1 x).2))
        (fun p x => ok p.1 x) (s, log) xs := by
    clear hg
    induction xs with
    | nil => exact fun _ _ _ => trivial
    | cons x xs ih => exact fun s log hs => ⟨hs.1, ih _ _ hs.2⟩
  exact run_invariant (P := fun p : σ × List ω => P p.1 p.2)
    (fun p x h hok => hstep p.1 p.2 x h hok) h0 (hguard s [] hg)

/-- What holds of everything emitted holds of what each step emits. -/
lemma forall_mem_runLog {p : ω → Prop} {xs : List ι} :
    (∀ e ∈ (runLog step s xs).2, p e) ↔
      Guarded (fun s x => (step s x).1) (fun s x => ∀ e ∈ (step s x).2, p e) s xs := by
  induction xs generalizing s with
  | nil => exact iff_of_true nofun trivial
  | cons x xs ih => rw [runLog_cons, List.forall_mem_append, ih, Guarded]

end Emitting

end Marketfeed
