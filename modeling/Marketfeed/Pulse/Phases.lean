import Mathlib.Algebra.Ring.Int.Defs
import Mathlib.Order.Basic
import Mathlib.Tactic.Common

/-!
# The phase machine

`crates/event-pulse/src/mechanics.rs`: evidence moves a phase along a table of transitions, each of
which must be asked for during a dwell before it is taken. `advance_to` catches up through every
deadline that has passed.
-/

namespace Marketfeed.Pulse

inductive Phase
  | normal | buildup | ignition | cascade | exhaustion | aftermath | invalid
deriving DecidableEq

structure FamilyFlags where
  price : Bool
  flow : Bool
  book : Bool
  derivatives : Bool
  breadth : Bool
deriving DecidableEq

def FamilyFlags.count (f : FamilyFlags) : Nat :=
  ([f.price, f.flow, f.book, f.derivatives, f.breadth].filter id).length

def FamilyFlags.intensity (f : FamilyFlags) : Int :=
  f.price.toInt * 25000000 + f.flow.toInt * 25000000 + f.book.toInt * 15000000 +
    f.derivatives.toInt * 20000000 + f.breadth.toInt * 15000000

def phaseScale : Int := 100000000

/-- Source: `MechanicsEvidence`, without the direction, which the machine does not read -/
structure MechanicsEvidence where
  availableAtNs : Int
  families : FamilyFlags
  intensity : Int
  confidence : Int
  reversalRisk : Int
  valid : Bool
  fullyWarmed : Bool
  spreadBps : Int
deriving DecidableEq

inductive PhaseError
  | timeRegression
  | scoreDomain
deriving DecidableEq

/-- Source: `Candidate` -/
structure PhaseCandidate where
  target : Phase
  startNs : Int
  dwellNs : Int
deriving DecidableEq

structure PhaseMachine where
  phase : Phase
  evidence : Option MechanicsEvidence
  candidate : Option PhaseCandidate
  nowNs : Option Int
deriving DecidableEq

/-- The phase the evidence asks for, and its dwell. -/
def transition (phase : Phase) (e : MechanicsEvidence) : Option (Phase × Int) :=
  if !e.valid ∧ phase ≠ .invalid then some (.invalid, 0)
  else
    let high := e.intensity ≥ 80000000 ∧ e.families.price ∧ e.families.flow
    let wide := e.families.derivatives ∨ e.families.breadth
    match phase with
    | .invalid =>
      if e.fullyWarmed ∧ e.intensity < 40000000 then some (.normal, 1000000000) else none
    | .normal =>
      if high then some (.ignition, 100000000)
      else if e.intensity ≥ 60000000 ∧ e.confidence ≥ 80000000 ∧ e.families.count ≥ 2 then
        some (.buildup, 250000000)
      else none
    | .buildup =>
      if high then some (.ignition, 100000000)
      else if e.intensity < 40000000 then some (.normal, 500000000)
      else none
    | .ignition =>
      if e.intensity ≥ 85000000 ∧ wide then some (.cascade, 250000000)
      else if e.reversalRisk ≥ 65000000 then some (.exhaustion, 250000000)
      else none
    | .cascade =>
      if e.reversalRisk ≥ 65000000 ∨ e.intensity ≤ 40000000 then some (.exhaustion, 250000000)
      else none
    | .exhaustion =>
      if e.intensity ≥ 85000000 ∧ e.reversalRisk < 35000000 ∧ wide then
        some (.cascade, 250000000)
      else if e.intensity < 60000000 ∧ e.reversalRisk ≥ 50000000 then
        some (.aftermath, 1000000000)
      else none
    | .aftermath =>
      if e.intensity ≥ 60000000 ∧ e.reversalRisk < 35000000 then some (.buildup, 500000000)
      else if e.intensity < 40000000 ∧ e.reversalRisk < 20000000 ∧
          e.spreadBps < 8 * phaseScale then
        some (.normal, 5000000000)
      else none

/-- Source: `i64::checked_add` -/
def checkedAddNs (a b : Int) : Option Int :=
  if -2 ^ 63 ≤ a + b ∧ a + b < 2 ^ 63 then some (a + b) else none

/-- The phases that have a way to `invalid` without a dwell. -/
def Phase.pending : Phase → Nat
  | .invalid => 0
  | _ => 1

variable {p q : Phase} {w : Int} {e : MechanicsEvidence}

/-- A dwell is long, but for the way to `invalid`, which has none. -/
lemma transition_dwell (h : transition p e = some (q, w)) :
    2 ≤ w ∨ (w = 0 ∧ q = .invalid ∧ p ≠ .invalid ∧ e.valid = false) := by
  unfold transition at h
  grind

lemma transition_ne (h : transition p e = some (q, w)) : q ≠ p := by
  unfold transition at h
  grind

/-- The phase and the target of a transition decide its dwell. -/
lemma transition_dwell_unique {w' : Int} {e' : MechanicsEvidence}
    (h : transition p e = some (q, w)) (h' : transition p e' = some (q, w')) : w = w' := by
  unfold transition at h h'
  cases p <;> grind

lemma checkedAddNs_eq_some {a b c : Int} (h : checkedAddNs a b = some c) : c = a + b := by
  unfold checkedAddNs at h
  split at h
  · exact (Option.some.inj h).symm
  · cases h

namespace PhaseMachine

def new : PhaseMachine := ⟨.normal, none, none, none⟩

/-- The transition out of a phase that the evidence in force asks for. -/
def enabled (m : PhaseMachine) (phase : Phase) : Option (Phase × Int) :=
  m.evidence.bind (transition phase)

/-- Source: the `match self.candidate` of `refresh_candidate` -/
def keepOrStart (old : Option PhaseCandidate) (target : Phase) (atNs dwellNs : Int) :
    PhaseCandidate :=
  match old with
  | some c => if c.target = target then c else ⟨target, atNs, dwellNs⟩
  | none => ⟨target, atNs, dwellNs⟩

def refreshCandidate (m : PhaseMachine) (atNs : Int) : PhaseMachine :=
  match m.evidence with
  | none => m
  | some e =>
    match transition m.phase e with
    | none => { m with candidate := none }
    | some (target, dwellNs) =>
      { m with candidate := some (keepOrStart m.candidate target atNs dwellNs) }

/-- What the loop of `advance_to` still has to do: time, then the way to `invalid`, which has no
dwell. -/
def remaining (atNs : Int) (m : PhaseMachine) : Nat :=
  2 * (atNs - m.nowNs.getD atNs).toNat + m.phase.pending +
    m.candidate.elim 0 fun c => 2 * (atNs - (c.startNs + c.dwellNs)).toNat + 2

/-- What `refreshCandidate` leaves: the evidence's transition, with the old candidate kept where it
had that target. -/
lemma refreshCandidate_eq (m : PhaseMachine) (atNs : Int) :
    m.refreshCandidate atNs = { m with
      candidate := if m.evidence = none then m.candidate else
        (m.enabled m.phase).map fun t => keepOrStart m.candidate t.1 atNs t.2 } := by
  obtain ⟨phase, evidence, candidate, nowNs⟩ := m
  cases evidence with
  | none => rfl
  | some e =>
    rw [if_neg (Option.some_ne_none e), refreshCandidate, enabled, Option.bind_some]
    dsimp only
    cases transition phase e <;> rfl

@[simp] lemma refreshCandidate_phase (m : PhaseMachine) (atNs : Int) :
    (m.refreshCandidate atNs).phase = m.phase := by rw [refreshCandidate_eq]

@[simp] lemma refreshCandidate_evidence (m : PhaseMachine) (atNs : Int) :
    (m.refreshCandidate atNs).evidence = m.evidence := by rw [refreshCandidate_eq]

@[simp] lemma refreshCandidate_nowNs (m : PhaseMachine) (atNs : Int) :
    (m.refreshCandidate atNs).nowNs = m.nowNs := by rw [refreshCandidate_eq]

variable {m : PhaseMachine} {atNs : Int} {c : PhaseCandidate}

/-- A refreshed candidate is the old one, or starts now with the evidence's transition. -/
lemma refreshed_candidate (hc : (m.refreshCandidate atNs).candidate = some c) :
    m.candidate = some c ∨ c.startNs = atNs ∧
      ∃ e ∈ m.evidence, transition m.phase e = some (c.target, c.dwellNs) := by
  rw [refreshCandidate_eq] at hc
  dsimp only at hc
  split at hc
  · exact .inl hc
  · obtain ⟨⟨t, w⟩, hen, rfl⟩ := Option.map_eq_some_iff.mp hc
    obtain ⟨e, he, htr⟩ := Option.bind_eq_some_iff.mp hen
    unfold keepOrStart
    split
    · next old hold =>
        split
        · exact .inl hold
        · exact .inr ⟨rfl, e, he, htr⟩
    · exact .inr ⟨rfl, e, he, htr⟩

/-- A deadline that has passed leaves less to do. -/
lemma remaining_lt {deadline : Int}
    (hc : (m.refreshCandidate (m.nowNs.getD atNs)).candidate = some c)
    (hd : deadline = c.startNs + c.dwellNs) (hat : deadline ≤ atNs) :
    remaining atNs { m with nowNs := some deadline, phase := c.target, candidate := none } <
      m.remaining atNs := by
  have hpending : c.target.pending ≤ 1 := by cases c.target <;> decide
  simp only [remaining, Option.getD_some, Option.elim_none]
  rcases refreshed_candidate hc with hold | ⟨hstart, e, -, htr⟩
  · rw [hold, Option.elim_some]
    omega
  · rcases transition_dwell htr with hw | ⟨hw, hinvalid, hp, -⟩
    · cases m.candidate <;> simp only [Option.elim_none, Option.elim_some] <;> omega
    · have hone : m.phase.pending = 1 := by revert hp; cases m.phase <;> simp [Phase.pending]
      have hzero : c.target.pending = 0 := by rw [hinvalid]; rfl
      cases m.candidate <;> simp only [Option.elim_none, Option.elim_some] <;> omega

/-- Source: the `loop` of `advance_to` -/
def catchUp (atNs : Int) (m : PhaseMachine) : PhaseMachine × Except PhaseError Unit :=
  match _hc : (m.refreshCandidate (m.nowNs.getD atNs)).candidate with
  | none => (m.refreshCandidate (m.nowNs.getD atNs), .ok ())
  | some c =>
    match _hd : checkedAddNs c.startNs c.dwellNs with
    | none => (m.refreshCandidate (m.nowNs.getD atNs), .error .scoreDomain)
    | some deadline =>
      if deadline > atNs then (m.refreshCandidate (m.nowNs.getD atNs), .ok ())
      else catchUp atNs { m with nowNs := some deadline, phase := c.target, candidate := none }
termination_by m.remaining atNs
decreasing_by exact remaining_lt _hc (checkedAddNs_eq_some _hd) (Int.not_lt.mp ‹_›)

/-- Source: `advance_to`, after its loop -/
def settle (atNs : Int) :
    PhaseMachine × Except PhaseError Unit → PhaseMachine × Except PhaseError Unit
  | (m, .error err) => (m, .error err)
  | (m, .ok ()) => ({ m with nowNs := some atNs }.refreshCandidate atNs, .ok ())

/-- A failed call still returns the machine it leaves behind. -/
def advanceTo (m : PhaseMachine) (atNs : Int) : PhaseMachine × Except PhaseError Unit :=
  if m.nowNs.any (atNs < ·) then (m, .error .timeRegression) else settle atNs (catchUp atNs m)

/-- A failed call still returns the machine it leaves behind. -/
def observe (m : PhaseMachine) (e : MechanicsEvidence) : PhaseMachine × Except PhaseError Unit :=
  let inScale (score : Int) : Bool := 0 ≤ score && score ≤ phaseScale
  if m.nowNs.any (e.availableAtNs < ·) then (m, .error .timeRegression)
  else if !inScale e.intensity ∨ !inScale e.confidence ∨ !inScale e.reversalRisk ∨
      e.intensity ≠ e.families.intensity then
    (m, .error .scoreDomain)
  else
    match m.advanceTo e.availableAtNs with
    | (m, .error err) => (m, .error err)
    | (m, .ok ()) =>
      if !e.valid then
        ({ m with evidence := some e, phase := .invalid, candidate := none }, .ok ())
      else ({ m with evidence := some e }.refreshCandidate e.availableAtNs, .ok ())

/-- The phase at a time from a machine's last call on, as a call at that time would leave it. -/
def phaseAt (m : PhaseMachine) (atNs : Int) : Phase := (m.advanceTo atNs).1.phase

/-! ## Catching up -/

/-- One round of the loop. -/
lemma catchUp_eq (atNs : Int) (m : PhaseMachine) :
    m.catchUp atNs =
      let r := m.refreshCandidate (m.nowNs.getD atNs)
      match r.candidate with
      | none => (r, .ok ())
      | some c =>
        match checkedAddNs c.startNs c.dwellNs with
        | none => (r, .error .scoreDomain)
        | some deadline =>
          if deadline > atNs then (r, .ok ())
          else catchUp atNs
            { m with nowNs := some deadline, phase := c.target, candidate := none } := by
  rw [catchUp]
  dsimp only
  split <;> rename_i hc <;> rw [hc]
  dsimp only
  split <;> rename_i hd <;> rw [hd]

/-- Refreshing changes nothing, whatever the time. -/
def Refreshed (m : PhaseMachine) : Prop :=
  ∀ now atNs, { m with nowNs := now }.refreshCandidate atNs = { m with nowNs := now }

lemma refreshed_refreshCandidate (m : PhaseMachine) (a : Int) :
    (m.refreshCandidate a).Refreshed := by
  intro now b
  rw [refreshCandidate_eq, refreshCandidate_eq m]
  unfold enabled
  dsimp only
  split
  · rfl
  · cases m.evidence.bind (transition m.phase) with
    | none => rfl
    | some t =>
      have hkeep (c : Option PhaseCandidate) :
          keepOrStart (some (keepOrStart c t.1 a t.2)) t.1 b t.2 = keepOrStart c t.1 a t.2 := by
        unfold keepOrStart
        grind
      simp only [Option.map_some, hkeep]

lemma Refreshed.settle_ok (h : m.Refreshed) (now : Option Int) (atNs : Int) :
    settle atNs ({ m with nowNs := now }, .ok ()) = ({ m with nowNs := some atNs }, .ok ()) :=
  congrArg (·, Except.ok ()) (h (some atNs) atNs)

/-- A machine that has seen evidence has a clock. -/
def Clocked (m : PhaseMachine) : Prop := m.nowNs = none → m.evidence = none

lemma Clocked.refresh_getD (h : m.Clocked) (a b : Int) :
    m.refreshCandidate (m.nowNs.getD a) = m.refreshCandidate (m.nowNs.getD b) := by
  cases hnow : m.nowNs with
  | none => rw [refreshCandidate_eq, refreshCandidate_eq, if_pos (h hnow), if_pos (h hnow)]
  | some now => rfl

lemma advanceTo_eq (h : ∀ now ∈ m.nowNs, now ≤ atNs) :
    m.advanceTo atNs = settle atNs (m.catchUp atNs) := by
  refine if_neg fun hany => ?_
  cases hnow : m.nowNs with
  | none => rw [hnow] at hany; cases hany
  | some now =>
    rw [hnow, Option.any_some, decide_eq_true_eq] at hany
    exact absurd (h now hnow) (Int.not_le.mpr hany)

section rounds

variable {m r : PhaseMachine} {atNs deadline : Int} {c : PhaseCandidate}

variable (hr : m.refreshCandidate (m.nowNs.getD atNs) = r)

include hr

lemma settle_of_stop (hstop : m.catchUp atNs = (r, .ok ())) :
    settle atNs (m.catchUp atNs) = ({ r with nowNs := some atNs }, .ok ()) := by
  have hrefreshed : r.Refreshed := hr ▸ refreshed_refreshCandidate m _
  rw [hstop]
  exact hrefreshed.settle_ok r.nowNs atNs

lemma settle_catchUp_idle (hc : r.candidate = none) :
    settle atNs (m.catchUp atNs) = ({ r with nowNs := some atNs }, .ok ()) := by
  apply settle_of_stop hr
  rw [catchUp_eq, hr]
  simp only [hc]

lemma settle_catchUp_overflow (hc : r.candidate = some c)
    (hd : checkedAddNs c.startNs c.dwellNs = none) :
    settle atNs (m.catchUp atNs) = (r, .error .scoreDomain) := by
  have hstop : m.catchUp atNs = (r, .error .scoreDomain) := by
    rw [catchUp_eq, hr]
    simp only [hc, hd]
  rw [hstop]
  rfl

lemma settle_catchUp_waits (hc : r.candidate = some c)
    (hd : checkedAddNs c.startNs c.dwellNs = some deadline) (hat : atNs < deadline) :
    settle atNs (m.catchUp atNs) = ({ r with nowNs := some atNs }, .ok ()) := by
  apply settle_of_stop hr
  rw [catchUp_eq, hr]
  simp only [hc, hd, gt_iff_lt, if_pos hat]

lemma settle_catchUp_takes (hc : r.candidate = some c)
    (hd : checkedAddNs c.startNs c.dwellNs = some deadline) (hat : deadline ≤ atNs) :
    settle atNs (m.catchUp atNs) = settle atNs
      (catchUp atNs { r with nowNs := some deadline, phase := c.target, candidate := none }) := by
  have hsame : { m with candidate := r.candidate } = r := by rw [← hr, refreshCandidate_eq]
  rw [catchUp_eq, hr]
  simp only [hc, hd, gt_iff_lt, if_neg (Int.not_lt.mpr hat)]
  rw [← hsame]

end rounds

variable {t₁ t₂ : Int}

/-- The loop to `t₂` goes through where the loop to `t₁` stopped, or fails where that failed. -/
lemma settle_catchUp_split (h : t₁ ≤ t₂) (hm : m.Clocked) :
    match settle t₁ (m.catchUp t₁) with
    | (m₁, .ok ()) => settle t₂ (m₁.catchUp t₂) = settle t₂ (m.catchUp t₂)
    | (m₁, .error err) => settle t₂ (m.catchUp t₂) = (m₁, .error err) := by
  obtain ⟨r, hr⟩ : ∃ r, m.refreshCandidate (m.nowNs.getD t₁) = r := ⟨_, rfl⟩
  have hr₂ : m.refreshCandidate (m.nowNs.getD t₂) = r := (hm.refresh_getD t₂ t₁).trans hr
  have hrefreshed : r.Refreshed := hr ▸ refreshed_refreshCandidate m _
  have hagain := hrefreshed (some t₁) t₁
  induction m using catchUp.induct t₁ generalizing r with
  | case1 m hc =>
    rw [hr] at hc
    rw [settle_catchUp_idle hr hc, settle_catchUp_idle hr₂ hc]
    exact settle_catchUp_idle (r := { r with nowNs := some t₁ }) hagain hc
  | case2 m c hc hd =>
    rw [hr] at hc
    rw [settle_catchUp_overflow hr hc hd]
    exact settle_catchUp_overflow hr₂ hc hd
  | case3 m c hc deadline hd hlate =>
    rw [hr] at hc
    rw [settle_catchUp_waits hr hc hd hlate]
    rcases Int.lt_or_le t₂ deadline with hlater | hdue
    · rw [settle_catchUp_waits hr₂ hc hd hlater]
      exact settle_catchUp_waits (r := { r with nowNs := some t₁ }) hagain hc hd hlater
    · rw [settle_catchUp_takes hr₂ hc hd hdue]
      exact settle_catchUp_takes (r := { r with nowNs := some t₁ }) hagain hc hd hdue
  | case4 m c hc deadline hd hdue ih =>
    rw [hr] at hc
    have hdue : deadline ≤ t₁ := Int.not_lt.mp hdue
    rw [settle_catchUp_takes hr hc hd hdue,
      settle_catchUp_takes hr₂ hc hd (Int.le_trans hdue h)]
    have hsame : { r with nowNs := some deadline, phase := c.target, candidate := none } =
        { m with nowNs := some deadline, phase := c.target, candidate := none } := by
      rw [← hr, refreshCandidate_eq]
    rw [hsame]
    exact ih (fun hnone => by cases hnone) _ rfl rfl (refreshed_refreshCandidate _ _)
      (refreshed_refreshCandidate _ _ _ _)

variable {t : Int}

lemma le_of_advanceTo_ok (h : (m.advanceTo t).2 = .ok ()) : ∀ now ∈ m.nowNs, now ≤ t := by
  intro now hnow
  by_contra hlt
  have hany : m.nowNs.any (t < ·) = true := by
    rw [Option.mem_def.mp hnow, Option.any_some, decide_eq_true_eq]
    exact Int.not_le.mp hlt
  rw [advanceTo, if_pos hany] at h
  cases h

lemma settle_nowNs {x : PhaseMachine × Except PhaseError Unit} (h : settle t x = (m, .ok ())) :
    m.nowNs = some t := by
  obtain ⟨x, err | u⟩ := x
  · cases h
  · obtain rfl := (Prod.mk.inj h).1
    rw [refreshCandidate_nowNs]

lemma advanceTo_nowNs {m' : PhaseMachine} (h : m.advanceTo t = (m', .ok ())) :
    m'.nowNs = some t := by
  rw [advanceTo_eq (le_of_advanceTo_ok (congrArg Prod.snd h))] at h
  exact settle_nowNs h

/-- **A wait may be cut anywhere.** -/
theorem advanceTo_advanceTo {m₁ : PhaseMachine} (hm : m.Clocked) (h : t₁ ≤ t₂)
    (hok : m.advanceTo t₁ = (m₁, .ok ())) : m₁.advanceTo t₂ = m.advanceTo t₂ := by
  have hnow := le_of_advanceTo_ok (congrArg Prod.snd hok)
  have hsplit := settle_catchUp_split h hm
  rw [← advanceTo_eq hnow, hok] at hsplit
  rw [advanceTo_eq fun now hmem => Int.le_trans (hnow now hmem) h, ← hsplit, advanceTo_eq]
  intro now hmem
  rw [advanceTo_nowNs hok] at hmem
  exact Option.some.inj hmem ▸ h

/-- A wait that succeeds succeeds up to any time on the way. -/
lemma advanceTo_ok_of_le {m₂ : PhaseMachine} (hm : m.Clocked) (hnow : ∀ now ∈ m.nowNs, now ≤ t₁)
    (h : t₁ ≤ t₂) (hok : m.advanceTo t₂ = (m₂, .ok ())) : ∃ m₁, m.advanceTo t₁ = (m₁, .ok ()) := by
  have hsplit := settle_catchUp_split h hm
  rw [← advanceTo_eq hnow,
    ← advanceTo_eq fun now hmem => Int.le_trans (hnow now hmem) h, hok] at hsplit
  rcases hres : m.advanceTo t₁ with ⟨m₁, err | u⟩
  · rw [hres] at hsplit
    cases hsplit
  · exact ⟨m₁, rfl⟩

/-- Advancing keeps what refreshing keeps, if taking a candidate and setting the clock keep it. -/
lemma advanceTo_keeps {P : PhaseMachine → Prop}
    (hrefresh : ∀ m a, P m → P (m.refreshCandidate a))
    (htake : ∀ (m : PhaseMachine) (c : PhaseCandidate) (d : Int), P m →
      (m.refreshCandidate (m.nowNs.getD t)).candidate = some c →
      P { m with nowNs := some d, phase := c.target, candidate := none })
    (hclock : ∀ m, P m → P { m with nowNs := some t }) (h : P m) : P (m.advanceTo t).1 := by
  have hloop : P (m.catchUp t).1 := by
    induction m using catchUp.induct t with
    | case1 m hc => rw [catchUp_eq]; simpa [hc] using hrefresh m _ h
    | case2 m c hc hd => rw [catchUp_eq]; simpa [hc, hd] using hrefresh m _ h
    | case3 m c hc deadline hd hlate =>
      rw [catchUp_eq]
      simpa [hc, hd, if_pos hlate] using hrefresh m _ h
    | case4 m c hc deadline hd hdue ih =>
      rw [catchUp_eq]
      simp only [hc, hd, if_neg hdue]
      exact ih (htake m c deadline h hc)
  rw [advanceTo]
  split
  · exact h
  · rcases hx : m.catchUp t with ⟨x, err | u⟩ <;> rw [hx] at hloop
    · exact hloop
    · exact hrefresh _ t (hclock x hloop)

/-- Advancing keeps the evidence, and what every candidate it may take keeps of the phase. -/
lemma advanceTo_phase {e : Option MechanicsEvidence} {I : Phase → Prop}
    (htake : ∀ (m : PhaseMachine) (c : PhaseCandidate), m.evidence = e → I m.phase →
      (m.refreshCandidate (m.nowNs.getD t)).candidate = some c → I c.target) (he : m.evidence = e)
    (h : I m.phase) : (m.advanceTo t).1.evidence = e ∧ I (m.advanceTo t).1.phase :=
  advanceTo_keeps (P := fun m => m.evidence = e ∧ I m.phase) (fun m a hm => by simpa using hm)
    (fun m c _ hm hc => ⟨hm.1, htake m c hm.1 hm.2 hc⟩) (fun _ hm => hm) ⟨he, h⟩

lemma advanceTo_evidence (m : PhaseMachine) (t : Int) : (m.advanceTo t).1.evidence = m.evidence :=
  (advanceTo_phase (I := fun _ => True) (fun _ _ _ _ _ => trivial) rfl trivial).1

variable {e : MechanicsEvidence}

lemma observe_ok {m' : PhaseMachine} (h : m.observe e = (m', .ok ())) :
    ∃ x, m.advanceTo e.availableAtNs = (x, .ok ()) ∧ m' =
      if e.valid then { x with evidence := some e }.refreshCandidate e.availableAtNs
      else { x with evidence := some e, phase := .invalid, candidate := none } := by
  unfold observe at h
  dsimp only at h
  split at h
  · cases h
  · split at h
    · cases h
    · split at h
      · cases h
      · next x hx =>
          refine ⟨x, hx, ?_⟩
          cases hvalid : e.valid with
          | true | false => rw [hvalid] at h; exact (Prod.mk.inj h).1.symm

/-! ## Fixed evidence -/

/-- How many transitions fixed valid evidence can still ask for. -/
def rank (e : MechanicsEvidence) (p : Phase) : Nat :=
  if e.intensity < 60000000 then
    match p with
    | .ignition => 3 | .cascade => 3 | .exhaustion => 2 | .aftermath => 1 | .buildup => 1
    | .invalid => 1 | .normal => 0
  else if e.reversalRisk < 50000000 then
    match p with
    | .normal => 3 | .aftermath => 3 | .buildup => 2 | .ignition => 1 | .exhaustion => 1
    | .cascade => 0 | .invalid => 0
  else
    match p with
    | .normal => 4 | .buildup => 3 | .ignition => 2 | .cascade => 1 | .exhaustion => 0
    | .aftermath => 0 | .invalid => 0

lemma rank_le (e : MechanicsEvidence) (p : Phase) : rank e p ≤ 4 := by
  unfold rank
  grind

lemma rank_lt (hvalid : e.valid = true) {p q : Phase} {w : Int}
    (h : transition p e = some (q, w)) : rank e q < rank e p := by
  unfold transition at h
  unfold rank
  cases p <;> grind

/-- A refreshed candidate of a machine with evidence goes where the evidence asks. -/
lemma refreshed_target (he : m.evidence = some e) {a : Int}
    (hc : (m.refreshCandidate a).candidate = some c) :
    ∃ w, transition m.phase e = some (c.target, w) := by
  rw [refreshCandidate_eq] at hc
  dsimp only at hc
  rw [if_neg (by rw [he]; exact Option.some_ne_none e), enabled, he, Option.bind_some] at hc
  obtain ⟨tr, htr, rfl⟩ := Option.map_eq_some_iff.mp hc
  refine ⟨tr.2, ?_⟩
  unfold keepOrStart
  grind

lemma advanceTo_rank (he : m.evidence = some e) (hvalid : e.valid = true) (t : Int) :
    m.phaseAt t = m.phase ∨ rank e (m.phaseAt t) < rank e m.phase := by
  refine (advanceTo_phase (I := fun p => p = m.phase ∨ rank e p < rank e m.phase)
    (fun m' c he' hI hc => ?_) he (.inl rfl)).2
  obtain ⟨w, htr⟩ := refreshed_target he' hc
  have hlt := rank_lt hvalid htr
  rcases hI with hI | hI
  · exact .inr (hI ▸ hlt)
  · exact .inr (Nat.lt_trans hlt hI)

/-- Every change seen at one of the times costs a rank. -/
lemma length_le_rank (hm : m.Clocked) (he : m.evidence = some e) (hvalid : e.valid = true)
    {ts : List Int} (hok : ∀ t' ∈ t :: ts, (m.advanceTo t').2 = .ok ())
    (h : List.IsChain (fun a b => a ≤ b ∧ m.phaseAt a ≠ m.phaseAt b) (t :: ts)) :
    ts.length ≤ rank e (m.phaseAt t) := by
  induction ts generalizing t with
  | nil => exact Nat.zero_le _
  | cons b ts ih =>
    rw [List.isChain_cons_cons] at h
    have hrest := ih (fun t' ht' => hok t' (List.mem_cons_of_mem t ht')) h.2
    obtain ⟨x, hx⟩ : ∃ x, m.advanceTo t = (x, .ok ()) :=
      ⟨_, Prod.ext rfl (hok t List.mem_cons_self)⟩
    have hxe : x.evidence = some e := by rw [← he, ← advanceTo_evidence m t, hx]
    have hxt : m.phaseAt t = x.phase := by rw [phaseAt, hx]
    have hxb : m.phaseAt b = x.phaseAt b := by rw [phaseAt, phaseAt, advanceTo_advanceTo hm h.1.1 hx]
    rcases advanceTo_rank hxe hvalid b with hsame | hlt
    · exact absurd (hxt.trans (hsame.symm.trans hxb.symm)) h.1.2
    · rw [List.length_cons, hxt]
      rw [hxb] at hrest
      omega

/-! ## Arbitrary calls -/

/-- The machines any calls leave, failed ones included. -/
inductive Reached : PhaseMachine → Prop
  | new : Reached new
  | observe {m : PhaseMachine} (e : MechanicsEvidence) : Reached m → Reached (m.observe e).1
  | advanceTo {m : PhaseMachine} (t : Int) : Reached m → Reached (m.advanceTo t).1

/-- What a call of `observe` leaves: the machine itself, one that was only advanced, or one that
took the evidence. -/
lemma observe_cases (m : PhaseMachine) (e : MechanicsEvidence) :
    (m.observe e).1 = m ∨ (m.observe e).1 = (m.advanceTo e.availableAtNs).1 ∨
      ∃ m', m.observe e = (m', .ok ()) := by
  unfold observe
  dsimp only
  split
  · exact .inl rfl
  · split
    · exact .inl rfl
    · split
      · next hx => exact .inr (.inl (by rw [hx]))
      · split
        · exact .inr (.inr ⟨_, rfl⟩)
        · exact .inr (.inr ⟨_, rfl⟩)

lemma Clocked.advanceTo (h : m.Clocked) (t : Int) : (m.advanceTo t).1.Clocked :=
  advanceTo_keeps (fun m a hm hnone => by simpa using hm (by simpa using hnone))
    (fun _ _ _ _ _ hnone => by cases hnone) (fun _ _ hnone => by cases hnone) h

/-- What a wait keeps, and then an evidence taken at its time. -/
lemma Reached.keeps {P : PhaseMachine → Prop} (hnew : P PhaseMachine.new)
    (hadvance : ∀ m t, P m → P (m.advanceTo t).1)
    (htake : ∀ x e, P x → x.nowNs = some e.availableAtNs → P
      (if e.valid then { x with evidence := some e }.refreshCandidate e.availableAtNs
      else { x with evidence := some e, phase := .invalid, candidate := none })) (h : Reached m) :
    P m := by
  induction h with
  | new => exact hnew
  | @observe m e _ ih =>
    rcases m.observe_cases e with hsame | hadv | ⟨m', hok⟩
    · rwa [hsame]
    · rw [hadv]
      exact hadvance m _ ih
    · obtain ⟨x, hx, hm'⟩ := observe_ok hok
      rw [hok, hm']
      have hkeep := hadvance m e.availableAtNs ih
      rw [hx] at hkeep
      exact htake x e hkeep (advanceTo_nowNs hx)
  | @advanceTo m t _ ih => exact hadvance m t ih

lemma Reached.clocked (h : Reached m) : m.Clocked := by
  refine h.keeps (fun _ => rfl) (fun m t hm => hm.advanceTo t) ?_
  intro x e _ hnow hnone
  split at hnone <;> simp [hnow] at hnone

/-- Under invalid evidence the loop ends in `invalid`: a deadline that leaves it is followed by the
way back, which has no dwell. -/
lemma catchUp_invalid (he : m.evidence = some e) (hinvalid : e.valid = false)
    (h : m.phase ≠ .invalid → ∃ now ≤ t, checkedAddNs now 0 = some now ∧
      (m.refreshCandidate (m.nowNs.getD t)).candidate = some ⟨.invalid, now, 0⟩) :
    (m.catchUp t).1.phase = .invalid := by
  induction m using catchUp.induct t with
  | case1 m hc =>
    rw [catchUp_eq]
    simp only [hc, refreshCandidate_phase]
    by_contra hp
    obtain ⟨now, -, -, hc'⟩ := h hp
    cases hc.symm.trans hc'
  | case2 m c hc hd =>
    rw [catchUp_eq]
    simp only [hc, hd, refreshCandidate_phase]
    by_contra hp
    obtain ⟨now, -, hrange, hc'⟩ := h hp
    obtain rfl := Option.some.inj (hc.symm.trans hc')
    cases hrange.symm.trans hd
  | case3 m c hc deadline hd hlate =>
    rw [catchUp_eq]
    simp only [hc, hd, if_pos hlate, refreshCandidate_phase]
    by_contra hp
    obtain ⟨now, hle, hrange, hc'⟩ := h hp
    obtain rfl := Option.some.inj (hc.symm.trans hc')
    obtain rfl := Option.some.inj (hrange.symm.trans hd)
    exact absurd hle (Int.not_le.mpr hlate)
  | case4 m c hc deadline hd hdue ih =>
    rw [catchUp_eq]
    simp only [hc, hd, if_neg hdue]
    refine ih he fun hp => ⟨deadline, Int.not_lt.mp hdue, ?_, ?_⟩
    · unfold checkedAddNs at hd ⊢
      grind
    · have htr : transition c.target e = some (.invalid, 0) := by
        rw [transition, if_pos ⟨by rw [hinvalid]; rfl, hp⟩]
      rw [refreshCandidate_eq]
      simp [enabled, he, htr, keepOrStart]

/-- Under invalid evidence every call leaves the phase `invalid`. -/
lemma Reached.invalid (h : Reached m) (he : m.evidence = some e) (hinvalid : e.valid = false) :
    m.phase = .invalid := by
  refine h.keeps (P := fun m => ∀ e, m.evidence = some e → e.valid = false → m.phase = .invalid)
    ?_ ?_ ?_ e he hinvalid
  · intro e he
    cases he
  · intro m t hm e he hinvalid
    rw [advanceTo_evidence] at he
    have hp := hm e he hinvalid
    have hloop := catchUp_invalid (t := t) he hinvalid fun hne => absurd hp hne
    rw [PhaseMachine.advanceTo]
    split
    · exact hp
    · rcases hx : m.catchUp t with ⟨x, err | u⟩ <;> rw [hx] at hloop
      · exact hloop
      · simpa [settle] using hloop
  · intro x e _ _ e' he' hinvalid
    split at he'
    · next hvalid =>
        rw [refreshCandidate_evidence] at he'
        obtain rfl := Option.some.inj he'
        cases hinvalid.symm.trans hvalid
    · next hvalid => rw [if_neg hvalid]

end PhaseMachine

end Marketfeed.Pulse
