import Marketfeed.Pulse.Phases

/-!
# Recovery from `invalid`

When a `PhaseMachine` leaves `invalid`, and what evidence was in force until then. The candidate for
the way out is made of whatever evidence is stored, and kept while the target stays the same; so
invalid evidence that is calm otherwise gives the dwell a start.
-/

namespace Marketfeed.Pulse

/-- Source: the guard of `Phase::Invalid` in `transition` -/
def MechanicsEvidence.Calm (e : MechanicsEvidence) : Prop :=
  e.fullyWarmed = true ∧ e.intensity < 40000000

instance (e : MechanicsEvidence) : Decidable e.Calm := inferInstanceAs (Decidable (_ ∧ _))

namespace PhaseMachine

/-- A call. -/
inductive Call
  | observe (e : MechanicsEvidence)
  | advanceTo (atNs : Int)

/-- What a call leaves, failed or not. -/
def step (m : PhaseMachine) : Call → PhaseMachine
  | .observe e => (m.observe e).1
  | .advanceTo atNs => (m.advanceTo atNs).1

/-- Calm evidence is valid, if it is brought by the call. -/
def Call.Honest : Call → Prop
  | .observe e => e.Calm → e.valid = true
  | .advanceTo _ => True

/-- **Every evidence in force from `a` until `b` was valid and calm.** A machine's evidence is in
force from its own time until that of the machine the next call leaves. -/
def CalmDuring (a b : Int) (m : PhaseMachine) : List Call → Prop
  | [] => True
  | call :: calls =>
    (∀ now ∈ m.nowNs, ∀ next ∈ (m.step call).nowNs, now < b → a < next →
      ∃ e ∈ m.evidence, e.valid = true ∧ e.Calm) ∧
    (m.step call).CalmDuring a b calls

/-! ## The dwell of a candidate -/

/-- A candidate has the dwell of its transition. -/
def Dwells (m : PhaseMachine) : Prop :=
  ∀ c ∈ m.candidate, ∃ e, transition m.phase e = some (c.target, c.dwellNs)

variable {m : PhaseMachine}

lemma Dwells.refreshCandidate (h : m.Dwells) (atNs : Int) : (m.refreshCandidate atNs).Dwells := by
  intro c hc
  rw [refreshCandidate_phase]
  rcases refreshed_candidate hc with hold | ⟨-, e, -, htr⟩
  · exact h c hold
  · exact ⟨e, htr⟩

lemma Dwells.advanceTo (h : m.Dwells) (t : Int) : (m.advanceTo t).1.Dwells :=
  advanceTo_keeps (fun _ a hm => hm.refreshCandidate a) (fun _ _ _ _ _ => by simp [Dwells])
    (fun _ hm => hm) h

lemma Dwells.take {x : PhaseMachine} (h : x.Dwells) (e : MechanicsEvidence) :
    (if e.valid then { x with evidence := some e }.refreshCandidate e.availableAtNs
    else { x with evidence := some e, phase := .invalid, candidate := none }).Dwells := by
  split_ifs
  · exact Dwells.refreshCandidate (m := { x with evidence := some e }) h _
  · simp [Dwells]

lemma Reached.dwells (h : Reached m) : m.Dwells := by
  refine h.keeps (by simp [Dwells, PhaseMachine.new]) (fun m t hm => hm.advanceTo t) ?_
  intro x e hx _
  exact hx.take e

/-- Without evidence nothing has happened. -/
def Blank (m : PhaseMachine) : Prop := m.evidence = none → m.phase = .normal ∧ m.candidate = none

lemma Reached.blank (h : Reached m) : m.Blank := by
  refine h.keeps (fun _ => ⟨rfl, rfl⟩)
    (fun m t hm => advanceTo_keeps (P := Blank) ?_ ?_ (fun _ hm => hm) hm) ?_
  · intro m a hm hnone
    rw [refreshCandidate_evidence] at hnone
    rw [refreshCandidate_eq, if_pos hnone]
    exact hm hnone
  · intro m c d hm hc hnone
    rw [refreshCandidate_eq, if_pos hnone] at hc
    rw [(hm hnone).2] at hc
    cases hc
  · intro x e _ _ hnone
    split at hnone <;> simp at hnone

lemma Reached.observed (h : Reached m) (hp : m.phase = .invalid) : ∃ e, m.evidence = some e := by
  cases he : m.evidence with
  | none => rw [(h.blank he).1] at hp; cases hp
  | some e => exact ⟨e, rfl⟩

/-! ## Waiting in `invalid` -/

/-- A dwell that is running, or would start, began at `a`. -/
def Starts (m : PhaseMachine) (a : Int) : Prop :=
  m.nowNs = some a ∨ ∃ c ∈ m.candidate, c.startNs = a

/-- In `invalid` at `now`, with `e` in force, and calm if a dwell began earlier. -/
structure Waiting (m : PhaseMachine) (e : MechanicsEvidence) (now : Int) : Prop where
  phase : m.phase = .invalid
  evidence : m.evidence = some e
  nowNs : m.nowNs = some now
  honest : e.Calm → e.valid = true
  dwells : m.Dwells
  calm : ∀ a, m.Starts a → now ≤ a ∨ e.Calm

/-- Out of `invalid`, a second after the dwell began. -/
def Recovered (m : PhaseMachine) (e : MechanicsEvidence) (m' : PhaseMachine) : Prop :=
  m'.phase ≠ .invalid ∧ e.Calm ∧ ∃ a, m.Starts a ∧ ∃ now ∈ m'.nowNs, a + 1000000000 ≤ now

/-- Still in `invalid`, with a dwell that starts now or went on under calm evidence. -/
def StillWaiting (m : PhaseMachine) (e : MechanicsEvidence) (now : Int) (m' : PhaseMachine) :
    Prop :=
  ∃ e' now', m'.Waiting e' now' ∧ now ≤ now' ∧
    ∀ a, m'.Starts a → now' ≤ a ∨ m.Starts a ∧ e.Calm

section waiting

variable {m : PhaseMachine} {e : MechanicsEvidence} {now : Int}

/-- In `invalid` only calm evidence has a way out. -/
lemma refreshed_invalid (hp : m.phase = .invalid) (he : m.evidence = some e) (atNs : Int) :
    (m.refreshCandidate atNs).candidate =
      if e.Calm then some (keepOrStart m.candidate .normal atNs 1000000000) else none := by
  rw [refreshCandidate_eq]
  by_cases hcalm : e.Calm
  · rw [if_pos hcalm]
    unfold MechanicsEvidence.Calm at hcalm
    simp [enabled, he, hp, transition, hcalm]
  · rw [if_neg hcalm]
    unfold MechanicsEvidence.Calm at hcalm
    simp [enabled, he, hp, transition, hcalm]

lemma Waiting.same (h : m.Waiting e now) : m.StillWaiting e now m :=
  ⟨e, now, h, Int.le_refl now, fun a ha => (h.calm a ha).imp id fun hcalm => ⟨ha, hcalm⟩⟩

/-- The dwell of calm evidence. -/
lemma Waiting.refreshed (h : m.Waiting e now) (hcalm : e.Calm) :
    ∃ c, (m.refreshCandidate now).candidate = some c ∧ c.target = .normal ∧
      c.dwellNs = 1000000000 ∧ m.Starts c.startNs := by
  refine ⟨_, (refreshed_invalid h.phase h.evidence now).trans (if_pos hcalm), ?_⟩
  unfold keepOrStart
  split
  · next c hold =>
      split
      · next htarget =>
          obtain ⟨e', he'⟩ := h.dwells c hold
          refine ⟨htarget, ?_, .inr ⟨c, hold, rfl⟩⟩
          rw [h.phase, htarget] at he'
          simp [transition] at he'
          exact he'.2.symm
      · exact ⟨rfl, rfl, .inl h.nowNs⟩
  · exact ⟨rfl, rfl, .inl h.nowNs⟩

/-- A wait. -/
lemma Waiting.advanceTo (h : m.Waiting e now) (t : Int) :
    m.Recovered e (m.advanceTo t).1 ∨ m.StillWaiting e now (m.advanceTo t).1 := by
  by_cases hlate : t < now
  · rw [PhaseMachine.advanceTo, if_pos (by simpa [h.nowNs] using hlate)]
    exact .inr h.same
  have hle : now ≤ t := Int.not_lt.mp hlate
  have hdwells := h.dwells.advanceTo t
  rw [advanceTo_eq (by simpa [h.nowNs] using hle)] at hdwells ⊢
  obtain ⟨r, hr⟩ : ∃ r, m.refreshCandidate (m.nowNs.getD t) = r := ⟨_, rfl⟩
  have hnow : m.nowNs.getD t = now := by rw [h.nowNs]; rfl
  have hr' : m.refreshCandidate now = r := hnow ▸ hr
  have hphase : r.phase = .invalid := by rw [← hr, refreshCandidate_phase, h.phase]
  have hevidence : r.evidence = some e := by rw [← hr, refreshCandidate_evidence, h.evidence]
  by_cases hcalm : e.Calm
  · obtain ⟨c, hc, htarget, hdwell, hstart⟩ := h.refreshed hcalm
    rw [hr'] at hc
    -- the dwell goes on, whether or not time does
    have hwait {now' : Int} (hnow' : now ≤ now') (hd : { r with nowNs := some now' }.Dwells) :
        m.StillWaiting e now { r with nowNs := some now' } := by
      refine ⟨e, now', ⟨hphase, hevidence, rfl, h.honest, hd, fun _ _ => .inr hcalm⟩, hnow', ?_⟩
      rintro a (ha | ⟨c', hc', rfl⟩)
      · exact .inl (Int.le_of_eq (Option.some.inj ha))
      · obtain rfl := Option.some.inj (hc.symm.trans hc')
        exact .inr ⟨hstart, hcalm⟩
    cases hd : checkedAddNs c.startNs c.dwellNs with
    | none =>
      have hsame : { r with nowNs := some now } = r := by
        rw [← h.nowNs, ← refreshCandidate_nowNs m now, hr']
      rw [settle_catchUp_overflow hr hc hd] at hdwells ⊢
      rw [← hsame] at hdwells ⊢
      exact .inr (hwait (Int.le_refl now) hdwells)
    | some deadline =>
      rcases Int.lt_or_le t deadline with hwaits | htakes
      · rw [settle_catchUp_waits hr hc hd hwaits] at hdwells ⊢
        exact .inr (hwait hle hdwells)
      · -- valid calm evidence has no way out of `normal`
        have hidle : transition .normal e = none := by
          have hlow : e.intensity < 60000000 := Int.lt_trans hcalm.2 (by decide)
          have hlow' : e.intensity < 80000000 := Int.lt_trans hlow (by decide)
          simp [transition, h.honest hcalm, Int.not_le.mpr hlow, Int.not_le.mpr hlow']
        have hrest : ({ r with nowNs := some deadline, phase := c.target, candidate := none } :
            PhaseMachine).refreshCandidate deadline =
            { r with nowNs := some deadline, phase := .normal, candidate := none } := by
          rw [refreshCandidate_eq]
          simp [enabled, hevidence, htarget, hidle]
        rw [settle_catchUp_takes hr hc hd htakes, settle_catchUp_idle hrest rfl]
        refine .inl ⟨by simp, hcalm, c.startNs, hstart, t, rfl, ?_⟩
        rw [← hdwell, ← checkedAddNs_eq_some hd]
        exact htakes
  · have hc : r.candidate = none := by
      rw [← hr', refreshed_invalid h.phase h.evidence, if_neg hcalm]
    rw [settle_catchUp_idle hr hc] at hdwells ⊢
    have hnone (a : Int) (ha : ({ r with nowNs := some t } : PhaseMachine).Starts a) : t ≤ a := by
      rcases ha with ha | ⟨c, hc', -⟩
      · exact (Int.le_of_eq (Option.some.inj ha))
      · rw [show ({ r with nowNs := some t } : PhaseMachine).candidate = none from hc] at hc'
        cases hc'
    exact .inr ⟨e, t, ⟨hphase, hevidence, rfl, h.honest, hdwells, fun a ha => .inl (hnone a ha)⟩,
      hle, fun a ha => .inl (hnone a ha)⟩

/-- A call. -/
lemma Waiting.step (h : m.Waiting e now) {call : Call} (hcall : call.Honest) :
    m.Recovered e (m.step call) ∨ m.StillWaiting e now (m.step call) := by
  cases call with
  | advanceTo t => exact h.advanceTo t
  | observe e' =>
    change m.Recovered e (m.observe e').1 ∨ m.StillWaiting e now (m.observe e').1
    rcases m.observe_cases e' with hsame | hadv | ⟨m', hok⟩
    · rw [hsame]
      exact .inr h.same
    · rw [hadv]
      exact h.advanceTo _
    · obtain ⟨x, hx, hm'⟩ := observe_ok hok
      have hnow := advanceTo_nowNs hx
      have hadv := h.advanceTo e'.availableAtNs
      have hdwells := h.dwells.advanceTo e'.availableAtNs
      rw [hx] at hadv hdwells
      replace hdwells : m'.Dwells := hm' ▸ hdwells.take e'
      rw [hok]
      dsimp only at hadv ⊢
      have hle : now ≤ e'.availableAtNs := le_of_advanceTo_ok (by rw [hx]) now h.nowNs
      cases hvalid : e'.valid with
      | false =>
        simp only [hvalid, Bool.false_eq_true, if_false] at hm'
        have hstarts {a : Int} (ha : m'.Starts a) : e'.availableAtNs ≤ a := by
          rw [hm'] at ha
          rcases ha with ha | ⟨c, hc, -⟩
          · exact Int.le_of_eq (Option.some.inj (hnow.symm.trans ha))
          · cases hc
        refine .inr ⟨e', e'.availableAtNs, ⟨?_, ?_, ?_, hcall, hdwells, ?_⟩, hle, ?_⟩
        · rw [hm']
        · rw [hm']
        · rw [hm', hnow]
        · exact fun a ha => .inl (hstarts ha)
        · exact fun a ha => .inl (hstarts ha)
      | true =>
        simp only [hvalid, if_true] at hm'
        rcases hadv with ⟨hp, hcalm, a, ha, now', hnow', hsecond⟩ | ⟨e₁, now₁, hwait, -, hfrom⟩
        · refine .inl ⟨?_, hcalm, a, ha, now', ?_, hsecond⟩
          · rwa [hm', refreshCandidate_phase]
          · rwa [hm', refreshCandidate_nowNs]
        · obtain rfl := Option.some.inj (hnow.symm.trans hwait.nowNs)
          have hphase : m'.phase = .invalid := by
            rw [hm', refreshCandidate_phase]
            exact hwait.phase
          have hevidence : m'.evidence = some e' := by rw [hm', refreshCandidate_evidence]
          have hnow' : m'.nowNs = some e'.availableAtNs := by
            rw [hm', refreshCandidate_nowNs]
            exact hnow
          refine .inr ⟨e', _, ⟨hphase, hevidence, hnow', hcall, hdwells, ?_⟩, hle, ?_⟩
          · rintro a (ha | ⟨c, hc, rfl⟩)
            · exact .inl (Int.le_of_eq (Option.some.inj (hnow'.symm.trans ha)))
            · rw [hm', refreshed_invalid (m := { x with evidence := some e' }) hwait.phase rfl]
                at hc
              exact .inr (of_not_not fun hcalm => by rw [if_neg hcalm] at hc; cases hc)
          · rintro a (ha | ⟨c, hc, rfl⟩)
            · exact .inl (Int.le_of_eq (Option.some.inj (hnow'.symm.trans ha)))
            · rw [hm'] at hc
              rcases refreshed_candidate hc with hold | ⟨hstart, -⟩
              · exact hfrom _ (.inr ⟨c, hold, rfl⟩)
              · exact .inl (Int.le_of_eq hstart.symm)

end waiting

/-- What the calls until the first that leaves `invalid` saw. -/
lemma Waiting.recovers {e : MechanicsEvidence} {now : Int} (h : m.Waiting e now)
    {calls : List Call} (hcalls : ∀ call ∈ calls, call.Honest)
    (hend : (calls.foldl PhaseMachine.step m).phase ≠ .invalid) :
    ∃ pre, pre <+: calls ∧ ∃ a, (now ≤ a ∨ m.Starts a) ∧
      (∃ now' ∈ (pre.foldl PhaseMachine.step m).nowNs, a + 1000000000 ≤ now') ∧
      m.CalmDuring a (a + 1000000000) pre := by
  induction calls generalizing m e now with
  | nil => exact absurd h.phase hend
  | cons call calls ih =>
    obtain ⟨hcall, hrest⟩ := List.forall_mem_cons.mp hcalls
    rcases h.step hcall with ⟨-, hcalm, a, ha, hlate⟩ | ⟨e', now', hwait, hle, hfrom⟩
    · exact ⟨[call], ⟨calls, rfl⟩, a, .inr ha, hlate,
        fun _ _ _ _ _ _ => ⟨e, h.evidence, h.honest hcalm, hcalm⟩, trivial⟩
    · obtain ⟨pre, hpre, a, ha, hlate, hduring⟩ := ih hwait hrest hend
      refine ⟨call :: pre, List.cons_prefix_cons.mpr ⟨rfl, hpre⟩, a, ?_⟩
      have hfirst : now' ≤ a ∨ m.Starts a ∧ e.Calm := ha.elim .inl (hfrom a)
      refine ⟨hfirst.imp (Int.le_trans hle) And.left, hlate, ?_, hduring⟩
      intro now₀ _ next hnext _ hlt
      rcases hfirst with hle' | ⟨-, hcalm⟩
      · -- the dwell begins when this evidence has been replaced
        obtain rfl := Option.some.inj (hwait.nowNs.symm.trans hnext)
        exact absurd hle' (Int.not_le.mpr hlt)
      · exact ⟨e, h.evidence, h.honest hcalm, hcalm⟩

/-! ## The whole run -/

/-- **A second of valid calm evidence.** Between a call that leaves the phase `invalid`, with no
dwell begun before it, and a later call that leaves it otherwise, every evidence in force for an
uninterrupted second was valid, fully warmed and below 0.40; if no invalid evidence is calm. -/
theorem recovery_calm {m : PhaseMachine} (hm : Reached m) (hp : m.phase = .invalid) {now : Int}
    (hnow : m.nowNs = some now) (hstart : ∀ c ∈ m.candidate, now ≤ c.startNs)
    (hhonest : ∀ e ∈ m.evidence, e.Calm → e.valid = true) {calls : List Call}
    (hcalls : ∀ call ∈ calls, call.Honest)
    (hend : (calls.foldl step m).phase ≠ .invalid) :
    ∃ pre, pre <+: calls ∧ ∃ a, now ≤ a ∧
      (∃ now' ∈ (pre.foldl step m).nowNs, a + 1000000000 ≤ now') ∧
      m.CalmDuring a (a + 1000000000) pre := by
  have hge (a : Int) (ha : m.Starts a) : now ≤ a := by
    rcases ha with ha | ⟨c, hc, rfl⟩
    · exact Int.le_of_eq (Option.some.inj (hnow.symm.trans ha))
    · exact hstart c hc
  obtain ⟨e, he⟩ := hm.observed hp
  obtain ⟨pre, hpre, a, ha, hsecond, hduring⟩ :=
    (⟨hp, he, hnow, hhonest e he, hm.dwells, fun a ha => .inl (hge a ha)⟩ :
      m.Waiting e now).recovers hcalls hend
  exact ⟨pre, hpre, a, ha.elim id (hge a), hsecond, hduring⟩

/-- Evidence of no family, fully warmed. -/
def calmAt (atNs : Int) (valid : Bool) : MechanicsEvidence :=
  ⟨atNs, ⟨false, false, false, false, false⟩, 0, 0, 0, valid, true, 0⟩

/-- Evidence that has not warmed up is not calm. -/
def coldAt (atNs : Int) : MechanicsEvidence := { calmAt atNs false with fullyWarmed := false }

/-- A cold start, then a second of calm. -/
theorem recovery_calm_after_cold :
    ∃ pre, pre <+: [.observe (calmAt 5 true), .advanceTo 1000000005] ∧ ∃ a, 0 ≤ a ∧
      (∃ now' ∈ (pre.foldl step (new.observe (coldAt 0)).1).nowNs, a + 1000000000 ≤ now') ∧
      (new.observe (coldAt 0)).1.CalmDuring a (a + 1000000000) pre := by
  have hcold : (new.observe (coldAt 0)).1 = ⟨.invalid, some (coldAt 0), none, some 0⟩ := by
    decide +kernel
  refine recovery_calm (.observe _ .new) (by rw [hcold]) (by rw [hcold]) (by rw [hcold]; simp) ?_ ?_
    (by decide +kernel)
  · rw [hcold]
    rintro e ⟨⟩ hcalm
    cases hcalm.1
  · simp [Call.Honest, calmAt]

/-- Nine tenths of the second passed under invalid evidence. -/
theorem invalid_time_counts :
    (new.observe (calmAt 0 false)).1.phase = .invalid ∧
    (new.observe (calmAt 0 false)).1.candidate = none ∧
    ([.observe (calmAt 900000000 true), .advanceTo 1000000000].foldl step
      (new.observe (calmAt 0 false)).1).phase = .normal ∧
    ¬ ∃ pre, pre <+: [.observe (calmAt 900000000 true), .advanceTo 1000000000] ∧ ∃ a, 0 ≤ a ∧
      (∃ now' ∈ (pre.foldl step (new.observe (calmAt 0 false)).1).nowNs, a + 1000000000 ≤ now') ∧
      (new.observe (calmAt 0 false)).1.CalmDuring a (a + 1000000000) pre := by
  have hstart : (new.observe (calmAt 0 false)).1 =
      ⟨.invalid, some (calmAt 0 false), none, some 0⟩ := by decide +kernel
  have hnext : (PhaseMachine.step ⟨.invalid, some (calmAt 0 false), none, some 0⟩
      (.observe (calmAt 900000000 true))).nowNs = some 900000000 := by decide +kernel
  have hlast : (PhaseMachine.step (PhaseMachine.step ⟨.invalid, some (calmAt 0 false), none, some 0⟩
      (.observe (calmAt 900000000 true))) (.advanceTo 1000000000)).nowNs = some 1000000000 := by
    decide +kernel
  rw [hstart]
  refine ⟨rfl, rfl, by decide +kernel, ?_⟩
  rintro ⟨pre, hpre, a, ha, ⟨now', hnow', hsecond⟩, hduring⟩
  rcases pre with _ | ⟨call, pre⟩
  · obtain rfl := Option.some.inj hnow'
    omega
  · obtain ⟨rfl, hrest⟩ := List.cons_prefix_cons.mp hpre
    have hend : now' ≤ 1000000000 := by
      rcases pre with _ | ⟨call, pre⟩
      · obtain rfl := Option.some.inj (hnext.symm.trans hnow')
        decide
      · obtain ⟨rfl, hnil⟩ := List.cons_prefix_cons.mp hrest
        obtain rfl := List.prefix_nil.mp hnil
        obtain rfl := Option.some.inj (hlast.symm.trans hnow')
        decide
    obtain ⟨e, ⟨⟩, hvalid, -⟩ := hduring.1 0 rfl _ hnext (by omega) (by omega)
    cases hvalid

end PhaseMachine

end Marketfeed.Pulse
