import Marketfeed.Pulse.Phases

/-!
# Dwell times

What the candidate of a `PhaseMachine` stands for, over whole runs of calls with valid evidence.
-/

namespace Marketfeed.Pulse

namespace PhaseMachine

/-! ## Runs of calls with valid evidence -/

/-- The machines that successful calls with valid evidence leave, the latest first. -/
inductive Run : List PhaseMachine → Prop
  | new : Run [new]
  | observe {m m' : PhaseMachine} {ms : List PhaseMachine} {e : MechanicsEvidence} :
      Run (m :: ms) → e.valid = true → m.observe e = (m', .ok ()) → Run (m' :: m :: ms)
  | advanceTo {m m' : PhaseMachine} {ms : List PhaseMachine} {t : Int} :
      Run (m :: ms) → m.advanceTo t = (m', .ok ()) → Run (m' :: m :: ms)

/-- Each machine of a run with the time at which the next one took over; the latest lasts until
`t`. -/
def spans : List PhaseMachine → Int → List (PhaseMachine × Int)
  | [], _ => []
  | m :: ms, t => (m, t) :: m.nowNs.elim [] (spans ms)

/-- From time `s` until `t` the phase was `p`, and every evidence in force asked for `q` after the
dwell `w`. -/
def Asked (run : List PhaseMachine) (p q : Phase) (w s t : Int) : Prop :=
  ∀ span ∈ spans run t, s < span.2 → span.1.enabled p = some (q, w) ∧
    ∀ τ, (∀ now ∈ span.1.nowNs, now ≤ τ) → s ≤ τ → τ ≤ span.2 → span.1.phaseAt τ = p

/-- A window that starts now has nothing to ask. -/
lemma asked_of_ended {run : List PhaseMachine} {t : Int}
    (h : ∀ span ∈ spans run t, span.2 ≤ t) (p q : Phase) (w : Int) : Asked run p q w t t :=
  fun span hspan hlt => absurd hlt (Int.not_lt.mpr (h span hspan))

variable {m : PhaseMachine}

/-- Valid evidence asks for no transition without a dwell. -/
lemma enabled_dwell (hvalid : ∀ e ∈ m.evidence, e.valid = true) {p q : Phase} {w : Int}
    (h : m.enabled p = some (q, w)) : 2 ≤ w := by
  obtain ⟨e, he, htr⟩ := Option.bind_eq_some_iff.mp h
  refine (transition_dwell htr).resolve_right fun hbad => ?_
  rw [hvalid e he] at hbad
  exact Bool.noConfusion hbad.2.2.2

variable {ms : List PhaseMachine}

lemma asked_cons {p q : Phase} {w s t : Int} :
    Asked (m :: ms) p q w s t ↔
      (s < t → m.enabled p = some (q, w) ∧
        ∀ τ, (∀ now ∈ m.nowNs, now ≤ τ) → s ≤ τ → τ ≤ t → m.phaseAt τ = p) ∧
      ∀ now ∈ m.nowNs, Asked ms p q w s now := by
  unfold Asked
  rw [spans, List.forall_mem_cons]
  cases m.nowNs <;> simp

/-- The machine `x` at time `t` after a run: its candidate, if its evidence asks for one, started
with the longest window in which it was asked for. -/
structure Fresh (run : List PhaseMachine) (x : PhaseMachine) (t : Int) : Prop where
  now : x.nowNs = some t
  ended : ∀ span ∈ spans run t, span.2 ≤ t
  idle : x.enabled x.phase = none → x.candidate = none
  waiting : ∀ q w, x.enabled x.phase = some (q, w) → ∃ s, x.candidate = some ⟨q, s, w⟩ ∧
    t < s + w ∧ ∀ s' ≤ t, (Asked run x.phase q w s' t ↔ s ≤ s')

namespace Fresh

variable {run : List PhaseMachine} {x y : PhaseMachine} {t : Int}

lemma clocked (h : Fresh run x t) : x.Clocked := by
  intro hnone
  rw [h.now] at hnone
  cases hnone

lemma refreshed (h : Fresh run x t) : x.Refreshed := by
  intro now atNs
  rw [refreshCandidate_eq]
  dsimp only
  split
  · rfl
  · have hsame : ({ x with nowNs := now } : PhaseMachine).enabled x.phase = x.enabled x.phase := rfl
    rw [hsame]
    cases hen : x.enabled x.phase with
    | none => rw [h.idle hen]; rfl
    | some tr =>
      obtain ⟨s, hc, -⟩ := h.waiting tr.1 tr.2 hen
      rw [hc]
      simp [keepOrStart]

lemma candidate_eq (h : Fresh run x t) {c : PhaseCandidate} (hc : x.candidate = some c) :
    x.enabled x.phase = some (c.target, c.dwellNs) ∧ t < c.startNs + c.dwellNs ∧
      ∀ s' ≤ t, (Asked run x.phase c.target c.dwellNs s' t ↔ c.startNs ≤ s') := by
  cases hen : x.enabled x.phase with
  | none => rw [h.idle hen] at hc; cases hc
  | some tr =>
    obtain ⟨s, hs, hrest⟩ := h.waiting tr.1 tr.2 hen
    obtain rfl := Option.some.inj (hc.symm.trans hs)
    exact ⟨rfl, hrest⟩

/-- One nanosecond: nothing happens, or the candidate's dwell ends and the next one starts. -/
lemma advanceTo_succ (h : Fresh run x t) (hvalid : ∀ e ∈ x.evidence, e.valid = true)
    (hok : x.advanceTo (t + 1) = (y, .ok ())) :
    (y = { x with nowNs := some (t + 1) } ∧ ∀ c ∈ x.candidate, t + 1 < c.startNs + c.dwellNs) ∨
      ∃ c ∈ x.candidate, c.startNs + c.dwellNs = t + 1 ∧
        y = ⟨c.target, x.evidence,
          (x.enabled c.target).map fun tr => ⟨tr.1, t + 1, tr.2⟩, some (t + 1)⟩ := by
  have hr : x.refreshCandidate (x.nowNs.getD (t + 1)) = x := h.refreshed x.nowNs _
  have hnow : ∀ now ∈ x.nowNs, now ≤ t + 1 := by
    intro now hmem
    rw [h.now] at hmem
    have := Option.some.inj hmem
    omega
  rw [advanceTo_eq hnow] at hok
  obtain hc | ⟨c, hc⟩ := Option.eq_none_or_eq_some x.candidate
  · rw [settle_catchUp_idle hr hc] at hok
    refine .inl ⟨(Prod.mk.inj hok).1.symm, fun c hmem => ?_⟩
    cases hc.symm.trans hmem
  cases hd : checkedAddNs c.startNs c.dwellNs with
  | none => rw [settle_catchUp_overflow hr hc hd] at hok; cases hok
  | some deadline =>
    have hsum := checkedAddNs_eq_some hd
    rcases Int.lt_or_le (t + 1) deadline with hlate | hdue
    · rw [settle_catchUp_waits hr hc hd hlate] at hok
      refine .inl ⟨(Prod.mk.inj hok).1.symm, fun c' hmem => ?_⟩
      rw [hc] at hmem
      rw [← Option.some.inj hmem, ← hsum]
      exact hlate
    · have hlast := (h.candidate_eq hc).2.1
      obtain rfl : deadline = t + 1 := by omega
      refine .inr ⟨c, hc, hsum.symm, ?_⟩
      rw [settle_catchUp_takes hr hc hd hdue] at hok
      -- the next candidate starts at the deadline, and its own lies later
      have hz : ({ x with nowNs := some (t + 1), phase := c.target, candidate := none } :
          PhaseMachine).refreshCandidate (t + 1) = ⟨c.target, x.evidence,
            (x.enabled c.target).map fun tr => ⟨tr.1, t + 1, tr.2⟩, some (t + 1)⟩ := by
        rw [refreshCandidate_eq]
        unfold enabled keepOrStart
        dsimp only
        split
        · next hnone => rw [hnone]; rfl
        · rfl
      cases hen : x.enabled c.target with
      | none =>
        rw [hen] at hz
        rw [settle_catchUp_idle hz rfl] at hok
        exact (Prod.mk.inj hok).1.symm
      | some tr =>
        have hdwell : 2 ≤ tr.2 := enabled_dwell hvalid hen
        rw [hen] at hz
        cases hd' : checkedAddNs (t + 1) tr.2 with
        | none => rw [settle_catchUp_overflow hz rfl hd'] at hok; cases hok
        | some deadline' =>
          have hsum' := checkedAddNs_eq_some hd'
          rw [settle_catchUp_waits hz rfl hd' (by omega)] at hok
          exact (Prod.mk.inj hok).1.symm

variable {m : PhaseMachine} {ms : List PhaseMachine}

/-- The wait goes on: one more nanosecond of the same span. -/
lemma step (h : Fresh (m :: ms) x t) (hm : m.Clocked) (hx : m.advanceTo t = (x, .ok ()))
    (hvalid : ∀ e ∈ m.evidence, e.valid = true) (hy : m.advanceTo (t + 1) = (y, .ok ())) :
    Fresh (m :: ms) y (t + 1) := by
  have hev : x.evidence = m.evidence := by rw [← advanceTo_evidence m t, hx]
  have hen (p : Phase) : x.enabled p = m.enabled p := by rw [enabled, hev]; rfl
  have hxy : x.advanceTo (t + 1) = (y, .ok ()) := by
    rw [advanceTo_advanceTo hm (by omega) hx, hy]
  have hpx : m.phaseAt t = x.phase := by rw [phaseAt, hx]
  have hpy : m.phaseAt (t + 1) = y.phase := by rw [phaseAt, hy]
  have hnow := le_of_advanceTo_ok (congrArg Prod.snd hx)
  have hended : ∀ span ∈ spans (m :: ms) (t + 1), span.2 ≤ t + 1 := by
    intro span hspan
    rcases List.mem_cons.mp hspan with rfl | hrest
    · exact Int.le_refl _
    · have := h.ended span (List.mem_cons_of_mem _ hrest)
      omega
  rcases h.advanceTo_succ (hev ▸ hvalid) hxy with ⟨rfl, hlater⟩ | ⟨c, hc, hdue, rfl⟩
  · refine ⟨rfl, hended, h.idle, fun q w hq => ?_⟩
    obtain ⟨s, hs, -, hasked⟩ := h.waiting q w hq
    have hlate := hlater _ hs
    refine ⟨s, hs, hlate, fun s' hs' => ?_⟩
    have hst : s ≤ t := (hasked t (Int.le_refl t)).mp (asked_of_ended h.ended _ _ _)
    dsimp only at hpy hq ⊢
    rcases Int.lt_or_le t s' with hnew | hold
    · have : s' = t + 1 := by omega
      subst this
      exact iff_of_true (asked_of_ended hended _ _ _) (by omega)
    · rw [← hasked s' hold, asked_cons, asked_cons]
      refine and_congr_left fun _ => ⟨fun hall hlt => ?_, fun hall hlt => ?_⟩
      · obtain ⟨henabled, hphase⟩ := hall (by omega)
        exact ⟨henabled, fun τ h₁ h₂ h₃ => hphase τ h₁ h₂ (by omega)⟩
      · refine ⟨hen x.phase ▸ hq, fun τ h₁ h₂ h₃ => ?_⟩
        rcases Int.lt_or_le t τ with hlast | hbefore
        · obtain rfl : τ = t + 1 := by omega
          exact hpy
        · rcases Int.lt_or_le s' t with hlt' | hge
          · exact (hall hlt').2 τ h₁ h₂ hbefore
          · obtain rfl : τ = t := by omega
            exact hpx
  · obtain ⟨e, he, htr⟩ := Option.bind_eq_some_iff.mp (h.candidate_eq hc).1
    have hne := transition_ne htr
    refine ⟨rfl, hended, fun hnone => ?_, fun q w hq => ⟨t + 1, ?_, ?_, fun s' hs' => ?_⟩⟩
    · exact Option.map_eq_none_iff.mpr hnone
    · exact Option.map_eq_some_iff.mpr ⟨(q, w), hq, rfl⟩
    · have hdwell := enabled_dwell (hev ▸ hvalid) hq
      omega
    · -- the phase was another one a nanosecond ago
      constructor
      · intro hasked
        by_contra hlt
        have hwas := ((asked_cons.mp hasked).1 (by omega)).2 t hnow (by omega) (by omega)
        exact hne (hwas.symm.trans hpx)
      · intro hle
        obtain rfl : s' = t + 1 := by omega
        exact asked_of_ended hended _ _ _

/-- A machine whose deadline lies ahead stays as it is at its own time. -/
lemma advanceTo_now (hr : x.Refreshed) (hnow : x.nowNs = some t)
    (hlate : ∀ c ∈ x.candidate, t < c.startNs + c.dwellNs) : (x.advanceTo t).1 = x := by
  have hr' : x.refreshCandidate (x.nowNs.getD t) = x := hr x.nowNs _
  have hself : { x with nowNs := some t } = x := by rw [← hnow]
  rw [advanceTo_eq fun now hmem => Int.le_of_eq (Option.some.inj (hmem.symm.trans hnow))]
  obtain hc | ⟨c, hc⟩ := Option.eq_none_or_eq_some x.candidate
  · rw [settle_catchUp_idle hr' hc, hself]
  · cases hd : checkedAddNs c.startNs c.dwellNs with
    | none => rw [settle_catchUp_overflow hr' hc hd]
    | some deadline =>
      have hahead : t < deadline := checkedAddNs_eq_some hd ▸ hlate c hc
      rw [settle_catchUp_waits hr' hc hd hahead, hself]

/-- A call replaces the evidence at its time and starts the next span. -/
lemma call (h : Fresh (m :: ms) x t) (hx : m.advanceTo t = (x, .ok ()))
    {ev : Option MechanicsEvidence} (hvalid : ∀ e ∈ ev, e.valid = true)
    (hnone : ev = none → x.evidence = none) :
    Fresh (({ x with evidence := ev }.refreshCandidate t) :: m :: ms)
      ({ x with evidence := ev }.refreshCandidate t) t := by
  obtain ⟨m', hm'⟩ : ∃ m', ({ x with evidence := ev } : PhaseMachine).refreshCandidate t = m' :=
    ⟨_, rfl⟩
  have hphase : m'.phase = x.phase := by rw [← hm']; exact refreshCandidate_phase ..
  have hnow : m'.nowNs = some t := by rw [← hm', refreshCandidate_nowNs]; exact h.now
  have hevid : m'.evidence = ev := by rw [← hm']; exact refreshCandidate_evidence ..
  have hxev : x.evidence = m.evidence := by rw [← advanceTo_evidence m t, hx]
  have hcand : m'.candidate = if ev = none then x.candidate else
      (m'.enabled x.phase).map fun tr => keepOrStart x.candidate tr.1 t tr.2 := by
    rw [enabled, hevid, ← hm', refreshCandidate_eq]
    rfl
  rw [hm']
  have hwaiting : ∀ q w, m'.enabled m'.phase = some (q, w) → ∃ s, m'.candidate = some ⟨q, s, w⟩ ∧
      t < s + w ∧ ∀ s' ≤ t, (Asked (m :: ms) m'.phase q w s' t ↔ s ≤ s') := by
    intro q w hq
    rw [hphase] at hq ⊢
    obtain ⟨e, he, htr⟩ := Option.bind_eq_some_iff.mp hq
    have hsome : ev ≠ none := fun hev => by rw [hevid, hev] at he; cases he
    rw [if_neg hsome, hq, Option.map_some] at hcand
    have hdwell := enabled_dwell (hevid ▸ hvalid) hq
    -- the candidate is kept if and only if the old evidence asked for the same transition
    by_cases hkeep : ∃ c ∈ x.candidate, c.target = q
    · obtain ⟨c, hc, rfl⟩ := hkeep
      obtain ⟨hold, hlate, hasked⟩ := h.candidate_eq hc
      obtain ⟨e', -, htr'⟩ := Option.bind_eq_some_iff.mp hold
      obtain rfl := transition_dwell_unique htr' htr
      refine ⟨c.startNs, ?_, hlate, hasked⟩
      rw [hcand, Option.mem_def.mp hc]
      exact congrArg some (if_pos rfl)
    · refine ⟨t, ?_, by omega, fun s' hs' => ⟨fun hasked => ?_, fun hle => ?_⟩⟩
      · rw [hcand]
        unfold keepOrStart
        split
        · next c hc => rw [if_neg fun heq => hkeep ⟨c, hc, heq⟩]
        · rfl
      · by_contra hlt
        have hold := ((asked_cons.mp hasked).1 (by omega)).1
        rw [enabled, ← hxev] at hold
        obtain ⟨s, hs, -⟩ := h.waiting q w hold
        exact hkeep ⟨_, hs, rfl⟩
      · obtain rfl : s' = t := by omega
        exact asked_of_ended h.ended _ _ _
  have hidle : m'.enabled m'.phase = none → m'.candidate = none := by
    intro hen
    rw [hcand]
    split
    · next hev => exact h.idle (by rw [enabled, hnone hev]; rfl)
    · rw [← hphase, hen]; rfl
  have hphaseAt : m'.phaseAt t = m'.phase := by
    have hlate : ∀ c ∈ m'.candidate, t < c.startNs + c.dwellNs := by
      intro c hc
      cases hen : m'.enabled m'.phase with
      | none => rw [hidle hen] at hc; cases hc
      | some tr =>
        obtain ⟨s, hs, hlate, -⟩ := hwaiting tr.1 tr.2 hen
        rw [Option.some.inj (hc.symm.trans hs)]
        exact hlate
    rw [phaseAt, advanceTo_now (hm' ▸ refreshed_refreshCandidate _ t) hnow hlate]
  refine ⟨hnow, ?_, hidle, fun q w hq => ?_⟩
  · rw [spans, hnow]
    exact List.forall_mem_cons.mpr ⟨Int.le_refl t, h.ended⟩
  · obtain ⟨s, hs, hlate, hasked⟩ := hwaiting q w hq
    refine ⟨s, hs, hlate, fun s' hs' => ?_⟩
    rw [← hasked s' hs', asked_cons, hnow]
    refine ⟨fun hall => hall.2 t rfl, fun hall => ⟨fun _ => ⟨hq, fun τ h₁ _ h₂ => ?_⟩, ?_⟩⟩
    · obtain rfl : τ = t := Int.le_antisymm h₂ (h₁ t rfl)
      exact hphaseAt
    · intro now hmem
      obtain rfl := Option.some.inj hmem
      exact hall

/-- The wait after a call. -/
lemma wait {n : Int} (h : Fresh (m :: ms) m n) (hvalid : ∀ e ∈ m.evidence, e.valid = true)
    (hx : m.advanceTo t = (x, .ok ())) : Fresh (m :: ms) x t := by
  have hm := h.clocked
  have hle : n ≤ t := le_of_advanceTo_ok (congrArg Prod.snd hx) n h.now
  obtain ⟨k, rfl⟩ := Int.le.dest hle
  clear hle
  induction k generalizing x with
  | zero =>
    rw [Int.natCast_zero, Int.add_zero] at hx ⊢
    have hself := advanceTo_now h.refreshed h.now fun c hc => (h.candidate_eq hc).2.1
    rw [hx] at hself
    exact (show x = m from hself) ▸ h
  | succ k ih =>
    have hnow : ∀ now ∈ m.nowNs, now ≤ n + k := by
      intro now hmem
      have := Option.some.inj (h.now.symm.trans hmem)
      omega
    rw [Int.natCast_succ, ← Int.add_assoc] at hx ⊢
    obtain ⟨x', hx'⟩ := advanceTo_ok_of_le hm hnow (by omega) hx
    exact (ih hx').step hm hx' hvalid hx

end Fresh

/-- After every run the candidate is where the run's evidence puts it, now and at every later
time. -/
lemma Run.fresh (h : Run (m :: ms)) :
    m.Clocked ∧ (∀ e ∈ m.evidence, e.valid = true) ∧
      ∀ t x, m.advanceTo t = (x, .ok ()) → Fresh (m :: ms) x t := by
  generalize hrun : m :: ms = run at h
  induction h generalizing m ms with
  | new =>
    obtain ⟨rfl, rfl⟩ := List.cons.inj hrun
    refine ⟨fun _ => rfl, fun e he => (by cases he), fun t x hx => ?_⟩
    rw [advanceTo_eq (fun now hmem => by cases hmem), settle_catchUp_idle rfl rfl] at hx
    obtain rfl := (Prod.mk.inj hx).1
    refine ⟨rfl, fun span hspan => ?_, fun _ => rfl, fun q w hq => by cases hq⟩
    obtain rfl := List.mem_singleton.mp hspan
    exact Int.le_refl t
  | @observe m₀ m₁ ms₀ e _ hvalid hobs ih =>
    obtain ⟨rfl, rfl⟩ := List.cons.inj hrun
    obtain ⟨x, hx, hm'⟩ := observe_ok hobs
    rw [if_pos hvalid] at hm'
    have hev : ∀ e' ∈ some e, e'.valid = true := fun e' he' => Option.some.inj he' ▸ hvalid
    have hfresh := ((ih rfl).2.2 _ _ hx).call hx hev fun hnone => by cases hnone
    rw [← hm'] at hfresh
    have hvalid' : ∀ e' ∈ m.evidence, e'.valid = true := by
      rw [hm', refreshCandidate_evidence]; exact hev
    exact ⟨hfresh.clocked, hvalid', fun _ _ => hfresh.wait hvalid'⟩
  | @advanceTo m₀ m₁ ms₀ t _ hadv ih =>
    obtain ⟨rfl, rfl⟩ := List.cons.inj hrun
    have hev : m.evidence = m₀.evidence := by rw [← advanceTo_evidence m₀ t, hadv]
    have hvalid : ∀ e ∈ m.evidence, e.valid = true := hev ▸ (ih rfl).2.1
    have hm := (ih rfl).2.2 _ _ hadv
    have hfresh := hm.call hadv hvalid id
    rw [show ({ m with evidence := m.evidence } : PhaseMachine).refreshCandidate t = m from
      hm.refreshed m.nowNs t] at hfresh
    exact ⟨hfresh.clocked, hvalid, fun _ _ => hfresh.wait hvalid⟩

/-- **Exact dwell.** After a run, the phase changes to `q` at `d` if and only if the run's evidence
asked for `q` during the whole dwell before `d`, with the phase unchanged. -/
theorem Run.changes_iff {x : PhaseMachine} (h : Run (m :: ms)) {d : Int}
    (hnow : ∀ now ∈ m.nowNs, now < d) (hok : m.advanceTo d = (x, .ok ())) (q : Phase) :
    (m.phaseAt (d - 1) ≠ q ∧ m.phaseAt d = q) ↔
      ∃ w, m.enabled (m.phaseAt (d - 1)) = some (q, w) ∧
        Asked (m :: ms) (m.phaseAt (d - 1)) q w (d - w) (d - 1) := by
  obtain ⟨hm, hvalid, hfresh⟩ := h.fresh
  obtain ⟨y, hy⟩ := advanceTo_ok_of_le hm
    (fun now hmem => Int.le_sub_one_of_lt (hnow now hmem)) (by omega) hok
  have hF := hfresh _ _ hy
  have hev : y.evidence = m.evidence := by rw [← advanceTo_evidence m (d - 1), hy]
  have hen (p : Phase) : y.enabled p = m.enabled p := by rw [enabled, hev]; rfl
  have hyx : y.advanceTo (d - 1 + 1) = (x, .ok ()) := by
    rw [Int.sub_add_cancel, advanceTo_advanceTo hm (by omega) hy, hok]
  have hpy : m.phaseAt (d - 1) = y.phase := by rw [phaseAt, hy]
  have hpx : m.phaseAt d = x.phase := by rw [phaseAt, hok]
  rw [hpy, hpx, ← hen]
  rcases hF.advanceTo_succ (hev ▸ hvalid) hyx with ⟨rfl, hlater⟩ | ⟨c, hc, hdue, rfl⟩
  · refine iff_of_false (fun hboth => hboth.1 hboth.2) ?_
    rintro ⟨w, hq, hasked⟩
    obtain ⟨s, hs, -, hstart⟩ := hF.waiting q w hq
    have hdwell := enabled_dwell (hev ▸ hvalid) hq
    have hlate := hlater _ hs
    have hle := (hstart (d - w) (by omega)).mp hasked
    dsimp only at hlate
    omega
  · obtain ⟨hq, -, hstart⟩ := hF.candidate_eq hc
    obtain ⟨e, -, htr⟩ := Option.bind_eq_some_iff.mp hq
    have hdwell := enabled_dwell (hev ▸ hvalid) hq
    constructor
    · rintro ⟨-, rfl⟩
      refine ⟨c.dwellNs, hq, (hstart _ (by omega)).mpr (by omega)⟩
    · rintro ⟨w, hw, -⟩
      obtain ⟨rfl, -⟩ := Prod.mk.inj (Option.some.inj (hq.symm.trans hw))
      exact ⟨(transition_ne htr).symm, rfl⟩

end PhaseMachine

open PhaseMachine

/-- **The phase machine.** Over every run of calls with valid evidence, the phase changes to a
target at `d` exactly if every evidence in force from `d - dwell` on asked for it in the current
phase, and a call changes the phase in no other way. For any machine calls can leave, a wait may be
cut in two, fixed valid evidence changes the phase at most four times, and invalid evidence keeps it
`invalid`. -/
theorem phaseMachine_exact :
    (∀ m ms, Run (m :: ms) →
      (∀ d x q, (∀ now ∈ m.nowNs, now < d) → m.advanceTo d = (x, .ok ()) →
        ((m.phaseAt (d - 1) ≠ q ∧ m.phaseAt d = q) ↔
          ∃ w, m.enabled (m.phaseAt (d - 1)) = some (q, w) ∧
            Asked (m :: ms) (m.phaseAt (d - 1)) q w (d - w) (d - 1))) ∧
      ∀ e m', e.valid = true → m.observe e = (m', .ok ()) →
        m'.phase = m.phaseAt e.availableAtNs) ∧
    ∀ m, Reached m →
      (∀ t₁ t₂ m₁, t₁ ≤ t₂ → m.advanceTo t₁ = (m₁, .ok ()) → m₁.advanceTo t₂ = m.advanceTo t₂) ∧
      (∀ e ts, m.evidence = some e → e.valid = true →
        (∀ t ∈ ts, (m.advanceTo t).2 = .ok ()) →
        List.IsChain (fun a b => a ≤ b ∧ m.phaseAt a ≠ m.phaseAt b) ts → ts.length ≤ 5) ∧
      ∀ e, m.evidence = some e → e.valid = false → m.phase = .invalid := by
  refine ⟨fun m ms hrun => ⟨fun d x q hnow hok => hrun.changes_iff hnow hok q, ?_⟩,
    fun m hm => ⟨fun _ _ _ h hok => advanceTo_advanceTo hm.clocked h hok, ?_,
      fun _ he hinvalid => hm.invalid he hinvalid⟩⟩
  · intro e m' hvalid hobs
    obtain ⟨x, hx, rfl⟩ := observe_ok hobs
    rw [if_pos hvalid, refreshCandidate_phase, phaseAt, hx]
  · intro e ts he hvalid hok hchain
    cases ts with
    | nil => exact Nat.zero_le _
    | cons t ts =>
      have hlen := length_le_rank hm.clocked he hvalid hok hchain
      have hrank := rank_le e (m.phaseAt t)
      rw [List.length_cons]
      omega

/-- Evidence that ignites at once and goes on to a cascade. -/
def igniting : MechanicsEvidence :=
  ⟨5, ⟨true, true, true, true, false⟩, 85000000, 90000000, 10000000, true, true, 0⟩

/-- An ignition after its dwell. -/
theorem phaseMachine_exact_ignition :
    ∃ w, (new.observe igniting).1.enabled .normal = some (.ignition, w) ∧
      Asked [(new.observe igniting).1, new] .normal .ignition w (100000005 - w)
        100000004 := by
  have hrun : Run [(new.observe igniting).1, new] :=
    .observe (e := igniting) .new rfl (Prod.ext rfl (by decide +kernel))
  have hbefore : (new.observe igniting).1.phaseAt (100000005 - 1) = .normal := by
    decide +kernel
  have hexact := ((phaseMachine_exact.1 _ _ hrun).1 100000005
    ((new.observe igniting).1.advanceTo 100000005).1 .ignition (by decide +kernel)
    (Prod.ext rfl (by decide +kernel))).mp ⟨by rw [hbefore]; decide, by decide +kernel⟩
  rw [hbefore] at hexact
  exact hexact

end Marketfeed.Pulse
