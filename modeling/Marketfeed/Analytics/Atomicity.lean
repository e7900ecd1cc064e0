import Marketfeed.Analytics.FlowCalls
import Marketfeed.Analytics.ProfileSnapshot

/-!
# Calls that fail

A call on a candle builder that fails has changed nothing. So has a failed `ingest` of a profile builder.
Its `advance_to` and `finish` close the TPO period in place and take the snapshot after that, and the
snapshot may fail: on a trade below the first bucket, or where a number does not fit.
-/

namespace Marketfeed

open PeriodBuilder (Call)

/-! ## Candle flows -/

namespace CandleFlowBuilder

variable {s : CandleFlowBuilder} {es : List FlowEntry}

/-- **No call on a candle builder fails half way.** -/
theorem Sound.atomic (h : s.Sound es) (call : Call TradeInput) :
    Atomic (candleFlows.perform call) s := by
  cases call with
  | ingest trade => exact atomic_of_atomically (h.run_ingest trade)
  | advanceTo timestampNs => exact atomic_of_atomically (run_advanceTo timestampNs s)
  | finish => exact atomic_of_atomically (run_finish s)

/-- Every call keeps the invariant. -/
lemma Sound.step (h : s.Sound es) (call : Call TradeInput) :
    ∃ es', (candleFlows.step s call).Sound es' := by
  apply Ends.endState (P := fun s : CandleFlowBuilder => ∃ es, s.Sound es)
  cases call with
  | ingest trade =>
    refine (h.ends_ingest trade).mono ?_ ?_
    · rintro out s' ⟨e, target, hadmitted, hingested⟩
      exact ⟨_, h.ingested hadmitted hingested⟩
    · rintro err s' rfl
      exact ⟨es, h⟩
  | advanceTo timestampNs =>
    refine (ends_advanceTo s timestampNs).mono ?_ ?_
    · rintro out s' ⟨hlate, hstart | ⟨hstart, hle⟩ | ⟨hstart, hlt, hflow⟩⟩
      · exact ⟨es, h.noteTime hlate⟩
      · exact ⟨es, h.noteTime hlate⟩
      · exact ⟨[], h.clearActive.noteTime hlate⟩
    · rintro err s' rfl
      exact ⟨es, h⟩
  | finish =>
    refine (ends_finish s).mono ?_ ?_
    · rintro out s' (⟨-, -, rfl⟩ | ⟨flow, -, -, -, rfl⟩)
      · exact ⟨es, h⟩
      · exact ⟨[], h.clearActive⟩
    · rintro err s' rfl
      exact ⟨es, h⟩

end CandleFlowBuilder

/-! ## Session profiles -/

namespace SessionProfileBuilder

variable {s : SessionProfileBuilder}

/-- **No call can leave the builder half closed**: there is no session, no level is open, the TPO period
cannot be closed at all, or the profile can be represented. -/
def Settled (s : SessionProfileBuilder) : Prop :=
  s.sessionStart = none ∨ s.currentTpoLevels = ∅ ∨ ¬ s.Closable ∨ s.Representable s.config.basis

instance (s : SessionProfileBuilder) : Decidable s.Settled :=
  inferInstanceAs (Decidable (_ ∨ _ ∨ _ ∨ _))

/-- Closing a period without levels changes nothing. -/
lemma Levels.closed_of_empty (h : s.Levels) (hempty : s.currentTpoLevels = ∅) : s.closed = s := by
  obtain ⟨hhigh, hlow⟩ := h.extremes hempty
  rw [SessionProfileBuilder.closed, if_pos hempty]
  cases s
  cases hhigh
  cases hlow
  rfl

lemma closed_ne (h : s.currentTpoLevels ≠ ∅) : s.closed ≠ s := by
  intro hsame
  rw [← hsame, closed_currentTpoLevels] at h
  exact h rfl

/-- A session that could not be closed is as it was if the builder is settled. -/
lemma Sound.eq_of_closeFailed (h : s.Sound) (hsettled : s.Settled) (hstart : s.sessionStart ≠ none)
    {err : AnalyticsError} {s' : SessionProfileBuilder} (hfailed : s.CloseFailed err s') : s' = s := by
  rcases hfailed with ⟨-, -, rfl⟩ | ⟨hclosable, herr, rfl⟩
  · rfl
  · rcases hsettled with hnone | hempty | hnot | hrepresentable
    · exact absurd hnone hstart
    · exact h.levels.closed_of_empty hempty
    · exact absurd hclosable hnot
    · obtain ⟨p, hp⟩ := (h.exists_closedSnapshot_iff hstart .final _).mpr ⟨hclosable, hrepresentable⟩
      cases herr.symm.trans (closedSnapshot_eq_ok.mp hp).2

/-- **The calls on a profile builder are atomic iff it is settled.** -/
theorem Sound.atomic_iff (h : s.Sound) :
    (∀ call, Atomic (sessionProfiles.perform call) s) ↔ s.Settled := by
  constructor
  · intro hatomic
    by_contra hsettled
    obtain ⟨hstart, hlevels, hclosable, hrepresentable⟩ :
        s.sessionStart ≠ none ∧ s.currentTpoLevels ≠ ∅ ∧ s.Closable ∧
          ¬ s.Representable s.config.basis := by
      simpa only [Settled, not_or, not_not] using hsettled
    -- The profile cannot be represented, so `finish` fails after the close.
    rcases (ends_finish s).cases with ⟨out, s', -, hok⟩ | ⟨err, s', hrun, -, hfailed⟩
    · rcases hok with ⟨hnone, -⟩ | ⟨-, p, -, hp, -⟩
      · exact hstart hnone
      · exact hrepresentable ((h.exists_closedSnapshot_iff hstart .final _).mp ⟨p, hp⟩).2
    · have hsame : s' = s := hatomic .finish err s' hrun
      rcases hfailed with ⟨hnot, -, -⟩ | ⟨-, -, rfl⟩
      · exact hnot hclosable
      · exact closed_ne hlevels hsame
  · intro hsettled call
    cases call with
    | ingest trade => exact atomic_of_atomically (run_ingest _ _ _ s)
    | advanceTo timestampNs =>
      intro err s' hrun
      rcases (ends_advanceTo s timestampNs).cases with ⟨out, t, hok, -⟩ | ⟨err', t, herr, hfailed⟩
      · cases hrun.symm.trans hok
      · cases hrun.symm.trans herr
        rcases hfailed with - | - | - | ⟨hstart, -, -, hfailed⟩
        · rfl
        · rfl
        · rfl
        · refine h.eq_of_closeFailed hsettled ?_ hfailed
          rw [hstart]
          exact Option.some_ne_none _
    | finish =>
      intro err s' hrun
      rcases (ends_finish s).cases with ⟨out, t, hok, -⟩ | ⟨err', t, herr, hstart, hfailed⟩
      · cases hrun.symm.trans hok
      · cases hrun.symm.trans herr
        exact h.eq_of_closeFailed hsettled hstart hfailed

end SessionProfileBuilder

/-! ## Over all runs -/

/-- **A call that fails changes nothing**, whatever was called before: always on a candle builder, and on
a profile builder exactly in the states that are settled. -/
theorem failed_call_unchanged {instrument : InstrumentId} {grid : GridSpec} {time : TimeframeSpec}
    {flowConfig : FlowConfig} {profileConfig : ProfileConfig} {flow : CandleFlowBuilder}
    {profile : SessionProfileBuilder}
    (hflow : CandleFlowBuilder.new instrument grid time flowConfig = .ok flow)
    (hprofile : SessionProfileBuilder.new grid time profileConfig = .ok profile) :
    (∀ calls call, Atomic (candleFlows.perform call) (run candleFlows.step flow calls)) ∧
    ∀ calls, (∀ call, Atomic (sessionProfiles.perform call) (run sessionProfiles.step profile calls)) ↔
      (run sessionProfiles.step profile calls).Settled := by
  obtain ⟨⟨hgrid, htime, hconfig⟩, rfl⟩ := CandleFlowBuilder.new_eq_ok.mp hflow
  obtain ⟨⟨-, -, hconfig'⟩, rfl⟩ := SessionProfileBuilder.new_eq_ok.mp hprofile
  constructor
  · intro calls call
    obtain ⟨es, h⟩ := run_invariant' (P := fun s : CandleFlowBuilder => ∃ es, s.Sound es)
      (fun s call h => h.elim fun es h => h.step call)
      ⟨[], CandleFlowBuilder.sound_empty instrument hgrid htime hconfig⟩ calls
    exact h.atomic call
  · intro calls
    have hsound := run_invariant' (P := SessionProfileBuilder.Sound) (fun s call h => h.step call)
      (SessionProfileBuilder.sound_empty hgrid htime hconfig') calls
    exact hsound.atomic_iff

def exampleProfileConfig : ProfileConfig := ⟨.volume, 7000, 8, 8⟩

/-- A trade of two units. -/
def exampleProfileTrade (timestampNs price : Int) : ProfileTrade :=
  ⟨timestampNs, ⟨⟨price, 0⟩⟩, ⟨⟨2, 0⟩⟩⟩

/-- A profile builder with buckets of ten ticks, after one trade. -/
def exampleProfile (price : Int) : SessionProfileBuilder :=
  run sessionProfiles.step (.empty (exampleGrid 10) exampleTime exampleProfileConfig)
    [.ingest (exampleProfileTrade 1 price)]

/-- **A session that is left half closed**: the trade at 5 is accepted into bucket zero, which has no
price. `finish` fails, and so does a tick past the end, with the TPO period closed by then. -/
theorem finish_half_closed :
    (exampleProfile 5).volumeByLevel.toList = [(0, 2)] ∧
    completes sessionProfiles.finish (exampleProfile 5) = false ∧
    endState sessionProfiles.finish (exampleProfile 5) ≠ exampleProfile 5 ∧
    completes (sessionProfiles.advanceTo 20) (exampleProfile 5) = false ∧
    endState (sessionProfiles.advanceTo 20) (exampleProfile 5) ≠ exampleProfile 5 := by
  decide +kernel

/-- After a trade at 20, no call leaves the builder half closed. -/
theorem failed_call_unchanged_example :
    (exampleProfile 20).Settled ∧
    ∀ call, Atomic (sessionProfiles.perform call) (exampleProfile 20) := by
  have hsettled : (exampleProfile 20).Settled := by decide +kernel
  exact ⟨hsettled, ((@failed_call_unchanged ⟨1⟩ (exampleGrid 10) exampleTime exampleFlowConfig
    exampleProfileConfig _ _ rfl rfl).2 [.ingest (exampleProfileTrade 1 20)]).mpr hsettled⟩

end Marketfeed
