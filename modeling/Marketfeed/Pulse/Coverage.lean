import Mathlib.Data.Real.Basic
import Mathlib.Tactic.Linarith

/-!
# Coverage of a decision window

Model of `has_exact_coverage` in `crates/event-pulse/src/window.rs`: one pass over the intervals that
were available by the decision pushes a frontier from the start of the window towards its end.
-/

namespace Marketfeed.Pulse

/-- Source: `WindowError`, of which `has_exact_coverage` returns two -/
inductive WindowError
  | unsupportedHorizon
  | timeOverflow
deriving DecidableEq

def supportedHorizonsNs : List Int :=
  [100000000, 250000000, 1000000000, 5000000000, 15000000000, 30000000000, 60000000000]

/-- Source: `i64::checked_sub` -/
def checkedSubNs (a b : Int) : Option Int :=
  if -2 ^ 63 ≤ a - b ∧ a - b < 2 ^ 63 then some (a - b) else none

structure CoverageInterval where
  coveredFromNs : Int
  coveredThroughNs : Int
  availableAtNs : Int
deriving DecidableEq

/-- Source: the loop of `has_exact_coverage` -/
def sweep (decision : Int) : Int → List CoverageInterval → Bool
  | _, [] => false
  | through, interval :: intervals =>
    if interval.coveredFromNs > interval.coveredThroughNs ∨
        interval.coveredThroughNs > interval.availableAtNs then false
    else if interval.coveredThroughNs < through then sweep decision through intervals
    else if interval.coveredFromNs > through then false
    else if max through interval.coveredThroughNs ≥ decision then true
    else sweep decision (max through interval.coveredThroughNs) intervals

/-- The intervals that were available by the decision. -/
def availableBy (decision : Int) (intervals : List CoverageInterval) : List CoverageInterval :=
  intervals.filter (·.availableAtNs ≤ decision)

def hasExactCoverage (intervals : List CoverageInterval) (decisionTimeNs horizonNs : Int) :
    Except WindowError Bool :=
  if horizonNs ∉ supportedHorizonsNs then .error .unsupportedHorizon
  else match checkedSubNs decisionTimeNs horizonNs with
    | none => .error .timeOverflow
    | some start => .ok (sweep decisionTimeNs start (availableBy decisionTimeNs intervals))

namespace CoverageInterval

/-- The closed interval of instants. -/
def instants (interval : CoverageInterval) : Set ℝ :=
  Set.Icc (interval.coveredFromNs : ℝ) interval.coveredThroughNs

def WellFormed (interval : CoverageInterval) : Prop :=
  interval.coveredFromNs ≤ interval.coveredThroughNs ∧
    interval.coveredThroughNs ≤ interval.availableAtNs

instance : DecidablePred WellFormed := fun _ => inferInstanceAs (Decidable (_ ∧ _))

end CoverageInterval

variable {decision : Int} {intervals : List CoverageInterval}

/-- Whatever the order of the intervals, a successful pass has covered the rest of the window. -/
lemma sweep_sound {through : Int} (h : sweep decision through intervals = true) {x : ℝ}
    (hlo : (through : ℝ) ≤ x) (hhi : x ≤ decision) :
    ∃ interval ∈ intervals, x ∈ interval.instants := by
  induction intervals generalizing through with
  | nil => simp [sweep] at h
  | cons interval intervals ih =>
    simp only [sweep] at h
    split_ifs at h with _ _ hfrom hdone
    · obtain ⟨i, hi, hx⟩ := ih h hlo
      exact ⟨i, List.mem_cons_of_mem _ hi, hx⟩
    · rename_i hskip
      have hmax : max through interval.coveredThroughNs = interval.coveredThroughNs := by omega
      rw [hmax] at hdone
      refine ⟨interval, List.mem_cons_self, ?_, hhi.trans (by exact_mod_cast hdone)⟩
      exact le_trans (by exact_mod_cast not_lt.mp hfrom) hlo
    · rename_i hskip
      have hmax : max through interval.coveredThroughNs = interval.coveredThroughNs := by omega
      rw [hmax] at h
      by_cases hx : x ≤ interval.coveredThroughNs
      · refine ⟨interval, List.mem_cons_self, ?_, hx⟩
        exact le_trans (by exact_mod_cast not_lt.mp hfrom) hlo
      · obtain ⟨i, hi, hmem⟩ := ih h (le_of_lt (not_le.mp hx))
        exact ⟨i, List.mem_cons_of_mem _ hi, hmem⟩

/-- A failed pass over sorted, well-formed intervals has left a gap behind the frontier. -/
lemma exists_gap_of_sweep {through : Int} (h : sweep decision through intervals = false)
    (hwf : ∀ interval ∈ intervals, interval.WellFormed)
    (hsorted : intervals.Pairwise (·.coveredFromNs ≤ ·.coveredFromNs)) (hlt : through < decision) :
    ∃ x : ℝ, (through : ℝ) < x ∧ x ≤ decision ∧ ∀ interval ∈ intervals, x ∉ interval.instants := by
  induction intervals generalizing through with
  | nil => exact ⟨decision, by exact_mod_cast hlt, le_rfl, by simp⟩
  | cons interval intervals ih =>
    obtain ⟨⟨hle, havail⟩, hwf⟩ := List.forall_mem_cons.mp hwf
    obtain ⟨hfirst, hsorted⟩ := List.pairwise_cons.mp hsorted
    simp only [sweep] at h
    split_ifs at h with hbad hskip hfrom hdone
    · omega
    · obtain ⟨x, hx, hxd, hgap⟩ := ih h hwf hsorted hlt
      refine ⟨x, hx, hxd, List.forall_mem_cons.mpr ⟨fun hmem => ?_, hgap⟩⟩
      have hcast : (interval.coveredThroughNs : ℝ) < through := by exact_mod_cast hskip
      linarith [hmem.2]
    · -- the middle between the frontier and the next interval, or the decision
      have hnext : through < min interval.coveredFromNs decision := lt_min hfrom hlt
      have hcast : (through : ℝ) < (min interval.coveredFromNs decision : Int) := by
        exact_mod_cast hnext
      have hleft : ((min interval.coveredFromNs decision : Int) : ℝ) ≤ interval.coveredFromNs := by
        exact_mod_cast min_le_left _ _
      have hright : ((min interval.coveredFromNs decision : Int) : ℝ) ≤ decision := by
        exact_mod_cast min_le_right _ _
      refine ⟨(through + (min interval.coveredFromNs decision : Int)) / 2, by linarith, by linarith,
        fun i hi hmem => ?_⟩
      have hi' : (interval.coveredFromNs : ℝ) ≤ i.coveredFromNs := by
        rcases List.mem_cons.mp hi with rfl | hi
        · exact le_rfl
        · exact_mod_cast hfirst i hi
      linarith [hmem.1]
    · obtain ⟨x, hx, hxd, hgap⟩ := ih h hwf hsorted (not_le.mp hdone)
      refine ⟨x, lt_of_le_of_lt (by exact_mod_cast le_max_left _ _) hx, hxd,
        List.forall_mem_cons.mpr ⟨fun hmem => ?_, hgap⟩⟩
      have hcast : (interval.coveredThroughNs : ℝ) ≤
          (max through interval.coveredThroughNs : Int) := by exact_mod_cast le_max_right _ _
      linarith [hmem.2]

/-- **Coverage is decided exactly.** For a supported horizon and a start that fits its type there is an
answer. If it is yes, every instant of the window is in an interval available by the decision; and for
well-formed intervals sorted by their start, it is yes whenever that is so. -/
theorem hasExactCoverage_exact (intervals : List CoverageInterval) {decision horizon : Int}
    (hsupported : horizon ∈ supportedHorizonsNs) (hdecision : decision < 2 ^ 63)
    (hstart : -2 ^ 63 ≤ decision - horizon) :
    ∃ covered, hasExactCoverage intervals decision horizon = .ok covered ∧
      (covered = true → ∀ x ∈ Set.Icc ((decision - horizon : Int) : ℝ) decision,
        ∃ interval ∈ availableBy decision intervals, x ∈ interval.instants) ∧
      ((∀ interval ∈ availableBy decision intervals, interval.WellFormed) →
        (availableBy decision intervals).Pairwise (·.coveredFromNs ≤ ·.coveredFromNs) →
        (covered = true ↔ ∀ x ∈ Set.Icc ((decision - horizon : Int) : ℝ) decision,
          ∃ interval ∈ availableBy decision intervals, x ∈ interval.instants)) := by
  have hpos : 0 < horizon := by
    have hall : ∀ h ∈ supportedHorizonsNs, 0 < h := by decide
    exact hall horizon hsupported
  have hsub : checkedSubNs decision horizon = some (decision - horizon) :=
    if_pos ⟨hstart, by omega⟩
  refine ⟨sweep decision (decision - horizon) (availableBy decision intervals), ?_, ?_, ?_⟩
  · rw [hasExactCoverage, if_neg (not_not.mpr hsupported), hsub]
  · intro h x hx
    exact sweep_sound h hx.1 hx.2
  · intro hwf hsorted
    refine ⟨fun h x hx => sweep_sound h hx.1 hx.2, fun hcov => ?_⟩
    by_contra hfalse
    obtain ⟨x, hlo, hhi, hgap⟩ := exists_gap_of_sweep (Bool.not_eq_true _ ▸ hfalse) hwf hsorted
      (by omega)
    obtain ⟨interval, hmem, hx⟩ := hcov x ⟨hlo.le, hhi⟩
    exact hgap interval hmem hx

/-- Two touching intervals, and one that came too late to count. -/
def touching : List CoverageInterval :=
  [⟨-5, 60000000, 60000000⟩, ⟨60000000, 100000000, 100000000⟩, ⟨0, 100000000, 100000001⟩]

/-- They cover the window, so the answer is yes. -/
theorem hasExactCoverage_exact_touching :
    hasExactCoverage touching 100000000 100000000 = .ok true ∧
      ∀ x ∈ Set.Icc ((100000000 - 100000000 : Int) : ℝ) (100000000 : Int),
        ∃ interval ∈ availableBy 100000000 touching, x ∈ interval.instants := by
  obtain ⟨covered, hok, hsound, hexact⟩ := hasExactCoverage_exact touching
    (show (100000000 : Int) ∈ supportedHorizonsNs by decide)
    (show (100000000 : Int) < 2 ^ 63 by norm_num) (by norm_num)
  have hcovered : covered = true := by
    refine (hexact (by decide) (by decide)).mpr fun x hx => ?_
    rcases le_total x 60000000 with hfirst | hsecond
    · refine ⟨⟨-5, 60000000, 60000000⟩, by decide, ?_⟩
      refine ⟨le_trans ?_ hx.1, hfirst.trans ?_⟩ <;> norm_num
    · refine ⟨⟨60000000, 100000000, 100000000⟩, by decide, ?_⟩
      refine ⟨le_trans ?_ hsecond, hx.2.trans ?_⟩ <;> norm_num
  exact ⟨hcovered ▸ hok, hsound hcovered⟩

end Marketfeed.Pulse
