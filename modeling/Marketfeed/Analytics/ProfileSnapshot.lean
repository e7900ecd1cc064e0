import Marketfeed.Analytics.ProfileSound
import Mathlib.Algebra.BigOperators.Intervals
import Mathlib.Algebra.BigOperators.Ring.Finset

/-!
# When a session has a profile

A builder's snapshot fails on a bucket without a price, which is bucket zero, and where a number does
not fit its type. This module says exactly when.
-/

namespace Marketfeed.SessionProfileBuilder

variable {s : SessionProfileBuilder} {basis : ValueAreaBasis}

/-! ## The value area -/

lemma mem_buckets {bucket : Int} : bucket ∈ s.buckets ↔ ∃ v, s.volumeByLevel[bucket]? = some v := by
  simp only [buckets, List.mem_map, Prod.exists, OrdMap.mem_toList, exists_and_right, exists_eq_right]

lemma bucketAt_mem {buckets : List Int} {index : Nat} (h : index < buckets.length) :
    bucketAt buckets index ∈ buckets := by
  rw [bucketAt, List.getElem?_eq_getElem h, Option.getD_some]
  exact List.getElem_mem h

/-- A distance is found iff its two numbers fit. -/
lemma pocDistance_eq_ok {midpointTwice bucket : Int} {distance : Nat} :
    pocDistance midpointTwice bucket = .ok distance ↔
      (i128Min ≤ bucket * 2 ∧ bucket * 2 ≤ i128Max) ∧
      (i128Min ≤ bucket * 2 - midpointTwice ∧ bucket * 2 - midpointTwice ≤ i128Max) ∧
      distance = (bucket * 2 - midpointTwice).natAbs := by
  unfold pocDistance
  rw [map_eq_ok]
  simp only [orOverflow_eq_ok, Option.bind_eq_some_iff, checkedI128_eq_some]
  constructor
  · rintro ⟨_, ⟨_, ⟨htwice, rfl⟩, hdiff, rfl⟩, rfl⟩
    exact ⟨htwice, hdiff, rfl⟩
  · rintro ⟨htwice, hdiff, rfl⟩
    exact ⟨_, ⟨_, ⟨htwice, rfl⟩, hdiff, rfl⟩, rfl⟩

/-- The candidate is one of the buckets, with its activity. -/
def IsBucket (s : SessionProfileBuilder) (basis : ValueAreaBasis) (bs : List Int)
    (poc : PocCandidate) : Prop :=
  poc.index < bs.length ∧ poc.activity = s.activity basis (bucketAt bs poc.index)

variable {bs : List Int} {mid : Int} {poc : PocCandidate}

/-- A step of the search keeps its candidate or takes the bucket. -/
lemma pocStep_eq_ok {poc' : PocCandidate} {entry : Int × Nat} (hentry : entry ∈ bs.zipIdx)
    (h : s.pocStep basis bs mid poc entry = .ok poc') :
    (poc' = poc ∧ ¬ s.activity basis entry.1 > poc.activity) ∨ s.IsBucket basis bs poc' := by
  obtain ⟨distance, -, h⟩ := bind_eq_ok.mp h
  split_ifs at h with hbetter
  · cases h
    have hget := List.mk_mem_zipIdx_iff_getElem?.mp hentry
    refine .inr ⟨(List.getElem?_eq_some_iff.mp hget).1, ?_⟩
    rw [bucketAt, hget, Option.getD_some]
  · cases h
    exact .inl ⟨rfl, fun hgt => hbetter (.inl hgt)⟩

lemma exists_pocStep_iff {entry : Int × Nat} :
    (∃ poc', s.pocStep basis bs mid poc entry = .ok poc') ↔
      ∃ distance, pocDistance mid entry.1 = .ok distance := by
  refine exists_bind_eq_ok.trans (exists_congr fun distance => and_iff_left ?_)
  split_ifs
  · exact ⟨_, rfl⟩
  · exact ⟨_, rfl⟩

/-- **The point of control is one of the buckets**: the first one replaces the candidate the search
starts with. -/
theorem poc_isBucket (hne : bs ≠ []) (hact : ∀ b, 0 ≤ s.activity basis b)
    (h : bs.zipIdx.foldlM (s.pocStep basis bs mid) ⟨0, -1, 2 ^ 128 - 1⟩ = .ok poc) :
    s.IsBucket basis bs poc := by
  obtain ⟨entry, rest, hbs⟩ : ∃ entry rest, bs.zipIdx = entry :: rest :=
    List.exists_cons_of_ne_nil fun hnil => hne (List.zipIdx_eq_nil_iff.mp hnil)
  have hmem : ∀ entry' ∈ entry :: rest, entry' ∈ bs.zipIdx := fun _ hmem => hbs ▸ hmem
  rw [hbs, List.foldlM_cons] at h
  obtain ⟨first, hfirst, h⟩ := bind_eq_ok.mp h
  have hbase : s.IsBucket basis bs first := by
    rcases pocStep_eq_ok (hmem entry List.mem_cons_self) hfirst with ⟨-, hle⟩ | hbucket
    · have hpos := hact entry.1
      exact absurd (show s.activity basis entry.1 > -1 by omega) hle
    · exact hbucket
  refine foldlM_invariant (P := s.IsBucket basis bs) ?_ hbase h
  intro poc entry' hentry' poc' hpoc hpoc'
  rcases pocStep_eq_ok (hmem entry' (List.mem_cons_of_mem entry hentry')) hpoc' with
    ⟨rfl, -⟩ | hbucket
  · exact hpoc
  · exact hbucket

/-- The activity of the buckets from `lower` up to `upper`. -/
def areaActivity (activityAt : Nat → Int) (lower upper : Nat) : Int :=
  ∑ i ∈ Finset.Ico lower (upper + 1), activityAt i

section Widening

variable {activityAt : Nat → Int} {count lower upper : Nat}

lemma areaActivity_down (hlower : 0 < lower) (hle : lower ≤ upper) :
    areaActivity activityAt lower upper + activityAt (lower - 1) =
      areaActivity activityAt (lower - 1) upper := by
  unfold areaActivity
  rw [Finset.sum_eq_sum_Ico_succ_bot (show lower - 1 < upper + 1 by omega),
    show lower - 1 + 1 = lower by omega, add_comm]

lemma areaActivity_up (hle : lower ≤ upper) :
    areaActivity activityAt lower upper + activityAt (upper + 1) =
      areaActivity activityAt lower (upper + 1) :=
  (Finset.sum_Ico_succ_top (show lower ≤ upper + 1 by omega) activityAt).symm

/-- An area has some of the activity of all buckets. -/
lemma areaActivity_bounds (hact : ∀ i, 0 ≤ activityAt i) (hupper : upper < count) :
    0 ≤ areaActivity activityAt lower upper ∧
      areaActivity activityAt lower upper ≤ ∑ i ∈ Finset.range count, activityAt i := by
  refine ⟨Finset.sum_nonneg fun i _ => hact i, ?_⟩
  refine Finset.sum_le_sum_of_subset_of_nonneg ?_ fun i _ _ => hact i
  intro i hi
  have hlt := (Finset.mem_Ico.mp hi).2
  exact Finset.mem_range.mpr (by omega)

/-- What is selected fits as long as the activity of all buckets does. -/
lemma widen_eq_ok (hact : ∀ i, 0 ≤ activityAt i) (hupper : upper < count)
    (hsum : ∑ i ∈ Finset.range count, activityAt i ≤ i128Max) {selected value : Int}
    (h : selected + value = areaActivity activityAt lower upper) :
    widen selected value = .ok (areaActivity activityAt lower upper) := by
  obtain ⟨hnonneg, hle⟩ : 0 ≤ areaActivity activityAt lower upper ∧ _ :=
    areaActivity_bounds hact hupper
  have hmin : i128Min ≤ 0 := by decide
  unfold widen
  rw [h]
  exact orOverflow_eq_ok.mpr (checkedI128_eq_some.mpr ⟨⟨hmin.trans hnonneg, hle.trans hsum⟩, rfl⟩)

/-- An area below the target gets one level more, at its lower or its upper end. -/
inductive AddsLevel (activityAt : Nat → Int) (count : Nat) (target : Int) :
    Nat × Nat → Nat × Nat → Prop
  | down {lower upper : Nat} (h : areaActivity activityAt (lower + 1) upper < target) :
      AddsLevel activityAt count target (lower + 1, upper) (lower, upper)
  | up {lower upper : Nat} (h : areaActivity activityAt lower upper < target)
      (hroom : upper + 1 < count) : AddsLevel activityAt count target (lower, upper) (lower, upper + 1)

/-- **The loop that widens the area does not fail**: what it has selected is the activity of an
interval of buckets, and that of all of them fits. It adds level after level while the activity is
below the target, and stops where it is not or where no level is left. -/
theorem exists_expandValueArea (hact : ∀ i, 0 ≤ activityAt i)
    (hsum : ∑ i ∈ Finset.range count, activityAt i ≤ i128Max) (target : Int) {selected : Int}
    (hle : lower ≤ upper) (hupper : upper < count)
    (hselected : selected = areaActivity activityAt lower upper) :
    ∃ area, expandValueArea activityAt count target lower upper selected = .ok area ∧
      Relation.ReflTransGen (AddsLevel activityAt count target) (lower, upper) area ∧
      (target ≤ areaActivity activityAt area.1 area.2 ∨ area.1 = 0 ∧ area.2 + 1 = count) := by
  have hdown {lower upper : Nat} (hlower : 0 < lower)
      (hlt : areaActivity activityAt lower upper < target) :
      AddsLevel activityAt count target (lower, upper) (lower - 1, upper) := by
    obtain ⟨lower, rfl⟩ := Nat.exists_eq_add_of_le' hlower
    exact .down hlt
  fun_induction expandValueArea activityAt count target lower upper selected with
  | case1 lower upper selected hlt hlower hroom heq ih1 ih2 =>
    subst hselected
    rw [widen_eq_ok hact hupper hsum (areaActivity_down hlower hle)]
    simp only [bind, Except.bind]
    split_ifs with hmore
    · have hup : areaActivity activityAt (lower - 1) upper + activityAt (upper + 1) = _ :=
        areaActivity_up (by omega)
      rw [widen_eq_ok hact hroom hsum hup]
      obtain ⟨area, hok, hpath, hend⟩ := ih1 0 _ (by omega) hroom rfl
      exact ⟨area, hok, .head (hdown hlower hlt) (.head (.up hmore hroom) hpath), hend⟩
    · obtain ⟨area, hok, hpath, hend⟩ := ih2 _ (by omega) hupper rfl
      exact ⟨area, hok, .head (hdown hlower hlt) hpath, hend⟩
  | case2 lower upper selected hlt hlower hroom hne hgt ih
  | case4 lower upper selected hlt hlower hroom ih =>
    subst hselected
    rw [widen_eq_ok hact hupper hsum (areaActivity_down hlower hle)]
    obtain ⟨area, hok, hpath, hend⟩ := ih _ (by omega) hupper rfl
    exact ⟨area, hok, .head (hdown hlower hlt) hpath, hend⟩
  | case3 lower upper selected hlt hlower hroom hne hgt ih
  | case5 lower upper selected hlt hlower hroom ih =>
    subst hselected
    rw [widen_eq_ok hact hroom hsum (areaActivity_up hle)]
    obtain ⟨area, hok, hpath, hend⟩ := ih _ (by omega) hroom rfl
    exact ⟨area, hok, .head (.up hlt hroom) hpath, hend⟩
  | case6 lower upper selected hlt hlower hroom =>
    exact ⟨(lower, upper), rfl, .refl, .inr ⟨by omega, by omega⟩⟩
  | case7 lower upper selected hlt =>
    exact ⟨(lower, upper), rfl, .refl, .inl (hselected ▸ not_lt.mp hlt)⟩

/-- Levels are added around an area and within the buckets. -/
lemma AddsLevel.bounds {target : Int} {start area : Nat × Nat}
    (h : Relation.ReflTransGen (AddsLevel activityAt count target) start area)
    (hstart : start.2 < count) : area.1 ≤ start.1 ∧ start.2 ≤ area.2 ∧ area.2 < count := by
  induction h with
  | refl => exact ⟨le_rfl, le_rfl, hstart⟩
  | tail _ hadds ih =>
    obtain ⟨hlower, hupper, hcount⟩ := ih
    cases hadds with
    | down _ => exact ⟨(Nat.le_succ _).trans hlower, hupper, hcount⟩
    | up _ hroom => exact ⟨hlower, hupper.trans (Nat.le_succ _), hroom⟩

end Widening

/-- The activity of all buckets. -/
def sessionActivity (s : SessionProfileBuilder) (basis : ValueAreaBasis) : Int :=
  (s.buckets.map (s.activity basis)).sum

lemma sum_bucketAt (g : Int → Int) (bs : List Int) :
    ∑ i ∈ Finset.range bs.length, g (bucketAt bs i) = (bs.map g).sum := by
  induction bs with
  | nil => rfl
  | cons b bs ih =>
    rw [List.length_cons, Finset.sum_range_succ', List.map_cons, List.sum_cons, ← ih, add_comm]
    rfl

lemma totalActivity_eq_ok (hact : ∀ b, 0 ≤ s.activity basis b) {total : Int} :
    s.totalActivity basis s.buckets = .ok total ↔
      s.sessionActivity basis ≤ i128Max ∧ total = s.sessionActivity basis := by
  have hmin : i128Min ≤ 0 := by decide
  have hstep : ∀ b ∈ s.buckets, ∀ sum r, 0 ≤ sum →
      (orOverflow "summing value-area activity" (checkedI128 (sum + s.activity basis b)) = .ok r ↔
        sum + s.activity basis b ≤ i128Max ∧ r = sum + s.activity basis b) := by
    intro b _ sum r hsum
    have hnonneg := add_nonneg hsum (hact b)
    rw [orOverflow_eq_ok, checkedI128_eq_some, and_iff_right (hmin.trans hnonneg)]
  unfold totalActivity
  rw [foldlM_sum_eq_ok_iff (fun b _ => hact b) hstep le_rfl (by decide), zero_add]
  rfl

lemma valueAreaTarget_ok_iff {total : Int} (htotal : 0 ≤ total) :
    (∃ target, s.valueAreaTarget total = .ok target) ↔
      total * s.config.valueAreaBps + 9999 ≤ i128Max := by
  have hmin : i128Min ≤ 0 := by decide
  have hscaled : 0 ≤ total * s.config.valueAreaBps := mul_nonneg htotal (Int.natCast_nonneg _)
  simp only [valueAreaTarget, exists_bind_eq_ok, orOverflow_eq_ok, checkedI128_eq_some]
  constructor
  · rintro ⟨_, ⟨-, rfl⟩, _, ⟨hfits, -⟩, -⟩
    exact hfits.2
  · intro hfits
    exact ⟨_, ⟨⟨hmin.trans hscaled, by omega⟩, rfl⟩, _, ⟨⟨by omega, hfits⟩, rfl⟩, _, rfl⟩

/-- The activity of the level with an index. -/
def levelActivity (s : SessionProfileBuilder) (basis : ValueAreaBasis) (index : Nat) : Int :=
  s.activity basis (bucketAt s.buckets index)

/-- The last part of the value area, once the point of control and the target are there. -/
lemma exists_area (hact : ∀ b, 0 ≤ s.activity basis b)
    (hsum : s.sessionActivity basis ≤ i128Max) (hpoc : s.IsBucket basis s.buckets poc)
    (target : Int) :
    ∃ area, expandValueArea (fun index => s.activity basis (bucketAt s.buckets index))
        s.buckets.length target poc.index poc.index poc.activity = .ok area ∧
      (area.1 ≤ poc.index ∧ poc.index ≤ area.2 ∧ area.2 < s.buckets.length) ∧
      Relation.ReflTransGen (AddsLevel (s.levelActivity basis) s.buckets.length target)
        (poc.index, poc.index) area ∧
      (target ≤ areaActivity (s.levelActivity basis) area.1 area.2 ∨
        area.1 = 0 ∧ area.2 + 1 = s.buckets.length) := by
  have hnonneg : ∀ i, 0 ≤ s.levelActivity basis i := fun i => hact _
  have hfits : ∑ i ∈ Finset.range s.buckets.length, s.levelActivity basis i ≤ i128Max :=
    (sum_bucketAt (s.activity basis) s.buckets).trans_le hsum
  have hstart : poc.activity = areaActivity (s.levelActivity basis) poc.index poc.index := by
    rw [hpoc.2, areaActivity, Finset.sum_Ico_succ_top le_rfl, Finset.Ico_self, Finset.sum_empty,
      zero_add]
    rfl
  obtain ⟨area, hok, hpath, hend⟩ :=
    exists_expandValueArea hnonneg hfits target le_rfl hpoc.1 hstart
  exact ⟨area, hok, AddsLevel.bounds hpath hpoc.1, hpath, hend⟩

lemma exists_poc_iff :
    (∃ poc', bs.zipIdx.foldlM (s.pocStep basis bs mid) poc = .ok poc') ↔
      ∀ b ∈ bs, ∃ distance, pocDistance mid b = .ok distance := by
  have hstep : ∀ poc, ∀ entry ∈ bs.zipIdx, (∃ poc', s.pocStep basis bs mid poc entry = .ok poc') ↔
      ∃ distance, pocDistance mid entry.1 = .ok distance := fun _ _ _ => exists_pocStep_iff
  rw [exists_foldlM_eq_ok_iff hstep]
  constructor
  · intro h b hb
    obtain ⟨i, hi⟩ := List.getElem?_of_mem hb
    exact h (b, i) (List.mk_mem_zipIdx_iff_getElem?.mpr hi)
  · rintro h ⟨b, i⟩ hentry
    exact h b (List.mem_of_getElem? (List.mk_mem_zipIdx_iff_getElem?.mp hentry))

lemma sessionActivity_nonneg (hact : ∀ b, 0 ≤ s.activity basis b) : 0 ≤ s.sessionActivity basis := by
  refine List.sum_nonneg fun v hv => ?_
  obtain ⟨b, -, rfl⟩ := List.mem_map.mp hv
  exact hact b

/-- **A value area that was found** is among the buckets; twice each bucket and the scaled target
fit. -/
theorem valueAreaBetween_eq_ok (hact : ∀ b, 0 ≤ s.activity basis b) (hne : s.buckets ≠ [])
    {low high : Int} {area : Option Int × Option Int × Option Int}
    (h : s.valueAreaBetween basis low high = .ok area) :
    (∀ b ∈ s.buckets, b * 2 ≤ i128Max) ∧
      s.sessionActivity basis * s.config.valueAreaBps + 9999 ≤ i128Max ∧
      (∃ p ∈ s.buckets, area.1 = some p) ∧ (∃ l ∈ s.buckets, area.2.1 = some l) ∧
      ∃ u ∈ s.buckets, area.2.2 = some u := by
  unfold valueAreaBetween at h
  simp only [bind_eq_ok] at h
  obtain ⟨_, -, poc, hpoc, total, htotal, target, htarget, ⟨l, u⟩, hexpand, h⟩ := h
  cases h
  obtain ⟨hsum, rfl⟩ := (totalActivity_eq_ok hact).mp htotal
  have hbucket := poc_isBucket hne hact hpoc
  obtain ⟨area, hexpand', ⟨hl, hp, hu⟩, -⟩ := exists_area hact hsum hbucket target
  cases hexpand.symm.trans hexpand'
  refine ⟨?_, ?_, ⟨_, bucketAt_mem hbucket.1, rfl⟩, ⟨_, bucketAt_mem (by omega), rfl⟩,
    ⟨_, bucketAt_mem hu, rfl⟩⟩
  · intro b hb
    obtain ⟨distance, hdistance⟩ := exists_poc_iff.mp ⟨poc, hpoc⟩ b hb
    exact (pocDistance_eq_ok.mp hdistance).1.2
  · exact (valueAreaTarget_ok_iff (sessionActivity_nonneg hact)).mp ⟨target, htarget⟩

/-- **A value area is found** if the numbers fit. -/
theorem exists_valueAreaBetween (hact : ∀ b, 0 ≤ s.activity basis b) (hbps : 1 ≤ s.config.valueAreaBps)
    (hpos : ∀ b ∈ s.buckets, 0 ≤ b) (htwice : ∀ b ∈ s.buckets, b * 2 ≤ i128Max)
    (htarget : s.sessionActivity basis * s.config.valueAreaBps + 9999 ≤ i128Max) {low high : Int}
    (hlow : low ∈ s.buckets) (hhigh : high ∈ s.buckets) :
    ∃ area, s.valueAreaBetween basis low high = .ok area := by
  have hmin : i128Min ≤ -i128Max := by decide
  have hlow0 := hpos low hlow
  have hhigh0 := hpos high hhigh
  have hlow2 := htwice low hlow
  have hhigh2 := htwice high hhigh
  have hmid : checkedI128 (low + high) = some (low + high) :=
    checkedI128_eq_some.mpr ⟨⟨by omega, by omega⟩, rfl⟩
  obtain ⟨poc, hpoc⟩ : ∃ poc, s.buckets.zipIdx.foldlM (s.pocStep basis s.buckets (low + high))
      ⟨0, -1, 2 ^ 128 - 1⟩ = .ok poc := by
    refine exists_poc_iff.mpr fun b hb => ⟨_, pocDistance_eq_ok.mpr ⟨?_, ?_, rfl⟩⟩
    · have hb0 := hpos b hb
      exact ⟨by omega, htwice b hb⟩
    · have hb0 := hpos b hb
      have hb2 := htwice b hb
      exact ⟨by omega, by omega⟩
  have hnonneg := sessionActivity_nonneg hact
  have hsum : s.sessionActivity basis ≤ i128Max := by
    have hle : s.sessionActivity basis ≤ s.sessionActivity basis * s.config.valueAreaBps :=
      le_mul_of_one_le_right hnonneg (by exact_mod_cast hbps)
    omega
  obtain ⟨target, htarget⟩ := (valueAreaTarget_ok_iff hnonneg).mpr htarget
  have hne : s.buckets ≠ [] := List.ne_nil_of_mem hlow
  obtain ⟨area, hexpand, -⟩ := exists_area hact hsum (poc_isBucket hne hact hpoc) target
  simp only [valueAreaBetween, bind_eq_ok]
  exact ⟨_, _, orOverflow_eq_ok.mpr hmid, poc, hpoc, _, (totalActivity_eq_ok hact).mpr ⟨hsum, rfl⟩,
    target, htarget, area, hexpand, rfl⟩

lemma upToOverflow_valueAreaBetween (hact : ∀ b, 0 ≤ s.activity basis b) (hne : s.buckets ≠ [])
    (low high : Int) : UpToOverflow (s.valueAreaBetween basis low high) := by
  refine FailsOnly.bind (upToOverflow_orOverflow _ _) fun mid _ => ?_
  refine FailsOnly.bind (.foldlM ?_ _) fun poc hpoc => ?_
  · intro poc entry _
    refine FailsOnly.bind (.map _ (upToOverflow_orOverflow _ _)) fun distance _ => ?_
    split_ifs
    · exact .ok _
    · exact .ok _
  refine FailsOnly.bind (.foldlM (fun _ _ _ => upToOverflow_orOverflow _ _) _) ?_
  intro total htotal
  obtain ⟨hsum, rfl⟩ := (totalActivity_eq_ok hact).mp htotal
  refine FailsOnly.bind ?_ fun target _ => ?_
  · refine FailsOnly.bind (upToOverflow_orOverflow _ _) fun _ _ => ?_
    exact FailsOnly.bind (upToOverflow_orOverflow _ _) fun _ _ => .ok _
  · obtain ⟨area, hexpand, -⟩ := exists_area hact hsum (poc_isBucket hne hact hpoc) target
    rw [hexpand]
    exact .ok _

/-- A builder has no buckets, or a first and a last one. -/
lemma valueArea_cases (s : SessionProfileBuilder) (basis : ValueAreaBasis) :
    (s.buckets = [] ∧ s.valueArea basis = .ok (none, none, none)) ∨
      ∃ low ∈ s.buckets, ∃ high ∈ s.buckets,
        s.valueArea basis = s.valueAreaBetween basis low high := by
  unfold valueArea
  rcases hlow : s.buckets.head? with _ | low
  · exact .inl ⟨List.head?_eq_none_iff.mp hlow, rfl⟩
  · rcases hhigh : s.buckets.getLast? with _ | high
    · rw [List.getLast?_eq_none_iff.mp hhigh] at hlow
      cases hlow
    · exact .inr ⟨low, List.mem_of_head? hlow, high, List.mem_of_getLast? hhigh, rfl⟩

/-! ## The snapshot -/

lemma Levels.activity_nonneg (h : s.Levels) (basis : ValueAreaBasis) (b : Int) :
    0 ≤ s.activity basis b := by
  cases basis with
  | volume =>
    unfold activity
    rcases hv : s.volumeByLevel[b]? with _ | v
    · exact le_rfl
    · exact (h.level b v hv).2.2.le
  | tpo => exact Int.natCast_nonneg _

/-- The range of a session fits: its prices are positive. -/
lemma Levels.exists_sessionRange (h : s.Levels) : ∃ range, s.sessionRange = .ok range := by
  unfold sessionRange
  rcases hlow : s.sessionLow with _ | low
  · exact ⟨_, rfl⟩
  · rcases hhigh : s.sessionHigh with _ | high
    · exact ⟨_, rfl⟩
    · have hmin : i128Min ≤ -i128Max := by decide
      have hl := h.low low hlow
      have hh := h.high high hhigh
      exact exists_bind_eq_ok.mpr ⟨_, orOverflow_eq_ok.mpr
        (checkedI128_eq_some.mpr ⟨⟨by omega, by omega⟩, rfl⟩), _, rfl⟩

lemma Levels.upToOverflow_valueArea (h : s.Levels) (basis : ValueAreaBasis) :
    UpToOverflow (s.valueArea basis) := by
  rcases s.valueArea_cases basis with ⟨-, hnil⟩ | ⟨low, hlow, high, -, hbetween⟩
  · rw [hnil]
    exact .ok _
  · rw [hbetween]
    exact upToOverflow_valueAreaBetween (h.activity_nonneg basis) (List.ne_nil_of_mem hlow) low high

/-- The point of control and the ends of a value area are buckets of the session. -/
lemma Levels.valueArea_mem (h : s.Levels) {area : Option Int × Option Int × Option Int}
    (hok : s.valueArea basis = .ok area) {o : Option Int}
    (ho : o = area.1 ∨ o = area.2.1 ∨ o = area.2.2) : ∀ b ∈ o, b ∈ s.buckets := by
  rcases s.valueArea_cases basis with ⟨-, hnil⟩ | ⟨low, hlow, high, -, hbetween⟩
  · cases hnil.symm.trans hok
    rcases ho with rfl | rfl | rfl <;> exact fun b hb => absurd hb (Option.not_mem_none b)
  · obtain ⟨-, -, ⟨p, hp, hp'⟩, ⟨l, hl, hl'⟩, ⟨u, hu, hu'⟩⟩ := valueAreaBetween_eq_ok
      (h.activity_nonneg basis) (List.ne_nil_of_mem hlow) (hbetween.symm.trans hok)
    rw [hp', hl', hu'] at ho
    rcases ho with rfl | rfl | rfl
    · exact fun b hb => Option.some.inj hb ▸ hp
    · exact fun b hb => Option.some.inj hb ▸ hl
    · exact fun b hb => Option.some.inj hb ▸ hu

/-- **Without a bucket zero a snapshot fails with an overflow only.** -/
theorem Levels.upToOverflow_snapshot (h : s.Levels) (hstart : s.sessionStart ≠ none)
    (hpos : ∀ b ∈ s.buckets, 0 < b) (state : ProfileState) (basis : ValueAreaBasis) :
    UpToOverflow (s.snapshot state basis) := by
  obtain ⟨start, hstart⟩ := Option.ne_none_iff_exists'.mp hstart
  obtain ⟨range, hrange⟩ := h.exists_sessionRange
  unfold snapshot
  rw [hstart, hrange]
  refine FailsOnly.bind (upToOverflow_orOverflow _ _) fun endTs _ => ?_
  refine FailsOnly.bind (.ok range) fun _ _ => ?_
  refine FailsOnly.bind (h.upToOverflow_valueArea basis) fun area hok => ?_
  have hprice : ∀ o, o = area.1 ∨ o = area.2.1 ∨ o = area.2.2 → UpToOverflow (s.priceAt? o) := by
    intro o ho
    have hmem := h.valueArea_mem hok ho
    rcases o with _ | b
    · exact .ok none
    · exact FailsOnly.map _ (GridSpec.upToOverflow_priceAt (hpos b (hmem b rfl)))
  refine FailsOnly.bind (.mapM ?_) fun levels _ => ?_
  · rintro ⟨b, v⟩ hentry
    have hv := OrdMap.mem_toList.mp hentry
    refine FailsOnly.bind (GridSpec.upToOverflow_priceAt (hpos b (mem_buckets.mpr ⟨v, hv⟩))) ?_
    intro price _
    rw [GridSpec.quantityAt_of_nonneg (h.level b v hv).2.2.le]
    exact .ok _
  refine FailsOnly.bind (.foldlM (fun _ _ _ => upToOverflow_orOverflow _ _) _) fun tpo _ => ?_
  rw [GridSpec.quantityAt_of_nonneg h.total_nonneg]
  refine FailsOnly.bind (.ok _) fun _ _ => ?_
  refine FailsOnly.bind (hprice _ (.inl rfl)) fun _ _ => ?_
  refine FailsOnly.bind (hprice _ (.inr (.inr rfl))) fun _ _ => ?_
  exact FailsOnly.bind (hprice _ (.inr (.inl rfl))) fun _ _ => .ok _

/-! ### When there is one -/

lemma Levels.sessionActivity_volume (h : s.Levels) :
    s.sessionActivity .volume = s.totalVolumeUnits := by
  rw [h.total, sessionActivity, buckets, List.map_map]
  refine congrArg List.sum (List.map_congr_left ?_)
  rintro ⟨b, v⟩ hmem
  show s.volumeByLevel[b]?.getD 0 = v
  rw [OrdMap.mem_toList.mp hmem, Option.getD_some]

/-- The TPO counts of a session. -/
def tpoTotal (s : SessionProfileBuilder) : Int := OrdMap.total (fun n : Nat => (n : Int)) s.tpoByLevel

lemma Levels.sessionActivity_tpo (h : s.Levels) : s.sessionActivity .tpo = s.tpoTotal := by
  have hkeys : ∀ (b : Int) (n : Nat), s.tpoByLevel[b]? = some n → b ∈ s.buckets.toFinset := by
    intro b n hn
    obtain ⟨v, hv⟩ := Option.ne_none_iff_exists'.mp (h.counted b n hn)
    exact List.mem_toFinset.mpr (mem_buckets.mpr ⟨v, hv⟩)
  have hnodup : s.buckets.Nodup := OrdMap.nodup_keys s.volumeByLevel
  rw [tpoTotal, OrdMap.total_eq_sum _ hkeys, List.sum_toFinset _ hnodup]
  refine congrArg List.sum (List.map_congr_left fun b _ => ?_)
  show ((s.tpoByLevel[b]?.getD 0 : Nat) : Int) = _
  rcases s.tpoByLevel[b]? with _ | n <;> rfl

lemma tpoTotal_eq (s : SessionProfileBuilder) :
    s.tpoTotal = ((s.tpoByLevel.toList.map Prod.snd).sum : Nat) := by
  rw [tpoTotal, OrdMap.total, Nat.cast_list_sum, List.map_map]
  rfl

lemma exists_totalTpo_iff : (∃ n, s.totalTpo = .ok n) ↔ s.tpoTotal < 2 ^ 64 := by
  have hstep : ∀ entry ∈ s.tpoByLevel.toList, ∀ sum r : Nat, 0 ≤ sum →
      (orOverflow "summing session TPO count" (checkedU64 (sum + entry.2)) = .ok r ↔
        sum + entry.2 ≤ 2 ^ 64 - 1 ∧ r = sum + entry.2) := by
    intro entry _ sum r _
    rw [orOverflow_eq_ok, checkedU64_eq_some, Nat.le_sub_one_iff_lt (by decide)]
  have hfold := fun r : Nat => foldlM_sum_eq_ok_iff (r := r)
    (fun (entry : Int × Nat) (_ : entry ∈ s.tpoByLevel.toList) => Nat.zero_le entry.2) hstep le_rfl
    (Nat.zero_le _)
  rw [tpoTotal_eq]
  unfold totalTpo
  simp only [hfold, zero_add, exists_and_left, exists_eq, and_true]
  change (s.tpoByLevel.toList.map Prod.snd).sum ≤ _ ↔ _
  omega

/-- **A profile that can be represented**: no bucket is below the first, and the numbers in the
snapshot, the open TPO period counted in, fit their types. -/
structure Representable (s : SessionProfileBuilder) (basis : ValueAreaBasis) : Prop where
  sessionEnd : ∀ start ∈ s.sessionStart, start + s.time.sessionNs ≤ i64Max
  bucket : ∀ b ∈ s.buckets, 0 < b ∧ b * 2 ≤ i128Max
  target : basis = .volume → s.totalVolumeUnits * s.config.valueAreaBps + 9999 ≤ i128Max
  tpo : s.tpoTotal + s.currentTpoLevels.card < 2 ^ 64

lemma representable_iff : s.Representable basis ↔
    (∀ start ∈ s.sessionStart, start + s.time.sessionNs ≤ i64Max) ∧
    (∀ b ∈ s.buckets, 0 < b ∧ b * 2 ≤ i128Max) ∧
    (basis = .volume → s.totalVolumeUnits * s.config.valueAreaBps + 9999 ≤ i128Max) ∧
    s.tpoTotal + s.currentTpoLevels.card < 2 ^ 64 :=
  ⟨fun h => ⟨h.sessionEnd, h.bucket, h.target, h.tpo⟩, fun h => ⟨h.1, h.2.1, h.2.2.1, h.2.2.2⟩⟩

instance (s : SessionProfileBuilder) (basis : ValueAreaBasis) : Decidable (s.Representable basis) :=
  decidable_of_iff' _ representable_iff

lemma ProfileConfig.bps_bounds {c : ProfileConfig} (h : c.validate = .ok ()) :
    1 ≤ c.valueAreaBps ∧ c.valueAreaBps ≤ 10000 := by
  unfold ProfileConfig.validate at h
  rw [check_eq_ok, not_not] at h
  exact h.1

/-- The target of the value area fits, for TPO counts because they do. -/
lemma Sound.target_iff (h : s.Sound) (htpo : s.tpoTotal < 2 ^ 64) :
    s.sessionActivity basis * s.config.valueAreaBps + 9999 ≤ i128Max ↔
      (basis = .volume → s.totalVolumeUnits * s.config.valueAreaBps + 9999 ≤ i128Max) := by
  obtain ⟨-, hbps⟩ := ProfileConfig.bps_bounds h.config
  cases basis with
  | volume =>
    rw [h.levels.sessionActivity_volume]
    exact ⟨fun hle _ => hle, fun hle => hle rfl⟩
  | tpo =>
    rw [h.levels.sessionActivity_tpo]
    refine iff_of_true ?_ (by rintro ⟨⟩)
    have hnonneg : 0 ≤ s.tpoTotal := by
      rw [tpoTotal_eq]
      exact Int.natCast_nonneg _
    have hmul : s.tpoTotal * s.config.valueAreaBps ≤ 2 ^ 64 * 10000 :=
      mul_le_mul htpo.le (by exact_mod_cast hbps) (Int.natCast_nonneg _) (by decide)
    have hmax : (2 : Int) ^ 64 * 10000 + 9999 ≤ i128Max := by decide
    omega

/-- **When there is a value area**: twice each bucket and the scaled target fit. -/
theorem Levels.exists_valueArea_iff (h : s.Levels) (hbps : 1 ≤ s.config.valueAreaBps) :
    (∃ area, s.valueArea basis = .ok area) ↔ (∀ b ∈ s.buckets, b * 2 ≤ i128Max) ∧
      s.sessionActivity basis * s.config.valueAreaBps + 9999 ≤ i128Max := by
  have hact := h.activity_nonneg basis
  rcases s.valueArea_cases basis with ⟨hnil, hok⟩ | ⟨low, hlow, high, hhigh, hbetween⟩
  · rw [hok, sessionActivity, hnil]
    refine iff_of_true ⟨_, rfl⟩ ⟨fun b hb => absurd hb List.not_mem_nil, ?_⟩
    rw [List.map_nil, List.sum_nil, zero_mul]
    decide
  · rw [hbetween]
    constructor
    · rintro ⟨area, hok⟩
      obtain ⟨htwice, htarget, -⟩ := valueAreaBetween_eq_ok hact (List.ne_nil_of_mem hlow) hok
      exact ⟨htwice, htarget⟩
    · rintro ⟨htwice, htarget⟩
      refine exists_valueAreaBetween hact hbps ?_ htwice htarget hlow hhigh
      intro b hb
      obtain ⟨v, hv⟩ := mem_buckets.mp hb
      exact (h.level b v hv).1

lemma Sound.exists_valueArea_iff (h : s.Sound) (htpo : s.tpoTotal < 2 ^ 64) :
    (∃ area, s.valueArea basis = .ok area) ↔ (∀ b ∈ s.buckets, b * 2 ≤ i128Max) ∧
      (basis = .volume → s.totalVolumeUnits * s.config.valueAreaBps + 9999 ≤ i128Max) := by
  rw [← h.target_iff htpo]
  exact h.levels.exists_valueArea_iff (ProfileConfig.bps_bounds h.config).1

/-- A level has a price iff its bucket is at least one. -/
lemma Sound.levelSnapshot_eq_ok (h : s.Sound) {b v : Int} (hv : s.volumeByLevel[b]? = some v)
    {level : ProfileLevel} : s.levelSnapshot b v = .ok level ↔
      0 < b ∧ level = ⟨s.grid.bucketPrice b, s.grid.volume v, s.tpoByLevel[b]?.getD 0⟩ := by
  obtain ⟨-, hfits, hpos⟩ := h.levels.level b v hv
  unfold levelSnapshot
  rw [GridSpec.quantityAt_of_nonneg hpos.le, bind_eq_ok]
  constructor
  · rintro ⟨price, hprice, hlevel⟩
    obtain ⟨hb, -, rfl⟩ := (GridSpec.priceAt_eq_ok h.grid).mp hprice
    cases hlevel
    exact ⟨hb, rfl⟩
  · rintro ⟨hb, rfl⟩
    exact ⟨_, (GridSpec.priceAt_eq_ok h.grid).mpr ⟨hb, hfits, rfl⟩, rfl⟩

/-- **A session without an open TPO period has a profile iff it can be represented.** -/
theorem Sound.exists_snapshot_iff (h : s.Sound) (hstart : s.sessionStart ≠ none)
    (hempty : s.currentTpoLevels = ∅) (state : ProfileState) (basis : ValueAreaBasis) :
    (∃ p, s.snapshot state basis = .ok p) ↔ s.Representable basis := by
  obtain ⟨start, hstart⟩ := Option.ne_none_iff_exists'.mp hstart
  obtain ⟨range, hrange⟩ := h.levels.exists_sessionRange
  have hsize := h.time.session_pos
  have hmin := (h.period start hstart).1
  have hlevels : ∀ levels, s.volumeByLevel.toList.mapM (fun entry => s.levelSnapshot entry.1 entry.2) =
      .ok levels ↔ (∀ entry ∈ s.volumeByLevel.toList, 0 < entry.1) ∧ levels =
        s.volumeByLevel.toList.map fun entry =>
          ⟨s.grid.bucketPrice entry.1, s.grid.volume entry.2, s.tpoByLevel[entry.1]?.getD 0⟩ := by
    intro levels
    refine mapM_eq_ok_iff ?_
    intro entry hentry level
    exact h.levelSnapshot_eq_ok (OrdMap.mem_toList.mp hentry)
  have hbuckets : (∀ entry ∈ s.volumeByLevel.toList, 0 < entry.1) ↔ ∀ b ∈ s.buckets, 0 < b := by
    rw [buckets, List.forall_mem_map]
  have htpo : s.tpoTotal + s.currentTpoLevels.card < 2 ^ 64 ↔ s.tpoTotal < 2 ^ 64 := by
    rw [hempty, Finset.card_empty, Nat.cast_zero, add_zero]
  rw [representable_iff, htpo, hstart]
  unfold snapshot
  rw [hstart]
  constructor
  · rintro ⟨p, hp⟩
    simp only [bind_eq_ok] at hp
    obtain ⟨endTs, hend, _, -, area, harea, levels, hlevelsOk, tpoCount, htpoCount, -⟩ := hp
    have htpoFits := exists_totalTpo_iff.mp ⟨tpoCount, htpoCount⟩
    obtain ⟨htwice, htarget⟩ := (h.exists_valueArea_iff htpoFits).mp ⟨area, harea⟩
    have hpos := hbuckets.mp ((hlevels levels).mp hlevelsOk).1
    rw [orOverflow_eq_ok, checkedI64_eq_some] at hend
    refine ⟨?_, fun b hb => ⟨hpos b hb, htwice b hb⟩, htarget, htpoFits⟩
    rintro start' ⟨⟩
    exact hend.1.2
  · rintro ⟨hend, hbucket, htarget, htpoFits⟩
    have hendFits := hend start rfl
    obtain ⟨area, harea⟩ :=
      (h.exists_valueArea_iff htpoFits).mpr ⟨fun b hb => (hbucket b hb).2, htarget⟩
    obtain ⟨tpoCount, htpoCount⟩ := exists_totalTpo_iff.mpr htpoFits
    have hprice : ∀ o, o = area.1 ∨ o = area.2.1 ∨ o = area.2.2 → ∃ price, s.priceAt? o = .ok price := by
      intro o ho
      have hmem := h.levels.valueArea_mem harea ho
      rcases o with _ | b
      · exact ⟨none, rfl⟩
      · obtain ⟨v, hv⟩ := mem_buckets.mp (hmem b rfl)
        refine ⟨some (s.grid.bucketPrice b), ?_⟩
        show some <$> s.grid.priceAt b = _
        rw [(GridSpec.priceAt_eq_ok h.grid).mpr
          ⟨(hbucket b (hmem b rfl)).1, (h.levels.level b v hv).2.1, rfl⟩]
        rfl
    obtain ⟨poc, hpoc⟩ := hprice _ (.inl rfl)
    obtain ⟨vah, hvah⟩ := hprice _ (.inr (.inr rfl))
    obtain ⟨val, hval⟩ := hprice _ (.inr (.inl rfl))
    have hendTs := checkedI64_eq_some.mpr ⟨⟨by omega, hendFits⟩, rfl⟩
    simp only [bind_eq_ok]
    exact ⟨_, _, orOverflow_eq_ok.mpr hendTs, range, hrange, area, harea, _,
      (hlevels _).mpr ⟨hbuckets.mpr fun b hb => (hbucket b hb).1, rfl⟩, tpoCount, htpoCount, _,
      GridSpec.quantityAt_of_nonneg h.levels.total_nonneg, poc, hpoc, vah, hvah, val, hval, rfl⟩

lemma closed_currentTpoLevels : s.closed.currentTpoLevels = ∅ := by
  unfold closed
  split_ifs with hempty
  · exact hempty
  · rfl

/-- Closing the TPO period moves its levels into the counts. -/
lemma tpoTotal_closed : s.closed.tpoTotal = s.tpoTotal + s.currentTpoLevels.card := by
  unfold closed
  split_ifs with hempty
  · rw [hempty, Finset.card_empty, Nat.cast_zero, add_zero]
    rfl
  · show OrdMap.total _ (scores _ _) = _
    rw [total_scores, currentBuckets, OrdMap.ascending, Finset.length_sort]
    rfl

lemma representable_closed : s.closed.Representable basis ↔ s.Representable basis := by
  rw [representable_iff, representable_iff, tpoTotal_closed, closed_currentTpoLevels, buckets, buckets,
    closed_sessionStart, closed_time, closed_volumeByLevel, closed_totalVolumeUnits, closed_config,
    Finset.card_empty, Nat.cast_zero, add_zero]

/-- **A session can be finalized** iff its TPO period can be closed and its profile represented. -/
theorem Sound.exists_closedSnapshot_iff (h : s.Sound) (hstart : s.sessionStart ≠ none)
    (state : ProfileState) (basis : ValueAreaBasis) :
    (∃ p, s.closedSnapshot state basis = .ok p) ↔ s.Closable ∧ s.Representable basis := by
  have hclosed : s.closed.sessionStart ≠ none := by
    rw [closed_sessionStart]
    exact hstart
  rw [← representable_closed, ← h.closed.exists_snapshot_iff hclosed closed_currentTpoLevels state basis]
  simp only [closedSnapshot_eq_ok, exists_and_left]

end Marketfeed.SessionProfileBuilder
