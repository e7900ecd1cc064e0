import Marketfeed.Analytics.Atomicity
import Mathlib.Data.Prod.Lex
import Mathlib.Data.Rat.Floor

/-!
# What a value area is

The point of control is the first loop's maximum in a lexicographic order, and the second loop adds
levels to it one by one. Which level comes next depends on the activities only: the target decides
when the loop stops. So a greater target gives an area around the smaller one's, even where the loop
adds two levels at once and the smaller target stops between them.
-/

namespace Marketfeed

namespace SessionProfileBuilder

variable {s : SessionProfileBuilder} {basis : ValueAreaBasis}

/-! ## The point of control -/

/-- Twice the middle of the range. -/
def middleTwice (s : SessionProfileBuilder) : Int :=
  s.buckets.head?.getD 0 + s.buckets.getLast?.getD 0

/-- **A bucket of maximal activity**; of several the nearest to the middle of the range, and of two the
lower. -/
structure IsPointOfControl (s : SessionProfileBuilder) (basis : ValueAreaBasis) (poc : Int) : Prop where
  mem : poc ∈ s.buckets
  most : ∀ b ∈ s.buckets, s.activity basis b ≤ s.activity basis poc
  nearest : ∀ b ∈ s.buckets, s.activity basis b = s.activity basis poc →
    (poc * 2 - s.middleTwice).natAbs ≤ (b * 2 - s.middleTwice).natAbs
  lowest : ∀ b ∈ s.buckets, s.activity basis b = s.activity basis poc →
    (b * 2 - s.middleTwice).natAbs = (poc * 2 - s.middleTwice).natAbs → poc ≤ b

/-- The order of the search: more activity, then a smaller distance, then a lower bucket. -/
def rank (activity : Int) (distance : Nat) (bucket : Int) : ℤ ×ₗ ℤ ×ₗ ℤ :=
  toLex (activity, toLex (-(distance : Int), -bucket))

lemma rank_lt_rank {a a' b b' : Int} {d d' : Nat} : rank a d b < rank a' d' b' ↔
    a < a' ∨ a = a' ∧ (d' < d ∨ d = d' ∧ b' < b) := by
  simp only [rank, Prod.Lex.toLex_lt_toLex, neg_lt_neg_iff, neg_inj, Nat.cast_lt, Nat.cast_inj]

/-- Where a bucket stands in the search. -/
def bucketRank (s : SessionProfileBuilder) (basis : ValueAreaBasis) (mid bucket : Int) :
    ℤ ×ₗ ℤ ×ₗ ℤ :=
  rank (s.activity basis bucket) (bucket * 2 - mid).natAbs bucket

variable {poc : PocCandidate}

/-- A step of the search takes the greater of its candidate and the bucket. -/
lemma pocStep_rank {bs : List Int} {mid : Int} {poc' : PocCandidate} {entry : Int × Nat}
    (hentry : entry ∈ bs.zipIdx) (h : s.pocStep basis bs mid poc entry = .ok poc') :
    rank poc'.activity poc'.distance (bucketAt bs poc'.index) =
      max (rank poc.activity poc.distance (bucketAt bs poc.index)) (s.bucketRank basis mid entry.1) ∧
    (poc' = poc ∨ rank poc'.activity poc'.distance (bucketAt bs poc'.index) =
      s.bucketRank basis mid (bucketAt bs poc'.index)) := by
  obtain ⟨distance, hdistance, h⟩ := bind_eq_ok.mp h
  obtain ⟨-, -, rfl⟩ := pocDistance_eq_ok.mp hdistance
  have hiff : (s.activity basis entry.1 > poc.activity ∨
      (s.activity basis entry.1 = poc.activity ∧ (entry.1 * 2 - mid).natAbs < poc.distance) ∨
      (s.activity basis entry.1 = poc.activity ∧ (entry.1 * 2 - mid).natAbs = poc.distance ∧
        entry.1 < bucketAt bs poc.index)) ↔
      rank poc.activity poc.distance (bucketAt bs poc.index) < s.bucketRank basis mid entry.1 := by
    rw [bucketRank, rank_lt_rank, gt_iff_lt, eq_comm (a := poc.activity),
      eq_comm (a := poc.distance), and_or_left]
  have hbucket : bucketAt bs entry.2 = entry.1 := by
    rw [bucketAt, List.mk_mem_zipIdx_iff_getElem?.mp hentry, Option.getD_some]
  simp only [hiff] at h
  split_ifs at h with hlt
  · cases h
    dsimp only
    rw [hbucket, max_eq_right hlt.le]
    exact ⟨rfl, .inr rfl⟩
  · cases h
    exact ⟨(max_eq_left (not_lt.mp hlt)).symm, .inl rfl⟩

lemma foldlM_pocStep_rank {bs : List Int} {mid : Int} {entries : List (Int × Nat)}
    (hentries : ∀ entry ∈ entries, entry ∈ bs.zipIdx) {poc' : PocCandidate}
    (h : entries.foldlM (s.pocStep basis bs mid) poc = .ok poc') :
    rank poc.activity poc.distance (bucketAt bs poc.index) ≤
      rank poc'.activity poc'.distance (bucketAt bs poc'.index) ∧
    (∀ entry ∈ entries, s.bucketRank basis mid entry.1 ≤
      rank poc'.activity poc'.distance (bucketAt bs poc'.index)) ∧
    (poc' = poc ∨ rank poc'.activity poc'.distance (bucketAt bs poc'.index) =
      s.bucketRank basis mid (bucketAt bs poc'.index)) := by
  induction entries generalizing poc with
  | nil =>
    cases h
    exact ⟨le_rfl, fun _ hmem => absurd hmem List.not_mem_nil, .inl rfl⟩
  | cons entry entries ih =>
    rw [List.forall_mem_cons] at hentries
    rw [List.foldlM_cons] at h
    obtain ⟨next, hnext, h⟩ := bind_eq_ok.mp h
    obtain ⟨hmax, hstep⟩ := pocStep_rank hentries.1 hnext
    obtain ⟨hle, hall, hend⟩ := ih hentries.2 h
    rw [hmax] at hle
    refine ⟨(le_max_left _ _).trans hle,
      List.forall_mem_cons.mpr ⟨(le_max_right _ _).trans hle, hall⟩, ?_⟩
    rcases hend with rfl | hend
    · exact hstep
    · exact .inr hend

/-- **The first loop finds the point of control.** -/
theorem isPointOfControl_of_search (hact : ∀ b, 0 ≤ s.activity basis b) (hne : s.buckets ≠ [])
    (h : s.buckets.zipIdx.foldlM
      (s.pocStep basis s.buckets s.middleTwice) ⟨0, -1, 2 ^ 128 - 1⟩ = .ok poc) :
    s.IsPointOfControl basis (bucketAt s.buckets poc.index) := by
  have hbucket := poc_isBucket hne hact h
  obtain ⟨-, hall, hself⟩ := foldlM_pocStep_rank (fun _ hmem => hmem) h
  have hpoc : poc ≠ ⟨0, -1, 2 ^ 128 - 1⟩ := by
    rintro rfl
    have := hact (bucketAt s.buckets 0)
    have : -1 = s.activity basis (bucketAt s.buckets 0) := hbucket.2
    omega
  rw [or_iff_right hpoc] at hself
  have hrank : ∀ b ∈ s.buckets, s.bucketRank basis s.middleTwice b ≤
      s.bucketRank basis s.middleTwice (bucketAt s.buckets poc.index) := by
    intro b hb
    obtain ⟨i, hi⟩ := List.getElem?_of_mem hb
    exact hself ▸ hall (b, i) (List.mk_mem_zipIdx_iff_getElem?.mpr hi)
  simp only [bucketRank, ← not_lt, rank_lt_rank] at hrank
  refine ⟨bucketAt_mem hbucket.1, ?_, ?_, ?_⟩
  · intro b hb
    exact not_lt.mp fun hlt => hrank b hb (.inl hlt)
  · intro b hb heq
    exact not_lt.mp fun hlt => hrank b hb (.inr ⟨heq.symm, .inl hlt⟩)
  · intro b hb heq hdistance
    exact not_lt.mp fun hlt => hrank b hb (.inr ⟨heq.symm, .inr ⟨hdistance.symm, hlt⟩⟩)

/-! ## The area -/

section Nesting

variable {activityAt : Nat → Int} {count lower upper : Nat} {selected : Int}

lemma expandValueArea_contains {target : Int} {area : Nat × Nat}
    (h : expandValueArea activityAt count target lower upper selected = .ok area) :
    area.1 ≤ lower ∧ upper ≤ area.2 := by
  fun_induction expandValueArea activityAt count target lower upper selected with
  | case1 lower upper selected hlt hlower hroom heq ih1 ih2 =>
    obtain ⟨selected', -, h⟩ := bind_eq_ok.mp h
    split_ifs at h with hmore
    · obtain ⟨selected'', -, h⟩ := bind_eq_ok.mp h
      obtain ⟨hl, hu⟩ := ih1 0 _ h
      omega
    · obtain ⟨hl, hu⟩ := ih2 _ h
      omega
  | case2 lower upper selected hlt hlower hroom hne hgt ih
  | case3 lower upper selected hlt hlower hroom hne hgt ih
  | case4 lower upper selected hlt hlower hroom ih
  | case5 lower upper selected hlt hlower hroom ih =>
    obtain ⟨selected', -, h⟩ := bind_eq_ok.mp h
    obtain ⟨hl, hu⟩ := ih _ h
    omega
  | case6 lower upper selected hlt hlower hroom | case7 lower upper selected hlt =>
    cases h
    exact ⟨le_rfl, le_rfl⟩

/-- **A greater target gives a wider area.** Both loops add the same levels in the same order until the
smaller target is reached. -/
theorem expandValueArea_mono {target target' : Int} (hle : target ≤ target') {area area' : Nat × Nat}
    (h : expandValueArea activityAt count target lower upper selected = .ok area)
    (h' : expandValueArea activityAt count target' lower upper selected = .ok area') :
    area'.1 ≤ area.1 ∧ area.2 ≤ area'.2 := by
  fun_induction expandValueArea activityAt count target lower upper selected with
  | case1 lower upper selected hlt hlower hroom heq ih1 ih2 =>
    rw [expandValueArea, if_pos (hlt.trans_le hle), dif_pos hlower, dif_pos hroom, if_pos heq] at h'
    obtain ⟨first, h, h'⟩ := bind_eq_ok_both h h'
    split_ifs at h with hmore
    · rw [if_pos (hmore.trans_le hle)] at h'
      obtain ⟨second, h, h'⟩ := bind_eq_ok_both h h'
      exact ih1 0 _ h h'
    · -- The smaller target is reached between the two levels.
      rw [expandValueArea, if_neg hmore] at h
      cases h
      split_ifs at h'
      · obtain ⟨second', -, h'⟩ := bind_eq_ok.mp h'
        obtain ⟨hl, hu⟩ := expandValueArea_contains h'
        exact ⟨hl, (Nat.le_succ upper).trans hu⟩
      · exact expandValueArea_contains h'
  | case2 lower upper selected hlt hlower hroom hne hgt ih =>
    rw [expandValueArea, if_pos (hlt.trans_le hle), dif_pos hlower, dif_pos hroom, if_neg hne,
      if_pos hgt] at h'
    obtain ⟨first, h, h'⟩ := bind_eq_ok_both h h'
    exact ih _ h h'
  | case3 lower upper selected hlt hlower hroom hne hgt ih =>
    rw [expandValueArea, if_pos (hlt.trans_le hle), dif_pos hlower, dif_pos hroom, if_neg hne,
      if_neg hgt] at h'
    obtain ⟨first, h, h'⟩ := bind_eq_ok_both h h'
    exact ih _ h h'
  | case4 lower upper selected hlt hlower hroom ih =>
    rw [expandValueArea, if_pos (hlt.trans_le hle), dif_pos hlower, dif_neg hroom] at h'
    obtain ⟨first, h, h'⟩ := bind_eq_ok_both h h'
    exact ih _ h h'
  | case5 lower upper selected hlt hlower hroom ih =>
    rw [expandValueArea, if_pos (hlt.trans_le hle), dif_neg hlower, dif_pos hroom] at h'
    obtain ⟨first, h, h'⟩ := bind_eq_ok_both h h'
    exact ih _ h h'
  | case6 lower upper selected hlt hlower hroom | case7 lower upper selected hlt =>
    cases h
    exact expandValueArea_contains h'

end Nesting

/-- The share of the activity that a value area has to hold, rounded up. -/
def areaTarget (s : SessionProfileBuilder) (basis : ValueAreaBasis) (bps : Nat) : Int :=
  ⌈((s.sessionActivity basis * bps : Int) : ℚ) / (10000 : Nat)⌉

/-- **The area from one level to another**: it contains the point of control, its activity reaches the
target, and before each level that was added to the point of control it was below. -/
structure IsValueArea (s : SessionProfileBuilder) (basis : ValueAreaBasis) (bps poc lower upper : Nat) :
    Prop where
  contains : lower ≤ poc ∧ poc ≤ upper ∧ upper < s.buckets.length
  reaches : s.areaTarget basis bps ≤ areaActivity (s.levelActivity basis) lower upper
  minimal : Relation.ReflTransGen
    (AddsLevel (s.levelActivity basis) s.buckets.length (s.areaTarget basis bps))
    (poc, poc) (lower, upper)

/-- The builder with another share of the activity in its value area. -/
def withBps (s : SessionProfileBuilder) (bps : Nat) : SessionProfileBuilder :=
  { s with config := { s.config with valueAreaBps := bps } }

variable {bps : Nat}

lemma valueAreaTarget_withBps {target : Int} (hnonneg : 0 ≤ s.sessionActivity basis)
    (h : (s.withBps bps).valueAreaTarget (s.sessionActivity basis) = .ok target) :
    target = s.areaTarget basis bps := by
  obtain ⟨scaled, hscaled, h⟩ := bind_eq_ok.mp h
  obtain ⟨rounded, hrounded, h⟩ := bind_eq_ok.mp h
  rw [orOverflow_eq_ok, checkedI128_eq_some] at hscaled hrounded
  cases h
  have hmul : 0 ≤ s.sessionActivity basis * (bps : Int) := mul_nonneg hnonneg (Int.natCast_nonneg _)
  rw [areaTarget, Rat.ceil_intCast_div_natCast, hrounded.2, hscaled.2]
  change (s.sessionActivity basis * (bps : Int) + 9999).tdiv 10000 = _
  rw [Int.tdiv_eq_ediv_of_nonneg (by omega)]
  omega

/-- What a value area that was found consists of: the search does not depend on the share. -/
lemma Levels.valueArea_eq_ok (h : s.Levels) (hne : s.buckets ≠ [])
    {area : Option Int × Option Int × Option Int}
    (hok : (s.withBps bps).valueArea basis = .ok area) :
    ∃ poc : PocCandidate, ∃ ends : Nat × Nat,
      s.buckets.zipIdx.foldlM (s.pocStep basis s.buckets s.middleTwice) ⟨0, -1, 2 ^ 128 - 1⟩ = .ok poc ∧
      expandValueArea (s.levelActivity basis) s.buckets.length (s.areaTarget basis bps) poc.index
        poc.index poc.activity = .ok ends ∧
      s.sessionActivity basis ≤ i128Max ∧
      area = (some (bucketAt s.buckets poc.index), some (bucketAt s.buckets ends.1),
        some (bucketAt s.buckets ends.2)) := by
  obtain ⟨low, hlow⟩ : ∃ low, s.buckets.head? = some low :=
    ⟨_, List.head?_eq_some_head hne⟩
  obtain ⟨high, hhigh⟩ : ∃ high, s.buckets.getLast? = some high :=
    ⟨_, List.getLast?_eq_some_getLast hne⟩
  have hbetween (t : SessionProfileBuilder) (ht : t.buckets = s.buckets) :
      t.valueArea basis = t.valueAreaBetween basis low high := by
    unfold valueArea
    rw [ht, hlow, hhigh]
  rw [hbetween (s.withBps bps) rfl] at hok
  unfold valueAreaBetween at hok
  simp only [bind_eq_ok] at hok
  obtain ⟨mid, hmid, poc, hpoc, total, htotal, target, htarget, ends, hexpand, hok⟩ := hok
  cases hok
  have hact := h.activity_nonneg basis
  obtain ⟨hsum, rfl⟩ := (totalActivity_eq_ok (s := s) hact).mp htotal
  obtain rfl := valueAreaTarget_withBps (sessionActivity_nonneg hact) htarget
  rw [orOverflow_eq_ok, checkedI128_eq_some] at hmid
  have hmiddle : s.middleTwice = mid := by rw [middleTwice, hlow, hhigh, hmid.2]; rfl
  exact ⟨poc, ends, hmiddle ▸ hpoc, hexpand, hsum, rfl⟩

/-- A share of at most all of the activity is reached at the latest with all levels. -/
lemma areaTarget_le (hact : ∀ b, 0 ≤ s.activity basis b) (hbps : bps ≤ 10000) :
    s.areaTarget basis bps ≤ s.sessionActivity basis := by
  have hmul : s.sessionActivity basis * (bps : Int) ≤ s.sessionActivity basis * 10000 :=
    mul_le_mul_of_nonneg_left (by exact_mod_cast hbps) (sessionActivity_nonneg hact)
  rw [areaTarget, Rat.ceil_intCast_div_natCast]
  omega

lemma areaTarget_mono (hact : ∀ b, 0 ≤ s.activity basis b) {bps' : Nat} (hbps : bps ≤ bps') :
    s.areaTarget basis bps ≤ s.areaTarget basis bps' := by
  have hmul : s.sessionActivity basis * (bps : Int) ≤ s.sessionActivity basis * bps' :=
    mul_le_mul_of_nonneg_left (by exact_mod_cast hbps) (sessionActivity_nonneg hact)
  rw [areaTarget, areaTarget, Rat.ceil_intCast_div_natCast, Rat.ceil_intCast_div_natCast]
  omega

/-- **What the two loops find.** -/
theorem Levels.isValueArea (h : s.Levels) (hne : s.buckets ≠ []) (hbps : bps ≤ 10000)
    {area : Option Int × Option Int × Option Int}
    (hok : (s.withBps bps).valueArea basis = .ok area) :
    ∃ poc lower upper, area = (some (bucketAt s.buckets poc), some (bucketAt s.buckets lower),
        some (bucketAt s.buckets upper)) ∧
      s.IsPointOfControl basis (bucketAt s.buckets poc) ∧ s.IsValueArea basis bps poc lower upper := by
  have hact := h.activity_nonneg basis
  obtain ⟨poc, ends, hpoc, hexpand, hsum, rfl⟩ := h.valueArea_eq_ok hne hok
  have hbucket := poc_isBucket hne hact hpoc
  obtain ⟨ends', hexpand', hcontains, hpath, hend⟩ :=
    exists_area hact hsum hbucket (s.areaTarget basis bps)
  cases hexpand.symm.trans hexpand'
  refine ⟨poc.index, ends.1, ends.2, rfl, isPointOfControl_of_search hact hne hpoc, hcontains, ?_, hpath⟩
  rcases hend with hreached | ⟨hlower, hupper⟩
  · exact hreached
  · -- No level is left: the area has all of the activity.
    have hall : areaActivity (s.levelActivity basis) ends.1 ends.2 = s.sessionActivity basis := by
      rw [areaActivity, hlower, hupper, ← Finset.range_eq_Ico]
      exact sum_bucketAt (s.activity basis) s.buckets
    exact hall ▸ areaTarget_le hact hbps

/-- The buckets are in ascending order. -/
lemma bucketAt_mono {i j : Nat} (hij : i ≤ j) (hj : j < s.buckets.length) :
    bucketAt s.buckets i ≤ bucketAt s.buckets j := by
  have hsorted : s.buckets.Pairwise (· < ·) := List.pairwise_map.mpr (OrdMap.sorted_toList s.volumeByLevel)
  rcases hij.eq_or_lt with rfl | hlt
  · exact le_rfl
  · rw [bucketAt, bucketAt, List.getElem?_eq_getElem hj, List.getElem?_eq_getElem (hlt.trans hj)]
    exact (List.pairwise_iff_getElem.mp hsorted i j (hlt.trans hj) hj hlt).le

lemma Levels.valueArea_mono (h : s.Levels) (hne : s.buckets ≠ []) {bps' : Nat}
    (hbps : bps ≤ bps') {poc val vah poc' val' vah' : Int}
    (hok : (s.withBps bps).valueArea basis = .ok (some poc, some val, some vah))
    (hok' : (s.withBps bps').valueArea basis = .ok (some poc', some val', some vah')) :
    poc' = poc ∧ val' ≤ val ∧ vah ≤ vah' := by
  have hact := h.activity_nonneg basis
  obtain ⟨p, ends, hp, hexpand, hsum, harea⟩ := h.valueArea_eq_ok hne hok
  obtain ⟨p', ends', hp', hexpand', -, harea'⟩ := h.valueArea_eq_ok hne hok'
  cases hp.symm.trans hp'
  cases harea
  cases harea'
  obtain ⟨hlower, hupper⟩ := expandValueArea_mono (areaTarget_mono hact hbps) hexpand hexpand'
  have hbucket := poc_isBucket hne hact hp
  obtain ⟨_, hfound, ⟨hl, hu, hcount⟩, -⟩ := exists_area hact hsum hbucket (s.areaTarget basis bps')
  cases hexpand'.symm.trans hfound
  obtain ⟨_, hfound, ⟨hl', hu', hcount'⟩, -⟩ := exists_area hact hsum hbucket (s.areaTarget basis bps)
  cases hexpand.symm.trans hfound
  refine ⟨rfl, ?_, ?_⟩
  · exact bucketAt_mono hlower (by omega)
  · exact bucketAt_mono hupper hcount

/-! ## Every reachable builder -/

lemma Levels.withBps (h : s.Levels) (bps : Nat) : (s.withBps bps).Levels :=
  { h with }

end SessionProfileBuilder

open SessionProfileBuilder (bucketAt)

/-- **The value area of a reachable builder** with its TPO period closed, for both bases and every
share. It is found iff twice each bucket and the scaled target fit an `i128`, and an overflow is
returned otherwise; it is then a value area around the point of control, and the area of a smaller
share lies in it. -/
theorem valueArea_greedy {grid : GridSpec} {time : TimeframeSpec} {config : ProfileConfig}
    {profile s : SessionProfileBuilder} (hnew : SessionProfileBuilder.new grid time config = .ok profile)
    (calls : List (PeriodBuilder.Call ProfileTrade))
    (hs : s = (run sessionProfiles.step profile calls).closed) (hne : s.buckets ≠ [])
    (basis : ValueAreaBasis) (bps : Nat) (hbps : 1 ≤ bps ∧ bps ≤ 10000) :
    ((∃ area, (s.withBps bps).valueArea basis = .ok area) ↔
      (∀ b ∈ s.buckets, b * 2 ≤ i128Max) ∧ s.sessionActivity basis * bps + 9999 ≤ i128Max) ∧
    UpToOverflow ((s.withBps bps).valueArea basis) ∧
    (∀ area, (s.withBps bps).valueArea basis = .ok area →
      ∃ poc lower upper, area = (some (bucketAt s.buckets poc), some (bucketAt s.buckets lower),
          some (bucketAt s.buckets upper)) ∧
        s.IsPointOfControl basis (bucketAt s.buckets poc) ∧
        s.IsValueArea basis bps poc lower upper) ∧
    ∀ bps' poc val vah poc' val' vah', bps ≤ bps' →
      (s.withBps bps).valueArea basis = .ok (some poc, some val, some vah) →
      (s.withBps bps').valueArea basis = .ok (some poc', some val', some vah') →
      val' ≤ val ∧ vah ≤ vah' := by
  obtain ⟨⟨hgrid, htime, hconfig⟩, rfl⟩ := SessionProfileBuilder.new_eq_ok.mp hnew
  have hsound := run_invariant' (P := SessionProfileBuilder.Sound) (fun s call h => h.step call)
    (SessionProfileBuilder.sound_empty hgrid htime hconfig) calls
  have h : s.Levels := hs ▸ hsound.levels.closed
  refine ⟨(h.withBps bps).exists_valueArea_iff hbps.1, (h.withBps bps).upToOverflow_valueArea basis, ?_, ?_⟩
  · exact fun area hok => h.isValueArea hne hbps.2 hok
  · exact fun bps' poc val vah poc' val' vah' hle hok hok' => (h.valueArea_mono hne hle hok hok').2

/-- A builder with buckets of ten ticks after trades, with its TPO period closed. -/
def exampleArea (trades : List ProfileTrade) : SessionProfileBuilder :=
  (run sessionProfiles.step (.empty (exampleGrid 10) exampleTime exampleProfileConfig)
    (trades.map .ingest)).closed

/-- A trade of two units at 20, and one of one unit at 30 in the next TPO period. -/
def exampleAreaTrades : List ProfileTrade :=
  [⟨1, ⟨⟨20, 0⟩⟩, ⟨⟨2, 0⟩⟩⟩, ⟨13, ⟨⟨30, 0⟩⟩, ⟨⟨1, 0⟩⟩⟩]

/-- Three quarters of the volume, around the bucket of the greater trade. -/
theorem valueArea_greedy_example :
    (exampleArea exampleAreaTrades).buckets = [2, 3] ∧
    ∃ area, ((exampleArea exampleAreaTrades).withBps 7500).valueArea .volume = .ok area ∧
      ∃ poc lower upper, area = (some (bucketAt [2, 3] poc), some (bucketAt [2, 3] lower),
        some (bucketAt [2, 3] upper)) ∧
      (exampleArea exampleAreaTrades).IsValueArea .volume 7500 poc lower upper := by
  have hbuckets : (exampleArea exampleAreaTrades).buckets = [2, 3] := by decide +kernel
  obtain ⟨hfound, -, harea, -⟩ := @valueArea_greedy (exampleGrid 10) exampleTime exampleProfileConfig
    _ (exampleArea exampleAreaTrades) rfl (exampleAreaTrades.map .ingest) rfl
    (by rw [hbuckets]; decide) .volume 7500 (by decide)
  obtain ⟨area, hok⟩ := hfound.mpr (by decide +kernel)
  obtain ⟨poc, lower, upper, heq, -, hvalue⟩ := harea area hok
  rw [hbuckets] at heq
  exact ⟨hbuckets, area, hok, poc, lower, upper, heq, hvalue⟩

/-- **A session without a value area**: one trade of as much volume as fits is accepted and its TPO
period closed, but the share of it is calculated through a number that does not fit. -/
theorem valueArea_overflows :
    (exampleArea [⟨1, ⟨⟨20, 0⟩⟩, ⟨⟨i128Max, 0⟩⟩⟩]).buckets = [2] ∧
    (exampleArea [⟨1, ⟨⟨20, 0⟩⟩, ⟨⟨i128Max, 0⟩⟩⟩]).valueArea .volume =
      .error (.arithmeticOverflow "calculating value-area target") := by
  decide +kernel

end Marketfeed
