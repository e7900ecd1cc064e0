import Marketfeed.Analytics.Profile

/-!
# What the calls on a session profile do

What every method does to the builder, said once. Adding a trade is checked beforehand and closing a
TPO period is, so neither fails half way, and `ingest` as a whole happens or does not (`run_ingest`).
Closing a session does not have that: the TPO period is closed in place before the snapshot is taken
(`ends_closeSession`).
-/

namespace Marketfeed.SessionProfileBuilder

variable {s : SessionProfileBuilder} {e : ProfileEntry}

/-! ## Closing a TPO period -/

/-- **The TPO period can be closed**: no count and no rotation is at the end of its range. -/
structure Closable (s : SessionProfileBuilder) : Prop where
  counts : ∀ bucket ∈ s.currentTpoLevels, s.tpoByLevel[bucket]?.getD 0 + 1 < 2 ^ 64
  rotation : -(2 ^ 31) ≤ s.rotationFactor + s.rotationDelta ∧
    s.rotationFactor + s.rotationDelta ≤ 2 ^ 31 - 1

lemma closable_iff : s.Closable ↔
    (∀ bucket ∈ s.currentTpoLevels, s.tpoByLevel[bucket]?.getD 0 + 1 < 2 ^ 64) ∧
      (-(2 ^ 31) ≤ s.rotationFactor + s.rotationDelta ∧
        s.rotationFactor + s.rotationDelta ≤ 2 ^ 31 - 1) :=
  ⟨fun h => ⟨h.counts, h.rotation⟩, fun h => ⟨h.1, h.2⟩⟩

instance (s : SessionProfileBuilder) : Decidable s.Closable := decidable_of_iff' _ closable_iff

lemma nextTpoCount_eq_ok {bucket : Int} {count : Nat} :
    s.nextTpoCount bucket = .ok count ↔
      s.tpoByLevel[bucket]?.getD 0 + 1 < 2 ^ 64 ∧ count = s.tpoByLevel[bucket]?.getD 0 + 1 := by
  rw [nextTpoCount, orOverflow_eq_ok, checkedU64_eq_some]

lemma nextRotation_eq_ok {rotation : Int} :
    s.nextRotation = .ok rotation ↔
      (-(2 ^ 31) ≤ s.rotationFactor + s.rotationDelta ∧
        s.rotationFactor + s.rotationDelta ≤ 2 ^ 31 - 1) ∧
      rotation = s.rotationFactor + s.rotationDelta := by
  rw [nextRotation, orOverflow_eq_ok, checkedI32_eq_some]

lemma mem_currentBuckets {bucket : Int} : bucket ∈ s.currentBuckets ↔ bucket ∈ s.currentTpoLevels :=
  Finset.mem_sort _

lemma nodup_currentBuckets (s : SessionProfileBuilder) : s.currentBuckets.Nodup :=
  Finset.sort_nodup _ _

lemma preflightCloseCurrentTpo_eq_ok : s.preflightCloseCurrentTpo = .ok () ↔ s.Closable := by
  unfold preflightCloseCurrentTpo
  rw [bind_eq_ok, closable_iff]
  constructor
  · rintro ⟨⟨⟩, hcounts, h⟩
    obtain ⟨rotation, hrotation, -⟩ := bind_eq_ok.mp h
    refine ⟨?_, (nextRotation_eq_ok.mp hrotation).1⟩
    intro bucket hbucket
    have hcount := forM_eq_ok_iff.mp hcounts bucket (mem_currentBuckets.mpr hbucket)
    rcases hnext : s.nextTpoCount bucket with err | count
    · rw [hnext] at hcount
      cases hcount
    · exact (nextTpoCount_eq_ok.mp hnext).1
  · rintro ⟨hcounts, hrotation⟩
    refine ⟨⟨⟩, forM_eq_ok_iff.mpr ?_, bind_eq_ok.mpr ⟨_, nextRotation_eq_ok.mpr ⟨hrotation, rfl⟩, rfl⟩⟩
    intro bucket hbucket
    rw [nextTpoCount_eq_ok.mpr ⟨hcounts bucket (mem_currentBuckets.mp hbucket), rfl⟩]
    rfl

/-- A period that cannot be closed has an overflow. -/
lemma upToOverflow_preflightClose (s : SessionProfileBuilder) :
    UpToOverflow s.preflightCloseCurrentTpo := by
  refine FailsOnly.bind (.forM fun bucket _ => ?_) fun _ _ => ?_
  · exact FailsOnly.map _ (upToOverflow_orOverflow _ _)
  · exact FailsOnly.bind (upToOverflow_orOverflow _ _) fun _ _ => .ok ()

/-- One more TPO for each of the buckets. -/
def scores (buckets : List Int) (counts : OrdMap Int Nat) : OrdMap Int Nat :=
  buckets.foldl (fun counts bucket => counts.insert bucket (counts[bucket]?.getD 0 + 1)) counts

/-- The builder after its TPO period was closed. -/
def closed (s : SessionProfileBuilder) : SessionProfileBuilder :=
  if s.currentTpoLevels = ∅ then { s with currentTpoHigh := none, currentTpoLow := none }
  else
    { s with
      tpoByLevel := scores s.currentBuckets s.tpoByLevel
      rotationFactor := s.rotationFactor + s.rotationDelta
      previousTpoHigh := s.currentTpoHigh
      previousTpoLow := s.currentTpoLow
      currentTpoLevels := ∅
      currentTpoHigh := none
      currentTpoLow := none }

lemma getElem?_scores {buckets : List Int} (hnodup : buckets.Nodup) (counts : OrdMap Int Nat)
    (bucket : Int) : (scores buckets counts)[bucket]? =
      if bucket ∈ buckets then some (counts[bucket]?.getD 0 + 1) else counts[bucket]? := by
  induction buckets generalizing counts with
  | nil => rw [if_neg List.not_mem_nil, scores, List.foldl_nil]
  | cons b buckets ih =>
    obtain ⟨hb, hnodup⟩ := List.nodup_cons.mp hnodup
    change (scores buckets (counts.insert b (counts[b]?.getD 0 + 1)))[bucket]? = _
    rw [ih hnodup, OrdMap.getElem?_insert]
    by_cases hbucket : b = bucket
    · subst hbucket
      rw [if_neg hb, if_pos rfl, if_pos List.mem_cons_self]
    · rw [if_neg hbucket]
      by_cases hmem : bucket ∈ buckets
      · rw [if_pos hmem, if_pos (List.mem_cons_of_mem b hmem)]
      · rw [if_neg hmem, if_neg (List.not_mem_cons_of_ne_of_not_mem (Ne.symm hbucket) hmem)]

/-- **The loop of the second pass** makes the additions the first pass made on its own. -/
theorem run_scoreTpo {buckets : List Int} (hnodup : buckets.Nodup)
    (hcounts : ∀ bucket ∈ buckets, s.tpoByLevel[bucket]?.getD 0 + 1 < 2 ^ 64) :
    (buckets.forM fun bucket => update (scoreTpo bucket)).run s =
      .ok ⟨⟩ { s with tpoByLevel := scores buckets s.tpoByLevel } := by
  induction buckets generalizing s with
  | nil => rfl
  | cons b buckets ih =>
    obtain ⟨hb, hnodup⟩ := List.nodup_cons.mp hnodup
    have hscore : scoreTpo b s = .ok { s with
        tpoByLevel := s.tpoByLevel.insert b (s.tpoByLevel[b]?.getD 0 + 1) } := by
      unfold scoreTpo
      rw [nextTpoCount_eq_ok.mpr ⟨hcounts b List.mem_cons_self, rfl⟩]
      rfl
    refine (run_seq_of_ok (run_update_of_ok hscore)).trans (ih hnodup ?_)
    -- The buckets that are left still have the counts they had.
    intro bucket hbucket
    have hne : b ≠ bucket := by
      rintro rfl
      exact hb hbucket
    show (s.tpoByLevel.insert b (s.tpoByLevel[b]?.getD 0 + 1))[bucket]?.getD 0 + 1 < 2 ^ 64
    rw [OrdMap.getElem?_insert, if_neg hne]
    exact hcounts bucket (List.mem_cons_of_mem b hbucket)

lemma rotate_eq_ok (h : -(2 ^ 31) ≤ s.rotationFactor + s.rotationDelta ∧
    s.rotationFactor + s.rotationDelta ≤ 2 ^ 31 - 1) :
    s.rotate = .ok { s with rotationFactor := s.rotationFactor + s.rotationDelta } := by
  unfold rotate
  rw [nextRotation_eq_ok.mpr ⟨h, rfl⟩]
  rfl

lemma run_applyCloseCurrentTpo (h : s.Closable) : applyCloseCurrentTpo.run s = .ok () s.closed := by
  unfold applyCloseCurrentTpo closed
  rw [run_get_seq]
  by_cases hempty : s.currentTpoLevels = ∅
  · rw [if_pos hempty, if_pos hempty]
    rfl
  · rw [if_neg hempty, if_neg hempty]
    have hscores := run_scoreTpo (s := s) s.nodup_currentBuckets
      fun bucket hbucket => h.counts bucket (mem_currentBuckets.mp hbucket)
    refine (run_seq_of_ok hscores).trans (run_seq_of_ok (run_update_of_ok (rotate_eq_ok ?_)))
    exact h.rotation

lemma run_closeCurrentTpo (h : s.Closable) : closeCurrentTpo.run s = .ok () s.closed := by
  unfold closeCurrentTpo
  rw [run_get_seq, preflightCloseCurrentTpo_eq_ok.mpr h]
  exact run_applyCloseCurrentTpo h

lemma performs_closeCurrentTpo (s : SessionProfileBuilder) :
    Performs closeCurrentTpo s (s.preflightCloseCurrentTpo >>= fun _ => .ok ((), s.closed)) :=
  .get (.lift fun _ h => .of_run (run_applyCloseCurrentTpo (preflightCloseCurrentTpo_eq_ok.mp h)))

/-- **Closing a TPO period** happens as a whole, or fails with an overflow before it starts. -/
theorem ends_closeCurrentTpo (s : SessionProfileBuilder) :
    Ends closeCurrentTpo s (fun _ s' => s.Closable ∧ s' = s.closed)
      fun err s' => s' = s ∧ ¬ s.Closable ∧ err.IsOverflow := by
  refine s.performs_closeCurrentTpo.ends.mono ?_ ?_
  · rintro ⟨⟩ s' ⟨⟨⟩, hpreflight, rfl⟩
    exact ⟨preflightCloseCurrentTpo_eq_ok.mp hpreflight, rfl⟩
  · rintro err s' ⟨herr, rfl⟩
    refine ⟨rfl, ?_, s'.upToOverflow_preflightClose err herr⟩
    intro hclosable
    rw [preflightCloseCurrentTpo_eq_ok.mpr hclosable] at herr
    cases herr

/-- A profile of a clone is taken iff the period can be closed and the closed builder has a profile. -/
lemma closedSnapshot_eq_ok {state : ProfileState} {basis : ValueAreaBasis} {p : SessionProfile} :
    s.closedSnapshot state basis = .ok p ↔ s.Closable ∧ s.closed.snapshot state basis = .ok p := by
  unfold closedSnapshot
  rcases (ends_closeCurrentTpo s).cases with
    ⟨⟨⟩, s', hrun, hclosable, rfl⟩ | ⟨err, s', hrun, -, hclosable, -⟩
  · rw [hrun, and_iff_right hclosable]
  · rw [hrun]
    exact iff_of_false (by rintro ⟨⟩) fun h => hclosable h.1

/-! ## Adding a trade -/

lemma preflightAdd_eq_ok {startsNewTpo : Bool} :
    s.preflightAdd e startsNewTpo = .ok () ↔
      ¬ s.levelsFull e.bucket ∧
      ¬ (e.bucket ∉ s.tpoLevels startsNewTpo ∧
        s.config.maxTpoLevelsPerPeriod ≤ (s.tpoLevels startsNewTpo).card) ∧
      (i128Min ≤ s.totalVolumeUnits + e.units ∧ s.totalVolumeUnits + e.units ≤ i128Max) ∧
      (i128Min ≤ s.volumeByLevel[e.bucket]?.getD 0 + e.units ∧
        s.volumeByLevel[e.bucket]?.getD 0 + e.units ≤ i128Max) := by
  unfold preflightAdd
  rw [check_eq_ok, check_eq_ok, bind_eq_ok]
  refine and_congr_right fun _ => and_congr_right fun _ => ?_
  constructor
  · rintro ⟨total, htotal, h⟩
    obtain ⟨volume, hvolume, -⟩ := bind_eq_ok.mp h
    rw [orOverflow_eq_ok, checkedI128_eq_some] at htotal hvolume
    exact ⟨htotal.1, hvolume.1⟩
  · rintro ⟨htotal, hvolume⟩
    refine ⟨_, orOverflow_eq_ok.mpr (checkedI128_eq_some.mpr ⟨htotal, rfl⟩), ?_⟩
    exact bind_eq_ok.mpr ⟨_, orOverflow_eq_ok.mpr (checkedI128_eq_some.mpr ⟨hvolume, rfl⟩), rfl⟩

/-- The builder after a trade was added to its session. -/
def added (e : ProfileEntry) (s : SessionProfileBuilder) : SessionProfileBuilder :=
  markLevel e { s with
    totalVolumeUnits := s.totalVolumeUnits + e.units
    volumeByLevel := s.volumeByLevel.insert e.bucket (s.volumeByLevel[e.bucket]?.getD 0 + e.units) }

/-- **The additions do not fail** if the sums fit. -/
theorem run_applyAdd
    (htotal : i128Min ≤ s.totalVolumeUnits + e.units ∧ s.totalVolumeUnits + e.units ≤ i128Max)
    (hvolume : i128Min ≤ s.volumeByLevel[e.bucket]?.getD 0 + e.units ∧
      s.volumeByLevel[e.bucket]?.getD 0 + e.units ≤ i128Max) :
    (applyAdd e).run s = .ok () (added e s) := by
  have htotal' := checkedI128_eq_some.mpr ⟨htotal, rfl⟩
  have hvolume' := checkedI128_eq_some.mpr ⟨hvolume, rfl⟩
  rw [applyAdd, run_update_seq (f := addTotal e.units) (by rw [addTotal, htotal']; rfl),
    run_update_seq (f := addLevel e) (by rw [addLevel, hvolume']; rfl)]
  rfl

/-- The builder after the first trade of a session. -/
def started (e : ProfileEntry) (s : SessionProfileBuilder) : SessionProfileBuilder :=
  noteTime e.timestampNs (added e (startSession e s))

lemma performs_startWith (s : SessionProfileBuilder) (e : ProfileEntry) :
    Performs (startWith e) s (s.preflightAdd e true >>= fun _ => .ok ((), started e s)) := by
  refine .get (.lift ?_)
  rintro ⟨⟩ hpreflight
  obtain ⟨-, -, htotal, hvolume⟩ := preflightAdd_eq_ok.mp hpreflight
  have hrun : (applyAdd e).run (startSession e s) = _ := run_applyAdd htotal hvolume
  exact .of_run (run_seq_of_ok hrun)

/-! ## The calls -/

/-- The builder with the TPO period closed if a later one has begun. -/
def movedTpo (target current : Int) (s : SessionProfileBuilder) :
    Except AnalyticsError SessionProfileBuilder :=
  if target > current then do
    s.preflightCloseCurrentTpo
    .ok { s.closed with currentTpoStart := some target }
  else .ok s

lemma performs_moveTpo (target current : Int) (s : SessionProfileBuilder) :
    Performs (moveTpo target current) s
      (s.movedTpo target current >>= fun moved => .ok ((), moved)) := by
  unfold moveTpo movedTpo
  split_ifs with hlt
  · rw [bind_assoc]
    exact .seq s.performs_closeCurrentTpo fun _ _ => rfl
  · exact .of_run rfl

/-- The builder after a further trade of its session. -/
def continued (e : ProfileEntry) (s : SessionProfileBuilder) :
    Except AnalyticsError SessionProfileBuilder := do
  let tpo ← s.currentTpo
  if e.tpo < tpo then .error (.lateTrade e.timestampNs tpo)
  else do
    s.preflightAdd e (e.tpo ≠ tpo)
    let moved ← s.movedTpo e.tpo tpo
    .ok (noteTime e.timestampNs (added e moved))

/-- The builder that takes the place of one whose session is over. -/
def restarted (e : ProfileEntry) (s : SessionProfileBuilder) :
    Except AnalyticsError SessionProfileBuilder := do
  let fresh ← new s.grid s.time s.config
  fresh.preflightAdd e true
  .ok (started e fresh)

lemma replacement_eq (s : SessionProfileBuilder) (e : ProfileEntry) :
    s.replacement e = s.restarted e := by
  unfold replacement restarted
  rcases new s.grid s.time s.config with err | fresh
  · rfl
  · rcases (performs_startWith fresh e).cases with ⟨⟨⟩, hy, hrun⟩ | ⟨err, hy, hrun⟩
    · simp only [bind, Except.bind, hrun, hy]
    · simp only [bind, Except.bind, hrun, hy]

/-- **What ingesting a trade does to the builder**, if it does not fail. -/
def ingested (timestampNs : Int) (price : Price) (quantity : Quantity) (s : SessionProfileBuilder) :
    Except AnalyticsError (Option SessionProfile × SessionProfileBuilder) := do
  let e ← s.admission timestampNs price quantity
  match s.sessionStart with
  | none => do
    s.preflightAdd e true
    .ok (none, started e s)
  | some current =>
    if e.session > current then do
      let finalized ← s.finalizedClone
      let next ← s.restarted e
      .ok (some finalized, next)
    else if e.session < current then .error (.lateTrade timestampNs current)
    else do
      let next ← s.continued e
      .ok (none, next)

lemma movedTpo_frame {target current : Int} {moved : SessionProfileBuilder}
    (h : s.movedTpo target current = .ok moved) :
    moved.totalVolumeUnits = s.totalVolumeUnits ∧ moved.volumeByLevel = s.volumeByLevel := by
  unfold movedTpo at h
  split_ifs at h with hlt
  · obtain ⟨⟨⟩, -, h⟩ := bind_eq_ok.mp h
    cases h
    unfold closed
    split_ifs <;> exact ⟨rfl, rfl⟩
  · cases h
    exact ⟨rfl, rfl⟩

lemma performs_continueSession (s : SessionProfileBuilder) (e : ProfileEntry) :
    Performs (continueSession e) s (s.continued e >>= fun next => .ok ((), next)) := by
  unfold continued
  rw [bind_assoc]
  refine .get (.lift fun tpo _ => ?_)
  split_ifs with hlate
  · exact .throw _
  · rw [bind_assoc]
    refine .lift fun _ hpreflight => ?_
    rw [bind_assoc]
    refine .seq (performs_moveTpo e.tpo tpo s) fun moved hmoved => ?_
    obtain ⟨-, -, htotal, hvolume⟩ := preflightAdd_eq_ok.mp hpreflight
    obtain ⟨hsameTotal, hsameVolume⟩ := movedTpo_frame hmoved
    rw [← hsameTotal] at htotal
    rw [← hsameVolume] at hvolume
    exact run_seq_of_ok (run_applyAdd htotal hvolume)

/-- **Ingesting a trade happens as a whole or not at all.** -/
theorem run_ingest (timestampNs : Int) (price : Price) (quantity : Quantity)
    (s : SessionProfileBuilder) : (ingest timestampNs price quantity).run s =
      (atomically (ingested timestampNs price quantity)).run s := by
  apply Performs.run_eq_atomically
  refine .get (.lift fun e _ => ?_)
  rcases s.sessionStart with _ | current
  · exact .seq (performs_startWith s e) fun _ _ => rfl
  · dsimp only
    split_ifs
    · refine .lift fun finalized _ => ?_
      rw [replacement_eq]
      exact .lift fun next _ => .of_run rfl
    · exact .throw _
    · exact .seq (performs_continueSession s e) fun _ _ => rfl

lemma new_eq_ok {grid : GridSpec} {time : TimeframeSpec} {config : ProfileConfig} :
    new grid time config = .ok s ↔
      (grid.Valid ∧ time.Valid ∧ config.validate = .ok ()) ∧ s = empty grid time config := by
  unfold new
  rw [seq_eq_ok, seq_eq_ok, seq_eq_ok, Except.ok.injEq, and_assoc, and_assoc, eq_comm (b := s)]
  exact Iff.rfl

lemma currentTpo_eq_ok {current : Int} :
    s.currentTpo = .ok current ↔ s.currentTpoStart = some current := by
  unfold currentTpo
  rcases s.currentTpoStart with _ | tpo
  · exact iff_of_false (by rintro ⟨⟩) (by rintro ⟨⟩)
  · rw [Except.ok.injEq, Option.some.injEq]

/-- **What an accepted trade does**: it starts a session, ends one and starts the next, or goes on with
the one that is there. -/
inductive Ingested (s : SessionProfileBuilder) (e : ProfileEntry) :
    Option SessionProfile → SessionProfileBuilder → Prop
  | start (hstart : s.sessionStart = none) (hpreflight : s.preflightAdd e true = .ok ()) :
      Ingested s e none (started e s)
  | roll {current : Int} {p : SessionProfile} (hstart : s.sessionStart = some current)
      (hlt : current < e.session) (hp : s.finalizedClone = .ok p)
      (hpreflight : (empty s.grid s.time s.config).preflightAdd e true = .ok ()) :
      Ingested s e (some p) (started e (empty s.grid s.time s.config))
  | stay {tpo : Int} {moved : SessionProfileBuilder} (hstart : s.sessionStart = some e.session)
      (htpo : s.currentTpoStart = some tpo) (hle : tpo ≤ e.tpo)
      (hpreflight : s.preflightAdd e (e.tpo ≠ tpo) = .ok ())
      (hmoved : s.movedTpo e.tpo tpo = .ok moved) :
      Ingested s e none (noteTime e.timestampNs (added e moved))

/-- **A trade is accepted** iff it is admitted and one of the three ways is open. -/
theorem ingested_eq_ok_iff (hgrid : s.grid.Valid) (htime : s.time.Valid)
    (hconfig : s.config.validate = .ok ()) {timestampNs : Int} {price : Price} {quantity : Quantity}
    {out : Option SessionProfile} {s' : SessionProfileBuilder} :
    s.ingested timestampNs price quantity = .ok (out, s') ↔
      ∃ e, s.admission timestampNs price quantity = .ok e ∧ s.Ingested e out s' := by
  have hnew : new s.grid s.time s.config = .ok (empty s.grid s.time s.config) :=
    new_eq_ok.mpr ⟨⟨hgrid, htime, hconfig⟩, rfl⟩
  unfold ingested
  rw [bind_eq_ok]
  refine exists_congr fun e => and_congr_right fun _ => ?_
  constructor
  · intro hrun
    rcases hstart : s.sessionStart with _ | current
    · rw [hstart] at hrun
      obtain ⟨⟨⟩, hpreflight, hrun⟩ := bind_eq_ok.mp hrun
      cases hrun
      exact .start hstart hpreflight
    · rw [hstart] at hrun
      dsimp only at hrun
      split_ifs at hrun with hlater hearlier
      · obtain ⟨p, hp, hrun⟩ := bind_eq_ok.mp hrun
        obtain ⟨next, hnext, hrun⟩ := bind_eq_ok.mp hrun
        cases hrun
        obtain ⟨fresh, hfresh, hnext⟩ := bind_eq_ok.mp hnext
        cases hnew.symm.trans hfresh
        obtain ⟨⟨⟩, hpreflight, hnext⟩ := bind_eq_ok.mp hnext
        cases hnext
        exact .roll hstart hlater hp hpreflight
      · obtain ⟨next, hnext, hrun⟩ := bind_eq_ok.mp hrun
        cases hrun
        obtain ⟨tpo, htpo, hnext⟩ := bind_eq_ok.mp hnext
        rw [check_eq_ok] at hnext
        obtain ⟨⟨⟩, hpreflight, hnext'⟩ := bind_eq_ok.mp hnext.2
        obtain ⟨moved, hmoved, hnext'⟩ := bind_eq_ok.mp hnext'
        cases hnext'
        have hsession : current = e.session := by omega
        rw [hsession] at hstart
        exact .stay hstart (currentTpo_eq_ok.mp htpo) (not_lt.mp hnext.1) hpreflight hmoved
  · rintro (⟨hstart, hpreflight⟩ | ⟨hstart, hlt, hp, hpreflight⟩ |
      ⟨hstart, htpo, hle, hpreflight, hmoved⟩)
    · rw [hstart]
      exact bind_eq_ok.mpr ⟨(), hpreflight, rfl⟩
    · rw [hstart]
      dsimp only
      rw [if_pos hlt]
      refine bind_eq_ok.mpr ⟨_, hp, bind_eq_ok.mpr ⟨_, bind_eq_ok.mpr ⟨_, hnew, ?_⟩, rfl⟩⟩
      exact bind_eq_ok.mpr ⟨(), hpreflight, rfl⟩
    · rw [hstart]
      dsimp only
      rw [if_neg (lt_irrefl _), if_neg (lt_irrefl _)]
      refine bind_eq_ok.mpr ⟨_, bind_eq_ok.mpr ⟨_, currentTpo_eq_ok.mpr htpo, ?_⟩, rfl⟩
      rw [if_neg (not_lt.mpr hle)]
      exact bind_eq_ok.mpr ⟨(), hpreflight, bind_eq_ok.mpr ⟨_, hmoved, rfl⟩⟩

/-- What closing a TPO period leaves as it is. -/
lemma closed_frame (s : SessionProfileBuilder) :
    s.closed.grid = s.grid ∧ s.closed.time = s.time ∧ s.closed.config = s.config ∧
      s.closed.sessionStart = s.sessionStart ∧ s.closed.volumeByLevel = s.volumeByLevel ∧
      s.closed.totalVolumeUnits = s.totalVolumeUnits ∧ s.closed.sessionHigh = s.sessionHigh ∧
      s.closed.sessionLow = s.sessionLow ∧ s.closed.currentTpoStart = s.currentTpoStart ∧
      s.closed.lastTimestampNs = s.lastTimestampNs := by
  unfold closed
  split_ifs <;> exact ⟨rfl, rfl, rfl, rfl, rfl, rfl, rfl, rfl, rfl, rfl⟩

@[simp] lemma closed_grid : s.closed.grid = s.grid := s.closed_frame.1

@[simp] lemma closed_time : s.closed.time = s.time := s.closed_frame.2.1

@[simp] lemma closed_config : s.closed.config = s.config := s.closed_frame.2.2.1

@[simp] lemma closed_sessionStart : s.closed.sessionStart = s.sessionStart := s.closed_frame.2.2.2.1

@[simp] lemma closed_volumeByLevel : s.closed.volumeByLevel = s.volumeByLevel :=
  s.closed_frame.2.2.2.2.1

@[simp] lemma closed_totalVolumeUnits : s.closed.totalVolumeUnits = s.totalVolumeUnits :=
  s.closed_frame.2.2.2.2.2.1

@[simp] lemma clearActive_closed : s.closed.clearActive = s.clearActive := by
  unfold closed
  split_ifs <;> rfl

/-- **A session that could not be closed**: its TPO period could not, and nothing has changed, or its
snapshot failed, and the period is closed by then. -/
def CloseFailed (s : SessionProfileBuilder) (err : AnalyticsError) (s' : SessionProfileBuilder) :
    Prop :=
  (¬ s.Closable ∧ err.IsOverflow ∧ s' = s) ∨
    (s.Closable ∧ s.closed.snapshot .final s.config.basis = .error err ∧ s' = s.closed)

lemma ends_closeSession (s : SessionProfileBuilder) :
    Ends closeSession s (fun p s' => s.finalizedClone = .ok p ∧ s' = s.clearActive) s.CloseFailed := by
  refine Ends.seq ((ends_closeCurrentTpo s).mono_error ?_) ?_
  · rintro err s' ⟨rfl, hclosable, hoverflow⟩
    exact .inl ⟨hclosable, hoverflow, rfl⟩
  · rintro ⟨⟩ _ ⟨hclosable, rfl⟩
    refine Ends.get (.lift ?_ ?_)
    · intro p hp
      rw [closed_config] at hp
      exact ⟨closedSnapshot_eq_ok.mpr ⟨hclosable, hp⟩, clearActive_closed⟩
    · intro err herr
      rw [closed_config] at herr
      exact .inr ⟨hclosable, herr, rfl⟩

/-- **Finishing**: there is no session, or it is closed. -/
theorem ends_finish (s : SessionProfileBuilder) :
    Ends finish s
      (fun out s' => (s.sessionStart = none ∧ out = none ∧ s' = s) ∨
        (s.sessionStart ≠ none ∧ ∃ p, out = some p ∧ s.finalizedClone = .ok p ∧ s' = s.clearActive))
      fun err s' => s.sessionStart ≠ none ∧ s.CloseFailed err s' := by
  refine Ends.get ?_
  rcases hstart : s.sessionStart with _ | start
  · exact .inl ⟨rfl, rfl, rfl⟩
  · refine Ends.seq ((ends_closeSession s).mono_error ?_) ?_
    · intro err s' hfailed
      exact ⟨Option.some_ne_none start, hfailed⟩
    · rintro p s' ⟨hp, rfl⟩
      exact .inr ⟨Option.some_ne_none start, p, rfl, hp, rfl⟩

/-- **What a clock tick does**: without a session it is only noted; past the end of the session it
closes it; within the session it may close the TPO period. -/
inductive Advanced (s : SessionProfileBuilder) (timestampNs : Int) :
    Option SessionProfile → SessionProfileBuilder → Prop
  | idle (hstart : s.sessionStart = none) : Advanced s timestampNs none (noteTime timestampNs s)
  | past {start : Int} {p : SessionProfile} (hstart : s.sessionStart = some start)
      (hend : checkedI64 (start + s.time.sessionNs) = some (start + s.time.sessionNs))
      (hpast : start + s.time.sessionNs ≤ timestampNs) (hp : s.finalizedClone = .ok p) :
      Advanced s timestampNs (some p) (noteTime timestampNs s.clearActive)
  | within {start target current : Int} {moved : SessionProfileBuilder}
      (hstart : s.sessionStart = some start)
      (hend : checkedI64 (start + s.time.sessionNs) = some (start + s.time.sessionNs))
      (hwithin : timestampNs < start + s.time.sessionNs)
      (htarget : s.time.checkedTpoStart timestampNs = .ok target)
      (hcurrent : s.currentTpo = .ok current) (hmoved : s.movedTpo target current = .ok moved) :
      Advanced s timestampNs none (noteTime timestampNs moved)

/-- **A clock tick that failed**: nothing has changed, or the session was over and could not be
closed. -/
inductive AdvanceFailed (s : SessionProfileBuilder) (timestampNs : Int) (err : AnalyticsError) :
    SessionProfileBuilder → Prop
  | late (herr : s.rejectLate timestampNs = .error err) : AdvanceFailed s timestampNs err s
  | overflow (hstart : s.sessionStart ≠ none) (herr : err.IsOverflow) :
      AdvanceFailed s timestampNs err s
  | missing (hstart : s.sessionStart ≠ none) (herr : s.currentTpo = .error err) :
      AdvanceFailed s timestampNs err s
  | past {start : Int} {s' : SessionProfileBuilder} (hstart : s.sessionStart = some start)
      (hend : checkedI64 (start + s.time.sessionNs) = some (start + s.time.sessionNs))
      (hpast : start + s.time.sessionNs ≤ timestampNs) (hfailed : s.CloseFailed err s') :
      AdvanceFailed s timestampNs err s'

lemma upToOverflow_movedTpo (s : SessionProfileBuilder) (target current : Int) :
    UpToOverflow (s.movedTpo target current) := by
  unfold movedTpo
  split_ifs with hlt
  · exact FailsOnly.bind s.upToOverflow_preflightClose fun _ _ => .ok _
  · exact .ok s

/-- What a clock tick can do. -/
lemma ends_advanceTo (s : SessionProfileBuilder) (timestampNs : Int) :
    Ends (advanceTo timestampNs) s
      (fun out s' => s.rejectLate timestampNs = .ok () ∧ s.Advanced timestampNs out s')
      (s.AdvanceFailed timestampNs) := by
  refine Ends.get (.lift ?_ fun err herr => .late herr)
  rintro ⟨⟩ hlate
  rcases hstart : s.sessionStart with _ | start
  · exact ⟨hlate, .idle hstart⟩
  · have hactive : s.sessionStart ≠ none := by
      rw [hstart]
      exact Option.some_ne_none start
    refine Ends.lift ?_ fun err herr => .overflow hactive (upToOverflow_orOverflow _ _ err herr)
    intro sessionEnd hend
    rw [orOverflow_eq_ok] at hend
    obtain ⟨-, rfl⟩ := checkedI64_eq_some.mp hend
    split_ifs with hpast
    · refine Ends.seq ((ends_closeSession s).mono_error ?_) ?_
      · intro err s' hfailed
        exact .past hstart hend hpast hfailed
      · rintro p _ ⟨hp, rfl⟩
        exact ⟨hlate, .past hstart hend hpast hp⟩
    · refine Ends.lift ?_ fun err herr => .overflow hactive (upToOverflow_orOverflow _ _ err herr)
      intro target htarget
      refine Ends.lift ?_ fun err herr => .missing hactive herr
      intro current hcurrent
      refine Ends.seq ((performs_moveTpo target current s).ends.mono_error ?_) ?_
      · rintro err s' ⟨herr, rfl⟩
        exact .overflow hactive (upToOverflow_movedTpo _ target current err herr)
      · rintro ⟨⟩ _ ⟨moved, hmoved, rfl⟩
        exact ⟨hlate, .within hstart hend (not_le.mp hpast) htarget hcurrent hmoved⟩

end Marketfeed.SessionProfileBuilder
