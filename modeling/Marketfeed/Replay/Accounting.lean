import Marketfeed.Engine.Delivery
import Marketfeed.Replay.Runner
import Mathlib.Algebra.BigOperators.Ring.Finset
import Mathlib.Data.String.Basic

/-!
# What becomes of the actions in a replay

A replay loses actions in three places: in the action buffer, in the batch lane and in the system
lane. Each loss is counted under its own text, and the counts are reported once everything else has
been collected. This module balances the books: every action the machine pushed is in the outcome or
in the counts.

The counts are saturating `u64` sums, so they are exact up to `u64::MAX` losses (`Tallied`).
-/

namespace Marketfeed

/-- The batch an action emits. -/
def SessionAction.batch? : SessionAction → Option EventBatch
  | .emitBatch batch => some batch
  | _ => none

/-- The system event an action emits. -/
def SessionAction.system? : SessionAction → Option SystemEvent
  | .emitSystem event => some event
  | _ => none

/-! ## A lane under a dropping policy -/

/-- A policy that makes room by dropping an item. -/
def OverflowPolicy.Drops (policy : OverflowPolicy) : Prop :=
  policy = .dropNewest ∨ policy = .dropOldest

/-- **A push under a dropping policy** never fails, and loses what it says. -/
theorem BoundedQueue.tryPush_of_drops {α : Type} {q : BoundedQueue α} (h : q.policy.Drops) (item : α) :
    ∃ o, (q.tryPush item).2 = .ok o ∧ (q.tryPush item).1.items.Sublist (q.items ++ [item]) ∧
      (q.tryPush item).1.items.length + o.lost = q.items.length + 1 ∧
      (q.tryPush item).1.policy = q.policy := by
  unfold tryPush
  split
  · exact ⟨.accepted, rfl, .refl _, List.length_append, rfl⟩
  · rename_i hfull
    have hpos := q.capacity_pos
    rcases h with hpolicy | hpolicy
    · rw [hpolicy]
      exact ⟨.droppedNewest, rfl, List.sublist_append_left _ _, rfl, rfl⟩
    · rw [hpolicy]
      refine ⟨.droppedOldest 1, rfl, (List.tail_sublist _).append (.refl _), ?_, rfl⟩
      simp only [List.length_append, List.length_tail, List.length_singleton, PushOutcome.lost]
      omega

/-! ## The counts -/

/-- The sum of the counts. -/
def dropTotal (counts : Std.ExtTreeMap String Nat compare) : Nat := (counts.toList.map Prod.snd).sum

/-- **The counts add up to the losses**, as far as a `u64` can say. -/
def Tallied (counts : Std.ExtTreeMap String Nat compare) (lost : Nat) : Prop :=
  min (dropTotal counts) (2 ^ 64 - 1) = min lost (2 ^ 64 - 1)

lemma dropTotal_insert (counts : Std.ExtTreeMap String Nat compare) (detail : String) (n : Nat) :
    dropTotal (counts.insert detail n) + counts.getD detail 0 = dropTotal counts + n := by
  have hcast : ∀ m : Std.ExtTreeMap String Nat compare,
      OrdMap.total (fun n : Nat => (n : Int)) m = dropTotal m := by
    intro m
    rw [dropTotal, Nat.cast_list_sum, List.map_map]
    rfl
  have hinsert := OrdMap.total_insert (fun n : Nat => (n : Int)) counts detail n
  rw [hcast, hcast] at hinsert
  rw [Std.ExtTreeMap.getD_eq_getD_getElem?]
  rcases hold : counts[detail]? with _ | old
  · rw [hold, Option.elim_none] at hinsert
    rw [Option.getD_none]
    exact_mod_cast hinsert
  · rw [hold, Option.elim_some] at hinsert
    rw [Option.getD_some]
    exact_mod_cast hinsert

lemma Tallied.empty : Tallied ∅ 0 := by
  rw [Tallied, dropTotal, Std.ExtTreeMap.toList_eq_nil_iff.mpr rfl]
  rfl

/-- The saturating sum of the counts, as the outcome has it. -/
lemma foldl_satAdd (drops : List (String × Nat)) (start : Nat) :
    drops.foldl (fun total drop => Replay.satAdd total drop.2) (min start (2 ^ 64 - 1)) =
      min (start + (drops.map Prod.snd).sum) (2 ^ 64 - 1) := by
  induction drops generalizing start with
  | nil => rfl
  | cons drop drops ih =>
    have hadd : Replay.satAdd (min start (2 ^ 64 - 1)) drop.2 = min (start + drop.2) (2 ^ 64 - 1) := by
      unfold Replay.satAdd
      omega
    rw [List.foldl_cons, hadd, ih, List.map_cons, List.sum_cons, Nat.add_assoc]

/-- **One more loss**, under any text. A count that has reached `u64::MAX` stays there, and so does
the sum. -/
theorem Tallied.record {counts : Std.ExtTreeMap String Nat compare} {lost : Nat}
    (h : Tallied counts lost) (detail : String) (count : Nat) :
    Tallied (counts.insert detail (Replay.satAdd (counts.getD detail 0) count)) (lost + count) := by
  have hinsert := dropTotal_insert counts detail (Replay.satAdd (counts.getD detail 0) count)
  have hold := dropTotal_insert counts detail 0
  unfold Tallied Replay.satAdd at *
  omega

/-! ## What the machine pushes -/

section Pushed

variable {σ μ : Type} (M : SessionMachine σ) (D : ReplayCodec μ)

/-- What one record has the machine do: where it leaves it and what it has it push. A record that
cannot be decoded ends the replay, so nothing is said of it. -/
def recordTurn (s : σ) (rec : RawRecord) : σ × List SessionAction :=
  if rec.header.direction ≠ .inbound then (s, [])
  else
    let received : FrameStamp := ⟨⟨rec.header.receiveTsNs⟩, rec.header.monotonicNs⟩
    match rec.header.opcode with
    | .text => onInput (.textFrame rec.payload received)
    | .binary => onInput (.binaryFrame rec.payload received)
    | .pong => onInput (.pong rec.payload received)
    | .httpResponse => match HttpPayload.decode rec.payload with
        | .ok decoded => onInput (.httpResponse decoded.1 decoded.2 received)
        | .error _ => (s, [])
    | .subscriptionCommand => match ControlPayload.decode D.control rec.payload with
        | .ok decoded => (M.commitDynamicSubscription s decoded.1, [])
        | .error _ => (s, [])
    | .metadata | .ping | .close => (s, [])
where
  onInput (input : SessionInput) : σ × List SessionAction :=
    ((M.onInput s input).state, (M.onInput s input).actions)

/-- **The actions the machine pushes during a replay**, in their order. -/
def pushedActions (s : σ) (records : List RawRecord) (connectTs : TimestampNs) : List SessionAction :=
  (M.onReplayStart s connectTs).actions ++
    (runLog (recordTurn M D) (M.onReplayStart s connectTs).state records).2

end Pushed

namespace SessionRunner

/-- The events of one frame of the burst machine. -/
def burst (n : Nat) : List Emission := List.replicate n (.system .heartbeatMissed)

/-- A machine that answers every text frame with `n` system events. -/
def burstMachine (n : Nat) : SessionMachine Unit where
  onInput _ input := match input with
    | .textFrame _ _ => ⟨(), (burst n).map Emission.action, .ok ()⟩
    | _ => ⟨(), [], .ok ()⟩

/-- A recording without JSON parts. -/
def plainCodec : ReplayCodec Unit :=
  ⟨.silent, fun _ => none⟩

end SessionRunner

namespace Replay

variable {σ μ : Type}

/-! ## The books of a replay under way -/

/-- The actions that are in the lanes or among the other actions. -/
def kept (p : Replay σ μ) : Nat :=
  p.dispatch.batches.items.length + p.dispatch.systems.items.length + p.outcome.otherActions.length

/-- **The books balance.** The machine stands at `s` and has pushed `pushed`; of that, `pending` has
still to be absorbed, the lanes and the other actions hold a part in its order, and the rest is
counted. -/
structure Accounted (p : Replay σ μ) (s : σ) (pushed pending : List SessionAction) : Prop where
  machine : p.machine = s
  dropped : p.actions.dropped = 0
  batchPolicy : p.dispatch.batches.policy.Drops
  systemPolicy : p.dispatch.systems.policy.Drops
  batches : (p.dispatch.batches.items ++ pending.filterMap SessionAction.batch?).Sublist
    (pushed.filterMap SessionAction.batch?)
  systems : (p.dispatch.systems.items ++ pending.filterMap SessionAction.system?).Sublist
    (pushed.filterMap SessionAction.system?)
  others : (p.outcome.otherActions ++ pending).Sublist pushed
  balance : ∃ lost, Tallied p.dropCounts lost ∧ p.kept + pending.length + lost = pushed.length
  collected : p.outcome.marketBatches = [] ∧ p.outcome.systemEvents = [] ∧ p.outcome.droppedEvents = 0

variable {p p' : Replay σ μ} {s : σ} {pushed pending : List SessionAction}

/-- A lost item is counted. -/
lemma run_notePushOutcome (lane : String) (o : PushOutcome) (p : Replay σ μ) :
    ∃ dropCounts, (notePushOutcome lane o).run p = .ok () { p with dropCounts } ∧
      ∀ lost, Tallied p.dropCounts lost → Tallied dropCounts (lost + o.lost) := by
  cases o with
  | accepted => exact ⟨p.dropCounts, rfl, fun _ h => h⟩
  | droppedNewest => exact ⟨_, rfl, fun _ h => h.record _ 1⟩
  | droppedOldest dropped => exact ⟨_, rfl, fun _ h => h.record _ dropped⟩

/-- An action that is not emitted is kept as it is. -/
lemma Accounted.keep {action : SessionAction} (h : Accounted p s pushed (action :: pending))
    (hbatch : action.batch? = none) (hsystem : action.system? = none) :
    Accounted { p with outcome := { p.outcome with
      otherActions := p.outcome.otherActions ++ [action] } } s pushed pending := by
  obtain ⟨lost, htally, hlength⟩ := h.balance
  have hbatches := h.batches
  have hsystems := h.systems
  rw [List.filterMap_cons_none hbatch] at hbatches
  rw [List.filterMap_cons_none hsystem] at hsystems
  refine { h with
    batches := hbatches
    systems := hsystems
    others := ?_
    balance := ⟨lost, htally, ?_⟩ }
  · show (p.outcome.otherActions ++ [action] ++ pending).Sublist pushed
    rw [← List.append_cons]
    exact h.others
  · simp only [kept, List.length_append, List.length_cons, List.length_nil] at hlength ⊢
    omega

/-- **One action is absorbed**: its lane has room, or pays with one item. -/
theorem Accounted.absorb {action : SessionAction} (h : Accounted p s pushed (action :: pending)) :
    ∃ p', (absorbAction action).run p = .ok () p' ∧ Accounted p' s pushed pending := by
  obtain ⟨lost, htally, hlength⟩ := h.balance
  have hothers := (List.Sublist.append (.refl p.outcome.otherActions)
    (List.sublist_cons_self action pending)).trans h.others
  cases action with
  | emitBatch batch =>
    obtain ⟨o, hpush, hsub, hcount, hpolicy⟩ :=
      BoundedQueue.tryPush_of_drops h.batchPolicy batch
    obtain ⟨dropCounts, hnote, hnoted⟩ := run_notePushOutcome "market_batch" o
      { p with dispatch := (p.dispatch.pushBatch batch).1 }
    have hbatches := h.batches
    rw [List.filterMap_cons_some (f := SessionAction.batch?) rfl, List.append_cons] at hbatches
    refine ⟨{ p with dispatch := (p.dispatch.pushBatch batch).1, dropCounts }, ?_, { h with
      batchPolicy := hpolicy.symm ▸ h.batchPolicy
      batches := (hsub.append (.refl _)).trans hbatches
      others := hothers
      balance := ⟨lost + o.lost, hnoted lost htally, ?_⟩ }⟩
    · have hresult : (p.dispatch.pushBatch batch).2 = .ok o := hpush
      rw [absorbAction, run_get_seq, run_modify_seq, hresult]
      exact hnote
    · simp only [kept, EventDispatcher.pushBatch, List.length_cons] at hlength ⊢
      omega
  | emitSystem event =>
    obtain ⟨o, hpush, hsub, hcount, hpolicy⟩ :=
      BoundedQueue.tryPush_of_drops h.systemPolicy event
    obtain ⟨dropCounts, hnote, hnoted⟩ := run_notePushOutcome "system_event" o
      { p with dispatch := (p.dispatch.pushSystem event).1 }
    have hsystems := h.systems
    rw [List.filterMap_cons_some (f := SessionAction.system?) rfl, List.append_cons] at hsystems
    refine ⟨{ p with dispatch := (p.dispatch.pushSystem event).1, dropCounts }, ?_, { h with
      systemPolicy := hpolicy.symm ▸ h.systemPolicy
      systems := (hsub.append (.refl _)).trans hsystems
      others := hothers
      balance := ⟨lost + o.lost, hnoted lost htally, ?_⟩ }⟩
    · have hresult : (p.dispatch.pushSystem event).2 = .ok o := hpush
      rw [absorbAction, run_get_seq, run_modify_seq, hresult]
      exact hnote
    · simp only [kept, EventDispatcher.pushSystem, List.length_cons] at hlength ⊢
      omega
  | _ => exact ⟨_, rfl, h.keep rfl rfl⟩

lemma Accounted.absorbAll (h : Accounted p s pushed pending) :
    ∃ p', (pending.forM absorbAction).run p = .ok () p' ∧ Accounted p' s pushed [] := by
  induction pending generalizing p with
  | nil => exact ⟨p, rfl, h⟩
  | cons action pending ih =>
    obtain ⟨p₁, hrun₁, h₁⟩ := h.absorb
    obtain ⟨p₂, hrun₂, h₂⟩ := ih h₁
    exact ⟨p₂, (run_seq_of_ok hrun₁).trans hrun₂, h₂⟩

/-! ## One turn of the machine -/

/-- What the buffer cut is counted, and the count is taken. -/
lemma run_noteActionBufferDrops_tallied (p : Replay σ μ) :
    ∃ dropCounts, noteActionBufferDrops.run p =
        .ok () { p with actions := { p.actions with dropped := 0 }, dropCounts } ∧
      ∀ lost, Tallied p.dropCounts lost → Tallied dropCounts (lost + p.actions.dropped) := by
  rw [noteActionBufferDrops, run_get_seq, run_modify_seq]
  by_cases hdropped : p.actions.dropped = 0
  · rw [if_pos hdropped]
    refine ⟨p.dropCounts, rfl, fun lost h => ?_⟩
    rw [hdropped]
    exact h
  · rw [if_neg hdropped]
    exact ⟨_, rfl, fun lost h => h.record _ _⟩

/-- **One turn of the machine**, settled: the buffer takes what fits it, and every action of it finds
its place or is counted. -/
theorem Accounted.turn (h : Accounted p s pushed []) (hclear : p.actions.actions = [])
    {out : Outcome σ} (hrun : (machineTurn out >>= fun _ => settle).run p = .ok () p') :
    Accounted p' out.state (pushed ++ out.actions) [] := by
  obtain ⟨lost, htally, hlength⟩ := h.balance
  have hextend : p.actions.extend out.actions = { p.actions with
      actions := out.actions.take p.actions.capacity
      dropped := out.actions.length - p.actions.capacity } := by
    rw [ActionBuffer.extend_eq _ _ (by rw [hclear]; exact Nat.zero_le _), hclear, h.dropped]
    simp
  obtain ⟨⟨⟩, p₁, hturn, hsettle⟩ := run_seq_ok_iff.mp hrun
  rw [machineTurn, run_modify_seq, hextend, run_lift_ok_iff] at hturn
  obtain ⟨-, rfl⟩ := hturn
  obtain ⟨dropCounts, hnote, hnoted⟩ := run_noteActionBufferDrops_tallied { p with
    machine := out.state
    actions := { p.actions with
      actions := out.actions.take p.actions.capacity
      dropped := out.actions.length - p.actions.capacity } }
  have hcut : (out.actions.take p.actions.capacity).Sublist out.actions := List.take_sublist _ _
  -- Everything the buffer kept is now pending, and what it cut is counted.
  have hpending : Accounted { p with
      machine := out.state
      dropCounts
      actions := { p.actions with actions := [], dropped := 0 } } out.state (pushed ++ out.actions)
      (out.actions.take p.actions.capacity) := by
    refine { h with
      machine := rfl
      dropped := rfl
      batches := ?_
      systems := ?_
      others := ?_
      balance := ⟨lost + (out.actions.length - p.actions.capacity), hnoted lost htally, ?_⟩ }
    · have hbatches := h.batches
      rw [List.filterMap_nil, List.append_nil] at hbatches
      rw [List.filterMap_append]
      exact hbatches.append (hcut.filterMap _)
    · have hsystems := h.systems
      rw [List.filterMap_nil, List.append_nil] at hsystems
      rw [List.filterMap_append]
      exact hsystems.append (hcut.filterMap _)
    · have hothers := h.others
      rw [List.append_nil] at hothers
      exact hothers.append hcut
    · show p.kept + (out.actions.take p.actions.capacity).length + _ = _
      rw [List.length_nil] at hlength
      rw [List.length_take, List.length_append]
      omega
  obtain ⟨p₂, habsorb, h₂⟩ := hpending.absorbAll
  rw [settle, run_seq_of_ok hnote, absorbActions, run_get_seq, run_modify_seq] at hsettle
  have hsame : p₂ = p' := by
    have hboth := habsorb.symm.trans hsettle
    cases hboth
    rfl
  exact hsame ▸ h₂

/-- The buffer is cleared before a record. -/
def clearActions (p : Replay σ μ) : Replay σ μ := { p with actions := p.actions.clear }

/-- Nothing is counted when the buffer is cleared between records. -/
lemma Accounted.clear (h : Accounted p s pushed []) : Accounted p.clearActions s pushed [] :=
  { h with }

/-- The frame counter and the metadata are outside the books. -/
lemma Accounted.aside (h : Accounted p s pushed []) (metadata : List μ) (framesApplied : Nat) :
    Accounted { p with outcome := { p.outcome with metadata, framesApplied } } s pushed [] :=
  { h with }

variable {M : SessionMachine σ}

/-- **One input**, fed and absorbed. -/
theorem Accounted.input (h : Accounted p s pushed []) (hclear : p.actions.actions = [])
    {input : SessionInput} (hrun : (feed M input >>= fun _ => applied).run p = .ok () p') :
    Accounted p' (M.onInput s input).state (pushed ++ (M.onInput s input).actions) [] := by
  obtain ⟨⟨⟩, p₁, hfeed, happlied⟩ := run_seq_ok_iff.mp hrun
  obtain ⟨⟨⟩, p₂, hsettle, hcount⟩ := run_seq_ok_iff.mp happlied
  rw [feed, run_get_seq, h.machine] at hfeed
  have hturn := h.turn hclear ((run_seq_of_ok hfeed).trans hsettle)
  cases hcount
  exact hturn.aside _ _

/-! ## A whole replay -/

section Records

variable {M : SessionMachine σ} {D : ReplayCodec μ}

/-- A recorded mutation commits the machine and pushes nothing. -/
lemma Accounted.commit (h : Accounted p s pushed []) (hclear : p.actions.actions = [])
    {payload : Bytes}
    (hrun : (commitRecorded M D payload >>= fun _ => applied).run p = .ok () p') :
    ∃ decoded, ControlPayload.decode D.control payload = .ok decoded ∧
      Accounted p' (M.commitDynamicSubscription s decoded.1) (pushed ++ []) [] := by
  obtain ⟨⟨⟩, p₁, hcommit, happlied⟩ := run_seq_ok_iff.mp hrun
  obtain ⟨⟨⟩, p₂, hsettle, hcount⟩ := run_seq_ok_iff.mp happlied
  obtain ⟨decoded, q, hlift, hprepared⟩ := run_seq_ok_iff.mp hcommit
  obtain ⟨hdecode, rfl⟩ := run_lift_ok_iff.mp hlift
  rw [run_get_seq] at hprepared
  obtain ⟨prepared, q, hprepare, hcommitted⟩ := run_seq_ok_iff.mp hprepared
  obtain ⟨-, rfl⟩ := run_lift_ok_iff.mp hprepare
  by_cases hwire : prepared ≠ decoded.2
  · rw [if_pos hwire] at hcommitted
    cases hcommitted
  · rw [if_neg hwire] at hcommitted
    cases hcommitted
    -- The commit is a turn of the machine that pushes nothing.
    have hturn : (machineTurn ⟨M.commitDynamicSubscription s decoded.1, [], .ok ()⟩ >>= fun _ =>
        settle).run q = .ok () p₂ := by
      rw [← h.machine]
      exact hsettle
    have haccounted := h.turn hclear hturn
    cases hcount
    exact ⟨decoded, hdecode, haccounted.aside _ _⟩

/-- **One record** moves the books by what it has the machine push. -/
theorem Accounted.record (h : Accounted p s pushed []) {rec : RawRecord}
    (hrun : (replayRecord M D rec).run p = .ok () p') :
    Accounted p' (recordTurn M D s rec).1 (pushed ++ (recordTurn M D s rec).2) [] := by
  unfold recordTurn
  unfold replayRecord at hrun
  by_cases hdirection : rec.header.direction ≠ .inbound
  · rw [if_pos hdirection] at hrun ⊢
    cases hrun
    rw [List.append_nil]
    exact h
  · rw [if_neg hdirection] at hrun ⊢
    rw [run_modify_seq] at hrun
    have hnone : ∀ q : Replay σ μ, Accounted q s pushed [] → Accounted q s (pushed ++ []) [] := by
      intro q hq
      rw [List.append_nil]
      exact hq
    cases hop : rec.header.opcode <;> simp only [hop] at hrun ⊢
    case text => exact h.clear.input rfl hrun
    case binary => exact h.clear.input rfl hrun
    case pong => exact h.clear.input rfl hrun
    case httpResponse =>
      obtain ⟨decoded, q, hlift, hrest⟩ := run_seq_ok_iff.mp hrun
      obtain ⟨hdecode, rfl⟩ := run_lift_ok_iff.mp hlift
      rw [hdecode]
      exact h.clear.input rfl hrest
    case subscriptionCommand =>
      obtain ⟨decoded, hdecode, hcommit⟩ := h.clear.commit rfl hrun
      rw [hdecode]
      exact hcommit
    case metadata =>
      obtain ⟨record, q, hlift, hrest⟩ := run_seq_ok_iff.mp hrun
      obtain ⟨-, rfl⟩ := run_lift_ok_iff.mp hlift
      cases hrest
      exact hnone _ (h.clear.aside _ _)
    case ping =>
      cases hrun
      exact hnone _ h.clear
    case close =>
      cases hrun
      exact hnone _ h.clear

lemma Accounted.records (h : Accounted p s pushed []) {records : List RawRecord}
    (hrun : (records.forM (replayRecord M D)).run p = .ok () p') :
    Accounted p' (runLog (recordTurn M D) s records).1
      (pushed ++ (runLog (recordTurn M D) s records).2) [] := by
  induction records generalizing p s pushed with
  | nil =>
    cases hrun
    rw [runLog_nil, List.append_nil]
    exact h
  | cons rec records ih =>
    obtain ⟨⟨⟩, p₁, hrec, hrest⟩ := run_seq_ok_iff.mp hrun
    rw [runLog_cons, ← List.append_assoc]
    exact ih (h.record hrec) hrest

end Records

/-- **The start empties the runner**: whatever an earlier replay left in it is gone. -/
theorem replayStart_accounted {connectTs : TimestampNs}
    (hbatches : p.dispatch.batches.policy.Drops) (hsystems : p.dispatch.systems.policy.Drops)
    (hrun : (replayStart M connectTs).run p = .ok () p') :
    Accounted p' (M.onReplayStart p.machine connectTs).state
      (M.onReplayStart p.machine connectTs).actions [] := by
  have hstart : Accounted { p with
      dispatch := p.dispatch.drain.2
      actions := p.actions.clear.takeDropped.2
      dropCounts := ∅
      outcome := (.default : ReplayOutcome μ) } p.machine [] [] :=
    ⟨rfl, rfl, hbatches, hsystems, .slnil, .slnil, .slnil, ⟨0, Tallied.empty, rfl⟩, rfl, rfl, rfl⟩
  exact hstart.turn rfl hrun

/-! ## What an earlier replay leaves behind -/

/-- A lane that has lost `n` more items in its lifetime. -/
def agedLane {α : Type} (n : Nat) (q : BoundedQueue α) : BoundedQueue α :=
  { q with droppedTotal := n + q.droppedTotal }

lemma tryPush_agedLane {α : Type} (n : Nat) (q : BoundedQueue α) (item : α) :
    (agedLane n q).tryPush item = (agedLane n (q.tryPush item).1, (q.tryPush item).2) := by
  unfold BoundedQueue.tryPush
  by_cases hroom : q.items.length < q.capacity
  · rw [dif_pos hroom, dif_pos (show (agedLane n q).items.length < (agedLane n q).capacity from hroom)]
    rfl
  · rw [dif_neg hroom,
      dif_neg (show ¬(agedLane n q).items.length < (agedLane n q).capacity from hroom)]
    have hpolicy : (agedLane n q).policy = q.policy := rfl
    rw [hpolicy]
    cases q.policy <;> rfl

/-- The lanes' lifetime totals are all that a replay does not empty. -/
def aged (m n : Nat) (p : Replay σ μ) : Replay σ μ :=
  { p with dispatch := ⟨agedLane m p.dispatch.batches, agedLane n p.dispatch.systems⟩ }

/-- The runner as a replay finds it once it has been emptied. -/
def reset (p : Replay σ μ) : Replay σ μ := { p with
  dispatch := p.dispatch.drain.2
  actions := p.actions.clear.takeDropped.2
  dropCounts := ∅
  outcome := .default }

variable (m n : Nat)

lemma ignores_recordDrop (detail : String) (count : Nat) :
    Ignores (aged m n) (recordDrop detail count : ReplayM σ μ Unit) :=
  Ignores.modify fun _ => rfl

lemma ignores_notePushOutcome (lane : String) (o : PushOutcome) :
    Ignores (aged m n) (notePushOutcome lane o : ReplayM σ μ Unit) := by
  cases o with
  | accepted => exact .pure ()
  | droppedNewest => exact ignores_recordDrop m n _ 1
  | droppedOldest dropped => exact ignores_recordDrop m n _ dropped

lemma ignores_absorbAction (action : SessionAction) :
    Ignores (aged m n) (absorbAction action : ReplayM σ μ Unit) := by
  have hrest (lane : String) (x : Except DispatchError PushOutcome) : Ignores (aged m n)
      (liftExcept .dispatch x >>= notePushOutcome lane : ReplayM σ μ Unit) :=
    Ignores.seq (.lift _ x) fun o => ignores_notePushOutcome m n lane o
  cases action with
  | emitBatch batch =>
    intro p
    have hpush : (p.aged m n).dispatch.pushBatch batch =
        (⟨agedLane m (p.dispatch.pushBatch batch).1.batches,
          agedLane n (p.dispatch.pushBatch batch).1.systems⟩, (p.dispatch.pushBatch batch).2) := by
      rw [EventDispatcher.pushBatch, aged, tryPush_agedLane]
      rfl
    rw [absorbAction, run_get_seq, run_get_seq, run_modify_seq, run_modify_seq, hpush]
    exact hrest _ _ { p with dispatch := (p.dispatch.pushBatch batch).1 }
  | emitSystem event =>
    intro p
    have hpush : (p.aged m n).dispatch.pushSystem event =
        (⟨agedLane m (p.dispatch.pushSystem event).1.batches,
          agedLane n (p.dispatch.pushSystem event).1.systems⟩, (p.dispatch.pushSystem event).2) := by
      rw [EventDispatcher.pushSystem, aged, tryPush_agedLane]
      rfl
    rw [absorbAction, run_get_seq, run_get_seq, run_modify_seq, run_modify_seq, hpush]
    exact hrest _ _ { p with dispatch := (p.dispatch.pushSystem event).1 }
  | _ => exact .modify fun _ => rfl

lemma ignores_settle : Ignores (aged m n) (settle : ReplayM σ μ Unit) := by
  have hnote : Ignores (aged m n) (noteActionBufferDrops : ReplayM σ μ Unit) := by
    refine Ignores.get (fun _ => rfl) fun p => .seq (.modify fun _ => rfl) fun _ => ?_
    by_cases hdropped : p.actions.dropped = 0
    · rw [if_pos hdropped]
      exact .pure ()
    · rw [if_neg hdropped]
      exact ignores_recordDrop m n _ _
  have habsorb : Ignores (aged m n) (absorbActions : ReplayM σ μ Unit) :=
    Ignores.get (fun _ => rfl) fun _ => .seq (.modify fun _ => rfl) fun _ =>
      Ignores.forM (ignores_absorbAction m n) _
  exact Ignores.seq hnote fun _ => habsorb

lemma ignores_machineTurn (out : Outcome σ) :
    Ignores (aged m n) (machineTurn out : ReplayM σ μ Unit) :=
  Ignores.seq (.modify fun _ => rfl) fun _ => .lift _ _

lemma ignores_applied : Ignores (aged m n) (applied : ReplayM σ μ Unit) :=
  Ignores.seq (ignores_settle m n) fun _ => .modify fun _ => rfl

section Ignoring

variable (M : SessionMachine σ) (D : ReplayCodec μ) (m n : Nat)

lemma ignores_commitRecorded (payload : Bytes) : Ignores (aged m n) (commitRecorded M D payload) := by
  refine Ignores.seq (.lift _ _) fun decoded => .get (fun _ => rfl) fun p =>
    Ignores.seq (.lift _ _) fun prepared => ?_
  by_cases hwire : prepared ≠ decoded.2
  · rw [if_pos hwire]
    exact .throw _
  · rw [if_neg hwire]
    exact .modify fun _ => rfl

lemma ignores_replayRecord (rec : RawRecord) : Ignores (aged m n) (replayRecord M D rec) := by
  have hinput (input : SessionInput) : Ignores (aged m n)
      (feed M input >>= fun _ => applied : ReplayM σ μ Unit) :=
    Ignores.seq (.get (fun _ => rfl) fun _ => ignores_machineTurn m n _) fun _ =>
      ignores_applied m n
  unfold replayRecord
  by_cases hdirection : rec.header.direction ≠ .inbound
  · rw [if_pos hdirection]
    exact .pure ()
  · rw [if_neg hdirection]
    refine Ignores.seq (.modify fun _ => rfl) fun _ => ?_
    cases rec.header.opcode with
    | text | binary | pong => exact hinput _
    | httpResponse => exact Ignores.seq (.lift _ _) fun _ => hinput _
    | subscriptionCommand =>
      exact Ignores.seq (ignores_commitRecorded M D m n _) fun _ => ignores_applied m n
    | metadata => exact Ignores.seq (.lift _ _) fun _ => .modify fun _ => rfl
    | ping | close => exact .pure ()

/-- **A replay does not read the lifetime totals.** -/
theorem ignores_replayRecords (records : List RawRecord) (connectTs : TimestampNs) :
    Ignores (aged m n) (replayRecords M D records connectTs) := by
  have hstart : Ignores (aged m n) (replayStart M connectTs : ReplayM σ μ Unit) :=
    Ignores.seq (.modify fun _ => rfl) fun _ => .get (fun _ => rfl) fun _ =>
      Ignores.seq (ignores_machineTurn m n _) fun _ => ignores_settle m n
  exact Ignores.seq hstart fun _ =>
    Ignores.seq (.forM (ignores_replayRecord M D m n) records) fun _ =>
      Ignores.modify fun _ => rfl

end Ignoring

/-- Two runners with the same machine and the same settings, whatever else they hold. -/
structure SameSetup (p q : Replay σ μ) : Prop where
  machine : p.machine = q.machine
  actions : p.actions.capacity = q.actions.capacity
  batchCapacity : p.dispatch.batches.capacity = q.dispatch.batches.capacity
  batchPolicy : p.dispatch.batches.policy = q.dispatch.batches.policy
  systemCapacity : p.dispatch.systems.capacity = q.dispatch.systems.capacity
  systemPolicy : p.dispatch.systems.policy = q.dispatch.systems.policy

/-- Emptied, they differ in their lifetime totals only. -/
lemma SameSetup.exists_aged {q : Replay σ μ} (h : SameSetup p q) :
    ∃ (base : Replay σ μ) (m n m' n' : Nat), p.reset = base.aged m n ∧ q.reset = base.aged m' n' := by
  obtain ⟨⟨⟨⟨_, _, _, m, _, _⟩, ⟨_, _, _, n, _, _⟩⟩, ⟨_, _, _⟩, _⟩, _, _⟩ := p
  obtain ⟨⟨⟨⟨_, _, _, m', hcap, _⟩, ⟨_, _, _, n', _, _⟩⟩, ⟨_, _, _⟩, _⟩, _, _⟩ := q
  obtain ⟨hmachine, hactions, hbatchCapacity, hbatchPolicy, hsystemCapacity, hsystemPolicy⟩ := h
  cases hmachine
  cases hactions
  cases hbatchCapacity
  cases hbatchPolicy
  cases hsystemCapacity
  cases hsystemPolicy
  exact ⟨⟨⟨⟨⟨_, _, [], 0, ‹_›, Nat.zero_le _⟩, ⟨_, _, [], 0, ‹_›, Nat.zero_le _⟩⟩, ⟨[], _, 0⟩, ∅⟩, _,
    .default⟩, m, n, m', n', rfl, rfl⟩

/-- **An earlier replay contributes nothing**: the outcome depends on the machine and the settings
alone. -/
theorem SameSetup.outcome_eq {q : Replay σ μ} (h : SameSetup p q) {D : ReplayCodec μ}
    {records : List RawRecord} {connectTs : TimestampNs}
    (hrun : (replayRecords M D records connectTs).run p = .ok () p') :
    ∃ q', (replayRecords M D records connectTs).run q = .ok () q' ∧ q'.outcome = p'.outcome := by
  obtain ⟨base, m, n, m', n', hp, hq⟩ := h.exists_aged
  -- A replay starts by emptying the runner, so it may as well start on an emptied one.
  have hreset (r : Replay σ μ) : (replayRecords M D records connectTs).run r.reset =
      (replayRecords M D records connectTs).run r := rfl
  rw [← hreset, hp, ignores_replayRecords] at hrun
  rw [← hreset, hq, ignores_replayRecords]
  rcases hbase : (replayRecords M D records connectTs).run base with ⟨⟨⟩, r⟩ | ⟨e, r⟩
  · rw [hbase] at hrun
    cases hrun
    exact ⟨r.aged m' n', rfl, rfl⟩
  · rw [hbase] at hrun
    cases hrun

/-! ## The outcome -/

/-- **Nothing is lost without a count.** On a runner in any state, a replay under a dropping policy
that returns has every action the machine pushed in its outcome or in its counts: the batches, the
system events and the other actions it kept are some of those pushed, in their order, and the events
appended to report drops count the rest. What the runner held before does not show in the outcome.

The counts are saturating `u64` sums: they are exact as long as fewer than `2 ^ 64` are lost. -/
theorem replayRecords_accounted (M : SessionMachine σ) (D : ReplayCodec μ) (records : List RawRecord)
    (connectTs : TimestampNs) (p p' : Replay σ μ) (hbatches : p.dispatch.batches.policy.Drops)
    (hsystems : p.dispatch.systems.policy.Drops)
    (hrun : (replayRecords M D records connectTs).run p = .ok () p') :
    ∃ (retained : List SystemEvent) (drops : List (String × Nat)) (lost : Nat),
      p'.outcome.systemEvents = retained ++ drops.map (fun drop => .eventsDropped drop.2 drop.1) ∧
      (pushedActions M D p.machine records connectTs).length =
        p'.outcome.marketBatches.length + p'.outcome.otherActions.length + retained.length + lost ∧
      p'.outcome.droppedEvents = min lost (2 ^ 64 - 1) ∧
      p'.outcome.droppedEvents = min (drops.map Prod.snd).sum (2 ^ 64 - 1) ∧
      p'.outcome.marketBatches.Sublist
        ((pushedActions M D p.machine records connectTs).filterMap SessionAction.batch?) ∧
      retained.Sublist
        ((pushedActions M D p.machine records connectTs).filterMap SessionAction.system?) ∧
      p'.outcome.otherActions.Sublist (pushedActions M D p.machine records connectTs) ∧
      ∀ q, SameSetup p q →
        ∃ q', (replayRecords M D records connectTs).run q = .ok () q' ∧ q'.outcome = p'.outcome := by
  have hsame : ∀ q, SameSetup p q → ∃ q', (replayRecords M D records connectTs).run q = .ok () q' ∧
      q'.outcome = p'.outcome := fun _ hsetup => hsetup.outcome_eq hrun
  obtain ⟨⟨⟩, p₁, hstart, hrest⟩ := run_seq_ok_iff.mp hrun
  obtain ⟨⟨⟩, p₂, hrecords, hfinish⟩ := run_seq_ok_iff.mp hrest
  have h := (replayStart_accounted hbatches hsystems hstart).records hrecords
  obtain ⟨lost, htally, hlength⟩ := h.balance
  obtain ⟨hnoBatch, hnoSystem, hnoDrop⟩ := h.collected
  have htotal : p₂.dropCounts.toList.foldl (fun total drop => satAdd total drop.2)
      p₂.outcome.droppedEvents = min (dropTotal p₂.dropCounts) (2 ^ 64 - 1) := by
    rw [hnoDrop]
    have hsum := foldl_satAdd p₂.dropCounts.toList 0
    rw [Nat.zero_add] at hsum
    exact hsum
  have hkeptBatches := h.batches
  have hkeptSystems := h.systems
  have hkeptOthers := h.others
  rw [List.filterMap_nil, List.append_nil] at hkeptBatches hkeptSystems
  rw [List.append_nil] at hkeptOthers
  rw [List.length_nil, kept] at hlength
  cases hfinish
  refine ⟨p₂.dispatch.systems.items, p₂.dropCounts.toList, lost, ?_, ?_, htotal.trans htally, htotal,
    ?_, hkeptSystems, hkeptOthers, hsame⟩
  · show p₂.outcome.systemEvents ++ p₂.dispatch.systems.items ++ _ = _
    rw [hnoSystem, List.nil_append]
  · show _ = (p₂.outcome.marketBatches ++ p₂.dispatch.batches.items).length +
      p₂.outcome.otherActions.length + _ + _
    rw [hnoBatch, List.nil_append, pushedActions, ← hlength]
    omega
  · show (p₂.outcome.marketBatches ++ p₂.dispatch.batches.items).Sublist _
    rw [hnoBatch, List.nil_append]
    exact hkeptBatches

/-- A lane of two items that drops the oldest, after a run that left something behind. -/
def overflowing : Replay Unit Unit where
  dispatch := .new 2 2 Nat.two_pos Nat.two_pos .dropOldest
  actions := ⟨[.markLive], 1024, 3⟩
  dropCounts := ∅
  machine := ()
  outcome := .default

/-- The frame recorded for something received. -/
def inboundFrame (session : SessionId) (frameSeq : UInt64) (opcode : RecOpcode) (payload : Bytes)
    (received : FrameStamp) : RawFrame :=
  ⟨session, frameSeq, received.receiveTs.ns, received.monoNs, .inbound, opcode, 0, payload⟩

/-- One text frame, received. -/
def receivedFrame : RawRecord := (inboundFrame ⟨1⟩ 0 .text [] ⟨⟨0⟩, 0⟩).record

/-- A frame answered with three events, one more than the lane holds. -/
theorem replayRecords_accounted_overflowing :
    ∃ (p' : Replay Unit Unit) (retained : List SystemEvent) (drops : List (String × Nat)) (lost : Nat),
      (replayRecords (SessionRunner.burstMachine 3) SessionRunner.plainCodec [receivedFrame] ⟨0⟩).run
        overflowing = .ok () p' ∧
      p'.outcome.systemEvents = retained ++ drops.map (fun drop => .eventsDropped drop.2 drop.1) ∧
      3 = p'.outcome.marketBatches.length + p'.outcome.otherActions.length + retained.length + lost := by
  have hrun := run_of_completes (m := replayRecords (SessionRunner.burstMachine 3)
    SessionRunner.plainCodec [receivedFrame] ⟨0⟩) (s := overflowing) rfl
  obtain ⟨retained, drops, lost, hevents, hlength, -⟩ := replayRecords_accounted
    (SessionRunner.burstMachine 3) SessionRunner.plainCodec [receivedFrame] ⟨0⟩ overflowing _
    (.inr rfl) (.inr rfl) hrun
  exact ⟨_, retained, drops, lost, hrun, hevents, hlength⟩

end Replay

end Marketfeed
