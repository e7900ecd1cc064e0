import Marketfeed.Engine.Runner

/-!
# Losses through the fan-out

`DaemonSinks` in `crates/daemon/src/sinks.rs` pushes each item into every configured sink and merges
their outcomes into one; `forward_dispatcher` then counts the items whose merged outcome is not
`Accepted`. A member sink counts its own losses by the outcome: one for `DroppedNewest`, the count
for `DroppedOldest` (`SinkWorker::enqueue`, here `PushOutcome.lost`).
-/

namespace Marketfeed

def mergeOutcome : PushOutcome → PushOutcome → PushOutcome
  | .accepted, next => next
  | .droppedOldest total, .droppedOldest dropped =>
    .droppedOldest (min (total + dropped) (2 ^ 64 - 1))
  | aggregate, _ => aggregate

def mergeResult (merged : PushOutcome × Option SinkError) :
    Except SinkError PushOutcome → PushOutcome × Option SinkError
  | .ok outcome => (mergeOutcome merged.1 outcome, merged.2)
  | .error error => (merged.1, merged.2.or (some error))

/-- The configured sinks, by kind. -/
structure DaemonSinks (S : Type) where
  logging : List S
  file : List S
  protobufFile : List S
  protobufFileBin : List S
  udp : List S
  kafka : List S
  nats : List S
  spillWal : List S
  memory : List S

section fan

variable {S α : Type} (deliver : S → α → S × Except SinkError PushOutcome)

/-- Source: one `for sink in &mut self.…` loop of `push_batch` or `push_system` -/
def pushEach (item : α) : List S → PushOutcome × Option SinkError →
    List S × PushOutcome × Option SinkError
  | [], merged => ([], merged)
  | sink :: sinks, merged =>
    let (sink, result) := deliver sink item
    let (sinks, merged) := pushEach item sinks (mergeResult merged result)
    (sink :: sinks, merged)

namespace DaemonSinks

/-- Source: `DaemonSinks::push_batch`, `DaemonSinks::push_system` -/
def push (sinks : DaemonSinks S) (item : α) : DaemonSinks S × Except SinkError PushOutcome :=
  let (logging, merged) := pushEach deliver item sinks.logging (.accepted, none)
  let (file, merged) := pushEach deliver item sinks.file merged
  let (protobufFile, merged) := pushEach deliver item sinks.protobufFile merged
  let (protobufFileBin, merged) := pushEach deliver item sinks.protobufFileBin merged
  let (udp, merged) := pushEach deliver item sinks.udp merged
  let (kafka, merged) := pushEach deliver item sinks.kafka merged
  let (nats, merged) := pushEach deliver item sinks.nats merged
  let (spillWal, merged) := pushEach deliver item sinks.spillWal merged
  let (memory, merged) := pushEach deliver item sinks.memory merged
  (⟨logging, file, protobufFile, protobufFileBin, udp, kafka, nats, spillWal, memory⟩,
    merged.2.elim (.ok merged.1) .error)

/-- Every member, in the order of a push. -/
def members (sinks : DaemonSinks S) : List S :=
  sinks.logging ++ sinks.file ++ sinks.protobufFile ++ sinks.protobufFileBin ++ sinks.udp ++
    sinks.kafka ++ sinks.nats ++ sinks.spillWal ++ sinks.memory

end DaemonSinks

/-- What the members answer to one item after another. -/
def outcomeRows : List α → List S → List (List (Except SinkError PushOutcome))
  | [], _ => []
  | item :: items, sinks =>
    (sinks.map fun sink => (deliver sink item).2) ::
      outcomeRows items (sinks.map fun sink => (deliver sink item).1)

/-- The members after one item after another. -/
def afterRows (items : List α) (sinks : List S) : List S :=
  items.foldl (fun sinks item => sinks.map fun sink => (deliver sink item).1) sinks

lemma pushEach_eq (item : α) (sinks : List S) (merged : PushOutcome × Option SinkError) :
    pushEach deliver item sinks merged = (sinks.map fun sink => (deliver sink item).1,
      (sinks.map fun sink => (deliver sink item).2).foldl mergeResult merged) := by
  induction sinks generalizing merged with
  | nil => rfl
  | cons sink sinks ih => rw [pushEach]; dsimp only; rw [ih]; rfl

lemma members_push (sinks : DaemonSinks S) (item : α) :
    (sinks.push deliver item).1.members = sinks.members.map fun sink => (deliver sink item).1 := by
  simp only [DaemonSinks.push, DaemonSinks.members, pushEach_eq, List.map_append]

lemma push_result (sinks : DaemonSinks S) (item : α) :
    (sinks.push deliver item).2 =
      let merged := (sinks.members.map fun sink => (deliver sink item).2).foldl mergeResult
        (.accepted, none)
      merged.2.elim (Except.ok merged.1) Except.error := by
  simp only [DaemonSinks.push, DaemonSinks.members, pushEach_eq, List.map_append,
    List.foldl_append]

end fan

lemma mergeOutcome_eq_accepted {a b : PushOutcome} :
    mergeOutcome a b = .accepted ↔ a = .accepted ∧ b = .accepted := by
  cases a <;> cases b <;> simp [mergeOutcome]

variable {row : List (Except SinkError PushOutcome)}

/-- A merge keeps the first error. -/
lemma foldl_mergeResult_error {merged : PushOutcome × Option SinkError}
    (h : (row.foldl mergeResult merged).2 = none) :
    merged.2 = none ∧ ∀ result ∈ row, ∃ outcome, result = .ok outcome := by
  induction row generalizing merged with
  | nil => exact ⟨h, fun _ hmem => by cases hmem⟩
  | cons result row ih =>
    obtain ⟨hnone, hrow⟩ := ih h
    cases result with
    | ok outcome => exact ⟨hnone, List.forall_mem_cons.mpr ⟨⟨outcome, rfl⟩, hrow⟩⟩
    | error error => cases hm : merged.2 <;> simp [mergeResult, hm] at hnone

/-- Without an error a merge is `Accepted` where everything was. -/
lemma foldl_mergeResult {merged : PushOutcome × Option SinkError}
    (hok : ∀ result ∈ row, ∃ outcome, result = .ok outcome) :
    (row.foldl mergeResult merged).1 = .accepted ↔
      merged.1 = .accepted ∧ ∀ result ∈ row, result = .ok .accepted := by
  induction row generalizing merged with
  | nil => exact ⟨fun ha => ⟨ha, fun _ hmem => by cases hmem⟩, And.left⟩
  | cons result row ih =>
    obtain ⟨⟨outcome, rfl⟩, hrow⟩ := List.forall_mem_cons.mp hok
    rw [List.foldl_cons, ih hrow, List.forall_mem_cons, mergeResult, mergeOutcome_eq_accepted,
      Except.ok.injEq, and_assoc]

/-- The deliveries that a row of answers reports lost. -/
def rowLost (row : List (Except SinkError PushOutcome)) : Nat :=
  (row.map fun result => result.toOption.elim 0 PushOutcome.lost).sum

/-- At most one member lost something, and that one a single delivery. -/
def LosesOnce (row : List (Except SinkError PushOutcome)) : Prop :=
  row.filter (· ≠ .ok .accepted) ∈ [[], [.ok .droppedNewest], [.ok (.droppedOldest 1)]]

lemma rowLost_filter (row : List (Except SinkError PushOutcome)) :
    rowLost (row.filter (· ≠ .ok .accepted)) = rowLost row := by
  induction row with
  | nil => rfl
  | cons result row ih =>
    rw [List.filter_cons]
    split
    · rw [rowLost, List.map_cons, List.sum_cons]
      exact congrArg _ ih
    · next hacc =>
        have : result = .ok .accepted := by simpa using hacc
        rw [ih, this, rowLost, rowLost, List.map_cons, List.sum_cons]
        exact (Nat.zero_add _).symm

/-- Some member did not accept the item. -/
def refused (row : List (Except SinkError PushOutcome)) : Bool := row.any (· ≠ .ok .accepted)

lemma refused_eq_false : refused row = false ↔ row.filter (· ≠ .ok .accepted) = [] := by
  simp [refused, List.filter_eq_nil_iff]

lemma LosesOnce.rowLost_eq (h : LosesOnce row) : rowLost row = (refused row).toNat := by
  have hcons {result} {rest : List (Except SinkError PushOutcome)}
      (h : row.filter (· ≠ .ok .accepted) = result :: rest) : refused row = true := by
    rw [← Bool.not_eq_false, refused_eq_false, h]
    exact List.cons_ne_nil _ _
  rw [← rowLost_filter]
  simp only [LosesOnce, List.mem_cons, List.not_mem_nil, or_false] at h
  rcases h with h | h | h
  · rw [refused_eq_false.mpr h, h]; rfl
  · rw [hcons h, h]; rfl
  · rw [hcons h, h]; rfl

/-- Answers without an error and without an empty drop lose something for each member that did not
accept, so one loss in all is one member and one delivery. -/
lemma rowLost_cases (hok : ∀ result ∈ row, ∃ outcome, result = .ok outcome)
    (hcount : .ok (.droppedOldest 0) ∉ row) :
    (refused row).toNat < rowLost row ∨ LosesOnce row := by
  have hlost : ∀ result ∈ row.filter (· ≠ .ok .accepted), result = .ok .droppedNewest ∨
      ∃ k, result = .ok (.droppedOldest (k + 1)) := by
    intro result hmem
    obtain ⟨hmem, hne⟩ := List.mem_filter.mp hmem
    obtain ⟨outcome, rfl⟩ := hok result hmem
    match outcome with
    | .accepted => simp at hne
    | .droppedNewest => exact .inl rfl
    | .droppedOldest 0 => exact absurd hmem hcount
    | .droppedOldest (k + 1) => exact .inr ⟨k, rfl⟩
  have hle := Bool.toNat_le (refused row)
  rw [← rowLost_filter, LosesOnce]
  generalize row.filter (· ≠ .ok .accepted) = losses at hlost ⊢
  match losses with
  | [] => exact .inr List.mem_cons_self
  | [result] =>
    rcases hlost result (List.mem_singleton_self _) with rfl | ⟨_ | k, rfl⟩
    · exact .inr (by simp)
    · exact .inr (by simp)
    · exact .inl (Nat.lt_of_le_of_lt hle (by simp [rowLost, Except.toOption, PushOutcome.lost]))
  | first :: second :: rest =>
    have hpos : ∀ result ∈ first :: second :: rest,
        1 ≤ result.toOption.elim 0 PushOutcome.lost := by
      intro result hmem
      rcases hlost result hmem with rfl | ⟨k, rfl⟩
      · exact Nat.le_refl 1
      · exact Nat.le_add_left 1 k
    have hfirst := hpos first List.mem_cons_self
    have hsecond := hpos second (List.mem_cons_of_mem _ List.mem_cons_self)
    rw [rowLost, List.map_cons, List.map_cons, List.sum_cons, List.sum_cons]
    exact .inl (by omega)

lemma losesOnce_of_sum_eq {rows : List (List (Except SinkError PushOutcome))}
    (hcases : ∀ row ∈ rows, (refused row).toNat < rowLost row ∨ LosesOnce row)
    (h : (rows.map fun row => (refused row).toNat).sum = (rows.map rowLost).sum) :
    ∀ row ∈ rows, LosesOnce row := by
  have hle : ∀ rows : List (List (Except SinkError PushOutcome)),
      (∀ row ∈ rows, (refused row).toNat < rowLost row ∨ LosesOnce row) →
      (rows.map fun row => (refused row).toNat).sum ≤ (rows.map rowLost).sum := by
    intro rows hcases
    refine List.sum_le_sum fun row hrow => ?_
    exact (hcases row hrow).elim Nat.le_of_lt fun honce => honce.rowLost_eq.ge
  induction rows with
  | nil => exact fun _ hmem => by cases hmem
  | cons row rows ih =>
    rw [List.forall_mem_cons] at hcases ⊢
    rw [List.map_cons, List.map_cons, List.sum_cons, List.sum_cons] at h
    have hrest := hle rows hcases.2
    rcases hcases.1 with hlt | honce
    · omega
    · exact ⟨honce, ih hcases.2 (by have := honce.rowLost_eq; omega)⟩

variable {S : Type} {sinks sinks' : DaemonSinks S}

lemma push_eq_ok {α : Type} {deliver : S → α → S × Except SinkError PushOutcome} {item : α}
    {outcome : PushOutcome} (h : sinks.push deliver item = (sinks', .ok outcome)) :
    (∀ result ∈ sinks.members.map fun sink => (deliver sink item).2, ∃ o, result = .ok o) ∧
      (if outcome = .accepted then 0 else 1) =
        (refused (sinks.members.map fun sink => (deliver sink item).2)).toNat := by
  have hresult := push_result deliver sinks item
  rw [h] at hresult
  generalize sinks.members.map (fun sink => (deliver sink item).2) = row at hresult ⊢
  dsimp only at hresult
  cases herr : (row.foldl mergeResult (.accepted, none)).2 with
  | some error => rw [herr] at hresult; cases hresult
  | none =>
    rw [herr] at hresult
    obtain ⟨-, hok⟩ := foldl_mergeResult_error herr
    refine ⟨hok, ?_⟩
    rw [Except.ok.inj hresult]
    simp only [foldl_mergeResult hok, true_and]
    cases hrefused : refused row with
    | false => rw [if_pos (by simpa [refused] using hrefused)]; rfl
    | true => rw [if_neg (by simpa [refused] using hrefused)]; rfl

/-- One lane into the fan-out: its count is that of the items some member did not accept. -/
lemma forwardLane_refused {α : Type} {deliver : S → α → S × Except SinkError PushOutcome}
    {items : List α} {lane lane' : BoundedQueue α} {n : Nat}
    (h : forwardLane (DaemonSinks.push deliver) items lane sinks = (lane', sinks', .ok n)) :
    n = ((outcomeRows deliver items sinks.members).map fun row => (refused row).toNat).sum ∧
      (∀ row ∈ outcomeRows deliver items sinks.members, ∀ result ∈ row, ∃ o, result = .ok o) ∧
      sinks'.members = afterRows deliver items sinks.members := by
  induction items generalizing lane lane' sinks sinks' n with
  | nil =>
    obtain ⟨-, hsinks, hn⟩ := (Prod.mk.inj h).imp_right Prod.mk.inj
    exact ⟨(Except.ok.inj hn).symm, fun _ hmem => (by cases hmem), congrArg _ hsinks.symm⟩
  | cons item items ih =>
    rw [forwardLane] at h
    split at h
    · cases h
    · next next outcome hpush =>
        have hmembers := members_push deliver sinks item
        rw [hpush] at hmembers
        dsimp only at hmembers h
        rcases hrest : forwardLane (DaemonSinks.push deliver) items lane.popFront next with
          ⟨rest, last, error | k⟩
        · rw [hrest] at h; cases h
        rw [hrest] at h
        obtain ⟨-, rfl, hn⟩ := (Prod.mk.inj h).imp_right Prod.mk.inj
        obtain ⟨hk, hrows, hlast⟩ := ih hrest
        obtain ⟨hok, hcount⟩ := push_eq_ok hpush
        rw [hmembers] at hk hrows hlast
        refine ⟨?_, List.forall_mem_cons.mpr ⟨hok, hrows⟩, hlast⟩
        rw [outcomeRows, List.map_cons, List.sum_cons, ← hcount, ← hk, ← Except.ok.inj hn]
        split
        · exact (Nat.zero_add k).symm
        · exact Nat.add_comm k 1

/-- The fan-out as a sink. -/
def fanOut {S : Type} (K : EventSink S) : EventSink (DaemonSinks S) where
  pushBatch := DaemonSinks.push K.pushBatch
  pushSystem := DaemonSinks.push K.pushSystem

/-- What the members answer to everything a dispatcher holds. -/
def dispatchRows {S : Type} (K : EventSink S) (src : EventDispatcher) (sinks : DaemonSinks S) :
    List (List (Except SinkError PushOutcome)) :=
  outcomeRows K.pushBatch src.batches.items sinks.members ++
    outcomeRows K.pushSystem src.systems.items
      (afterRows K.pushBatch src.batches.items sinks.members)

lemma forwardDispatcher_refused {K : EventSink S} {src src' : EventDispatcher}
    {report : ForwardReport}
    (h : forwardDispatcher (fanOut K) src sinks = (src', sinks', .ok report)) :
    report.droppedTotal = ((dispatchRows K src sinks).map fun row => (refused row).toNat).sum ∧
      ∀ row ∈ dispatchRows K src sinks, ∀ result ∈ row, ∃ o, result = .ok o := by
  rw [forwardDispatcher] at h
  split at h
  · cases h
  · next hbatches =>
      obtain ⟨hn, hrows, hmembers⟩ := forwardLane_refused hbatches
      split at h
      · cases h
      · next hsystems =>
          obtain ⟨hn', hrows', -⟩ := forwardLane_refused hsystems
          rw [hmembers] at hn' hrows'
          refine ⟨?_, List.forall_mem_append.mpr ⟨hrows, hrows'⟩⟩
          rw [← Except.ok.inj (Prod.mk.inj (Prod.mk.inj h).2).2, ForwardReport.droppedTotal,
            dispatchRows, List.map_append, List.sum_append_nat, hn, hn']

/-- **What the report counts**: the items that some member did not accept. That is the number of lost
deliveries where no item is lost more than once, and only there, unless a member answers that it
dropped zero. `consume_dispatch` publishes this count. -/
theorem droppedTotal_eq_lost {S σ : Type} (K : EventSink S) (src src' : EventDispatcher)
    (sinks sinks' : DaemonSinks S) (report : ForwardReport)
    (h : forwardDispatcher (fanOut K) src sinks = (src', sinks', .ok report)) :
    report.droppedTotal = ((dispatchRows K src sinks).map fun row => (refused row).toNat).sum ∧
      ((∀ row ∈ dispatchRows K src sinks, LosesOnce row) →
        report.droppedTotal = ((dispatchRows K src sinks).map rowLost).sum) ∧
      ((∀ row ∈ dispatchRows K src sinks, .ok (.droppedOldest 0) ∉ row) →
        report.droppedTotal = ((dispatchRows K src sinks).map rowLost).sum →
          ∀ row ∈ dispatchRows K src sinks, LosesOnce row) ∧
      ∀ r : SessionRunner σ, r.dispatch = src →
        (SessionRunner.consumeDispatch (fanOut K) sinks).run r =
          (do
            if report.droppedTotal > 0 then
              SessionRunner.emitEventsDropped report.droppedTotal "configured sink overflow policy"
              pure sinks'
            else pure sinks' : EngineM σ (DaemonSinks S)).run { r with dispatch := src' } := by
  obtain ⟨htotal, hok⟩ := forwardDispatcher_refused h
  refine ⟨htotal, fun honce => ?_, fun hcount hlost => ?_, fun r hr => ?_⟩
  · rw [htotal]
    exact congrArg List.sum (List.map_congr_left fun row hrow => (honce row hrow).rowLost_eq.symm)
  · exact losesOnce_of_sum_eq (fun row hrow => rowLost_cases (hok row hrow) (hcount row hrow))
      (htotal.symm.trans hlost)
  · subst hr
    rw [SessionRunner.consumeDispatch, run_get_seq, run_modify_seq, h]
    rfl

/-- A sink that always answers the same. -/
def steadySink : EventSink PushOutcome where
  pushBatch outcome _ := (outcome, .ok outcome)
  pushSystem outcome _ := (outcome, .ok outcome)

def demoLane : EventDispatcher where
  batches := .new 1 (by decide) .dropNewest
  systems := ⟨1, .dropNewest, [.heartbeatMissed], 0, by decide, by decide⟩

def demoSinks (memory : List PushOutcome) : DaemonSinks PushOutcome :=
  ⟨[.accepted], [], [], [], [], [], [], [], memory⟩

/-- The memory sink drops its oldest item. -/
theorem droppedTotal_eq_lost_memory :
    (∀ row ∈ dispatchRows steadySink demoLane (demoSinks [.droppedOldest 1]), LosesOnce row) ∧
      (⟨0, 1⟩ : ForwardReport).droppedTotal =
        ((dispatchRows steadySink demoLane (demoSinks [.droppedOldest 1])).map rowLost).sum :=
  have honce : ∀ row ∈ dispatchRows steadySink demoLane (demoSinks [.droppedOldest 1]),
      LosesOnce row := by
    intro row hrow
    obtain rfl := List.mem_singleton.mp hrow
    unfold LosesOnce
    decide
  ⟨honce, (droppedTotal_eq_lost (σ := Unit) steadySink demoLane _ (demoSinks [.droppedOldest 1]) _
    ⟨0, 1⟩ rfl).2.1 honce⟩

/-- Two members drop the same event, and one loss is reported; so is one of five. -/
theorem double_loss_counted_once :
    (forwardDispatcher (fanOut steadySink) demoLane
        (demoSinks [.droppedNewest, .droppedNewest])).2.2 = .ok ⟨0, 1⟩ ∧
      ((dispatchRows steadySink demoLane
        (demoSinks [.droppedNewest, .droppedNewest])).map rowLost).sum = 2 ∧
      (forwardDispatcher (fanOut steadySink) demoLane (demoSinks [.droppedOldest 5])).2.2 =
        .ok ⟨0, 1⟩ ∧
      ((dispatchRows steadySink demoLane (demoSinks [.droppedOldest 5])).map rowLost).sum = 5 :=
  ⟨rfl, rfl, rfl, rfl⟩

end Marketfeed
