import Marketfeed.Sinks.SpillRecords

/-!
# Checkpoints that fail

A checkpoint replaces the log by one without the recovered prefix. It sets its offsets to the new file
only at the end; if the directory cannot be synced after the replacement, the call fails with the
offsets of the old file, and a second checkpoint takes them for those of the new one.
-/

namespace Marketfeed

namespace SpillWal

/-- The records of the accepted items, in their order. -/
def acceptedFrames (events : List SpillEvent) : List Bytes :=
  events.filterMap fun
    | .spilled item body => some (frame item.tag body)
    | .checkpointed => none

lemma acceptedFrames_append (events more : List SpillEvent) :
    acceptedFrames (events ++ more) = acceptedFrames events ++ acceptedFrames more :=
  List.filterMap_append

/-- **The records are behind the recovered prefix**, as long as the writer is open. -/
def Retained (w : Spilling) (events : List SpillEvent) : Prop :=
  ∃ head tail, w.file = head ++ tail ∧ Carries (acceptedFrames events) tail ∧
    (w.sink.writer.isSome → head.length = w.sink.recoveryPrefixBytes)

namespace Retained

variable {w w' : Spilling} {events : List SpillEvent}

variable (h : Retained w events)

include h

lemma carries : Carries (acceptedFrames events) w.file := by
  obtain ⟨head, tail, hfile, hcarries, -⟩ := h
  rw [hfile]
  exact hcarries.behind head

lemma grown (hgrown : Grown w w') : Retained w' events := by
  obtain ⟨head, tail, hfile, hcarries, hhead⟩ := h
  obtain ⟨more, hmore⟩ := hgrown.file
  refine ⟨head, tail ++ more, ?_, hcarries.append more, fun hopen => ?_⟩
  · rw [← hmore, hfile, List.append_assoc]
  · rw [hgrown.prefixBytes]
    exact hhead (hgrown.writer hopen)

lemma spilled {item : SpillItem} {body : Bytes}
    (hspilled : Spilled item body w w') : Retained w' (events ++ [.spilled item body]) := by
  obtain ⟨head, tail, hfile, hcarries, hhead⟩ := h
  obtain ⟨buffer, hbuffer, hfile'⟩ := hspilled.file
  refine ⟨head, tail ++ buffer ++ frame item.tag body, ?_, ?_, fun _ => ?_⟩
  · rw [hfile', hfile]
    simp only [List.append_assoc]
  · rw [acceptedFrames_append]
    exact hcarries.concat buffer _
  · have hfront := congrArg LogState.recoveryPrefixBytes hspilled.log
    rw [show w'.sink.recoveryPrefixBytes = w.sink.recoveryPrefixBytes from hfront]
    exact hhead (by rw [hbuffer]; rfl)

lemma pushed {J : SpillJson} {item : SpillItem} {answers : SpillAnswers}
    {hasRoom : Bool} {after : Spilling × List SpillEvent} (hpushed : Pushed J item answers w hasRoom after) :
    Retained after.1 (events ++ after.2) := by
  cases hpushed with
  | stored _ same =>
    rw [List.append_nil]
    exact h.grown same.grown
  | spilled _ _ spilled => exact h.spilled spilled
  | refused _ refused =>
    rw [List.append_nil]
    exact h.grown refused.grown

/-- The new file holds what was behind the prefix. -/
lemma replaced (hreplaced : Replaced w w') :
    ∃ tail, w'.file = walMagic ++ tail ∧ Carries (acceptedFrames events) tail := by
  obtain ⟨head, tail, hfile, hcarries, hhead⟩ := h
  obtain ⟨buffer, hbuffer, -, hfile'⟩ := hreplaced
  refine ⟨tail ++ buffer, ?_, hcarries.append buffer⟩
  rw [hfile', hfile, ← hhead (by rw [hbuffer]; rfl), List.append_assoc, List.drop_left]

/-- A checkpoint keeps them, unless the directory sync fails. -/
lemma checkpointed {answers : CheckpointAnswers}
    {after : Spilling × List SpillEvent} (hcheckpointed : Checkpointed answers w after)
    (hsynced : answers.persist = none → answers.reopen = none → answers.syncParent = none) :
    Retained after.1 (events ++ after.2) := by
  -- A completed checkpoint is no record.
  have hlog : acceptedFrames (events ++ after.2) = acceptedFrames events := by
    rw [acceptedFrames_append]
    cases hcheckpointed <;> exact List.append_nil _
  rw [Retained, hlog]
  cases hcheckpointed with
  | early | idle => exact h
  | failed grown => exact h.grown grown
  | completed done replaced log =>
    obtain ⟨tail, hfile, hcarries⟩ := h.replaced replaced
    have hfront := congrArg LogState.recoveryPrefixBytes log
    exact ⟨walMagic, tail, hfile, hcarries, fun _ => hfront.symm⟩
  | closed replaced _ _ writer =>
    obtain ⟨tail, hfile, hcarries⟩ := h.replaced replaced
    exact ⟨walMagic, tail, hfile, hcarries, fun hopen => by rw [writer] at hopen; cases hopen⟩
  | unsynced _ persist reopen syncParent => exact absurd (hsynced persist reopen) syncParent

end Retained

lemma grown_popRecovered (J : SpillJson) (answers : ReadAnswers) :
    Keeps Grown (popRecovered J answers) := by
  refine Keeps.get fun w => ?_
  split_ifs
  · exact .pure _
  split
  · exact .throw _
  · exact .throw _
  · exact .throw _
  · exact Keeps.seq (.modify fun _ => ⟨List.prefix_refl _, rfl, id⟩) fun _ => .pure _

/-- No directory sync fails between a replacement and a reopening. -/
def Synced (_ : Spilling) : SpillCall → Prop
  | .checkpointRecovery answers =>
    answers.persist = none → answers.reopen = none → answers.syncParent = none
  | _ => True

lemma Retained.step {w : Spilling} {events : List SpillEvent} (h : Retained w events)
    (J : SpillJson) {call : SpillCall} (hcall : Synced w call) :
    Retained (step J w call).1 (events ++ (step J w call).2) := by
  cases call with
  | pushBatch batch answers => exact h.pushed (pushed_batch J batch answers w)
  | pushSystem event answers => exact h.pushed (pushed_system J event answers w)
  | popBatch | popSystem => exact (List.append_nil events).symm ▸ h
  | popRecovered answers =>
    exact (List.append_nil events).symm ▸ h.grown (grown_popRecovered J answers w)
  | checkpointRecovery answers => exact h.checkpointed (checkpointed_step J answers w) hcall

lemma Retained.opened {J : SpillJson} {cfg : SpillWalConfig} {onDisk : Option Bytes} {w : Spilling}
    (h : openWal J cfg onDisk = .ok w) : Retained w [] := by
  obtain ⟨rs, -, rfl, -⟩ := openWal_sound h
  refine ⟨walFile rs, [], (List.append_nil _).symm, trivial, fun _ => ?_⟩
  show _ = if rs.length = 0 then walMagic.length else _
  split_ifs with hempty
  · obtain rfl := List.length_eq_zero_iff.mp hempty
    rfl
  · rfl

/-- **Accepted records stay in the log**, in every run of a sink that was opened, whatever operation
of the file system fails, as long as no directory sync fails between a replacement and a
reopening. -/
theorem records_retained (J : SpillJson) (cfg : SpillWalConfig) {onDisk : Option Bytes} {w : Spilling}
    (hopen : openWal J cfg onDisk = .ok w) {calls : List SpillCall}
    (h : Guarded (fun w call => (step J w call).1) Synced w calls) :
    Carries (acceptedFrames (runLog (step J) w calls).2) (runLog (step J) w calls).1.file :=
  (runLog_guarded (P := Retained) (fun _ _ _ hw hcall => hw.step J hcall) (.opened hopen) h).carries

/-! ## A sync that fails -/

/-- A batch without events in as many octets as its number says. -/
def lengthJson : SpillJson where
  toVec
    | .batch ⟨⟨1⟩, frameSeq, []⟩ => .ok (List.replicate frameSeq.toNat 0)
    | _ => .error "not a numbered batch"
  fromSlice body := .ok (.batch ⟨⟨1⟩, UInt64.ofNat body.length, []⟩)
  fromSlice_toVec := by
    intro item body h
    split at h
    · cases h
      rw [List.length_replicate, UInt64.ofNat_toNat]
    · cases h

def numbered (frameSeq : UInt64) : EventBatch := ⟨⟨1⟩, frameSeq, []⟩

/-- Room for one batch in memory. -/
def tightConfig (walLimitBytes : UInt64) (h : 0 < walLimitBytes.toNat) : SpillWalConfig where
  batchCapacity := 1
  systemCapacity := 1
  walLimitBytes := walLimitBytes
  batch_pos := Nat.one_pos
  system_pos := Nat.one_pos
  limit_pos := h

/-- A log with one record. -/
def oldFile : Bytes := walMagic ++ frame tagBatch [0]

/-- A sink on it. -/
def reopenedSink : Spilling := ⟨.opened (tightConfig 100 (by decide)) 1 oldFile.length, oldFile⟩

lemma openWal_oldFile :
    openWal lengthJson (tightConfig 100 (by decide)) (some oldFile) = .ok reopenedSink := rfl

def ioFault : IoError := ⟨.other, "Input/output error (os error 5)"⟩

/-- The old record is handed out, a batch fills the memory, and a batch is spilled. -/
def spillOne : List SpillCall :=
  [.popRecovered .clear, .pushBatch (numbered 7) .clear, .pushBatch (numbered 2) .clear]

/-- The directory sync of a checkpoint fails; then it is called again. -/
def unsyncedTwice : List SpillCall :=
  spillOne ++ [.checkpointRecovery { CheckpointAnswers.clear with syncParent := some ioFault },
    .checkpointRecovery .clear]

/-- **A failed checkpoint and a retry that drop a record.** -/
theorem retried_checkpoint_drops :
    openWal lengthJson (tightConfig 100 (by decide)) (some oldFile) = .ok reopenedSink ∧
    (runLog (step lengthJson) reopenedSink unsyncedTwice).2 =
      [.spilled (.batch (numbered 2)) [0, 0], .checkpointed] ∧
    ¬Carries (acceptedFrames (runLog (step lengthJson) reopenedSink unsyncedTwice).2)
      (runLog (step lengthJson) reopenedSink unsyncedTwice).1.file := by
  refine ⟨openWal_oldFile, by decide +kernel, fun h => ?_⟩
  have hinfix : frame tagBatch [0, 0] <:+: _ := h.infix_of_mem (by decide +kernel)
  revert hinfix
  decide +kernel

/-- The replacement of a checkpoint fails, a record is written only in part, and another follows. -/
def faultyCalls : List SpillCall :=
  spillOne ++ [.checkpointRecovery { CheckpointAnswers.clear with persist := some ioFault },
    .pushBatch (numbered 3) { SpillAnswers.clear with flush := some ⟨2, ioFault⟩ },
    .pushBatch (numbered 4) .clear, .checkpointRecovery .clear]

/-- Both accepted records survive the faults. -/
theorem records_retained_faults :
    acceptedFrames (runLog (step lengthJson) reopenedSink faultyCalls).2 =
      [frame tagBatch [0, 0], frame tagBatch [0, 0, 0, 0]] ∧
    Carries (acceptedFrames (runLog (step lengthJson) reopenedSink faultyCalls).2)
      (runLog (step lengthJson) reopenedSink faultyCalls).1.file := by
  refine ⟨by decide +kernel, records_retained lengthJson _ openWal_oldFile ?_⟩
  exact ⟨trivial, trivial, trivial, nofun, trivial, trivial, fun _ _ => rfl, trivial⟩

end SpillWal

end Marketfeed
