import Marketfeed.Recording.Segments

/-!
# What a flush keeps

`flush_pending` of the pipeline takes a frame out of the queue and writes it afterwards; between the
two it reads the free-space probe once more, may open a segment, and may find the frame too long. A
failure at one of these points loses the frame.
-/

namespace Marketfeed

variable {μ : Type}

namespace RecordingPipeline

/-- Whether the pressure flag is up after a reading of the probe, from what it was before.
Source: `refresh_disk_pressure` -/
def pressureAfter (cfg : PipelineConfig) (active : Bool) : Option Nat → Bool
  | none => active
  | some free => if cfg.minFreeBytes = 0 then active else free < cfg.minFreeBytes

/-- A pipeline that can open segments: all registered metadata has a JSON text that fits in a record.
Its pressure flag is `active`. -/
structure Usable (C : MetadataCodec μ) (cfg : PipelineConfig) (active : Bool)
    (p : RecordingPipeline μ) : Prop where
  cfg_eq : p.cfg = cfg
  registered : ∀ m ∈ p.metadata, ∃ payload, encodeMetadata C m = .ok payload
  pressure : p.diskPressureActive = active

variable {C : MetadataCodec μ} {cfg : PipelineConfig} {active : Bool}

variable {p p' : RecordingPipeline μ}

lemma Usable.congr (h : p.Usable C cfg active) (hcfg : p'.cfg = p.cfg)
    (hmeta : p'.metadata = p.metadata) (hpressure : p'.diskPressureActive = p.diskPressureActive) :
    p'.Usable C cfg active :=
  ⟨hcfg.trans h.cfg_eq, hmeta ▸ h.registered, hpressure.trans h.pressure⟩

/-! ## Writing does not fail -/

/-- Every metadata record that has a JSON text fits in a record. -/
lemma writeHead_returns {records : List (MetadataRecord μ)}
    (h : ∀ m ∈ records, ∃ payload, encodeMetadata C m = .ok payload) (startTsNs : Int)
    (w : RawSegmentWriter) (n : Nat) : ∃ r, writeHead C startTsNs records w n = .ok r := by
  induction records generalizing w n with
  | nil => exact ⟨_, rfl⟩
  | cons record records ih =>
    obtain ⟨payload, hpayload⟩ := h record List.mem_cons_self
    have hfits : (metadataFrame startTsNs record payload).recordLen ≤ Mfr1.maxRawRecordLen := by
      have hlen := (encodeMetadata_ok hpayload).2
      have hmax : 4 + Mfr1.rawHeaderBodyLen + maxMetadataBytes ≤ Mfr1.maxRawRecordLen := by decide
      show 4 + Mfr1.rawHeaderBodyLen + payload.length ≤ _
      omega
    have hwrite : w.writeMetadata C record startTsNs =
        (⟨w.bytes ++ (metadataFrame startTsNs record payload).record.bytes,
          w.recordsWritten + 1⟩, .ok ()) := by
      unfold RawSegmentWriter.writeMetadata
      rw [hpayload]
      exact RawSegmentWriter.writeRecord_ok_iff.mpr ⟨hfits, rfl⟩
    obtain ⟨r, hr⟩ := ih (fun m hm => h m (List.mem_cons_of_mem record hm)) _ _
    refine ⟨r, ?_⟩
    rw [writeHead]
    refine bind_eq_ok.mpr ⟨payload, hpayload, ?_⟩
    rw [hwrite]
    exact hr

section Returns

variable (h : p.Usable C cfg active)

include h

lemma openSegment_returns (startTsNs : Int) :
    Ends (openSegment C startTsNs) p (fun _ p' => p'.Usable C cfg active ∧ p'.writer.isSome)
      fun _ _ => False := by
  obtain ⟨⟨w, segmentBytes⟩, hhead⟩ :=
    writeHead_returns h.registered startTsNs (.create startTsNs) Mfr1.headerSize
  apply Ends.get
  simp only [hhead]
  exact ⟨h.congr rfl rfl rfl, rfl⟩

lemma ensureSegment_returns (startTsNs : Int) :
    Ends (ensureSegment C startTsNs) p (fun _ p' => p'.Usable C cfg active ∧ p'.writer.isSome)
      fun _ _ => False := by
  show Ends (if p.writer.isNone then openSegment C startTsNs else pure PUnit.unit) p _ _
  rcases hwriter : p.writer with _ | w
  · exact openSegment_returns h startTsNs
  · exact ⟨h, by rw [hwriter]; rfl⟩

lemma rotateNow_returns (startTsNs : Int) :
    Ends (rotateNow C startTsNs) p (fun _ p' => p'.Usable C cfg active ∧ p'.writer.isSome)
      fun _ _ => False := by
  apply Ends.get
  rcases hwriter : p.writer with _ | w
  · exact openSegment_returns h startTsNs
  · -- The old segment is closed before the fresh one is opened.
    have hrotated : Ends rotate p (fun _ p' => p'.Usable C cfg active)
        fun _ _ => False := h.congr rfl rfl rfl
    exact hrotated.seq fun _ p' h' => openSegment_returns h' startTsNs

lemma rotateIfOld_returns (hopen : p.writer.isSome) (startTsNs : Int) (elapsedNs : Nat) :
    Ends (rotateIfOld C startTsNs elapsedNs) p (fun _ p' => p'.Usable C cfg active ∧ p'.writer.isSome)
      fun _ _ => False := by
  apply Ends.get
  split_ifs
  · exact rotateNow_returns h startTsNs
  · exact ⟨h, hopen⟩

lemma writeOpen_returns (hopen : p.writer.isSome) {frame : RawFrame}
    (hfits : frame.recordLen ≤ Mfr1.maxRawRecordLen) :
    Ends (writeOpen frame) p (fun _ p' => p'.Usable C cfg active) fun _ _ => False := by
  obtain ⟨w, hwriter⟩ := Option.isSome_iff_exists.mp hopen
  have hwrite : w.writeRecord frame =
      (⟨w.bytes ++ frame.record.bytes, w.recordsWritten + 1⟩, .ok ()) :=
    RawSegmentWriter.writeRecord_ok_iff.mpr ⟨hfits, rfl⟩
  apply Ends.get
  simp only [hwriter, hwrite]
  exact h.congr rfl rfl rfl

/-- A frame that does not fit in a record is refused. -/
lemma writeOpen_refuses (hopen : p.writer.isSome) {frame : RawFrame}
    (hlong : ¬ frame.recordLen ≤ Mfr1.maxRawRecordLen) :
    Ends (writeOpen frame) p (fun _ _ => False) fun _ p' => p'.Usable C cfg active := by
  obtain ⟨w, hwriter⟩ := Option.isSome_iff_exists.mp hopen
  apply Ends.get
  simp only [hwriter]
  rcases hwrite : w.writeRecord frame with ⟨w', e | ⟨⟩⟩
  · exact h
  · exact hlong (RawSegmentWriter.writeRecord_ok_iff.mp hwrite).1

lemma rotateIfLarge_returns :
    Ends rotateIfLarge p (fun _ p' => p'.Usable C cfg active) fun _ _ => False := by
  apply Ends.get
  split_ifs
  · exact h.congr rfl rfl rfl
  · exact h

/-- The reading of the probe moves nothing but the pressure flag. -/
lemma refreshDiskPressure_returns (reading : Option Nat) : Ends (refreshDiskPressure reading) p
      (fun _ p' => p'.Usable C cfg (pressureAfter cfg active reading)) fun _ _ => False := by
  apply Ends.get
  obtain ⟨rfl, hmeta, rfl⟩ := h
  rcases reading with _ | free
  · split_ifs <;> exact ⟨rfl, hmeta, rfl⟩
  · dsimp only [pressureAfter]
    split_ifs with hmin hlow hactive hactive
    · exact ⟨rfl, hmeta, rfl⟩
    · exact ⟨rfl, hmeta, hactive.trans (decide_eq_true hlow).symm⟩
    · exact ⟨rfl, hmeta, (decide_eq_true hlow).symm⟩
    · exact ⟨rfl, hmeta, (decide_eq_false hlow).symm⟩
    · exact ⟨rfl, hmeta, (Bool.eq_false_of_not_eq_true hactive).trans (decide_eq_false hlow).symm⟩

/-- Under `FailEngine` the check passes exactly when the flag is down. -/
lemma failClosedIfDiskFull_ends (hpolicy : cfg.overflow = .failEngine) :
    Ends failClosedIfDiskFull p (fun _ p' => p' = p ∧ active = false)
      fun _ p' => p' = p ∧ active = true := by
  apply Ends.get
  split_ifs with hfull
  · exact ⟨rfl, h.pressure.symm.trans hfull.1⟩
  · refine ⟨rfl, Bool.eq_false_of_not_eq_true fun hactive => hfull ⟨h.pressure.trans hactive, ?_⟩⟩
    rw [h.cfg_eq, hpolicy]

end Returns

/-- What a frame needs to be written once it has left the queue: a reading within `write_frame` that
leaves the flag down, and a record it fits in. -/
def Writable (cfg : PipelineConfig) (tick : WriteTick) (frame : RawFrame) : Prop :=
  pressureAfter cfg false tick.within = false ∧ frame.recordLen ≤ Mfr1.maxRawRecordLen

/-- **A frame is written exactly when it is writable.** -/
theorem writeFrame_ends (h : p.Usable C cfg false) (hpolicy : cfg.overflow = .failEngine)
    (tick : WriteTick) (frame : RawFrame) :
    Ends (writeFrame C tick frame) p (fun _ p' => p'.Usable C cfg false ∧ Writable cfg tick frame)
      fun _ p' => (∃ active, p'.Usable C cfg active) ∧ ¬ Writable cfg tick frame := by
  refine (refreshDiskPressure_returns h tick.within).seq_of_returns fun _ p₁ h₁ => ?_
  refine ((failClosedIfDiskFull_ends h₁ hpolicy).mono (fun _ _ hend => hend) fun _ _ hend =>
    ⟨⟨_, hend.1 ▸ h₁⟩, fun hwritable => Bool.false_ne_true (hwritable.1.symm.trans hend.2)⟩).seq
      fun _ p₂ hp₂ => ?_
  obtain ⟨rfl, hroomy⟩ := hp₂
  rw [hroomy] at h₁
  refine (ensureSegment_returns h₁ _).seq_of_returns fun _ p₃ h₃ => ?_
  refine (rotateIfOld_returns h₃.1 h₃.2 _ _).seq_of_returns fun _ p₄ h₄ => ?_
  by_cases hfits : frame.recordLen ≤ Mfr1.maxRawRecordLen
  · refine (writeOpen_returns h₄.1 h₄.2 hfits).seq_of_returns fun _ p₅ h₅ => ?_
    exact (rotateIfLarge_returns h₅).mono (fun _ _ h => ⟨h, hroomy, hfits⟩) fun _ _ h => h.elim
  · exact ((writeOpen_refuses h₄.1 h₄.2 hfits).mono_error
      fun _ _ h => ⟨⟨_, h⟩, fun hwritable => hfits hwritable.2⟩).seq fun _ _ h => h.elim

/-! ## A flush takes out what it writes -/

/-- The condition on one flush: every frame it takes out of the queue is writable. Frame `i` is taken
out if no check up to it finds the flag up; before the first one the flag is what the pipeline has, and
later ones follow a frame that was written. -/
def PopsWritable (cfg : PipelineConfig) (active : Bool) (ticks : Nat → WriteTick) (max : Nat)
    (items : List RawFrame) : Prop :=
  ∀ i < max, ∀ frame ∈ items[i]?,
    (∀ j ≤ i, pressureAfter cfg (j = 0 && active) (ticks j).before = false) →
      Writable cfg (ticks i) frame

lemma popsWritable_cons {ticks : Nat → WriteTick} {max : Nat} {frame : RawFrame}
    {rest : List RawFrame} (hroom : pressureAfter cfg active (ticks 0).before = false) :
    PopsWritable cfg active ticks (max + 1) (frame :: rest) ↔
      Writable cfg (ticks 0) frame ∧ PopsWritable cfg false (fun i => ticks (i + 1)) max rest := by
  constructor
  · intro h
    refine ⟨h 0 (Nat.succ_pos _) frame rfl fun j hj => ?_, fun i hi f hf hchecks => ?_⟩
    · rw [Nat.le_zero.mp hj]
      exact hroom
    · refine h (i + 1) (Nat.succ_lt_succ hi) f hf fun j hj => ?_
      rcases j with _ | j
      · exact hroom
      · simpa using hchecks j (Nat.le_of_succ_le_succ hj)
  · rintro ⟨hframe, hrest⟩ (_ | i) hi f hf hchecks
    · cases hf
      exact hframe
    · refine hrest i (Nat.lt_of_succ_lt_succ hi) f hf fun j hj => ?_
      simpa using hchecks (j + 1) (Nat.succ_le_succ hj)

/-- **What a flush does**: frames leave the queue at its front, and they are written up to what is
`lost`, which is nothing exactly if `kept`. -/
def Flushes (C : MetadataCodec μ) (cfg : PipelineConfig) (kept : Prop)
    (p p' : RecordingPipeline μ) : Prop :=
  (∃ active, p'.Usable C cfg active) ∧ ∃ frames lost,
    p.queue.items = frames ++ (lost ++ p'.queue.items) ∧
      Advance C frames p { p' with queue := p.queue } ∧ (lost = [] ↔ kept)

lemma Flushes.of_advance {kept : Prop} (h : Advance C [] p p') (husable : p'.Usable C cfg active)
    (hkept : kept) : Flushes C cfg kept p p' :=
  ⟨⟨_, husable⟩, [], [], by rw [h.1, List.nil_append, List.nil_append],
    h.trans (.of_ink h.1.symm rfl rfl rfl), iff_of_true rfl hkept⟩

section

variable {kept : Prop} {p₁ : RecordingPipeline μ} {frame : RawFrame} {rest : List RawFrame}

lemma Flushes.after (h : Advance C [] p p₁) (h' : Flushes C cfg kept p₁ p') :
    Flushes C cfg kept p p' := by
  obtain ⟨husable, frames, lost, hitems, hadvance, hlost⟩ := h'
  rw [h.1] at hitems hadvance
  exact ⟨husable, frames, lost, hitems, h.trans hadvance, hlost⟩

/-- The frame taken out was not written. -/
lemma Flushes.of_lost (hitems : p.queue.items = frame :: rest)
    (h : Advance C [] { p with queue := p.queue.popFront } p') (husable : ∃ active, p'.Usable C cfg active)
    (hkept : ¬ kept) : Flushes C cfg kept p p' := by
  have htail : p'.queue.items = rest := by
    rw [h.1]
    exact congrArg List.tail hitems
  refine ⟨husable, [], [frame], ?_, h.withQueue p.queue, iff_of_false (List.cons_ne_nil _ _) hkept⟩
  rw [hitems, htail, List.nil_append, List.singleton_append]

/-- The frame taken out was written; it goes in front of those the rest of the loop writes. -/
lemma Flushes.of_written (hitems : p.queue.items = frame :: rest)
    (h : Advance C [frame] { p with queue := p.queue.popFront } p₁) (h' : Flushes C cfg kept p₁ p') :
    Flushes C cfg kept p p' := by
  have htail : p₁.queue.items = rest := by
    rw [h.1]
    exact congrArg List.tail hitems
  obtain ⟨husable, frames, lost, hitems', hadvance, hlost⟩ := h'
  refine ⟨husable, frame :: frames, lost, ?_, (h.trans hadvance).withQueue p.queue, hlost⟩
  rw [hitems, List.cons_append, ← hitems', htail]

end

/-- **The loop of a flush**, by induction on the writes left: a failure comes from the check before the
next frame is taken out, or loses the frame just taken out. -/
theorem flushLoop_flushes (hpolicy : cfg.overflow = .failEngine) (ticks : Nat → WriteTick)
    (remaining n : Nat) (h : p.Usable C cfg active) :
    Ends (flushLoop C ticks remaining n) p
      (fun _ => Flushes C cfg
        (PopsWritable cfg active (fun i => ticks (n + i)) remaining p.queue.items) p)
      fun _ => Flushes C cfg
        (PopsWritable cfg active (fun i => ticks (n + i)) remaining p.queue.items) p := by
  induction remaining generalizing n p active with
  | zero =>
    exact Flushes.of_advance (.of_ink rfl rfl rfl rfl) h fun _ hi => absurd hi (Nat.not_lt_zero _)
  | succ remaining ih =>
    rw [flushLoop]
    refine ((((keeps_refreshDiskPressure (C := C) _).ends p).and
      (refreshDiskPressure_returns h (ticks n).before)).mono (fun _ _ hend => hend)
        fun _ _ hend => hend.2.elim).seq fun _ p₁ hp₁ => ?_
    obtain ⟨hadvance₁, h₁⟩ := hp₁
    refine ((failClosedIfDiskFull_ends h₁ hpolicy).mono (fun _ _ hend => hend) fun _ _ hend => ?_).seq
      fun _ p₂ hp₂ => ?_
    · -- The disk is full: nothing is taken out.
      obtain ⟨rfl, hfull⟩ := hend
      refine Flushes.of_advance hadvance₁ h₁ fun i _ f _ hchecks => ?_
      have hroom := hchecks 0 (Nat.zero_le i)
      exact absurd (hroom.symm.trans hfull) Bool.false_ne_true
    obtain ⟨rfl, hroom⟩ := hp₂
    rw [hroom] at h₁
    rw [← hadvance₁.1]
    apply Ends.get
    rcases hitems : p₂.queue.items with _ | ⟨frame, rest⟩
    · exact Flushes.of_advance hadvance₁ h₁ fun i _ f hf _ => by cases hf
    · have htail : p₂.queue.popFront.items = rest := congrArg List.tail hitems
      have hpopped : ({ p₂ with queue := p₂.queue.popFront } : RecordingPipeline μ).Usable C cfg false :=
        h₁.congr rfl rfl rfl
      have hcons := @popsWritable_cons cfg active (fun i => ticks (n + i)) remaining frame rest hroom
      refine (((advance_writeFrame (C := C) (ticks n) frame _).and
        (writeFrame_ends hpopped hpolicy (ticks n) frame)).mono (fun _ _ hend => hend)
          fun _ p' hend => ?_).seq fun _ p₃ hp₃ => ?_
      · obtain ⟨hadvance, husable, hlost⟩ := hend
        exact .after hadvance₁ (.of_lost hitems hadvance husable fun h => hlost (hcons.mp h).1)
      · obtain ⟨hadvance₃, h₃, hwritable⟩ := hp₃
        have hitems₃ : p₃.queue.items = rest := by rw [hadvance₃.1, htail]
        have hrest := ih (n + 1) h₃
        have hshift : (fun i => ticks (n + 1 + i)) = fun i => ticks (n + (i + 1)) :=
          funext fun i => congrArg ticks (by omega)
        have hkept : PopsWritable cfg false (fun i => ticks (n + 1 + i)) remaining p₃.queue.items =
            PopsWritable cfg active (fun i => ticks (n + i)) (remaining + 1) (frame :: rest) := by
          rw [hitems₃, hshift]
          exact (propext (hcons.trans (and_iff_right hwritable))).symm
        rw [hkept] at hrest
        exact hrest.mono (fun _ _ hp' => .after hadvance₁ (.of_written hitems hadvance₃ hp'))
          fun _ _ hp' => .after hadvance₁ (.of_written hitems hadvance₃ hp')

/-! ## Every reachable state -/

/-- The frames on disk, in the order of the files: all of them are counted. -/
def Stored (C : MetadataCodec μ) (p : RecordingPipeline μ) (frames : List RawFrame) : Prop :=
  p.recordsWritten = frames.length ∧ ∃ segs : List (Segment μ), segs.flatMap Segment.frames = frames ∧
    p.closed ++ (p.writer.map RawSegmentWriter.bytes).toList = segs.map (Segment.bytes C)

/-- A state that a pipeline can reach: its history tells the segments and their frames. -/
structure Reached (C : MetadataCodec μ) (cfg : PipelineConfig) (p : RecordingPipeline μ) : Prop where
  usable : ∃ active, p.Usable C cfg active
  told : ∃ (h : History μ) (segs : List (Segment μ)), h.pipeline = p ∧ h.Told C segs ∧
    p.recordsWritten = h.flushed.length

lemma reached_openWithMetadata {metadata : List (MetadataRecord μ)}
    (h : openWithMetadata C cfg metadata = .ok p) : Reached C cfg p := by
  have htold := History.told_start h
  unfold openWithMetadata at h
  split_ifs at h
  obtain ⟨⟨⟩, hvalid, h⟩ := bind_eq_ok.mp h
  cases h
  exact ⟨⟨_, rfl, fun m hm => ((History.validateMetadataRegistry_ok hvalid).2 m hm).2, rfl⟩,
    .start _, [], rfl, htold, rfl⟩

section

variable [DecidableEq μ]

/-- Every call leaves a pipeline that can open segments. -/
lemma usable_step (hpolicy : cfg.overflow = .failEngine) (h : p.Usable C cfg active)
    (call : PipelineCall μ) : ∃ active, (p.step C call).Usable C cfg active := by
  cases call with
  | enqueue reading frame =>
    refine Ends.endState (P := fun p' => ∃ active, Usable C cfg active p') ?_
    refine (refreshDiskPressure_returns h reading).seq_of_returns fun _ p₁ h₁ => ?_
    refine ((failClosedIfDiskFull_ends h₁ hpolicy).mono (fun _ _ hend => hend) fun _ _ hend =>
      ⟨_, hend.1 ▸ h₁⟩).seq fun _ p₂ hp₂ => ?_
    rw [hp₂.1]
    apply Ends.get
    rcases p₁.queue.push frame with ⟨queue, e | outcome⟩
    · exact ⟨_, h₁⟩
    · exact ⟨_, h₁.congr rfl rfl rfl⟩
  | flushPending ticks max =>
    have hflush := Ends.endState (flushLoop_flushes hpolicy ticks max 0 h)
    exact hflush.1
  | registerMetadata metadata =>
    have hgrown (hencode : ∃ encoded, encodeMetadata C metadata = .ok encoded) :
        ∀ m ∈ p.metadata ++ [metadata], ∃ payload, encodeMetadata C m = .ok payload := by
      intro m hm
      rcases List.mem_append.mp hm with hm | hm
      · exact h.registered m hm
      · rw [List.mem_singleton.mp hm]
        exact hencode
    rcases registerMetadata_cases (C := C) metadata p with
      hsame | ⟨encoded, hencode, -, ⟨-, hstep⟩ | ⟨w, w', -, -, hstep⟩⟩
    · exact ⟨active, (congrArg (Usable C cfg active) hsame).mpr h⟩
    all_goals
      refine ⟨active, (congrArg (Usable C cfg active) hstep).mpr ?_⟩
      exact ⟨h.cfg_eq, hgrown ⟨encoded, hencode⟩, h.pressure⟩
  | rotateNow startTsNs =>
    exact ⟨active, Ends.endState ((rotateNow_returns h startTsNs).mono (fun _ _ hend => hend.1)
      fun _ _ hend => hend.elim)⟩

/-- What a call writes, by the pipeline's own count, stood at the front of the queue. -/
lemma recordsWritten_step (p : RecordingPipeline μ) (call : PipelineCall μ) :
    ∃ frames, frames <+: p.queue.items ∧
      (p.step C call).recordsWritten = p.recordsWritten + frames.length := by
  have hflushed {p' : RecordingPipeline μ} (h : Flushed C p p') : ∃ frames,
      frames <+: p.queue.items ∧ p'.recordsWritten = p.recordsWritten + frames.length := by
    obtain ⟨frames, hfront, -, -, hwritten, -⟩ := h
    exact ⟨frames, hfront, hwritten⟩
  cases call with
  | enqueue reading frame => exact hflushed (flushed_enqueue reading frame p)
  | flushPending ticks max => exact hflushed (flushed_flushLoop ticks max 0 p)
  | rotateNow startTsNs => exact hflushed (flushed_rotateNow startTsNs p)
  | registerMetadata metadata =>
    refine ⟨[], List.nil_prefix, ?_⟩
    show (endState (registerMetadata C metadata) p).recordsWritten = p.recordsWritten
    rcases registerMetadata_cases (C := C) metadata p with
      hstep | ⟨encoded, -, -, ⟨-, hstep⟩ | ⟨w, w', -, -, hstep⟩⟩ <;> rw [hstep]

lemma Reached.step (hpolicy : cfg.overflow = .failEngine) (h : Reached C cfg p)
    (call : PipelineCall μ) : Reached C cfg (p.step C call) := by
  obtain ⟨⟨active, husable⟩, h, segs, rfl, htold, hcount⟩ := h
  obtain ⟨segs', htold'⟩ := htold.step call
  obtain ⟨frames, hfront, hwritten⟩ := recordsWritten_step (C := C) h.pipeline call
  refine ⟨usable_step hpolicy husable call, h.step C call, segs', rfl, htold', ?_⟩
  show _ = (h.flushed ++ h.pipeline.queue.items.take _).length
  rw [hwritten, Nat.add_sub_cancel_left, ← List.prefix_iff_eq_take.mp hfront, List.length_append,
    hcount]

/-- **When a flush keeps all frames.** Take any state that a pipeline with `FailEngine` reaches, and
one more flush with any readings of the probe, whether it returns or fails. The frames on disk followed
by those in the queue are the same before and after, in the same order, if and only if every frame the
flush takes out of the queue meets a second reading that leaves the pressure flag down, and fits in a
record. -/
theorem flush_keeps_frames {metadata : List (MetadataRecord μ)} {p₀ p p' : RecordingPipeline μ}
    (hopen : openWithMetadata C cfg metadata = .ok p₀) (hpolicy : cfg.overflow = .failEngine)
    {calls : List (PipelineCall μ)} (hrun : run (step C) p₀ calls = p) {ticks : Nat → WriteTick}
    {max : Nat} (hflush : endState (flushPending C ticks max) p = p') :
    ∃ stored, p.Stored C stored ∧
      ((∃ stored', p'.Stored C stored' ∧ stored' ++ p'.queue.items = stored ++ p.queue.items) ↔
        PopsWritable p.cfg p.diskPressureActive ticks max p.queue.items) := by
  have hreached : Reached C cfg p := hrun ▸
    run_invariant' (fun _ call h => h.step hpolicy call) (reached_openWithMetadata hopen) calls
  obtain ⟨⟨active, husable⟩, h, segs, rfl, htold, hcount⟩ := hreached
  have hflushes := Ends.endState (flushLoop_flushes hpolicy ticks max 0 husable)
  simp only [Nat.zero_add, ← husable.cfg_eq, ← husable.pressure] at hflushes
  change endState (flushLoop C ticks max 0) h.pipeline = p' at hflush
  rw [hflush] at hflushes
  obtain ⟨-, frames, lost, hitems, ⟨-, -, hwritten, opened, -, hsegs⟩, hlost⟩ := hflushes
  obtain ⟨segs', hrenders, hext⟩ := hsegs segs htold.renders
  have hcount' : p'.recordsWritten = (h.flushed ++ frames).length := by
    rw [List.length_append, ← hcount]
    exact hwritten
  refine ⟨h.flushed, ⟨hcount, segs, htold.flushed, htold.renders.files⟩, ?_⟩
  rw [← hlost]
  constructor
  · -- The pipeline counts what it writes, so a frame that is lost is missing.
    rintro ⟨stored', ⟨hstored, -⟩, heq⟩
    have hlength := congrArg List.length heq
    simp only [hitems, List.length_append, ← hstored, hcount'] at hlength
    exact List.eq_nil_of_length_eq_zero (by omega)
  · rintro rfl
    refine ⟨h.flushed ++ frames, ⟨hcount', segs', ?_, hrenders.files⟩, ?_⟩
    · rw [hext.frames, htold.flushed]
    · rw [hitems, List.nil_append, List.append_assoc]

end

/-- A pipeline that asks for one free octet. -/
def watchful : RecordingPipeline Unit :=
  ⟨{ smallConfig with minFreeBytes := 1 }, .new 4 (by decide) .failEngine, none, none, 0, false, [], 0,
    0, 0, [.build ()], []⟩

/-- Two frames wait in the queue. -/
def twoFrames : List (PipelineCall Unit) :=
  [.enqueue none RawSegmentReader.shortFrame, .enqueue (some 1) RawSegmentReader.shortFrame]

/-- The probe reports a full disk before the second frame is taken out: the first one is written and
the second one stays in the queue. -/
theorem flush_keeps_frames_watchful :
    ∃ p p', run (step emptyCodec) watchful twoFrames = p ∧
      endState (flushPending emptyCodec (fun n => ⟨some (1 - n), some (1 - n), 0⟩) 2) p = p' ∧
      p'.queue.items.length = 1 ∧ p'.recordsWritten = 1 ∧
      ∃ stored stored', p.Stored emptyCodec stored ∧ p'.Stored emptyCodec stored' ∧
        stored' ++ p'.queue.items = stored ++ p.queue.items := by
  have hopen : openWithMetadata emptyCodec watchful.cfg [.build ()] = .ok watchful := rfl
  have hrun : run (step emptyCodec) watchful twoFrames = _ := rfl
  have hflush : endState (flushPending emptyCodec (fun n => ⟨some (1 - n), some (1 - n), 0⟩) 2)
    (run (step emptyCodec) watchful twoFrames) = _ := rfl
  obtain ⟨stored, hstored, hiff⟩ := flush_keeps_frames hopen rfl hrun hflush
  refine ⟨_, _, hrun, hflush, by decide +kernel, by decide +kernel, stored, ?_⟩
  obtain ⟨stored', hstored', heq⟩ := hiff.mpr fun i hi frame hframe hchecks => by
    rcases i with _ | i
    · cases hframe
      exact ⟨rfl, by decide +kernel⟩
    · exact absurd (hchecks 1 (by omega)) (by decide +kernel)
  exact ⟨stored', hstored, hstored', heq⟩

/-- **A flush that loses a frame.** The probe answers once more between the frame leaving the queue
and being written, this time with too little space. The flush fails with `DiskFull`, and the
accepted frame is neither in the queue nor in a segment. -/
theorem flush_loses_frame :
    ∃ p₁ p', endState (enqueue none RawSegmentReader.shortFrame) watchful = p₁ ∧
      p₁.queue.items = [RawSegmentReader.shortFrame] ∧
      (flushPending emptyCodec (fun _ => ⟨some 1, some 0, 0⟩) 1).run p₁ = .error .diskFull p' ∧
      p'.queue.items = [] ∧ p'.recordsWritten = 0 ∧ p'.writer = none ∧ p'.closed = [] :=
  ⟨_, _, rfl, rfl, rfl, rfl, rfl, rfl, rfl⟩

end RecordingPipeline

end Marketfeed
