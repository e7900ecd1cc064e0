import Marketfeed.Recording.Pipeline
import Mathlib.Data.List.ModifyLast

/-!
# What the segments of a recording hold

A segment is described by its start time, the metadata at its head and what was written to it after
that. `Renders` relates a pipeline with the descriptions of its segments: the octets on disk are
exactly the octets of the descriptions.
-/

namespace Marketfeed

variable {μ : Type}

/-- A record of a segment, by what it was written for. -/
inductive SegmentEntry (μ : Type)
  | metadata (record : MetadataRecord μ)
  | frame (frame : RawFrame)

/-- A segment: its head, written when it was opened, and its body. -/
structure Segment (μ : Type) where
  startTsNs : Int
  head : List (MetadataRecord μ)
  body : List (SegmentEntry μ)

namespace Segment

variable (s : Segment μ)

/-- The metadata registered while the segment was open. -/
def later : List (MetadataRecord μ) :=
  s.body.filterMap fun
    | .metadata record => some record
    | .frame _ => none

/-- The frames of a segment. -/
def frames : List RawFrame :=
  s.body.filterMap fun
    | .metadata _ => none
    | .frame frame => some frame

/-- The record that carries a metadata record. -/
def metadataRecord (C : MetadataCodec μ) (startTsNs : Int) (record : MetadataRecord μ) : RawFrame :=
  metadataFrame startTsNs record ((C.toVec record).getD [])

/-- All records of a segment. -/
def records (C : MetadataCodec μ) (s : Segment μ) : List RawFrame :=
  s.head.map (metadataRecord C s.startTsNs) ++ s.body.map fun
    | .metadata record => metadataRecord C s.startTsNs record
    | .frame frame => frame

/-- The octets of a segment: the MFR1 header and its records. -/
def bytes (C : MetadataCodec μ) (s : Segment μ) : Bytes :=
  (RawSegmentWriter.create s.startTsNs).bytes ++ RawSegmentReader.frameBytes (s.records C)

/-- The segment with one more record at its end. -/
def push (entry : SegmentEntry μ) : Segment μ := { s with body := s.body ++ [entry] }

lemma bytes_push_frame (C : MetadataCodec μ) (s : Segment μ) (f : RawFrame) :
    (s.push (.frame f)).bytes C = s.bytes C ++ f.record.bytes := by
  simp [bytes, records, push, RawSegmentReader.frameBytes]

lemma bytes_push_metadata (C : MetadataCodec μ) (s : Segment μ) (m : MetadataRecord μ) :
    (s.push (.metadata m)).bytes C =
      s.bytes C ++ (metadataRecord C s.startTsNs m).record.bytes := by
  simp [bytes, records, push, RawSegmentReader.frameBytes]

lemma later_push_frame (f : RawFrame) : (s.push (.frame f)).later = s.later := by
  simp [later, push]

lemma later_push_metadata (m : MetadataRecord μ) :
    (s.push (.metadata m)).later = s.later ++ [m] := by
  simp [later, push]

lemma frames_push_frame (f : RawFrame) : (s.push (.frame f)).frames = s.frames ++ [f] := by
  simp [frames, push]

lemma frames_push_metadata (m : MetadataRecord μ) : (s.push (.metadata m)).frames = s.frames := by
  simp [frames, push]

end Segment

/-! ## Writing metadata -/

variable {C : MetadataCodec μ} {m : MetadataRecord μ} {payload : Bytes}

lemma encodeMetadata_ok (h : encodeMetadata C m = .ok payload) :
    C.toVec m = some payload ∧ payload.length ≤ maxMetadataBytes := by
  unfold encodeMetadata at h
  rcases hvec : C.toVec m with _ | bytes
  · rw [hvec] at h
    cases h
  · rw [hvec] at h
    dsimp only at h
    split_ifs at h with hlen
    cases h
    exact ⟨rfl, Nat.le_of_not_lt hlen⟩

lemma metadataFrame_of_encoded (h : encodeMetadata C m = .ok payload) (startTsNs : Int) :
    metadataFrame startTsNs m payload = Segment.metadataRecord C startTsNs m := by
  rw [Segment.metadataRecord, (encodeMetadata_ok h).1]
  rfl

variable {w w' : RawSegmentWriter}

lemma RawSegmentWriter.writeMetadata_ok {startTsNs : Int}
    (h : w.writeMetadata C m startTsNs = (w', .ok ())) :
    w'.bytes = w.bytes ++ (Segment.metadataRecord C startTsNs m).record.bytes := by
  unfold writeMetadata at h
  rcases hencode : encodeMetadata C m with e | payload
  · rw [hencode] at h
    cases h
  · rw [hencode] at h
    obtain ⟨-, rfl⟩ := writeRecord_ok_iff.mp h
    rw [metadataFrame_of_encoded hencode]

/-- The number of octets counted for a metadata record is the length of its record. -/
lemma length_metadataRecord (h : encodeMetadata C m = .ok payload) (startTsNs : Int) :
    (Segment.metadataRecord C startTsNs m).record.bytes.length =
      4 + Mfr1.rawHeaderBodyLen + payload.length := by
  rw [RawFrame.length_bytes, ← metadataFrame_of_encoded h]
  rfl

/-- The head of a fresh segment holds one record for each metadata record, and the count of octets
grows with it. -/
lemma RecordingPipeline.writeHead_ok {startTsNs : Int} {records : List (MetadataRecord μ)}
    {n n' : Nat} (h : writeHead C startTsNs records w n = .ok (w', n')) (hn : n = w.bytes.length) :
    w'.bytes = w.bytes ++
        RawSegmentReader.frameBytes (records.map (Segment.metadataRecord C startTsNs)) ∧
      n' = w'.bytes.length := by
  induction records generalizing w n with
  | nil =>
    cases h
    exact ⟨(List.append_nil _).symm, hn⟩
  | cons record records ih =>
    rw [writeHead] at h
    obtain ⟨encoded, hencode, h⟩ := bind_eq_ok.mp h
    rcases hwrite : w.writeMetadata C record startTsNs with ⟨w₁, e | ⟨⟩⟩
    · rw [hwrite] at h
      cases h
    · rw [hwrite] at h
      have hbytes := RawSegmentWriter.writeMetadata_ok hwrite
      have hcount : n + (4 + Mfr1.rawHeaderBodyLen + encoded.length) = w₁.bytes.length := by
        rw [hbytes, List.length_append, length_metadataRecord hencode, hn]
      obtain ⟨hhead, hlength⟩ := ih h hcount
      refine ⟨?_, hlength⟩
      rw [hhead, hbytes, List.append_assoc]
      rfl

/-! ## The segments of a pipeline -/

/-- All metadata of an earlier segment is at the head of every later one, and all of it is
registered. -/
structure Linked (registry : List (MetadataRecord μ)) (segs : List (Segment μ)) : Prop where
  heads : segs.Pairwise fun a b => (a.head ++ a.later) <+: b.head
  registered : ∀ seg ∈ segs, (seg.head ++ seg.later) <+: registry

namespace Linked

variable {registry : List (MetadataRecord μ)} {segs : List (Segment μ)}

lemma nil (registry : List (MetadataRecord μ)) : Linked registry ([] : List (Segment μ)) :=
  ⟨.nil, fun _ h => absurd h List.not_mem_nil⟩

/-- One more segment, whose head has the metadata of all others. -/
lemma concat {last : Segment μ} (h : Linked registry segs)
    (hlast : ∀ seg ∈ segs, (seg.head ++ seg.later) <+: last.head)
    (hregistered : (last.head ++ last.later) <+: registry) : Linked registry (segs ++ [last]) := by
  constructor
  · rw [List.pairwise_append]
    refine ⟨h.heads, List.pairwise_singleton _ _, fun a ha b hb => ?_⟩
    rw [List.mem_singleton.mp hb]
    exact hlast a ha
  · intro seg hseg
    rcases List.mem_append.mp hseg with hseg | hseg
    · exact h.registered seg hseg
    · rwa [List.mem_singleton.mp hseg]

/-- More metadata may be registered. -/
lemma mono {registry' : List (MetadataRecord μ)} (h : Linked registry segs)
    (hgrow : registry <+: registry') : Linked registry' segs :=
  ⟨h.heads, fun seg hseg => (h.registered seg hseg).trans hgrow⟩

end Linked

/-- **The segments of a pipeline.** The closed files and the open one hold the octets of the
segments; the open segment has all registered metadata, and its octets are counted. -/
inductive Renders (C : MetadataCodec μ) (p : RecordingPipeline μ) : List (Segment μ) → Prop
  | idle {segs : List (Segment μ)} (hwriter : p.writer = none)
      (hclosed : p.closed = segs.map (Segment.bytes C)) (hchain : Linked p.metadata segs) :
      Renders C p segs
  | writing {init : List (Segment μ)} {last : Segment μ} {w : RawSegmentWriter}
      (hwriter : p.writer = some w) (hbytes : w.bytes = last.bytes C)
      (hclosed : p.closed = init.map (Segment.bytes C))
      (hstart : p.currentStartTsNs = some last.startTsNs)
      (hcount : p.segmentBytes = w.bytes.length) (hall : last.head ++ last.later = p.metadata)
      (hchain : Linked p.metadata init)
      (hbefore : ∀ seg ∈ init, (seg.head ++ seg.later) <+: last.head) :
      Renders C p (init ++ [last])

/-- What `Renders` looks at, besides the segments. -/
def RecordingPipeline.ink (p : RecordingPipeline μ) :
    Option RawSegmentWriter × Option Int × Nat × List (MetadataRecord μ) × List Bytes :=
  (p.writer, p.currentStartTsNs, p.segmentBytes, p.metadata, p.closed)

lemma Renders.of_ink {p p' : RecordingPipeline μ} {segs : List (Segment μ)}
    (h : Renders C p segs) (hink : p'.ink = p.ink) : Renders C p' segs := by
  simp only [RecordingPipeline.ink, Prod.mk.injEq] at hink
  obtain ⟨hwriter', hstart', hcount', hmeta', hclosed'⟩ := hink
  cases h with
  | idle hwriter hclosed hchain =>
    exact .idle (hwriter'.trans hwriter) (hclosed'.trans hclosed) (hmeta' ▸ hchain)
  | writing hwriter hbytes hclosed hstart hcount hall hchain hbefore =>
    exact .writing (hwriter'.trans hwriter) hbytes (hclosed'.trans hclosed)
      (hstart'.trans hstart) (hcount'.trans hcount) (hall.trans hmeta'.symm) (hmeta' ▸ hchain)
      hbefore

/-- The files on disk, the open one last. -/
lemma Renders.files {p : RecordingPipeline μ} {segs : List (Segment μ)} (h : Renders C p segs) :
    p.closed ++ (p.writer.map RawSegmentWriter.bytes).toList = segs.map (Segment.bytes C) := by
  cases h with
  | idle hwriter hclosed hchain =>
    rw [hwriter, hclosed]
    exact List.append_nil _
  | writing hwriter hbytes hclosed hstart hcount hall hchain hbefore =>
    rw [hwriter, hclosed, List.map_append]
    exact congrArg (_ ++ [·]) hbytes

lemma Renders.linked {p : RecordingPipeline μ} {segs : List (Segment μ)} (h : Renders C p segs) :
    Linked p.metadata segs := by
  cases h with
  | idle _ _ hchain => exact hchain
  | writing _ _ _ _ _ hall hchain hbefore =>
    exact hchain.concat hbefore (hall ▸ List.prefix_refl _)

/-- What happened to the segments between two states: `opened` fresh segments with the registered
metadata at their heads, and the frames written. -/
structure Extended (registry : List (MetadataRecord μ)) (opened : Nat) (frames : List RawFrame)
    (segs segs' : List (Segment μ)) : Prop where
  heads : segs'.map Segment.head = segs.map Segment.head ++ List.replicate opened registry
  later : segs'.map Segment.later = segs.map Segment.later ++ List.replicate opened []
  frames : segs'.flatMap Segment.frames = segs.flatMap Segment.frames ++ frames

namespace Extended

variable {registry : List (MetadataRecord μ)} {segs segs' segs'' : List (Segment μ)}

lemma refl (registry : List (MetadataRecord μ)) (segs : List (Segment μ)) :
    Extended registry 0 [] segs segs := by
  constructor <;> simp

lemma trans {opened opened' : Nat} {frames frames' : List RawFrame}
    (h : Extended registry opened frames segs segs')
    (h' : Extended registry opened' frames' segs' segs'') :
    Extended registry (opened + opened') (frames ++ frames') segs segs'' := by
  constructor
  · rw [h'.heads, h.heads, List.append_assoc, List.replicate_append_replicate]
  · rw [h'.later, h.later, List.append_assoc, List.replicate_append_replicate]
  · rw [h'.frames, h.frames, List.append_assoc]

end Extended

/-- **What a method that registers nothing does**: some segments are opened and some frames are
written, both are counted, and the octets on disk follow. -/
def Advance (C : MetadataCodec μ) (frames : List RawFrame) (p p' : RecordingPipeline μ) : Prop :=
  p'.queue = p.queue ∧ p'.metadata = p.metadata ∧ p'.recordsWritten = p.recordsWritten + frames.length ∧
    ∃ opened, p'.segmentsOpened = p.segmentsOpened + opened ∧ ∀ segs, Renders C p segs →
      ∃ segs', Renders C p' segs' ∧ Extended p.metadata opened frames segs segs'

namespace Advance

variable {C : MetadataCodec μ} {p p' p'' : RecordingPipeline μ}

lemma of_ink (hqueue : p'.queue = p.queue) (hink : p'.ink = p.ink)
    (hwritten : p'.recordsWritten = p.recordsWritten)
    (hopened : p'.segmentsOpened = p.segmentsOpened) : Advance C [] p p' := by
  have hmeta : p'.metadata = p.metadata := by
    simp only [RecordingPipeline.ink, Prod.mk.injEq] at hink
    exact hink.2.2.2.1
  exact ⟨hqueue, hmeta, hwritten, 0, hopened, fun segs h => ⟨segs, h.of_ink hink, .refl _ segs⟩⟩

lemma trans {frames frames' : List RawFrame} (h : Advance C frames p p')
    (h' : Advance C frames' p' p'') : Advance C (frames ++ frames') p p'' := by
  obtain ⟨hqueue, hmeta, hwritten, opened, hopened, hsegs⟩ := h
  obtain ⟨hqueue', hmeta', hwritten', opened', hopened', hsegs'⟩ := h'
  refine ⟨hqueue'.trans hqueue, hmeta'.trans hmeta, ?_, opened + opened', ?_, fun segs hp => ?_⟩
  · rw [hwritten', hwritten, List.length_append, Nat.add_assoc]
  · rw [hopened', hopened, Nat.add_assoc]
  · obtain ⟨segs₁, hp₁, hext⟩ := hsegs segs hp
    obtain ⟨segs₂, hp₂, hext'⟩ := hsegs' segs₁ hp₁
    rw [hmeta] at hext'
    exact ⟨segs₂, hp₂, hext.trans hext'⟩

/-- The queue plays no part. -/
lemma withQueue {frames : List RawFrame} (h : Advance C frames p p') (q : RecordingQueue) :
    Advance C frames { p with queue := q } { p' with queue := q } := by
  obtain ⟨-, hmeta, hwritten, opened, hopened, hsegs⟩ := h
  refine ⟨rfl, hmeta, hwritten, opened, hopened, fun segs hp => ?_⟩
  obtain ⟨segs', hp', hext⟩ := hsegs segs (hp.of_ink rfl)
  exact ⟨segs', hp'.of_ink rfl, hext⟩

instance : Std.Refl (Advance C ([] : List RawFrame)) := ⟨fun _ => of_ink rfl rfl rfl rfl⟩

instance : IsTrans (RecordingPipeline μ) (Advance C []) := ⟨fun _ _ _ h h' => h.trans h'⟩

end Advance

/-! ## The methods of the pipeline -/

namespace RecordingPipeline

variable {C : MetadataCodec μ}

lemma keeps_refreshDiskPressure (reading : Option Nat) :
    Keeps (Advance C []) (refreshDiskPressure reading) := by
  intro p
  rw [refreshDiskPressure, endState_get_seq]
  split
  · exact Advance.of_ink rfl rfl rfl rfl
  · rcases reading with _ | free
    · exact Advance.of_ink rfl rfl rfl rfl
    · -- The probe answered: at most the pressure flag and the events change.
      dsimp only
      split_ifs <;> exact Advance.of_ink rfl rfl rfl rfl

lemma keeps_failClosedIfDiskFull : Keeps (Advance C []) failClosedIfDiskFull := by
  refine Keeps.get fun p => ?_
  split_ifs
  · exact .throw _
  · exact .pure ()

/-- A fresh segment starts with all registered metadata. -/
lemma advance_openSegment {p : RecordingPipeline μ} (hwriter : p.writer = none)
    (startTsNs : Int) :
    Ends (openSegment C startTsNs) p (fun _ => Advance C [] p) fun _ => Advance C [] p := by
  refine Ends.get ?_
  rcases hhead : writeHead C startTsNs p.metadata (.create startTsNs) Mfr1.headerSize
    with e | ⟨w, segmentBytes⟩
  · exact Advance.of_ink rfl rfl rfl rfl
  · obtain ⟨hbytes, hcount⟩ := writeHead_ok hhead (RawSegmentWriter.length_create startTsNs).symm
    refine ⟨rfl, rfl, rfl, 1, rfl, fun segs hp => ?_⟩
    cases hp with
    | writing hwriter' => rw [hwriter] at hwriter'; cases hwriter'
    | idle _ hclosed hchain =>
      refine ⟨segs ++ [⟨startTsNs, p.metadata, []⟩], .writing rfl ?_ hclosed rfl hcount ?_ hchain
        hchain.registered, ?_⟩
      · rw [hbytes, Segment.bytes, Segment.records, List.map_nil, List.append_nil]
      · exact List.append_nil p.metadata
      · constructor <;> simp [Segment.later, Segment.frames]

lemma keeps_closeSegment : Keeps (Advance C []) closeSegment := by
  intro p
  exact ⟨rfl, rfl, rfl, 0, rfl, fun segs hp =>
    ⟨segs, .idle rfl hp.files hp.linked, .refl _ segs⟩⟩

lemma keeps_rotate : Keeps (Advance C []) rotate :=
  keeps_closeSegment.seq fun _ => .modify fun _ => .of_ink rfl rfl rfl rfl

variable (startTsNs : Int)

lemma keeps_rotateNow : Keeps (Advance C []) (rotateNow C startTsNs) := by
  intro p
  apply Ends.endState
  show Ends (if p.writer.isSome then rotate >>= fun _ => openSegment C startTsNs
    else openSegment C startTsNs) p _ _
  rcases hwriter : p.writer with _ | w
  · exact advance_openSegment hwriter startTsNs
  · have hrotated : Ends rotate p
        (fun _ p' => Advance C [] p p' ∧ p'.writer = none) fun _ => Advance C [] p :=
      ⟨keeps_rotate p, rfl⟩
    refine hrotated.seq fun _ p' h => ?_
    obtain ⟨hadvance, hnone⟩ := h
    exact (advance_openSegment hnone startTsNs).mono (fun _ _ h => hadvance.trans h)
      fun _ _ h => hadvance.trans h

lemma keeps_ensureSegment : Keeps (Advance C []) (ensureSegment C startTsNs) := by
  intro p
  apply Ends.endState
  show Ends (if p.writer.isNone then openSegment C startTsNs else pure PUnit.unit) p _ _
  rcases hwriter : p.writer with _ | w
  · exact advance_openSegment hwriter startTsNs
  · exact Advance.of_ink rfl rfl rfl rfl

variable (p : RecordingPipeline μ)

/-- One frame is appended to the open segment, or nothing is done. -/
lemma advance_writeOpen (frame : RawFrame) :
    Ends (writeOpen frame) p (fun _ => Advance C [frame] p) fun _ => Advance C [] p := by
  refine Ends.get ?_
  rcases hwriter : p.writer with _ | w
  · exact Advance.of_ink rfl rfl rfl rfl
  · rcases hwrite : w.writeRecord frame with ⟨w', e | ⟨⟩⟩
    · simp only [hwrite]
      exact Advance.of_ink rfl rfl rfl rfl
    · simp only [hwrite]
      obtain ⟨-, rfl⟩ := RawSegmentWriter.writeRecord_ok_iff.mp hwrite
      refine ⟨rfl, rfl, rfl, 0, rfl, fun segs hp => ?_⟩
      cases hp with
      | idle hwriter' => rw [hwriter] at hwriter'; cases hwriter'
      | @writing init last w₀ hwriter' hbytes hclosed hstart hcount hall hchain hbefore =>
        cases hwriter.symm.trans hwriter'
        refine ⟨init ++ [last.push (.frame frame)], .writing rfl ?_ hclosed hstart ?_ ?_ hchain
          hbefore, ?_⟩
        · rw [Segment.bytes_push_frame, ← hbytes]
        · show p.segmentBytes + _ = (w.bytes ++ frame.record.bytes).length
          rw [List.length_append, frame.length_bytes, hcount]
          rfl
        · rw [Segment.later_push_frame]
          exact hall
        · constructor
          · simp [Segment.push]
          · simp [Segment.later_push_frame]
          · simp [Segment.frames_push_frame]

lemma keeps_rotateIfOld (elapsedNs : Nat) :
    Keeps (Advance C []) (rotateIfOld C startTsNs elapsedNs) := by
  refine Keeps.get fun p => ?_
  split_ifs
  · exact keeps_rotateNow startTsNs
  · exact .pure ()

/-- The rotation after a write does not fail. -/
lemma advance_rotateIfLarge : Ends rotateIfLarge p (fun _ => Advance C [] p) fun _ _ => False := by
  show Ends (if p.shouldRotateAfterWrite then rotate else pure ()) p _ _
  split_ifs
  · exact keeps_rotate p
  · exact Advance.of_ink rfl rfl rfl rfl

/-- A method that writes no frames may come first. -/
lemma advance_seq {α β : Type} {m : PipelineM μ α} {f : α → PipelineM μ β}
    {frames : List RawFrame} (hm : Keeps (Advance C []) m)
    (hf : ∀ a p, Ends (f a) p (fun _ => Advance C frames p) fun _ => Advance C [] p)
    (p : RecordingPipeline μ) :
    Ends (m >>= f) p (fun _ => Advance C frames p) fun _ => Advance C [] p :=
  (hm.ends p).seq fun a p' h =>
    (hf a p').mono (fun _ _ h' => h.trans h') fun _ _ h' => h.trans h'

/-- **One frame**: written if the call returns, and not written if it fails. -/
theorem advance_writeFrame (tick : WriteTick) (frame : RawFrame) (p : RecordingPipeline μ) :
    Ends (writeFrame C tick frame) p (fun _ => Advance C [frame] p) fun _ => Advance C [] p := by
  refine advance_seq (keeps_refreshDiskPressure _) (fun _ => ?_) p
  refine advance_seq keeps_failClosedIfDiskFull fun _ => ?_
  refine advance_seq (keeps_ensureSegment _) fun _ => ?_
  refine advance_seq (keeps_rotateIfOld _ _) fun _ p => ?_
  refine (advance_writeOpen p frame).seq fun _ p' h => ?_
  exact (advance_rotateIfLarge p').mono (fun _ _ h' => h.trans h') fun _ _ h' => h'.elim

lemma advance_writePendingFrame (tick : WriteTick) (frame : RawFrame) (p : RecordingPipeline μ) :
    Ends (writePendingFrame C tick frame) p (fun _ => Advance C [frame] p)
      fun _ => Advance C [] p := by
  refine advance_seq (keeps_refreshDiskPressure _) (fun _ => ?_) p
  refine advance_seq keeps_failClosedIfDiskFull fun _ => ?_
  exact advance_writeFrame tick frame

/-- What a flush does: frames from the front of the queue are written, in their order. -/
def Flushed (C : MetadataCodec μ) (p p' : RecordingPipeline μ) : Prop :=
  ∃ frames, frames <+: p.queue.items ∧ Advance C frames p { p' with queue := p.queue }

/-- A method that writes no frames may come first. -/
lemma flushed_seq {α β : Type} {m : PipelineM μ α} {f : α → PipelineM μ β}
    (hm : Keeps (Advance C []) m) (hf : ∀ a p, Flushed C p (endState (f a) p))
    (p : RecordingPipeline μ) : Flushed C p (endState (m >>= f) p) := by
  refine endState_seq_induct (P := Advance C [] p) (hm p) ?_ ?_
  · intro p' h
    exact ⟨[], List.nil_prefix, h.trans (.of_ink h.1.symm rfl rfl rfl)⟩
  · intro a p' h
    obtain ⟨frames, hfront, hadvance⟩ := hf a p'
    rw [h.1] at hfront hadvance
    exact ⟨frames, hfront, h.trans hadvance⟩

lemma flushed_enqueue (reading : Option Nat) (frame : RawFrame) (p : RecordingPipeline μ) :
    Flushed C p (endState (enqueue reading frame) p) := by
  refine flushed_seq (keeps_refreshDiskPressure _) (fun _ => ?_) p
  refine flushed_seq keeps_failClosedIfDiskFull fun _ p => ?_
  rw [endState_get_seq]
  rcases p.queue.push frame with ⟨queue, e | outcome⟩
  · exact ⟨[], List.nil_prefix, Advance.of_ink rfl rfl rfl rfl⟩
  · exact ⟨[], List.nil_prefix, Advance.of_ink rfl rfl rfl rfl⟩

lemma flushed_rotateNow : Flushed C p (endState (rotateNow C startTsNs) p) := by
  have hrotated := keeps_rotateNow (C := C) startTsNs p
  exact ⟨[], List.nil_prefix, hrotated.trans (.of_ink hrotated.1.symm rfl rfl rfl)⟩

/-- **A flush** writes a front part of the queue, however it ends: a frame that cannot be written
leaves the queue and is not written. -/
theorem flushed_flushLoop (ticks : Nat → WriteTick) (remaining n : Nat) (p : RecordingPipeline μ) :
    Flushed C p (endState (flushLoop C ticks remaining n) p) := by
  induction remaining generalizing n p with
  | zero => exact ⟨[], List.nil_prefix, Advance.of_ink rfl rfl rfl rfl⟩
  | succ remaining ih =>
    rw [flushLoop]
    refine flushed_seq (keeps_refreshDiskPressure _) (fun _ => ?_) p
    refine flushed_seq keeps_failClosedIfDiskFull fun _ p => ?_
    rw [endState_get_seq]
    rcases hitems : p.queue.items with _ | ⟨frame, rest⟩
    · exact ⟨[], List.nil_prefix, Advance.of_ink rfl rfl rfl rfl⟩
    · have htail : p.queue.popFront.items = rest := congrArg List.tail hitems
      show Flushed C p (endState (writeFrame C (ticks n) frame >>= fun _ =>
        flushLoop C ticks remaining (n + 1)) { p with queue := p.queue.popFront })
      apply Ends.endState
      have hpopped : Ends (writeFrame C (ticks n) frame) { p with queue := p.queue.popFront }
          (fun _ => Advance C [frame] { p with queue := p.queue.popFront }) fun _ => Flushed C p :=
        (advance_writeFrame (ticks n) frame _).mono_error
          fun _ _ h => ⟨[], List.nil_prefix, h.withQueue p.queue⟩
      refine hpopped.seq fun _ p' h => .of_endState ?_
      obtain ⟨frames, hfront, hadvance⟩ := ih (n + 1) p'
      rw [h.1, htail] at hfront
      refine ⟨frame :: frames, ?_, (h.trans hadvance).withQueue p.queue⟩
      rw [hitems]
      exact List.cons_prefix_cons.mpr ⟨rfl, hfront⟩

/-- **A registration** adds the metadata at the end of the registry and to the open segment, or
changes nothing. -/
theorem registerMetadata_cases [DecidableEq μ] (metadata : MetadataRecord μ)
    (p : RecordingPipeline μ) :
    endState (registerMetadata C metadata) p = p ∨
      ∃ encoded, encodeMetadata C metadata = .ok encoded ∧
        (∀ m ∈ p.metadata, m.stableKey ≠ metadata.stableKey) ∧
        ((p.writer = none ∧
            endState (registerMetadata C metadata) p =
              { p with metadata := p.metadata ++ [metadata] }) ∨
          ∃ w w', p.writer = some w ∧
            w.writeMetadata C metadata (p.currentStartTsNs.getD 0) = (w', .ok ()) ∧
            endState (registerMetadata C metadata) p =
              { p with
                writer := some w'
                segmentBytes := p.segmentBytes + (4 + Mfr1.rawHeaderBodyLen + encoded.length)
                metadata := p.metadata ++ [metadata] }) := by
  rw [registerMetadata, endState_get_seq]
  dsimp only
  split
  · left
    split_ifs <;> rfl
  · rename_i hfind
    have hfresh : ∀ m ∈ p.metadata, m.stableKey ≠ metadata.stableKey := by
      intro m hm hkey
      exact absurd (decide_eq_true hkey) (List.find?_eq_none.mp hfind m hm)
    rcases hencode : encodeMetadata C metadata with e | encoded
    · exact .inl rfl
    · rcases hwriter : p.writer with _ | w
      · exact .inr ⟨encoded, rfl, hfresh, .inl ⟨rfl, rfl⟩⟩
      · rcases hwrite : w.writeMetadata C metadata (p.currentStartTsNs.getD 0) with ⟨w', e | ⟨⟩⟩
        · simp only [hwrite]
          exact .inl rfl
        · simp only [hwrite]
          exact .inr ⟨encoded, rfl, hfresh, .inr ⟨w, w', rfl, hwrite, rfl⟩⟩

/-- Metadata registered while a segment is open is in that segment, once more at its end. -/
lemma Renders.register {p : RecordingPipeline μ} {segs : List (Segment μ)}
    {metadata : MetadataRecord μ} {encoded : Bytes} (h : Renders C p segs)
    (hencode : encodeMetadata C metadata = .ok encoded) (hwriter : p.writer = some w)
    (hwrite : w.writeMetadata C metadata (p.currentStartTsNs.getD 0) = (w', .ok ())) :
    ∃ init last, segs = init ++ [last] ∧
      Renders C { p with
        writer := some w'
        segmentBytes := p.segmentBytes + (4 + Mfr1.rawHeaderBodyLen + encoded.length)
        metadata := p.metadata ++ [metadata] } (init ++ [last.push (.metadata metadata)]) := by
  cases h with
  | idle hwriter' => rw [hwriter] at hwriter'; cases hwriter'
  | @writing init last w₀ hwriter' hbytes hclosed hstart hcount hall hchain hbefore =>
    cases hwriter.symm.trans hwriter'
    rw [hstart, Option.getD_some] at hwrite
    have hwritten := RawSegmentWriter.writeMetadata_ok hwrite
    refine ⟨init, last, rfl, .writing rfl ?_ hclosed hstart ?_ ?_
      (hchain.mono (List.prefix_append _ _)) hbefore⟩
    · rw [Segment.bytes_push_metadata, ← hbytes, hwritten]
    · show p.segmentBytes + _ = w'.bytes.length
      rw [hwritten, List.length_append, length_metadataRecord hencode, hcount]
    · rw [Segment.later_push_metadata, ← List.append_assoc]
      exact congrArg (· ++ [metadata]) hall

/-! ## Runs -/

/-- Source: `enqueue`, `flush_pending`, `register_metadata`, `rotate_now` -/
inductive PipelineCall (μ : Type)
  | enqueue (reading : Option Nat) (frame : RawFrame)
  | flushPending (ticks : Nat → WriteTick) (max : Nat)
  | registerMetadata (metadata : MetadataRecord μ)
  | rotateNow (startTsNs : Int)

/-- One call, whether it returns or fails. -/
def step [DecidableEq μ] (C : MetadataCodec μ) (p : RecordingPipeline μ) :
    PipelineCall μ → RecordingPipeline μ
  | .enqueue reading frame => endState (enqueue reading frame) p
  | .flushPending ticks max => endState (flushPending C ticks max) p
  | .registerMetadata metadata => endState (registerMetadata C metadata) p
  | .rotateNow startTsNs => endState (rotateNow C startTsNs) p

/-- A pipeline in use, with its history: for each segment opened, the metadata registered when it was
opened and the metadata registered while it was open, and the frames flushed. -/
structure History (μ : Type) where
  pipeline : RecordingPipeline μ
  heads : List (List (MetadataRecord μ))
  later : List (List (MetadataRecord μ))
  flushed : List RawFrame

/-- One call with its history. The segments opened and the frames written are counted by the pipeline
itself; frames leave the queue at its front. -/
def History.step [DecidableEq μ] (C : MetadataCodec μ) (h : History μ) (call : PipelineCall μ) :
    History μ :=
  let p := h.pipeline
  let p' := p.step C call
  let opened := p'.segmentsOpened - p.segmentsOpened
  let registered := if p.writer.isSome then p'.metadata.drop p.metadata.length else []
  { pipeline := p'
    heads := h.heads ++ List.replicate opened p.metadata
    later := h.later.modifyLast (· ++ registered) ++ List.replicate opened []
    flushed := h.flushed ++ p.queue.items.take (p'.recordsWritten - p.recordsWritten) }

namespace History

/-- **The history tells the segments.** -/
structure Told (C : MetadataCodec μ) (h : History μ) (segs : List (Segment μ)) : Prop where
  renders : Renders C h.pipeline segs
  heads : segs.map Segment.head = h.heads
  later : segs.map Segment.later = h.later
  flushed : segs.flatMap Segment.frames = h.flushed
  keys : (h.pipeline.metadata.map MetadataRecord.stableKey).Nodup

/-- A pipeline that was just opened. -/
def start : History μ := ⟨p, [], [], []⟩

variable {C : MetadataCodec μ}

lemma validateMetadataRegistry_ok {records : List (MetadataRecord μ)} {keys : List String}
    (h : validateMetadataRegistry C records keys = .ok ()) :
    (records.map MetadataRecord.stableKey).Nodup ∧ ∀ record ∈ records,
      record.stableKey ∉ keys ∧ ∃ payload, encodeMetadata C record = .ok payload := by
  induction records generalizing keys with
  | nil => exact ⟨List.nodup_nil, fun _ hr => absurd hr List.not_mem_nil⟩
  | cons record records ih =>
    rw [validateMetadataRegistry] at h
    obtain ⟨payload, hpayload, h⟩ := bind_eq_ok.mp h
    split_ifs at h with hkey
    obtain ⟨hnodup, hrest⟩ := ih h
    constructor
    · rw [List.map_cons, List.nodup_cons]
      refine ⟨fun hmem => ?_, hnodup⟩
      obtain ⟨other, hother, heq⟩ := List.mem_map.mp hmem
      exact (hrest other hother).1 (heq ▸ List.mem_cons_self)
    · refine List.forall_mem_cons.mpr ⟨⟨hkey, payload, hpayload⟩, fun other hother => ?_⟩
      exact (hrest other hother).imp_left fun hfresh hmem => hfresh (List.mem_cons_of_mem _ hmem)

lemma told_start {cfg : PipelineConfig} {metadata : List (MetadataRecord μ)}
    {p : RecordingPipeline μ} (h : openWithMetadata C cfg metadata = .ok p) :
    Told C (start p) [] := by
  unfold openWithMetadata at h
  split_ifs at h
  obtain ⟨⟨⟩, hvalid, h⟩ := bind_eq_ok.mp h
  cases h
  exact ⟨.idle rfl rfl (.nil _), rfl, rfl, rfl, (validateMetadataRegistry_ok hvalid).1⟩

lemma modifyLast_self (l : List (List (MetadataRecord μ))) : l.modifyLast (fun x => x) = l := by
  rcases l.eq_nil_or_concat with rfl | ⟨init, last, rfl⟩
  · rfl
  · rw [List.concat_eq_append, List.modifyLast_concat]

variable [DecidableEq μ]

variable {h : History μ} {segs : List (Segment μ)}

/-- A call that registers nothing. -/
lemma Told.flush (ht : Told C h segs) {call : PipelineCall μ}
    (hcall : Flushed C h.pipeline (h.pipeline.step C call)) :
    ∃ segs', Told C (h.step C call) segs' := by
  obtain ⟨frames, hfront, -, hmeta, hwritten, opened, hopened, hsegs⟩ := hcall
  obtain ⟨segs', hrenders, hext⟩ := hsegs segs ht.renders
  have hopened' : (h.pipeline.step C call).segmentsOpened - h.pipeline.segmentsOpened = opened := by
    have hcount : (h.pipeline.step C call).segmentsOpened = _ := hopened
    omega
  have hwritten' : (h.pipeline.step C call).recordsWritten - h.pipeline.recordsWritten =
      frames.length := by
    have hcount : (h.pipeline.step C call).recordsWritten = _ := hwritten
    omega
  have hmeta' : (h.pipeline.step C call).metadata = h.pipeline.metadata := hmeta
  refine ⟨segs', hrenders.of_ink rfl, ?_, ?_, ?_, ?_⟩
  · show _ = h.heads ++ List.replicate _ h.pipeline.metadata
    rw [hopened', ← ht.heads, hext.heads]
  · show _ = h.later.modifyLast _ ++ List.replicate _ []
    simp only [hopened', hmeta', List.drop_length, ite_self, List.append_nil, modifyLast_self]
    rw [← ht.later, hext.later]
  · show _ = h.flushed ++ h.pipeline.queue.items.take _
    rw [hwritten', ← List.prefix_iff_eq_take.mp hfront, ← ht.flushed, hext.frames]
  · show ((h.pipeline.step C call).metadata.map _).Nodup
    rw [hmeta']
    exact ht.keys

/-- A registration. -/
lemma Told.register (ht : Told C h segs) (metadata : MetadataRecord μ) :
    ∃ segs', Told C (h.step C (.registerMetadata metadata)) segs' := by
  have hkeys (hfresh : ∀ m ∈ h.pipeline.metadata, m.stableKey ≠ metadata.stableKey) :
      ((h.pipeline.metadata ++ [metadata]).map MetadataRecord.stableKey).Nodup := by
    rw [List.map_append, List.map_singleton, List.nodup_append]
    refine ⟨ht.keys, List.nodup_singleton _, ?_⟩
    intro key hkey key' hkey'
    obtain ⟨m, hm, rfl⟩ := List.mem_map.mp hkey
    rw [List.mem_singleton.mp hkey']
    exact hfresh m hm
  rcases registerMetadata_cases (C := C) metadata h.pipeline with
    hsame | ⟨encoded, hencode, hfresh, ⟨hnone, hstep⟩ | ⟨w, w', hwriter, hwrite, hstep⟩⟩
  · -- Known already, or refused.
    apply ht.flush
    show Flushed C h.pipeline (endState (registerMetadata C metadata) h.pipeline)
    rw [hsame]
    exact ⟨[], List.nil_prefix, Advance.of_ink rfl rfl rfl rfl⟩
  · -- No segment is open: only the registry grows.
    have hpipeline : (h.step C (.registerMetadata metadata)).pipeline = _ := hstep
    refine ⟨segs, ?_, ?_, ?_, ?_, ?_⟩
    · rw [hpipeline]
      rcases ht.renders with ⟨hwriter, hclosed, hchain⟩ | ⟨hwriter⟩
      · exact .idle hwriter hclosed (hchain.mono (List.prefix_append _ _))
      · cases hnone.symm.trans hwriter
    · simp [History.step, RecordingPipeline.step, hstep, ht.heads]
    · simp [History.step, RecordingPipeline.step, hstep, hnone, modifyLast_self, ht.later]
    · simp [History.step, RecordingPipeline.step, hstep, ht.flushed]
    · rw [hpipeline]
      exact hkeys hfresh
  · -- The metadata is written to the open segment.
    have hpipeline : (h.step C (.registerMetadata metadata)).pipeline = _ := hstep
    obtain ⟨init, last, rfl, hrenders⟩ := Renders.register ht.renders hencode hwriter hwrite
    refine ⟨init ++ [last.push (.metadata metadata)], ?_, ?_, ?_, ?_, ?_⟩
    · rw [hpipeline]
      exact hrenders
    · simp [History.step, RecordingPipeline.step, hstep, ← ht.heads, Segment.push]
    · simp [History.step, RecordingPipeline.step, hstep, hwriter, ← ht.later,
        List.modifyLast_concat, Segment.later_push_metadata]
    · simp [History.step, RecordingPipeline.step, hstep, ← ht.flushed, Segment.frames_push_metadata]
    · rw [hpipeline]
      exact hkeys hfresh

lemma Told.step (ht : Told C h segs) (call : PipelineCall μ) :
    ∃ segs', Told C (h.step C call) segs' := by
  cases call with
  | enqueue reading frame => exact ht.flush (flushed_enqueue reading frame h.pipeline)
  | flushPending ticks max => exact ht.flush (flushed_flushLoop ticks max 0 h.pipeline)
  | registerMetadata metadata => exact ht.register metadata
  | rotateNow startTsNs => exact ht.flush (flushed_rotateNow startTsNs h.pipeline)

end History

/-- **What a recording holds.** A pipeline is opened and then used in any way. Its files hold, in the
order they were opened, segments such that:

* each is the MFR1 header, one record for each metadata record registered when it was opened, in
  registration order, and what was written to it after that;
* metadata registered while a segment was open is in its body, once and in order, and all metadata of
  a segment is at the head of every later one;
* the octets of the open segment are counted exactly;
* the frames of all segments, in order, are the frames flushed.
-/
theorem segments_exact [DecidableEq μ] {C : MetadataCodec μ} {cfg : PipelineConfig}
    {metadata : List (MetadataRecord μ)} {p : RecordingPipeline μ}
    (hopen : openWithMetadata C cfg metadata = .ok p) (calls : List (PipelineCall μ)) {h : History μ}
    (hrun : h = run (History.step C) (.start p) calls) :
    ∃ segs : List (Segment μ),
      h.pipeline.closed ++ (h.pipeline.writer.map RawSegmentWriter.bytes).toList =
        segs.map (Segment.bytes C) ∧
      segs.map Segment.head = h.heads ∧ segs.map Segment.later = h.later ∧
      segs.Pairwise (fun a b => (a.head ++ a.later) <+: b.head) ∧
      (∀ seg ∈ segs, ((seg.head ++ seg.later).map MetadataRecord.stableKey).Nodup) ∧
      (∀ w, h.pipeline.writer = some w → h.pipeline.segmentBytes = w.bytes.length) ∧
      segs.flatMap Segment.frames = h.flushed := by
  obtain ⟨segs, ht⟩ : ∃ segs, History.Told C h segs := by
    rw [hrun]
    exact run_invariant' (P := fun h => ∃ segs, History.Told C h segs)
      (fun _ call ⟨_, ht⟩ => ht.step call) ⟨[], History.told_start hopen⟩ calls
  have hcount : ∀ w, h.pipeline.writer = some w → h.pipeline.segmentBytes = w.bytes.length := by
    intro w hw
    cases ht.renders with
    | idle hwriter =>
      cases hwriter.symm.trans hw
    | writing hwriter _ _ _ hcount =>
      cases hwriter.symm.trans hw
      exact hcount
  have hchain := ht.renders.linked
  refine ⟨segs, ht.renders.files, ht.heads, ht.later, hchain.heads, fun seg hseg => ?_, hcount, ht.flushed⟩
  exact ht.keys.sublist ((hchain.registered seg hseg).sublist.map _)

/-- Metadata records with nothing to say, as the JSON text of an empty object. -/
def emptyCodec : MetadataCodec Unit := ⟨fun _ => some [0x7B, 0x7D]⟩

/-- A small queue, and segments that are closed once they hold 130 octets. -/
def smallConfig : PipelineConfig := ⟨4, .failEngine, 130, 0, 0⟩

/-- Three frames, and a session that is registered after the first of them was flushed. -/
def threeFrames : List (PipelineCall Unit) :=
  [.enqueue none RawSegmentReader.shortFrame, .enqueue none RawSegmentReader.shortFrame,
    .enqueue none RawSegmentReader.shortFrame, .flushPending (fun _ => ⟨none, none, 0⟩) 1,
    .registerMetadata (.session 7 ()), .flushPending (fun _ => ⟨none, none, 0⟩) 2]

/-- The second frame makes the segment too large, and the third one is in a second segment, with both
metadata records at its head. -/
theorem segments_exact_two :
    ∃ p, openWithMetadata emptyCodec smallConfig [.build ()] = .ok p ∧
      (run (History.step emptyCodec) (.start p) threeFrames).heads =
        [[.build ()], [.build (), .session 7 ()]] ∧
      ∃ segs : List (Segment Unit),
        segs.map Segment.head = (run (History.step emptyCodec) (.start p) threeFrames).heads ∧
        segs.flatMap Segment.frames =
          (run (History.step emptyCodec) (.start p) threeFrames).flushed := by
  have hopen : openWithMetadata emptyCodec smallConfig [.build ()] =
      .ok ⟨smallConfig, .new 4 (by decide) .failEngine, none, none, 0, false, [], 0, 0, 0,
        [.build ()], []⟩ := rfl
  refine ⟨_, hopen, ?_, ?_⟩
  · decide +kernel
  · obtain ⟨segs, -, hheads, -, -, -, -, hframes⟩ := segments_exact hopen threeFrames rfl
    exact ⟨segs, hheads, hframes⟩

end RecordingPipeline

end Marketfeed
