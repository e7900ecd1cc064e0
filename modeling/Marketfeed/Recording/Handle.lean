import Marketfeed.Lib.Ledger
import Marketfeed.Recording.Segments

/-!
# Clones of one recording handle

Model of `RecordingHandle` in `crates/recording/src/pipeline.rs`. Producers push into an ingress queue
under one lock; a drainer takes frames out of it under that lock, lets it go, and appends them to the
consumer's pending list under a second lock, where it also writes. Between the two locks it **holds**
the frames, and nobody else sees them.

Threads are numbers. A step is one critical section of one thread, so a list of steps is an
interleaving. Where a thread is in `flush_pending` or `shutdown_drain` is its `Drainer` state, and a
step that does not fit it changes nothing.
-/

namespace Marketfeed

variable {μ : Type}

structure RecordingConsumer (μ : Type) where
  pipeline : RecordingPipeline μ
  pending : List RawFrame

namespace RecordingConsumer

/-- The front frame is written, and leaves the list only if that succeeds.
Source: the bodies of the loops of `flush_pending` and `shutdown_drain` -/
def writeFront (C : MetadataCodec μ) (tick : WriteTick) (c : RecordingConsumer μ) (frame : RawFrame) :
    RecordingConsumer μ × Except RecordingError Unit :=
  match (RecordingPipeline.writePendingFrame C tick frame).run c.pipeline with
  | .error e pipeline => ({ c with pipeline }, .error e)
  | .ok () pipeline => (⟨pipeline, c.pending.tail⟩, .ok ())

/-- The loop of `flush_pending` after `written` writes, for at most `remaining` more. -/
def writeLoop (C : MetadataCodec μ) (ticks : Nat → WriteTick) :
    Nat → Nat → RecordingConsumer μ → RecordingConsumer μ × Except RecordingError Nat
  | 0, written, c => (c, .ok written)
  | remaining + 1, written, c =>
    match c.pending with
    | [] => (c, .ok written)
    | frame :: _ =>
      match c.writeFront C (ticks written) frame with
      | (c, .error e) => (c, .error e)
      | (c, .ok ()) => writeLoop C ticks remaining (written + 1) c

/-- What writing does: frames leave the front of the list and are in the segments. -/
def Writes (C : MetadataCodec μ) (c c' : RecordingConsumer μ) : Prop :=
  ∃ frames, c.pending = frames ++ c'.pending ∧ Advance C frames c.pipeline c'.pipeline

lemma Writes.refl (C : MetadataCodec μ) (c : RecordingConsumer μ) : Writes C c c :=
  ⟨[], rfl, Advance.of_ink rfl rfl rfl rfl⟩

variable {C : MetadataCodec μ}

lemma Writes.trans {c c' c'' : RecordingConsumer μ} (h : Writes C c c') (h' : Writes C c' c'') :
    Writes C c c'' := by
  obtain ⟨frames, hpending, hadvance⟩ := h
  obtain ⟨frames', hpending', hadvance'⟩ := h'
  refine ⟨frames ++ frames', ?_, hadvance.trans hadvance'⟩
  rw [hpending, hpending', List.append_assoc]

lemma writes_writeFront {c : RecordingConsumer μ} {frame : RawFrame} {rest : List RawFrame}
    (hpending : c.pending = frame :: rest) (tick : WriteTick) :
    Writes C c (c.writeFront C tick frame).1 := by
  have hends := RecordingPipeline.advance_writePendingFrame (C := C) tick frame c.pipeline
  unfold Ends at hends
  unfold writeFront
  rcases hrun : (RecordingPipeline.writePendingFrame C tick frame).run c.pipeline
    with ⟨⟨⟩, pipeline⟩ | ⟨e, pipeline⟩
  · rw [hrun] at hends
    refine ⟨[frame], ?_, hends⟩
    rw [hpending]
    rfl
  · rw [hrun] at hends
    exact ⟨[], rfl, hends⟩

lemma writes_writeLoop (ticks : Nat → WriteTick) (remaining written : Nat)
    (c : RecordingConsumer μ) : Writes C c (writeLoop C ticks remaining written c).1 := by
  induction remaining generalizing written c with
  | zero => exact .refl C c
  | succ remaining ih =>
    rcases hpending : c.pending with _ | ⟨frame, rest⟩
    · simp only [writeLoop, hpending]
      exact .refl C c
    · have hfront := writes_writeFront (C := C) hpending (ticks written)
      rcases hwrite : c.writeFront C (ticks written) frame with ⟨c', e | ⟨⟩⟩
      · rw [hwrite] at hfront
        simp only [writeLoop, hpending, hwrite]
        exact hfront
      · rw [hwrite] at hfront
        simp only [writeLoop, hpending, hwrite]
        exact hfront.trans (ih (written + 1) c')

end RecordingConsumer

/-! ## Threads -/

/-- Where a thread is. `began` is how many frames had been accepted when its `shutdown_drain` began,
and `held` are frames taken from the ingress queue and not yet appended to the pending list. -/
inductive Drainer
  | idle
  | flushing (max : Nat) (held : List RawFrame)
  | draining (began : Nat)
  | holding (began : Nat) (held : List RawFrame)
deriving DecidableEq

/-- The frames only this thread has. -/
def Drainer.held : Drainer → List RawFrame
  | .flushing _ held => held
  | .holding _ held => held
  | _ => []

/-- Source: the clones of a `RecordingHandle`, with their threads and its history: the frames accepted, the frames
written, and the beginnings of the drains that returned `Ok`. -/
structure RecordingHandles (μ : Type) where
  ingress : RecordingQueue
  consumer : RecordingConsumer μ
  drainers : Nat → Drainer
  accepted : List RawFrame
  written : List RawFrame
  returned : List Nat

/-- One critical section of a thread, or the begin of a call. -/
inductive HandleStep
  | enqueue (frame : RawFrame)
  | flushTake (thread max : Nat)
  | flushWrite (thread : Nat) (ticks : Nat → WriteTick)
  | shutdownBegin (thread : Nat)
  | shutdownTake (thread : Nat) (expired : Bool)
  | shutdownWrite (thread : Nat) (tick : WriteTick)

namespace RecordingHandles

/-- Source: `RecordingHandle::new`, where the capacity was checked by `open_with_metadata` -/
def new (pipeline : RecordingPipeline μ) (h : 0 < pipeline.cfg.queueCapacity) : RecordingHandles μ where
  ingress := .new pipeline.cfg.queueCapacity h pipeline.cfg.overflow
  consumer := ⟨pipeline, []⟩
  drainers := fun _ => .idle
  accepted := []
  written := []
  returned := []

variable (s : RecordingHandles μ)

/-- A thread moves on. -/
def setThread (thread : Nat) (d : Drainer) : RecordingHandles μ :=
  { s with drainers := Function.update s.drainers thread d }

/-- Frames go from the ingress queue to a thread. -/
def take (thread max : Nat) (d : List RawFrame → Drainer) : RecordingHandles μ :=
  let (moved, ingress) := s.ingress.drainFront max
  { s with ingress }.setThread thread (d moved)

/-- The consumer after a thread appended what it holds.
Source: `consumer.pending.extend(incoming)` -/
def extended (held : List RawFrame) : RecordingConsumer μ :=
  { s.consumer with pending := s.consumer.pending ++ held }

/-- The consumer is left as `c`. The frames written are counted by the pipeline and leave the list at
its front. -/
def leave (held : List RawFrame) (c : RecordingConsumer μ) : RecordingHandles μ :=
  let count := c.pipeline.recordsWritten - s.consumer.pipeline.recordsWritten
  { s with consumer := c, written := s.written ++ (s.extended held).pending.take count }

/-- One step. -/
def step (C : MetadataCodec μ) (s : RecordingHandles μ) : HandleStep → RecordingHandles μ
  | .enqueue frame =>
    match s.ingress.push frame with
    | (ingress, .ok _) => { s with ingress, accepted := s.accepted ++ [frame] }
    | (ingress, .error _) => { s with ingress }
  | .flushTake thread max =>
    match s.drainers thread with
    | .idle => s.take thread max (.flushing max)
    | _ => s
  | .flushWrite thread ticks =>
    match s.drainers thread with
    | .flushing max held =>
      let (c, _) := RecordingConsumer.writeLoop C ticks max 0 (s.extended held)
      (s.leave held c).setThread thread .idle
    | _ => s
  | .shutdownBegin thread =>
    match s.drainers thread with
    | .idle => s.setThread thread (.draining s.accepted.length)
    | _ => s
  | .shutdownTake thread expired =>
    match s.drainers thread with
    | .draining began =>
      if expired then s.setThread thread .idle else s.take thread 4096 (.holding began)
    | _ => s
  | .shutdownWrite thread tick =>
    match s.drainers thread with
    | .holding began held =>
      match (s.extended held).pending with
      | [] =>
        { (s.leave held (s.extended held)).setThread thread .idle with
          returned := s.returned ++ [began] }
      | frame :: _ =>
        match (s.extended held).writeFront C tick frame with
        | (c, .error _) => (s.leave held c).setThread thread .idle
        | (c, .ok ()) => (s.leave held c).setThread thread (.draining began)
    | _ => s

end RecordingHandles

/-! ## What an interleaving keeps -/

/-- What a drain in progress knows: when it began, and that a drain that found the ingress queue empty
has only the pending list left to write. -/
def Drainer.Sound (accepted frames : List RawFrame) : Drainer → Prop
  | .draining began => began ≤ accepted.length
  | .holding began held => began ≤ accepted.length ∧ (held = [] → Covered accepted began frames)
  | _ => True

lemma Drainer.Sound.mono {accepted frames frames' : List RawFrame} {d : Drainer}
    (h : d.Sound accepted frames) (hgrow : frames <+: frames') : d.Sound accepted frames' := by
  cases d with
  | holding began held => exact ⟨h.1, fun hempty => (h.2 hempty).mono hgrow⟩
  | idle | flushing max held => trivial
  | draining began => exact h

lemma Drainer.Sound.accept {accepted frames : List RawFrame} {d : Drainer}
    (h : d.Sound accepted frames) (frame : RawFrame) : d.Sound (accepted ++ [frame]) frames := by
  have hgrow : accepted.length ≤ (accepted ++ [frame]).length := by
    rw [List.length_append]
    exact Nat.le_add_right _ _
  cases d with
  | holding began held => exact ⟨h.1.trans hgrow, fun hempty => (h.2 hempty).extend (List.prefix_append _ _)⟩
  | idle | flushing max held => trivial
  | draining began => exact Nat.le_trans h hgrow

namespace RecordingHandles

open RecordingPipeline

/-- **Nothing is lost, duplicated or reordered.** At most one thread holds frames, and its place is
between the pending list and the ingress queue. -/
structure Exact (C : MetadataCodec μ) (s : RecordingHandles μ) : Prop where
  policy : s.ingress.policy = .failEngine
  order : ∃ thread, (∀ other, other ≠ thread → (s.drainers other).held = []) ∧
    s.written ++ s.consumer.pending ++ (s.drainers thread).held ++ s.ingress.items = s.accepted
  disk : ∃ segs, Renders C s.consumer.pipeline segs ∧ segs.flatMap Segment.frames = s.written
  threads : ∀ thread, (s.drainers thread).Sound s.accepted (s.written ++ s.consumer.pending)
  returned : ∀ began ∈ s.returned, Covered s.accepted began s.written

variable {C : MetadataCodec μ} {s : RecordingHandles μ}

/-- When no thread holds frames, every accepted frame is written, pending or queued. -/
lemma Exact.quiescent (h : s.Exact C) (hquiet : ∀ thread, (s.drainers thread).held = []) :
    s.written ++ s.consumer.pending ++ s.ingress.items = s.accepted := by
  obtain ⟨thread, -, horder⟩ := h.order
  rwa [hquiet thread, List.append_nil] at horder

lemma Exact.enqueue (h : s.Exact C) (frame : RawFrame) : (s.step C (.enqueue frame)).Exact C := by
  obtain ⟨thread, hothers, horder⟩ := h.order
  rcases BoundedQueue.tryPush_failEngine h.policy frame with
    ⟨o, hok, hitems, hpolicy⟩ | ⟨e, herror, hsame⟩
  · simp only [step, RecordingQueue.push, hok, Except.mapError]
    refine ⟨hpolicy, ⟨thread, hothers, ?_⟩, h.disk, fun t => (h.threads t).accept frame,
      fun began hmem => (h.returned began hmem).extend (List.prefix_append _ _)⟩
    show s.written ++ s.consumer.pending ++ (s.drainers thread).held ++ _ = s.accepted ++ [frame]
    rw [hitems, ← List.append_assoc, horder]
  · simp only [step, RecordingQueue.push, herror, Except.mapError, hsame]
    exact h

variable {thread : Nat}

/-- What every thread has after one of them moved on. -/
lemma sound_update {drainers : Nat → Drainer} {d : Drainer} {accepted frames : List RawFrame}
    (hd : d.Sound accepted frames) (h : ∀ other, (drainers other).Sound accepted frames) :
    ∀ other, (Function.update drainers thread d other).Sound accepted frames :=
  (Function.forall_update_iff _ fun _ (d : Drainer) => d.Sound _ _).mpr ⟨hd, fun other _ => h other⟩

/-- **Taking frames** while no other thread holds any. -/
theorem Exact.take (h : s.Exact C) {max : Nat} {d : List RawFrame → Drainer}
    (hquiet : ∀ thread, (s.drainers thread).held = []) (hheld : ∀ moved, (d moved).held = moved)
    (hsound : (d (s.ingress.items.take max)).Sound s.accepted (s.written ++ s.consumer.pending)) :
    (s.take thread max d).Exact C := by
  have hnew : (s.take thread max d).drainers thread = d (s.ingress.items.take max) :=
    Function.update_self thread _ _
  have hothers {other : Nat} (hne : other ≠ thread) :
      (s.take thread max d).drainers other = s.drainers other :=
    Function.update_of_ne hne _ _
  refine ⟨h.policy, ⟨thread, ?_, ?_⟩, h.disk, sound_update hsound h.threads, h.returned⟩
  · intro other hne
    rw [hothers hne]
    exact hquiet other
  · rw [hnew, hheld]
    show s.written ++ s.consumer.pending ++ s.ingress.items.take max ++ s.ingress.items.drop max = _
    rw [List.append_assoc, List.take_append_drop]
    exact h.quiescent hquiet

/-- **Appending and writing.** The thread ends with no frames of its own. -/
theorem Exact.leave (h : s.Exact C) {held : List RawFrame}
    (hheld : (s.drainers thread).held = held) {c : RecordingConsumer μ}
    (hwrites : (s.extended held).Writes C c) {d : Drainer} (hfree : d.held = [])
    (hsound : ∀ frames, d.Sound s.accepted frames) :
    ((s.leave held c).setThread thread d).Exact C := by
  obtain ⟨frames, hpending, -, -, hcount, opened, -, hsegs⟩ := hwrites
  have htaken : (s.leave held c).written = s.written ++ frames := by
    have hcount' : c.pipeline.recordsWritten - s.consumer.pipeline.recordsWritten = frames.length := by
      have hsum : c.pipeline.recordsWritten = s.consumer.pipeline.recordsWritten + _ := hcount
      omega
    show s.written ++ (s.extended held).pending.take _ = _
    rw [hcount', hpending, List.take_left]
  have hflow : s.written ++ (s.consumer.pending ++ held) = (s.leave held c).written ++ c.pending := by
    rw [htaken, List.append_assoc, ← hpending]
    rfl
  have hgrow : s.written ++ s.consumer.pending <+: (s.leave held c).written ++ c.pending := by
    rw [← hflow, ← List.append_assoc]
    exact List.prefix_append _ _
  have hnew : ((s.leave held c).setThread thread d).drainers thread = d :=
    Function.update_self thread _ _
  have hothers {other : Nat} (hne : other ≠ thread) :
      ((s.leave held c).setThread thread d).drainers other = s.drainers other :=
    Function.update_of_ne hne _ _
  refine ⟨h.policy, ?_, ?_, ?_, ?_⟩
  · obtain ⟨holder, hrest, horder⟩ := h.order
    by_cases hholder : holder = thread
    · -- This thread held the frames that are now written or pending.
      refine ⟨thread, fun other hne => ?_, ?_⟩
      · rw [hothers hne]
        exact hrest other (hholder ▸ hne)
      · rw [hnew, hfree, List.append_nil]
        show (s.leave held c).written ++ c.pending ++ s.ingress.items = s.accepted
        rw [← hflow, ← List.append_assoc, ← hheld, ← hholder]
        exact horder
    · -- Another thread may hold frames; this one held none.
      have hnone : held = [] := hheld.symm.trans (hrest thread (Ne.symm hholder))
      refine ⟨holder, fun other hne => ?_, ?_⟩
      · by_cases hother : other = thread
        · rw [hother, hnew]
          exact hfree
        · rw [hothers hother]
          exact hrest other hne
      · rw [hothers hholder]
        show (s.leave held c).written ++ c.pending ++ (s.drainers holder).held ++ s.ingress.items = _
        rw [← hflow, hnone, List.append_nil]
        exact horder
  · obtain ⟨segs, hrenders, hframes⟩ := h.disk
    obtain ⟨segs', hrenders', hext⟩ := hsegs segs hrenders
    refine ⟨segs', hrenders', ?_⟩
    rw [hext.frames, hframes]
    exact htaken.symm
  · exact sound_update (hsound _) fun other => (h.threads other).mono hgrow
  · intro began hmem
    refine (h.returned began hmem).mono ?_
    show s.written <+: (s.leave held c).written
    rw [htaken]
    exact List.prefix_append _ _

/-- A thread that holds nothing moves on. -/
lemma Exact.setThread (h : s.Exact C) (hheld : (s.drainers thread).held = []) {d : Drainer}
    (hfree : d.held = []) (hsound : d.Sound s.accepted (s.written ++ s.consumer.pending)) :
    (s.setThread thread d).Exact C := by
  have hsame (other : Nat) : ((s.setThread thread d).drainers other).held =
      (s.drainers other).held := by
    show (Function.update s.drainers thread d other).held = _
    by_cases hother : other = thread
    · rw [hother, Function.update_self, hfree, hheld]
    · rw [Function.update_of_ne hother]
  obtain ⟨holder, hrest, horder⟩ := h.order
  refine ⟨h.policy, ⟨holder, ?_, ?_⟩, h.disk, sound_update hsound h.threads, h.returned⟩
  · intro other hne
    rw [hsame]
    exact hrest other hne
  · rw [hsame]
    exact horder

/-- The condition: a thread takes frames out of the ingress queue only while no other thread holds
frames it took and has not appended yet. -/
def TakesAlone (s : RecordingHandles μ) : HandleStep → Prop
  | .flushTake thread _ => ∀ other, other ≠ thread → (s.drainers other).held = []
  | .shutdownTake thread expired =>
    expired = false → ∀ other, other ≠ thread → (s.drainers other).held = []
  | _ => True

lemma held_eq_nil (hthread : (s.drainers thread).held = [])
    (hothers : ∀ other, other ≠ thread → (s.drainers other).held = []) (other : Nat) :
    (s.drainers other).held = [] := by
  by_cases hother : other = thread
  · rw [hother, hthread]
  · exact hothers other hother

/-- A drain that finds the ingress queue empty has everything accepted so far before it. -/
lemma Exact.covered_of_empty (h : s.Exact C) (hquiet : ∀ thread, (s.drainers thread).held = [])
    {began : Nat} (hbegan : began ≤ s.accepted.length) (hempty : s.ingress.items.take 4096 = []) :
    Covered s.accepted began (s.written ++ s.consumer.pending) := by
  have hitems : s.ingress.items = [] := by
    rcases List.take_eq_nil_iff.mp hempty with h0 | hnil
    · cases h0
    · exact hnil
  have hall := h.quiescent hquiet
  rw [hitems, List.append_nil] at hall
  exact .of_all hbegan hall

/-- A drain that found nothing pending returns, with everything accepted before it began written. -/
lemma Exact.return (h : s.Exact C) {began : Nat} {held : List RawFrame}
    (hthread : s.drainers thread = .holding began held) (hempty : (s.extended held).pending = []) :
    Exact C { (s.leave held (s.extended held)).setThread thread .idle with
      returned := s.returned ++ [began] } := by
  obtain ⟨hpending, hnone⟩ : s.consumer.pending = [] ∧ held = [] := List.append_eq_nil_iff.mp hempty
  have hsound := h.threads thread
  rw [hthread] at hsound
  have hcovered := hsound.2 hnone
  rw [hpending, List.append_nil] at hcovered
  have hexact := h.leave (by rw [hthread]; rfl) (.refl C (s.extended held)) (d := .idle) rfl
    fun _ => trivial
  refine ⟨hexact.policy, hexact.order, hexact.disk, hexact.threads, ?_⟩
  intro began' hmem
  rcases List.mem_append.mp hmem with hmem | hmem
  · exact hexact.returned began' hmem
  · rw [List.mem_singleton.mp hmem]
    exact hcovered.mono (List.prefix_append _ _)

lemma Exact.step (h : s.Exact C) (x : HandleStep) (halone : s.TakesAlone x) :
    (s.step C x).Exact C := by
  cases x with
  | enqueue frame => exact h.enqueue frame
  | flushTake thread max =>
    rcases hthread : s.drainers thread with _ | _ | _ | _
    all_goals simp only [RecordingHandles.step, hthread]
    case idle => exact h.take (held_eq_nil (by rw [hthread]; rfl) halone) (fun _ => rfl) trivial
    all_goals exact h
  | flushWrite thread ticks =>
    rcases hthread : s.drainers thread with _ | ⟨max, held⟩ | _ | _
    all_goals simp only [RecordingHandles.step, hthread]
    case flushing =>
      exact h.leave (by rw [hthread]; rfl) (RecordingConsumer.writes_writeLoop ticks max 0 _)
        (d := .idle) rfl fun _ => trivial
    all_goals exact h
  | shutdownBegin thread =>
    rcases hthread : s.drainers thread with _ | _ | _ | _
    all_goals simp only [RecordingHandles.step, hthread]
    case idle => exact h.setThread (by rw [hthread]; rfl) rfl le_rfl
    all_goals exact h
  | shutdownTake thread expired =>
    rcases hthread : s.drainers thread with _ | _ | began | _
    all_goals simp only [RecordingHandles.step, hthread]
    case draining =>
      have hbegan := h.threads thread
      rw [hthread] at hbegan
      cases expired with
      | true => exact h.setThread (by rw [hthread]; rfl) rfl trivial
      | false =>
        have hquiet := held_eq_nil (by rw [hthread]; rfl) (halone rfl)
        exact h.take hquiet (fun _ => rfl) ⟨hbegan, h.covered_of_empty hquiet hbegan⟩
    all_goals exact h
  | shutdownWrite thread tick =>
    rcases hthread : s.drainers thread with _ | _ | _ | ⟨began, held⟩
    all_goals simp only [RecordingHandles.step, hthread]
    case holding =>
      have hbegan := h.threads thread
      rw [hthread] at hbegan
      rcases hpending : (s.extended held).pending with _ | ⟨frame, rest⟩
      · exact h.return hthread hpending
      · have hwrites := RecordingConsumer.writes_writeFront (C := C) hpending tick
        rcases hwrite : (s.extended held).writeFront C tick frame with ⟨c, e | ⟨⟩⟩
        · rw [hwrite] at hwrites
          simp only [hwrite]
          exact h.leave (by rw [hthread]; rfl) hwrites (d := .idle) rfl fun _ => trivial
        · rw [hwrite] at hwrites
          simp only [hwrite]
          exact h.leave (by rw [hthread]; rfl) hwrites (d := .draining began) rfl
            fun _ => hbegan.1
    all_goals exact h

lemma exact_new {cfg : PipelineConfig} {metadata : List (MetadataRecord μ)}
    {p : RecordingPipeline μ} (hopen : openWithMetadata C cfg metadata = .ok p)
    (hpolicy : cfg.overflow = .failEngine) (hcapacity : 0 < p.cfg.queueCapacity) :
    (new p hcapacity).Exact C := by
  have hcfg : p.cfg = cfg := by
    unfold openWithMetadata at hopen
    split_ifs at hopen
    obtain ⟨⟨⟩, -, h⟩ := bind_eq_ok.mp hopen
    cases h
    rfl
  have htold := History.told_start hopen
  refine ⟨?_, ⟨0, fun _ _ => rfl, rfl⟩, ⟨[], htold.renders, rfl⟩, fun _ => trivial,
    fun _ h => absurd h List.not_mem_nil⟩
  show p.cfg.overflow = .failEngine
  rw [hcfg]
  exact hpolicy

/-- **Clones of one handle**, in any interleaving in which a drainer takes frames only while no other
drainer holds any. Whenever no drainer holds frames, the written, the pending and the queued frames
are exactly the accepted ones, in acceptance order; a `shutdown_drain` that returned `Ok` has
written every frame accepted before it began; and what is written is what the segments hold. -/
theorem recording_exact {C : MetadataCodec μ} {cfg : PipelineConfig}
    {metadata : List (MetadataRecord μ)} {p : RecordingPipeline μ}
    (hopen : openWithMetadata C cfg metadata = .ok p)
    (hpolicy : cfg.overflow = .failEngine) (hcapacity : 0 < p.cfg.queueCapacity)
    {steps : List HandleStep} (halone : Guarded (step C) TakesAlone (new p hcapacity) steps)
    {s : RecordingHandles μ} (hrun : s = run (step C) (new p hcapacity) steps) :
    ((∀ thread, (s.drainers thread).held = []) →
        s.written ++ s.consumer.pending ++ s.ingress.items = s.accepted) ∧
      (∀ began ∈ s.returned, s.accepted.take began <+: s.written) ∧
      ∃ segs, Renders C s.consumer.pipeline segs ∧ segs.flatMap Segment.frames = s.written := by
  have hexact : s.Exact C := by
    rw [hrun]
    exact run_invariant (fun s x h => h.step x) (exact_new hopen hpolicy hcapacity) halone
  exact ⟨hexact.quiescent, fun began hmem => (hexact.returned began hmem).2, hexact.disk⟩

/-- A frame with a given number. -/
def numbered (seq : UInt64) : RawFrame := { RawSegmentReader.shortFrame with frameSeq := seq }

/-- A handle on a pipeline that was just opened. -/
def fresh : RecordingHandles Unit :=
  new ⟨smallConfig, .new 4 (Nat.succ_pos 3) .failEngine, none, none, 0, false, [], 0,
    0, 0, [.build ()], []⟩ (Nat.succ_pos _)

/-- No reading of a probe, and a segment that was just opened. -/
def calm : WriteTick := ⟨none, none, 0⟩

/-- One drainer with a producer in between: a flush and then a drain, which writes the rest. -/
def oneDrainer : List HandleStep :=
  [.enqueue (numbered 1), .enqueue (numbered 2), .flushTake 1 1, .enqueue (numbered 3),
    .flushWrite 1 fun _ => calm, .shutdownBegin 1, .shutdownTake 1 false, .shutdownWrite 1 calm,
    .shutdownTake 1 false, .shutdownWrite 1 calm, .shutdownTake 1 false, .shutdownWrite 1 calm]

/-- The drain of `oneDrainer` returns, with the three frames accepted before it began written. -/
theorem recording_exact_oneDrainer :
    ∃ s, s = run (step emptyCodec) fresh oneDrainer ∧ s.returned = [3] ∧
      (∀ began ∈ s.returned, s.accepted.take began <+: s.written) ∧
      s.written = [numbered 1, numbered 2, numbered 3] := by
  have hopen : openWithMetadata emptyCodec smallConfig [.build ()] = .ok fresh.consumer.pipeline := rfl
  have halone : Guarded (step emptyCodec) TakesAlone fresh oneDrainer := by
    refine ⟨trivial, trivial, ?_, trivial, trivial, trivial, ?_, trivial, ?_, trivial, ?_, trivial,
      trivial⟩
    · rintro (_ | _ | other) - <;> rfl
    all_goals rintro - (_ | _ | other) - <;> rfl
  refine ⟨_, rfl, ?_, (recording_exact hopen rfl (by decide) halone rfl).2.1, ?_⟩
  all_goals decide +kernel

/-- **Two drainers reorder, and a drain returns too early.** Two flushes take one frame each, and the
second one gets the consumer first: the frames are written the other way round. And a flush takes
the only frame, a drain finds both lists empty and returns `Ok`: the frame accepted before it began
is not written. -/
theorem two_drainers_reorder :
    (∃ s, s = run (step emptyCodec) fresh
        [.enqueue (numbered 1), .enqueue (numbered 2), .flushTake 1 1, .flushTake 2 1,
          .flushWrite 2 fun _ => calm, .flushWrite 1 fun _ => calm] ∧
      (∀ thread, (s.drainers thread).held = []) ∧
      s.accepted = [numbered 1, numbered 2] ∧ s.written = [numbered 2, numbered 1] ∧
      s.consumer.pending = [] ∧ s.ingress.items = []) ∧
    ∃ s, s = run (step emptyCodec) fresh
        [.enqueue (numbered 1), .flushTake 1 1, .shutdownBegin 2, .shutdownTake 2 false,
          .shutdownWrite 2 calm] ∧
      s.returned = [1] ∧ s.accepted = [numbered 1] ∧ s.written = [] := by
  refine ⟨⟨_, rfl, ?_, ?_, ?_, ?_, ?_⟩, _, rfl, ?_, ?_, ?_⟩
  · rintro (_ | _ | _ | thread) <;> rfl
  all_goals decide +kernel

end RecordingHandles

end Marketfeed
