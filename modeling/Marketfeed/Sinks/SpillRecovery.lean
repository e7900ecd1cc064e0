import Marketfeed.Sinks.SpillCheckpoint

/-!
# What is recovered

The log is there so that what was spilled can be handed out again after a restart, until a checkpoint
says that it has been dealt with. `SpillLedger` says which items those are, in terms of items only.
-/

namespace Marketfeed

namespace SpillWal

/-- **The items the log stands for**: those of earlier sessions and those of this one. -/
structure SpillLedger where
  recovered : List SpillItem
  fresh : List SpillItem
deriving DecidableEq

namespace SpillLedger

/-- A spilled item is one more; a completed checkpoint covers the items of earlier sessions. -/
def note (l : SpillLedger) : SpillEvent → SpillLedger
  | .spilled item _ => { l with fresh := l.fresh ++ [item] }
  | .checkpointed => { l with recovered := [] }

/-- The items that are spilled and not covered by a completed checkpoint, in the order in which they
were appended. -/
def outstanding (l : SpillLedger) : List SpillItem := l.recovered ++ l.fresh

end SpillLedger

/-- The ledger of a session that found these items. -/
def ledgerOf (items : List SpillItem) (events : List SpillEvent) : SpillLedger :=
  events.foldl SpillLedger.note ⟨items, []⟩

/-- `popRecovered` hands out these items, one by one, and then none. -/
def Yields (J : SpillJson) : Spilling → List SpillItem → Prop
  | w, [] => ∃ w', (popRecovered J .clear).run w = .ok none w'
  | w, item :: items => ∃ w', (popRecovered J .clear).run w = .ok (some item) w' ∧ Yields J w' items

lemma Yields.unique {J : SpillJson} {w : Spilling} {items items' : List SpillItem}
    (h : Yields J w items) (h' : Yields J w items') : items = items' := by
  induction items generalizing w items' with
  | nil =>
    obtain ⟨w₁, hrun⟩ := h
    cases items' with
    | nil => rfl
    | cons item items' =>
      obtain ⟨w₁', hrun', -⟩ := h'
      cases hrun.symm.trans hrun'
  | cons item items ih =>
    obtain ⟨w₁, hrun, hrest⟩ := h
    cases items' with
    | nil =>
      obtain ⟨w₁', hrun'⟩ := h'
      cases hrun.symm.trans hrun'
    | cons item' items' =>
      obtain ⟨w₁', hrun', hrest'⟩ := h'
      cases hrun.symm.trans hrun'
      rw [ih hrest hrest']

/-! ## The parts of the file -/

/-- **The parts of the file**: the records handed out, those left, and those of this session. -/
structure LogInv (J : SpillJson) (cfg : SpillWalConfig) (w : Spilling)
    (popped left fresh : List (WalRecord J)) : Prop where
  file : w.file = walFile (popped ++ left ++ fresh)
  readable : ∀ r ∈ popped ++ left, r.Readable
  within : w.file.length ≤ cfg.walLimitBytes.toNat
  log : logState w.sink = {
    writer := some []
    walLimitBytes := cfg.walLimitBytes.toNat
    walBytes := w.file.length
    recoveredRemaining := left.length
    recoveryNextOffset := (walFile popped).length
    recoveryPrefixBytes := (walFile (popped ++ left)).length }

namespace LogInv

variable {J : SpillJson} {cfg : SpillWalConfig} {w w' : Spilling} {popped left fresh : List (WalRecord J)}

variable (h : LogInv J cfg w popped left fresh)

include h

lemma writer : w.sink.writer = some [] :=
  congrArg LogState.writer h.log

lemma walLimitBytes : w.sink.walLimitBytes = cfg.walLimitBytes.toNat :=
  congrArg LogState.walLimitBytes h.log

lemma walBytes : w.sink.walBytes = w.file.length :=
  congrArg LogState.walBytes h.log

lemma remaining : w.sink.recoveredRemaining = left.length :=
  congrArg LogState.recoveredRemaining h.log

lemma offset : w.sink.recoveryNextOffset = (walFile popped).length :=
  congrArg LogState.recoveryNextOffset h.log

lemma prefixBytes : w.sink.recoveryPrefixBytes = (walFile (popped ++ left)).length :=
  congrArg LogState.recoveryPrefixBytes h.log

omit h in
/-- An opened sink has everything left to hand out. -/
lemma opened {rs : List (WalRecord J)} (hrs : ∀ r ∈ rs, r.Readable)
    (hlimit : (walFile rs).length ≤ cfg.walLimitBytes.toNat) :
    LogInv J cfg ⟨.opened cfg rs.length (walFile rs).length, walFile rs⟩ [] rs [] where
  file := congrArg walFile (List.append_nil rs).symm
  readable := hrs
  within := hlimit
  log := by
    have hfront : (if rs.length = 0 then walMagic.length else (walFile rs).length) =
        (walFile rs).length := by
      split_ifs with hempty
      · obtain rfl := List.length_eq_zero_iff.mp hempty
        rfl
      · rfl
    exact congrArg (fun n => LogState.mk (some []) cfg.walLimitBytes.toNat (walFile rs).length
      rs.length walMagic.length n) hfront

lemma same (hsame : SameLog w w') : LogInv J cfg w' popped left fresh where
  file := hsame.1.trans h.file
  readable := h.readable
  within := by
    rw [hsame.1]
    exact h.within
  log := by
    rw [hsame.2, h.log, hsame.1]

omit h in
/-- One more record handed out. -/
lemma popped_next {r : WalRecord J} (h : LogInv J cfg w popped (r :: left) fresh) :
    ∃ w', (popRecovered J .clear).run w = .ok (some r.item) w' ∧
      LogInv J cfg w' (popped ++ [r]) left fresh := by
  have hfile : w.file = walFile popped ++ (r.bytes ++ recordsBytes (left ++ fresh)) := by
    rw [h.file]
    simp [walFile]
  have hlength : (walFile popped).length + (5 + r.body.length) ≤ w.file.length := by
    rw [hfile]
    simp only [List.length_append, WalRecord.length_bytes]
    omega
  have hmagic : walMagic.length ≤ (walFile popped).length := by
    rw [length_walFile]
    omega
  have hwithin := h.within
  have hlimit := cfg.walLimitBytes.toNat_lt
  have hmem : r ∈ popped ++ r :: left := List.mem_append_right _ List.mem_cons_self
  refine ⟨_, popRecovered_record (h.readable r hmem) (by rw [h.walLimitBytes]; omega) hfile h.offset
    (by rw [h.remaining]; exact Nat.succ_ne_zero _), ?_, ?_, h.within, ?_⟩
  · rw [h.file]
    simp
  · rw [List.append_assoc]
    exact h.readable
  · have hoffset : saturatingAdd w.sink.recoveryNextOffset (5 + r.body.length) =
        (walFile (popped ++ [r])).length := by
      rw [h.offset, saturatingAdd, Nat.min_eq_left (by omega), walFile, walFile,
        recordsBytes_append]
      simp only [List.length_append, recordsBytes_cons, recordsBytes_nil, WalRecord.length_bytes,
        List.length_nil]
      omega
    have hfront : popped ++ r :: left = popped ++ [r] ++ left := by simp
    show LogState.mk w.sink.writer w.sink.walLimitBytes w.sink.walBytes
      (w.sink.recoveredRemaining - 1) (saturatingAdd w.sink.recoveryNextOffset _)
      w.sink.recoveryPrefixBytes = _
    rw [hoffset, h.writer, h.walLimitBytes, h.walBytes, h.remaining, h.prefixBytes, hfront]
    rfl

/-- What is left is what is handed out. -/
lemma yields : Yields J w (left.map WalRecord.item) := by
  induction left generalizing w popped with
  | nil => exact ⟨w, popRecovered_none h.remaining _⟩
  | cons r left ih =>
    obtain ⟨w', hrun, hw'⟩ := h.popped_next
    exact ⟨w', hrun, ih hw'⟩

/-- A record of this session is appended. -/
lemma spilled {r : WalRecord J} (hspilled : Spilled r.item r.body w w')
    (hroom : w.file.length + 5 + r.body.length < 2 ^ 64) :
    LogInv J cfg w' popped left (fresh ++ [r]) := by
  obtain ⟨buffer, hbuffer, hfile⟩ := hspilled.file
  cases h.writer.symm.trans hbuffer
  have hlength : w'.file.length = w.file.length + (1 + 4 + r.body.length) := by
    rw [hfile, List.append_nil, List.length_append]
    exact congrArg (w.file.length + ·) r.length_bytes
  have hbytes : saturatingAdd w.sink.walBytes (1 + 4 + r.body.length) = w'.file.length := by
    rw [h.walBytes, saturatingAdd, Nat.min_eq_left (by omega), hlength]
  refine ⟨?_, h.readable, ?_, ?_⟩
  · rw [hfile, h.file]
    simp [walFile, WalRecord.bytes]
  · rw [← hbytes, ← h.walLimitBytes]
    exact hspilled.admits
  · rw [hspilled.log, hbytes, h.log]

/-- A completed checkpoint leaves the records of this session. -/
lemma completed (hdone : w.sink.recoveredRemaining = 0) (hreplaced : Replaced w w')
    (hlog : logState w'.sink = { logState w.sink with
      writer := some []
      walBytes := w'.file.length
      recoveryNextOffset := walMagic.length
      recoveryPrefixBytes := walMagic.length }) :
    LogInv J cfg w' [] [] fresh := by
  obtain rfl : left = [] := List.length_eq_zero_iff.mp (h.remaining ▸ hdone)
  obtain ⟨buffer, hbuffer, -, hfile⟩ := hreplaced
  cases h.writer.symm.trans hbuffer
  have hfresh : w'.file = walFile fresh := by
    have hold : w.file ++ [] = walFile (popped ++ []) ++ recordsBytes fresh := by
      rw [h.file]
      simp [walFile]
    rw [hfile, h.prefixBytes, hold, List.drop_left]
    rfl
  refine ⟨hfresh, by simp, ?_, ?_⟩
  · have hwithin := h.within
    rw [h.file, length_walFile] at hwithin
    rw [hfresh, length_walFile]
    simp only [List.append_nil, recordsBytes_append, List.length_append] at hwithin
    omega
  · rw [hlog, h.log]
    rfl

end LogInv

/-! ## Runs -/

/-- The reader's rule for what was appended. -/
def SpillEvent.Readable : SpillEvent → Prop
  | .spilled _ body => body.length ≤ maxRecordBytes
  | .checkpointed => True

variable (J : SpillJson)

/-- A file has fewer than `2 ^ 64` octets, also with a record of the item. -/
def FileHolds (w : Spilling) (item : SpillItem) : Prop :=
  ∀ body, J.toVec item = .ok body → w.file.length + 5 + body.length < 2 ^ 64

/-- **Every operation of the file system succeeds** in the call. -/
def Succeeds (w : Spilling) : SpillCall → Prop
  | .pushBatch batch answers => answers = .clear ∧ FileHolds J w (.batch batch)
  | .pushSystem event answers => answers = .clear ∧ FileHolds J w (.system event)
  | .popBatch | .popSystem => True
  | .popRecovered answers => answers = .clear
  | .checkpointRecovery answers => answers = .clear

/-- If a record of the item is admitted, it is not longer than the reader allows. -/
def AdmittedReadable (s : SpillWalSink) (item : SpillItem) : Prop :=
  ∀ body, J.toVec item = .ok body → body.length < 2 ^ 32 → Admits s body →
    body.length ≤ maxRecordBytes

/-- **The writer's rule is no weaker than the reader's** in the call: an item that does not fit into
memory is refused or not longer than the reader allows. -/
def ReadableCall (w : Spilling) : SpillCall → Prop
  | .pushBatch batch _ => batchRoom w.sink = false → AdmittedReadable J w.sink (.batch batch)
  | .pushSystem event _ => systemRoom w.sink = false → AdmittedReadable J w.sink (.system event)
  | _ => True

/-- The file, the ledger and what was appended say the same. -/
def Tracks (cfg : SpillWalConfig) (items : List SpillItem) (w : Spilling)
    (events : List SpillEvent) : Prop :=
  ∃ popped left fresh : List (WalRecord J), LogInv J cfg w popped left fresh ∧
    ledgerOf items events =
      ⟨(popped ++ left).map WalRecord.item, fresh.map WalRecord.item⟩ ∧
    ((∀ r ∈ fresh, r.Readable) ↔ ∀ e ∈ events, e.Readable)

section Step

variable {J : SpillJson} {cfg : SpillWalConfig} {items : List SpillItem} {w : Spilling}
  {events : List SpillEvent}

lemma ledgerOf_concat (items : List SpillItem) (events : List SpillEvent) (e : SpillEvent) :
    ledgerOf items (events ++ [e]) = (ledgerOf items events).note e :=
  List.foldl_concat _ _ _ _

lemma Tracks.same {w' : Spilling} (h : Tracks J cfg items w events) (hsame : SameLog w w') :
    Tracks J cfg items w' (events ++ []) := by
  obtain ⟨popped, left, fresh, hinv, hledger, hreadable⟩ := h
  rw [List.append_nil]
  exact ⟨popped, left, fresh, hinv.same hsame, hledger, hreadable⟩

variable {after : Spilling × List SpillEvent}

lemma Tracks.pushed (h : Tracks J cfg items w events) {item : SpillItem} {hasRoom : Bool}
    (hroom : FileHolds J w item) (hpushed : Pushed J item .clear w hasRoom after) :
    Tracks J cfg items after.1 (events ++ after.2) := by
  cases hpushed with
  | stored _ same => exact h.same same
  | spilled _ encoded spilled =>
    obtain ⟨popped, left, fresh, hinv, hledger, hreadable⟩ := h
    let r : WalRecord J := ⟨item, _, J.fromSlice_toVec encoded, spilled.short⟩
    refine ⟨popped, left, fresh ++ [r], hinv.spilled (r := r) spilled (hroom _ encoded), ?_, ?_⟩
    · have hfresh : (fresh ++ [r]).map WalRecord.item = fresh.map WalRecord.item ++ [item] :=
        List.map_append
      rw [ledgerOf_concat, hledger, hfresh]
      rfl
    · rw [List.forall_mem_append, List.forall_mem_append, hreadable, List.forall_mem_singleton,
        List.forall_mem_singleton]
      rfl
  | refused _ refused =>
    obtain ⟨popped, left, fresh, hinv, -⟩ := id h
    exact h.same (refused.clear rfl (by rw [hinv.writer]; rfl)).1

lemma Tracks.popRecovered (h : Tracks J cfg items w events) :
    Tracks J cfg items (endState (popRecovered J .clear) w) (events ++ []) := by
  obtain ⟨popped, left, fresh, hinv, hledger, hreadable⟩ := h
  rw [List.append_nil]
  cases left with
  | nil =>
    rw [endState_of_ok (popRecovered_none hinv.remaining _)]
    exact ⟨popped, [], fresh, hinv, hledger, hreadable⟩
  | cons r left =>
    obtain ⟨w', hrun, hinv'⟩ := hinv.popped_next
    rw [endState_of_ok hrun]
    refine ⟨popped ++ [r], left, fresh, hinv', ?_, hreadable⟩
    rw [hledger, List.append_assoc]
    rfl

lemma Tracks.checkpointed (h : Tracks J cfg items w events)
    (hcheckpointed : Checkpointed .clear w after) :
    Tracks J cfg items after.1 (events ++ after.2) := by
  obtain ⟨popped, left, fresh, hinv, hledger, hreadable⟩ := id h
  have hcover : ∀ {w' : Spilling}, LogInv J cfg w' [] [] fresh →
      Tracks J cfg items w' (events ++ [.checkpointed]) := by
    intro w' hinv'
    refine ⟨[], [], fresh, hinv', ?_, ?_⟩
    · rw [ledgerOf_concat, hledger]
      rfl
    · rw [hreadable, List.forall_mem_append, List.forall_mem_singleton]
      exact (and_iff_left trivial).symm
  cases hcheckpointed with
  | early => exact h.same (refl_of SameLog w)
  | idle done none =>
    -- There is no recovered prefix, so nothing was ever handed out.
    have hempty : popped ++ left = [] := by
      have hlength := hinv.prefixBytes.symm.trans none
      rw [length_walFile] at hlength
      rcases hlist : popped ++ left with _ | ⟨r, rs⟩
      · rfl
      · rw [hlist, recordsBytes_cons, List.length_append, WalRecord.length_bytes] at hlength
        omega
    obtain ⟨rfl, rfl⟩ := List.append_eq_nil_iff.mp hempty
    exact hcover hinv
  | failed _ clear =>
    have hshort := clear rfl [] hinv.writer
    have hlength : (walFile (popped ++ left)).length ≤ (w.file ++ []).length := by
      rw [hinv.file, length_walFile, List.append_nil, length_walFile, recordsBytes_append _ fresh,
        List.length_append]
      omega
    rw [hinv.prefixBytes] at hshort
    exact absurd hshort (not_lt.mpr hlength)
  | completed done replaced log => exact hcover (hinv.completed done replaced log)
  | closed _ _ reopen => exact absurd rfl reopen
  | unsynced _ _ _ syncParent => exact absurd rfl syncParent

/-- One call that the file system does not hinder. -/
lemma Tracks.step (h : Tracks J cfg items w events) {call : SpillCall} (hcall : Succeeds J w call) :
    Tracks J cfg items (step J w call).1 (events ++ (step J w call).2) := by
  cases call with
  | pushBatch batch answers =>
    obtain ⟨rfl, hroom⟩ := hcall
    exact h.pushed hroom (pushed_batch J batch .clear w)
  | pushSystem event answers =>
    obtain ⟨rfl, hroom⟩ := hcall
    exact h.pushed hroom (pushed_system J event .clear w)
  | popBatch | popSystem => exact h.same ⟨rfl, rfl⟩
  | popRecovered answers =>
    obtain rfl : answers = .clear := hcall
    exact h.popRecovered
  | checkpointRecovery answers =>
    obtain rfl : answers = .clear := hcall
    exact h.checkpointed (checkpointed_step J .clear w)

/-- A call appends only what the reader allows iff the rules agree in it. -/
lemma readable_pushed {item : SpillItem} {hasRoom : Bool} (hopen : w.sink.writer.isSome)
    (hpushed : Pushed J item .clear w hasRoom after) :
    (∀ e ∈ after.2, e.Readable) ↔ (hasRoom = false → AdmittedReadable J w.sink item) := by
  cases hpushed with
  | stored room => exact iff_of_true nofun fun hfull => nomatch room.symm.trans hfull
  | spilled full encoded spilled =>
    rw [List.forall_mem_singleton]
    refine ⟨fun h _ body' h' _ _ => ?_, fun h => h full _ encoded spilled.short spilled.admits⟩
    cases encoded.symm.trans h'
    exact h
  | refused _ refused =>
    refine iff_of_true nofun fun _ body hbody hshort hadmits => ?_
    exact absurd hadmits ((refused.clear rfl hopen).2 body hbody hshort)

lemma readable_step {call : SpillCall} (hopen : w.sink.writer.isSome) (hcall : Succeeds J w call) :
    (∀ e ∈ (step J w call).2, e.Readable) ↔ ReadableCall J w call := by
  cases call with
  | pushBatch batch answers =>
    obtain ⟨rfl, -⟩ := hcall
    exact readable_pushed hopen (pushed_batch J batch .clear w)
  | pushSystem event answers =>
    obtain ⟨rfl, -⟩ := hcall
    exact readable_pushed hopen (pushed_system J event .clear w)
  | popBatch | popSystem | popRecovered => exact iff_of_true nofun trivial
  | checkpointRecovery answers =>
    refine iff_of_true (fun e he => ?_) trivial
    change e ∈ (if _ then _ else _) at he
    split_ifs at he
    · obtain rfl := List.mem_singleton.mp he
      trivial
    · cases he

end Step

/-- **What a sink hands out that is opened on the same file.** Over any calls on an opened sink in
which no operation of the file system fails, opening the file again succeeds and yields exactly the
items that were spilled and not covered by a completed checkpoint, in the order in which they were
appended, iff no record was admitted that is longer than the reader allows. -/
theorem reopen_recovers_iff (J : SpillJson) (cfg : SpillWalConfig) {onDisk : Option Bytes}
    {w : Spilling} (hopen : openWal J cfg onDisk = .ok w) {items : List SpillItem}
    (hitems : Yields J w items) {calls : List SpillCall}
    (hcalls : Guarded (fun w call => (step J w call).1) (Succeeds J) w calls) :
    (∃ w', openWal J cfg (some (runLog (step J) w calls).1.file) = .ok w' ∧
        Yields J w' (ledgerOf items (runLog (step J) w calls).2).outstanding) ↔
      Guarded (fun w call => (step J w call).1) (ReadableCall J) w calls := by
  have hstart : Tracks J cfg items w [] := by
    obtain ⟨rs, hrs, rfl, hlimit⟩ := openWal_sound hopen
    have hinv := LogInv.opened hrs hlimit
    refine ⟨[], rs, [], hinv, ?_, iff_of_true nofun nofun⟩
    rw [hitems.unique hinv.yields]
    rfl
  have hstep : ∀ w call, (∃ events, Tracks J cfg items w events) → Succeeds J w call →
      ∃ events, Tracks J cfg items (step J w call).1 events :=
    fun _ _ ⟨_, h⟩ hcall => ⟨_, h.step hcall⟩
  have hreadable_iff : ∀ w call, (∃ events, Tracks J cfg items w events) → Succeeds J w call →
      ((∀ e ∈ (step J w call).2, e.Readable) ↔ ReadableCall J w call) := by
    rintro w call ⟨_, _, _, _, hinv, -⟩ hcall
    exact readable_step (by rw [hinv.writer]; rfl) hcall
  rw [← guarded_congr hstep hreadable_iff ⟨[], hstart⟩ hcalls, ← forall_mem_runLog]
  obtain ⟨popped, left, fresh, hinv, hledger, hreadable⟩ :=
    runLog_guarded (P := Tracks J cfg items) (fun _ _ _ h hcall => h.step hcall) hstart hcalls
  rw [← hreadable, hledger, hinv.file]
  have hwithin := hinv.within
  rw [hinv.file] at hwithin
  constructor
  · rintro ⟨w', hw', -⟩
    by_contra hlong
    simp only [not_forall] at hlong
    obtain ⟨r, hr, hbad⟩ := hlong
    obtain ⟨e, he⟩ := openWal_unreadable ⟨r, List.mem_append_right _ hr, hbad⟩
    cases he.symm.trans hw'
  · intro hfresh
    have hall : ∀ r ∈ popped ++ left ++ fresh, r.Readable :=
      List.forall_mem_append.mpr ⟨hinv.readable, hfresh⟩
    refine ⟨_, openWal_readable hall hwithin, ?_⟩
    have hyields := (LogInv.opened hall hwithin).yields
    rw [List.map_append] at hyields
    exact hyields

/-! ## A record that is too long for the reader -/

/-- An admitted record is accepted if no write fails. -/
lemma spilled_of_admits {J : SpillJson} {w : Spilling} {batch : EventBatch} {body : Bytes}
    (hopen : w.sink.writer.isSome) (hfull : batchRoom w.sink = false)
    (hbody : J.toVec (.batch batch) = .ok body) (hshort : body.length < 2 ^ 32)
    (hadmits : Admits w.sink body) :
    (step J w (.pushBatch batch .clear)).2 = [.spilled (.batch batch) body] ∧
      Spilled (.batch batch) body w (step J w (.pushBatch batch .clear)).1 := by
  have hpushed := pushed_batch J batch .clear w
  generalize step J w (.pushBatch batch .clear) = after at hpushed
  cases hpushed with
  | stored room => cases room.symm.trans hfull
  | spilled _ encoded spilled =>
    cases encoded.symm.trans hbody
    exact ⟨rfl, spilled⟩
  | refused _ refused => exact absurd hadmits ((refused.clear rfl hopen).2 body hbody hshort)

/-- One octet more than the reader allows. -/
def longBatch : EventBatch := numbered 67108865

def longBody : Bytes := List.replicate (67108865 : UInt64).toNat 0

lemma length_longBody : longBody.length = 67108865 := List.length_replicate

/-- A new log of up to 128 MiB, after a batch that fills the memory. -/
def roomySink : Spilling :=
  endState (pushBatch lengthJson (numbered 1) .clear)
    ⟨.opened (tightConfig 134217728 (by decide)) 0 walMagic.length, walMagic⟩

/-- **A log that cannot be opened again.** The record is accepted, every operation of the file system
succeeds, and the whole file is refused. -/
theorem long_record_not_recovered :
    openWal lengthJson (tightConfig 134217728 (by decide)) none =
        .ok ⟨.opened (tightConfig 134217728 (by decide)) 0 walMagic.length, walMagic⟩ ∧
      (step lengthJson roomySink (.pushBatch longBatch .clear)).2 =
        [.spilled (.batch longBatch) longBody] ∧
      ∃ e, openWal lengthJson (tightConfig 134217728 (by decide))
        (some (step lengthJson roomySink (.pushBatch longBatch .clear)).1.file) = .error e := by
  have hlength := length_longBody
  have hbody : lengthJson.toVec (.batch longBatch) = .ok longBody := rfl
  have hadmits : Admits roomySink.sink longBody := by
    rw [Admits, hlength]
    decide
  obtain ⟨hlog, hspilled⟩ := spilled_of_admits (w := roomySink) rfl rfl hbody (by omega) hadmits
  refine ⟨rfl, hlog, ?_⟩
  let r : WalRecord lengthJson := ⟨.batch longBatch, longBody, lengthJson.fromSlice_toVec hbody, by omega⟩
  obtain ⟨buffer, hbuffer, hfile⟩ := hspilled.file
  obtain rfl : [] = buffer := Option.some.inj hbuffer
  have hwal : (step lengthJson roomySink (.pushBatch longBatch .clear)).1.file = walFile [r] := by
    rw [hfile]
    simp [walFile, WalRecord.bytes]
    rfl
  rw [hwal]
  refine openWal_unreadable ⟨r, List.mem_singleton_self r, ?_⟩
  show ¬longBody.length ≤ maxRecordBytes
  rw [hlength]
  decide

/-- A session that deals with the old record and spills two. -/
def shortCalls : List SpillCall :=
  spillOne ++ [.checkpointRecovery .clear, .pushBatch (numbered 3) .clear]

/-- Both are handed out again, in their order. -/
theorem reopen_recovers_iff_short :
    ∃ w', openWal lengthJson (tightConfig 100 (by decide))
        (some (runLog (step lengthJson) reopenedSink shortCalls).1.file) = .ok w' ∧
      Yields lengthJson w' [.batch (numbered 2), .batch (numbered 3)] := by
  have hitems : Yields lengthJson reopenedSink [.batch (numbered 1)] := ⟨_, rfl, _, rfl⟩
  have houtstanding : (ledgerOf [.batch (numbered 1)]
      (runLog (step lengthJson) reopenedSink shortCalls).2).outstanding =
        [.batch (numbered 2), .batch (numbered 3)] := by decide +kernel
  have hholds : ∀ (w : Spilling) (n : UInt64), w.file.length + 5 + n.toNat < 2 ^ 64 →
      FileHolds lengthJson w (.batch (numbered n)) := by
    intro w n h body hbody
    obtain rfl : List.replicate n.toNat 0 = body := Except.ok.inj hbody
    rwa [List.length_replicate]
  have hreadable : ∀ (s : SpillWalSink) (n : UInt64), n.toNat ≤ maxRecordBytes →
      AdmittedReadable lengthJson s (.batch (numbered n)) := by
    intro s n h body hbody _ _
    obtain rfl : List.replicate n.toNat 0 = body := Except.ok.inj hbody
    rwa [List.length_replicate]
  rw [← houtstanding]
  refine (reopen_recovers_iff lengthJson _ openWal_oldFile hitems ?_).mpr ?_
  · exact ⟨rfl, ⟨rfl, hholds _ 7 (by decide +kernel)⟩, ⟨rfl, hholds _ 2 (by decide +kernel)⟩, rfl,
      ⟨rfl, hholds _ 3 (by decide +kernel)⟩, trivial⟩
  · exact ⟨trivial, fun _ => hreadable _ 7 (by decide), fun _ => hreadable _ 2 (by decide), trivial,
      fun _ => hreadable _ 3 (by decide), trivial⟩

end SpillWal

end Marketfeed
