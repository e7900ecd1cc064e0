import Marketfeed.Sinks.SpillRecovery

/-!
# A torn spill log

A crash may leave the last record of the log incomplete. `SpillWalSink::open` cuts such a record off;
a record that is complete and does not decode is an error, and then the file is left alone.

`SpillWal.openFile` is `open` with its effects on the file, in their order: `set_len` comes when the
scan meets the end of the file within a record, and not before.
-/

namespace Marketfeed

namespace SpillWal

variable {J : SpillJson} {cfg : SpillWalConfig}

/-! ## Opening, with the file -/

/-- Source: the loop of `scan_spill_file` with `set_len` -/
def scanLoopOn (J : SpillJson) (walLimitBytes fileLen : Nat) :
    (rounds recordStart recordCount : Nat) → Bytes → EStateM IoError Bytes Nat
  | 0, _, recordCount, _ => return recordCount
  | rounds + 1, recordStart, recordCount, rest =>
    match scanRecord J walLimitBytes fileLen recordStart rest with
    | .error e => throw e
    | .ok .done => return recordCount
    | .ok .torn => do
      modify fun file => file.take recordStart
      return recordCount
    | .ok (.record bodyLen rest) =>
      if recordCount + 1 < 2 ^ 64 then
        scanLoopOn J walLimitBytes fileLen rounds (recordStart + 5 + bodyLen) (recordCount + 1) rest
      else throw ⟨.invalidData, "spill record count exceeds usize::MAX"⟩

/-- Source: `scan_spill_file` -/
def scanFile (J : SpillJson) (walLimitBytes : Nat) : EStateM IoError Bytes Nat := do
  let file ← get
  if walLimitBytes < file.length then throw (overLimit file.length walLimitBytes)
  else match readMagic file with
    | .error e => throw e
    | .ok rest => scanLoopOn J walLimitBytes file.length rest.length walMagic.length 0 rest

/-- The file at the path exists; one that was just created is empty and gets its header.
Source: `SpillWalSink::open` -/
def openFile (J : SpillJson) (cfg : SpillWalConfig) : EStateM IoError Bytes SpillWalSink := do
  let limit := cfg.walLimitBytes.toNat
  let file ← get
  if limit < walMagic.length then
    throw ⟨.invalidInput, s!"spill WAL limit {limit} is smaller than MFSPILL2 header"⟩
  else if limit < file.length then throw (overLimit file.length limit)
  else
    set (if file.length = 0 then walMagic else file)
    let recordCount ← scanFile J limit
    let file ← get
    return .opened cfg recordCount file.length

variable {limit fileLen start : Nat}

lemma performs_scanLoopOn (rounds count : Nat) (bytes file : Bytes) :
    Performs (scanLoopOn J limit fileLen rounds start count bytes) file
      (scanLoop J limit fileLen rounds start count bytes >>= fun found =>
        .ok (found.1, cutTo found.2 file)) := by
  induction rounds generalizing start count bytes with
  | zero => exact rfl
  | succ rounds ih =>
    rw [scanLoopOn, scanLoop]
    rcases scanRecord J limit fileLen start bytes with e | _ | _ | ⟨bodyLen, rest⟩
    · exact ⟨rfl, rfl⟩
    · exact rfl
    · exact rfl
    · show Performs (if _ then _ else _) file ((if _ then _ else _) >>= _)
      split_ifs
      · exact ih _ _
      · exact ⟨rfl, rfl⟩

/-- **A failed scan changes nothing**, and one that succeeds cuts at most the last record. -/
theorem performs_scanFile (J : SpillJson) (limit : Nat) (file : Bytes) :
    Performs (scanFile J limit) file (scanSpillFile J file limit) := by
  rw [scanFile, scanSpillFile]
  refine Performs.get ?_
  split_ifs
  · exact ⟨rfl, rfl⟩
  rcases readMagic file with e | rest
  · exact ⟨rfl, rfl⟩
  have hloop : Performs (scanLoopOn J limit file.length rest.length walMagic.length 0 rest) file _ :=
    performs_scanLoopOn _ _ _ _
  show Performs _ _ (scanLoop J limit file.length rest.length walMagic.length 0 rest >>= fun _ => _)
  revert hloop
  rcases scanLoop J limit file.length rest.length walMagic.length 0 rest with e | ⟨total, _ | cut⟩
  all_goals exact id

/-- The header alone is a log without records. -/
lemma scanSpillFile_walMagic (h : walMagic.length ≤ limit) :
    scanSpillFile J walMagic limit = .ok (0, walMagic) := by
  rw [scanSpillFile, if_neg (not_lt.mpr h)]
  rfl

/-- **`open` answers as `openWal` does**, and leaves the file as it was when it fails. -/
theorem performs_openFile (J : SpillJson) (cfg : SpillWalConfig) (file : Bytes) :
    Performs (openFile J cfg) file
      (openWal J cfg (some file) >>= fun w => .ok (w.sink, w.file)) := by
  rw [openFile, openWal]
  refine Performs.get ?_
  dsimp only [Option.getD_some]
  split_ifs with hmagic hlong hempty
  · exact ⟨rfl, rfl⟩
  · exact ⟨rfl, rfl⟩
  · -- A log that was just given its header does not fail.
    rw [scanSpillFile_walMagic (not_lt.mp hmagic)]
    rcases Ends.cases (performs_scanFile J cfg.walLimitBytes.toNat walMagic) with
      ⟨n, file', hrun, hscan⟩ | ⟨e, file', -, hscan, -⟩
    · cases (scanSpillFile_walMagic (not_lt.mp hmagic)).symm.trans hscan
      exact .of_run (run_seq_of_ok hrun)
    · cases (scanSpillFile_walMagic (not_lt.mp hmagic)).symm.trans hscan
  · rcases Ends.cases (performs_scanFile J cfg.walLimitBytes.toNat file) with
      ⟨n, file', hrun, hscan⟩ | ⟨e, _, hrun, hscan, rfl⟩
    · rw [hscan]
      exact .of_run (run_seq_of_ok hrun)
    · rw [hscan]
      exact Ends.of_error ((run_seq_of_ok rfl).trans (run_seq_of_error hrun)) ⟨rfl, rfl⟩

/-! ## A cut anywhere -/

/-- Of records that start at an offset, so many end within the first `fileLen` octets, and no more. -/
structure Present (start : Nat) (rs : List (WalRecord J)) (fileLen k : Nat) : Prop where
  le_length : k ≤ rs.length
  present : start + (recordsBytes (rs.take k)).length ≤ fileLen
  next : k < rs.length → fileLen < start + (recordsBytes (rs.take (k + 1))).length

variable {rs : List (WalRecord J)}

lemma Present.cons {k : Nat} {r : WalRecord J}
    (h : Present (start + 5 + r.body.length) rs fileLen k) :
    Present start (r :: rs) fileLen (k + 1) := by
  obtain ⟨hle, hpresent, hnext⟩ := h
  refine ⟨Nat.succ_le_succ hle, ?_, fun hlt => ?_⟩
  · rw [List.take_succ_cons, recordsBytes_cons, List.length_append, WalRecord.length_bytes]
    omega
  · have hlast := hnext (Nat.lt_of_succ_lt_succ hlt)
    rw [List.take_succ_cons, recordsBytes_cons, List.length_append, WalRecord.length_bytes]
    omega

section Scan

variable {limit fileLen start rounds count : Nat}

/-- Within a record the file is torn. -/
lemma scanRecord_take {r : WalRecord J} (hr : r.Readable)
    (hlimit : walMagic.length + 5 + r.body.length ≤ limit) {m : Nat} (hpos : 0 < m)
    (hm : m < r.bytes.length) (hlen : fileLen = start + m) (hfile : start + 5 + r.body.length < 2 ^ 64) :
    scanRecord J limit fileLen start (r.bytes.take m) = .ok .torn := by
  have hbytes : r.bytes = r.item.tag :: (leBytes 4 r.body.length ++ r.body) := by
    simp [WalRecord.bytes, frame]
  obtain ⟨m, rfl⟩ := Nat.exists_eq_add_one.mpr hpos
  rw [WalRecord.length_bytes] at hm
  rw [hbytes, List.take_succ_cons, scanRecord]
  by_cases hshort : m < 4
  · have hsplit : splitExact 4 ((leBytes 4 r.body.length ++ r.body).take m) = none := by
      rw [splitExact, if_neg]
      rw [List.length_take]
      omega
    rw [hsplit]
  · have htake : (leBytes 4 r.body.length ++ r.body).take m =
        leBytes 4 r.body.length ++ r.body.take (m - 4) := by
      rw [List.take_append, length_leBytes, List.take_of_length_le]
      rw [length_leBytes]
      omega
    rw [htake, splitExact_append (length_leBytes 4 _)]
    dsimp only
    rw [r.leNat_length, (validateRecordLen_iff hlimit).mpr hr]
    show scanBody _ _ _ _ _ _ = _
    rw [scanBody, if_neg (by omega), if_pos (by omega)]

/-- **A scan over the front of a file of records**, by induction on the records: it passes over those
that are wholly present, and is torn within the next one or done before it. -/
theorem scanLoop_take (hrs : ∀ r ∈ rs, r.Readable) (hstart : walMagic.length ≤ start)
    (hlimit : start + (recordsBytes rs).length ≤ limit) (hmax : limit < 2 ^ 64)
    (hcount : count ≤ start) {n : Nat} (hn : n ≤ (recordsBytes rs).length)
    (hlen : fileLen = start + n) (hrounds : n ≤ rounds) :
    ∃ k cut, scanLoop J limit fileLen rounds start count ((recordsBytes rs).take n) =
        .ok (count + k, cut) ∧
      Present start rs fileLen k ∧
      cut.getD fileLen = start + (recordsBytes (rs.take k)).length := by
  induction rs generalizing rounds start count n with
  | nil =>
    obtain rfl : n = 0 := Nat.le_zero.mp hn
    refine ⟨0, none, ?_, ⟨le_rfl, hlen.ge, fun h => absurd h (Nat.lt_irrefl 0)⟩, hlen⟩
    cases rounds <;> rfl
  | cons r rs ih =>
    simp only [recordsBytes_cons, List.length_append, WalRecord.length_bytes] at hn hlimit
    by_cases hwithin : n < r.bytes.length
    · -- The cut falls before the end of this record.
      have htake : (recordsBytes (r :: rs)).take n = r.bytes.take n := by
        rw [recordsBytes_cons, List.take_append_of_le_length hwithin.le]
      have hpresent : Present start (r :: rs) fileLen 0 := by
        refine ⟨Nat.zero_le _, by rw [hlen]; exact Nat.le_add_right start n, fun _ => ?_⟩
        rw [hlen, List.take_succ_cons, List.take_zero, recordsBytes_cons, recordsBytes_nil,
          List.append_nil]
        omega
      rw [htake]
      rcases Nat.eq_zero_or_pos n with rfl | hpos
      · refine ⟨0, none, ?_, hpresent, hlen⟩
        cases rounds <;> rfl
      · obtain ⟨rounds, rfl⟩ := Nat.exists_eq_add_one.mpr (by omega : 0 < rounds)
        refine ⟨0, some start, ?_, hpresent, rfl⟩
        rw [scanLoop, scanRecord_take (hrs r List.mem_cons_self) (by omega) hpos hwithin hlen
          (by omega)]
        rfl
    · rw [WalRecord.length_bytes] at hwithin
      obtain ⟨rounds, rfl⟩ := Nat.exists_eq_add_one.mpr (by omega : 0 < rounds)
      have htake : (recordsBytes (r :: rs)).take n =
          r.bytes ++ (recordsBytes rs).take (n - r.bytes.length) := by
        rw [recordsBytes_cons, List.take_append, List.take_of_length_le]
        rw [WalRecord.length_bytes]
        omega
      have hlength := r.length_bytes
      obtain ⟨k, cut, hscan, hpresent, hcut⟩ :
          ∃ k cut, scanLoop J limit fileLen rounds (start + 5 + r.body.length) (count + 1)
              ((recordsBytes rs).take (n - r.bytes.length)) = .ok (count + 1 + k, cut) ∧
            Present (start + 5 + r.body.length) rs fileLen k ∧
            cut.getD fileLen = start + 5 + r.body.length + (recordsBytes (rs.take k)).length :=
        ih (fun r' hr' => hrs r' (List.mem_cons_of_mem r hr')) (by omega) (by omega) (by omega)
          (by omega) (by omega) (by omega)
      refine ⟨k + 1, cut, ?_, hpresent.cons, ?_⟩
      · rw [htake, scanLoop, scanRecord_readable (hrs r List.mem_cons_self) (by omega) (by omega)
          (by omega)]
        show (if count + 1 < 2 ^ 64 then _ else _) = _
        rw [if_pos (by omega), hscan, Nat.add_assoc, Nat.add_comm 1 k]
      · rw [hcut, List.take_succ_cons, recordsBytes_cons, List.length_append,
          WalRecord.length_bytes]
        omega

end Scan

/-! ## Opening a torn log -/

/-- Fewer records are a front of the file. -/
lemma walFile_take (rs : List (WalRecord J)) (k : Nat) :
    walFile (rs.take k) = (walFile rs).take (walFile (rs.take k)).length := by
  have hsplit : walFile rs = walFile (rs.take k) ++ recordsBytes (rs.drop k) := by
    rw [walFile, walFile, List.append_assoc, ← recordsBytes_append, List.take_append_drop]
  rw [hsplit, List.take_left]

/-- **A log that was cut anywhere behind its header** is opened with the records wholly present. -/
theorem openWal_take (hrs : ∀ r ∈ rs, r.Readable)
    (hlimit : (walFile rs).length ≤ cfg.walLimitBytes.toNat) {n : Nat} (hn : walMagic.length ≤ n)
    (hle : n ≤ (walFile rs).length) :
    ∃ k, Present walMagic.length rs n k ∧ openWal J cfg (some ((walFile rs).take n)) =
      .ok ⟨.opened cfg k (walFile (rs.take k)).length, walFile (rs.take k)⟩ := by
  have hcfg := cfg.walLimitBytes.toNat_lt
  obtain ⟨m, rfl⟩ := Nat.exists_eq_add_of_le hn
  rw [length_walFile] at hlimit hle
  have htake : (walFile rs).take (walMagic.length + m) = walMagic ++ (recordsBytes rs).take m := by
    rw [walFile, List.take_append, List.take_of_length_le hn, Nat.add_sub_cancel_left]
  have hrest : ((recordsBytes rs).take m).length = m := by
    rw [List.length_take]
    omega
  have hfile : (walMagic ++ (recordsBytes rs).take m).length = walMagic.length + m := by
    rw [List.length_append, hrest]
  obtain ⟨k, cut, hscan, hpresent, hcut⟩ :
      ∃ k cut, scanLoop J cfg.walLimitBytes.toNat (walMagic.length + m) m walMagic.length 0
          ((recordsBytes rs).take m) = .ok (0 + k, cut) ∧
        Present walMagic.length rs (walMagic.length + m) k ∧
        cut.getD (walMagic.length + m) = walMagic.length + (recordsBytes (rs.take k)).length :=
    scanLoop_take hrs le_rfl hlimit hcfg (Nat.zero_le _) (by omega) rfl le_rfl
  refine ⟨k, hpresent, ?_⟩
  rw [htake, openWal_header (by rw [hfile]; omega), hfile, hrest, hscan, Nat.zero_add]
  -- What is left of the file are the records in front of the cut.
  have hleft : cutTo cut (walMagic ++ (recordsBytes rs).take m) = walFile (rs.take k) := by
    have hfront := walFile_take rs k
    rw [length_walFile] at hfront
    rw [hfront, ← hcut]
    cases cut with
    | none => exact htake.symm
    | some s =>
      have hs : s = walMagic.length + (recordsBytes (rs.take k)).length := hcut
      have hpre := hpresent.present
      show (walMagic ++ (recordsBytes rs).take m).take s = _
      rw [← htake, List.take_take, Nat.min_eq_left (by omega)]
      rfl
  show Except.ok _ = _
  rw [hleft]

/-- **A torn log.** A file of records that are no larger than `MAX_RECORD_BYTES`, within the limit of
the log, is cut to any length that keeps its header. `open` succeeds, truncates the file to the end
of the last record wholly present, and hands out exactly those records. But if a complete record does
not decode, or has the tag of another, `open` fails and the octets of the file stay as they are. -/
theorem torn_wal (J : SpillJson) (cfg : SpillWalConfig) :
    (∀ rs : List (WalRecord J), (∀ r ∈ rs, r.Readable) →
      (walFile rs).length ≤ cfg.walLimitBytes.toNat →
      ∀ n, walMagic.length ≤ n → n ≤ (walFile rs).length →
        ∃ k sink, Present walMagic.length rs n k ∧ sink.recoveredRemaining = k ∧
          (openFile J cfg).run ((walFile rs).take n) = .ok sink (walFile (rs.take k)) ∧
          Yields J ⟨sink, walFile (rs.take k)⟩ ((rs.take k).map WalRecord.item)) ∧
    ∀ (frames : List (UInt8 × Bytes)) (tail : Bytes), (∀ f ∈ frames, f.2.length < 2 ^ 32) →
      (∃ f ∈ frames, ∃ e, decodeItem J f.1 f.2 = .error e) →
      ∃ e, (openFile J cfg).run (walMagic ++ (framesBytes frames ++ tail)) =
        .error e (walMagic ++ (framesBytes frames ++ tail)) := by
  constructor
  · intro rs hrs hlimit n hn hle
    obtain ⟨k, hpresent, hopen⟩ := openWal_take hrs hlimit hn hle
    have hfile := performs_openFile J cfg ((walFile rs).take n)
    rw [hopen] at hfile
    rcases Ends.cases hfile with ⟨_, _, hrun, ⟨⟩⟩ | ⟨_, _, -, ⟨⟩, -⟩
    · have hfront : (walFile (rs.take k)).length ≤ cfg.walLimitBytes.toNat := by
        have hpre := hpresent.present
        rw [length_walFile]
        omega
      have hyields := (LogInv.opened (fun r hr => hrs r (List.mem_of_mem_take hr)) hfront).yields
      rw [List.length_take_of_le hpresent.le_length] at hyields
      exact ⟨k, _, hpresent, rfl, hrun, hyields⟩
  · intro frames tail hshort hbad
    obtain ⟨f, hf, e, he⟩ := hbad
    have hfile := performs_openFile J cfg (walMagic ++ (framesBytes frames ++ tail))
    obtain ⟨e, hopen⟩ : ∃ e, openWal J cfg _ = .error e :=
      openWal_refused hshort ⟨f, hf, .inr ⟨e, he⟩⟩ tail
    rw [hopen] at hfile
    rcases Ends.cases hfile with ⟨_, _, -, ⟨⟩⟩ | ⟨_, _, hrun, ⟨⟩, rfl⟩
    exact ⟨e, hrun⟩

/-! ## A log of two events -/

/-- The body of the record of a system event without fields. -/
def bodyText (event : String) : String :=
  "\x7b\"kind\":\"System\",\"value\":\"" ++ event ++ "\"\x7d"

/-- The two events of the log. -/
def eventJson : SpillJson where
  toVec
    | .system .heartbeatMissed => .ok (utf8 (bodyText "HeartbeatMissed"))
    | .system .shutdownStarted => .ok (utf8 (bodyText "ShutdownStarted"))
    | _ => .error "not in the log"
  fromSlice := decodeAs [(bodyText "HeartbeatMissed", .system .heartbeatMissed),
    (bodyText "ShutdownStarted", .system .shutdownStarted)]
  fromSlice_toVec := by
    intro item body h
    split at h <;> cases h <;> decide +kernel

def missedRecord : WalRecord eventJson where
  item := .system .heartbeatMissed
  body := utf8 (bodyText "HeartbeatMissed")
  decodes := by decide +kernel
  short := by decide +kernel

def startedRecord : WalRecord eventJson where
  item := .system .shutdownStarted
  body := utf8 (bodyText "ShutdownStarted")
  decodes := by decide +kernel
  short := by decide +kernel

/-- A log of two records whose last octet is missing has one record. A complete record with the tag of
a batch makes `open` fail. -/
theorem torn_wal_example :
    let cfg := tightConfig 200 (by decide)
    let file := walFile [missedRecord, startedRecord]
    (∃ sink, (openFile eventJson cfg).run (file.take (file.length - 1)) =
        .ok sink (walFile [missedRecord]) ∧
      Yields eventJson ⟨sink, walFile [missedRecord]⟩ [.system .heartbeatMissed]) ∧
    let bad := walMagic ++ (framesBytes [(tagBatch, missedRecord.body)] ++ [])
    ∃ e, (openFile eventJson cfg).run bad = .error e bad := by
  intro cfg file
  obtain ⟨htorn, hbad⟩ := torn_wal eventJson cfg
  refine ⟨?_, hbad [(tagBatch, missedRecord.body)] [] (by decide +kernel)
    ⟨_, List.mem_singleton_self _, .io "spill record tag/body mismatch", by decide +kernel⟩⟩
  obtain ⟨k, sink, hpresent, -, hrun, hyields⟩ := htorn [missedRecord, startedRecord]
    (by decide +kernel) (by decide +kernel) (file.length - 1) (by decide +kernel) (by decide +kernel)
  have hle : k ≤ 2 := hpresent.le_length
  obtain rfl | rfl | rfl : k = 0 ∨ k = 1 ∨ k = 2 := by omega
  · exact absurd (hpresent.next (by decide)) (by decide +kernel)
  · exact ⟨sink, hrun, hyields⟩
  · exact absurd hpresent.present (by decide +kernel)

end SpillWal

end Marketfeed
