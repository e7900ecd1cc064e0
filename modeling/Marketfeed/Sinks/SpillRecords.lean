import Marketfeed.Sinks.Spill

/-!
# The records of the spill log

A log file is its header and its records, one after the other. The scan of `openWal` accepts exactly
the files whose records decode and are short enough, and cuts off an incomplete last one.
-/

namespace Marketfeed

open SpillWal

namespace SpillWal

/-- A record: an item and the octets that decode to it. -/
structure WalRecord (J : SpillJson) where
  item : SpillItem
  body : Bytes
  decodes : J.fromSlice body = .ok item
  short : body.length < 2 ^ 32

variable {J : SpillJson}

def WalRecord.bytes (r : WalRecord J) : Bytes := frame r.item.tag r.body

/-- The reader's own rule for the length of a record. -/
def WalRecord.Readable (r : WalRecord J) : Prop := r.body.length ≤ maxRecordBytes

instance : DecidablePred (WalRecord.Readable (J := J)) := fun _ =>
  inferInstanceAs (Decidable (_ ≤ _))

/-- The octets of records, one after the other. -/
def recordsBytes (rs : List (WalRecord J)) : Bytes := rs.flatMap WalRecord.bytes

@[simp] lemma recordsBytes_nil : recordsBytes ([] : List (WalRecord J)) = [] := rfl

variable (r : WalRecord J)

@[simp] lemma recordsBytes_cons (rs : List (WalRecord J)) :
    recordsBytes (r :: rs) = r.bytes ++ recordsBytes rs := rfl

@[simp] lemma recordsBytes_append (rs rs' : List (WalRecord J)) :
    recordsBytes (rs ++ rs') = recordsBytes rs ++ recordsBytes rs' :=
  List.flatMap_append

@[simp] lemma WalRecord.length_bytes : r.bytes.length = 5 + r.body.length := by
  simp [bytes, frame]
  omega

lemma WalRecord.leNat_length : leNat (leBytes 4 r.body.length) = r.body.length :=
  leNat_leBytes r.short

lemma WalRecord.decodeItem_eq : decodeItem J r.item.tag r.body = .ok r.item := by
  rw [decodeItem, r.decodes]
  exact if_pos rfl

variable {limit : Nat}

/-- A record in a file within the limit passes the length check iff it is readable. -/
lemma validateRecordLen_iff {bodyLen : Nat} (h : walMagic.length + 5 + bodyLen ≤ limit) :
    validateRecordLen bodyLen limit = .ok () ↔ bodyLen ≤ maxRecordBytes := by
  unfold validateRecordLen
  dsimp only
  split_ifs with hlong
  · refine iff_of_false nofun ?_
    omega
  · refine iff_of_true rfl ?_
    omega

/-! ## The scan -/

section Scan

variable {limit fileLen start rounds count : Nat}

variable {tag : UInt8}

/-- A frame that is complete is scanned by its length. -/
lemma scanRecord_frame {body : Bytes} (hshort : body.length < 2 ^ 32) (rest : Bytes) :
    scanRecord J limit fileLen start (frame tag body ++ rest) =
      validateRecordLen body.length limit >>= fun _ =>
        scanBody J fileLen start tag body.length (body ++ rest) := by
  have hlength : splitExact 4 (leBytes 4 body.length ++ (body ++ rest)) =
      some (leBytes 4 body.length, body ++ rest) := splitExact_append (length_leBytes 4 _)
  have hbytes : frame tag body ++ rest = tag :: (leBytes 4 body.length ++ (body ++ rest)) := by
    simp [frame]
  rw [hbytes, scanRecord, hlength]
  dsimp only
  rw [leNat_leBytes hshort]

lemma scanRecord_readable {r : WalRecord J} (hr : r.Readable)
    (hlimit : walMagic.length + 5 + r.body.length ≤ limit)
    (hend : start + 5 + r.body.length ≤ fileLen) (hfile : fileLen < 2 ^ 64) (rest : Bytes) :
    scanRecord J limit fileLen start (r.bytes ++ rest) = .ok (.record r.body.length rest) := by
  have hbody : splitExact r.body.length (r.body ++ rest) = some (r.body, rest) :=
    splitExact_append rfl
  rw [WalRecord.bytes, scanRecord_frame r.short, (validateRecordLen_iff hlimit).mpr hr]
  show scanBody _ _ _ _ _ _ = _
  rw [scanBody, if_neg (by omega), if_neg (by omega), hbody]
  dsimp only
  rw [r.decodeItem_eq]

lemma of_decodeItem {body : Bytes} {item : SpillItem} (h : decodeItem J tag body = .ok item) :
    J.fromSlice body = .ok item ∧ tag = item.tag := by
  unfold decodeItem at h
  split at h
  · cases h
  · rename_i hdecodes
    split_ifs at h with htag
    cases h
    exact ⟨hdecodes, htag⟩

variable {bodyLen : Nat}

lemma le_of_validateRecordLen (h : validateRecordLen bodyLen limit = .ok ()) :
    bodyLen ≤ maxRecordBytes := by
  unfold validateRecordLen at h
  dsimp only at h
  split_ifs at h
  omega

/-- The octets of complete frames, whatever is in them. -/
def framesBytes (frames : List (UInt8 × Bytes)) : Bytes := frames.flatMap fun f => frame f.1 f.2

/-- A complete frame is passed over, and then it decodes and is short enough, or the scan fails. -/
lemma scanRecord_complete {body : Bytes} (hshort : body.length < 2 ^ 32)
    (hend : start + 5 + body.length ≤ fileLen) (rest : Bytes) :
    (∃ item, decodeItem J tag body = .ok item ∧ body.length ≤ maxRecordBytes ∧
        scanRecord J limit fileLen start (frame tag body ++ rest) = .ok (.record body.length rest)) ∨
      ∃ e, scanRecord J limit fileLen start (frame tag body ++ rest) = .error e := by
  rw [scanRecord_frame hshort]
  rcases hvalid : validateRecordLen body.length limit with e | ⟨⟩
  · exact .inr ⟨e, rfl⟩
  · show (∃ item, _ ∧ _ ∧ scanBody _ _ _ _ _ _ = _) ∨ ∃ e, scanBody _ _ _ _ _ _ = _
    rw [scanBody]
    split_ifs with hwide hbeyond
    · exact .inr ⟨_, rfl⟩
    · omega
    · rw [splitExact_append rfl]
      dsimp only
      rcases decodeItem J tag body with e | item
      · exact .inr ⟨_, rfl⟩
      · exact .inl ⟨item, rfl, le_of_validateRecordLen hvalid, rfl⟩

variable {bytes : Bytes}

/-- A complete body was found. -/
lemma of_scanBody {bodyLen' : Nat} {rest : Bytes}
    (h : scanBody J fileLen start tag bodyLen bytes = .ok (.record bodyLen' rest)) :
    ∃ item body, J.fromSlice body = .ok item ∧ tag = item.tag ∧ bytes = body ++ rest ∧
      body.length = bodyLen ∧ bodyLen' = bodyLen := by
  unfold scanBody at h
  split_ifs at h
  · cases h
  rcases hbody : splitExact bodyLen bytes with _ | ⟨body, rest'⟩
  · rw [hbody] at h
    cases h
  rw [hbody] at h
  dsimp only at h
  rcases hitem : decodeItem J tag body with e | item
  · rw [hitem] at h
    cases h
  rw [hitem] at h
  cases h
  obtain ⟨hdecodes, htag⟩ := of_decodeItem hitem
  obtain ⟨hbytes, hlength⟩ := of_splitExact hbody
  exact ⟨item, body, hdecodes, htag, hbytes, hlength, rfl⟩

/-- A complete record was found: it is readable. -/
lemma of_scanRecord {rest : Bytes}
    (h : scanRecord J limit fileLen start bytes = .ok (.record bodyLen rest)) :
    ∃ r : WalRecord J, r.Readable ∧ bytes = r.bytes ++ rest ∧ bodyLen = r.body.length := by
  rcases bytes with _ | ⟨tag, bytes⟩
  · cases h
  rw [scanRecord] at h
  rcases hlength : splitExact 4 bytes with _ | ⟨length, bytes'⟩
  · rw [hlength] at h
    cases h
  rw [hlength] at h
  obtain ⟨⟨⟩, hvalid, hscan⟩ := bind_eq_ok.mp h
  obtain ⟨item, body, hdecodes, rfl, rfl, hbody, rfl⟩ := of_scanBody hscan
  obtain ⟨rfl, hfour⟩ := of_splitExact hlength
  have hshort : body.length < 2 ^ 32 := by
    have hlt := leNat_lt length
    rw [hfour] at hlt
    rw [hbody]
    exact hlt
  refine ⟨⟨item, body, hdecodes, hshort⟩, ?_, ?_, hbody.symm⟩
  · rw [WalRecord.Readable, hbody]
    exact le_of_validateRecordLen hvalid
  · have hfield : leBytes 4 body.length = length := by rw [hbody, ← hfour, leBytes_leNat]
    simp [WalRecord.bytes, frame, hfield]

/-- The scan is done only at the end of the file. -/
lemma eq_nil_of_scanRecord (h : scanRecord J limit fileLen start bytes = .ok .done) :
    bytes = [] := by
  rcases bytes with _ | ⟨tag, bytes⟩
  · rfl
  rw [scanRecord] at h
  rcases hlength : splitExact 4 bytes with _ | ⟨length, bytes'⟩
  · rw [hlength] at h
    cases h
  rw [hlength] at h
  obtain ⟨⟨⟩, -, hscan⟩ := bind_eq_ok.mp h
  unfold scanBody at hscan
  split_ifs at hscan
  · cases hscan
  split at hscan
  · cases hscan
  · split at hscan <;> cases hscan

/-- **A scan over readable records** counts them. -/
theorem scanLoop_readable {rs : List (WalRecord J)} (hrs : ∀ r ∈ rs, r.Readable)
    (hstart : walMagic.length ≤ start) (hlen : start + (recordsBytes rs).length = fileLen)
    (hlimit : fileLen ≤ limit) (hfile : fileLen < 2 ^ 64) (hcount : count ≤ start)
    (hrounds : (recordsBytes rs).length ≤ rounds) :
    scanLoop J limit fileLen rounds start count (recordsBytes rs) = .ok (count + rs.length, none) := by
  induction rs generalizing rounds start count with
  | nil => cases rounds <;> rfl
  | cons r rs ih =>
    simp only [recordsBytes_cons, List.length_append, WalRecord.length_bytes] at hlen hrounds
    obtain ⟨rounds, rfl⟩ := Nat.exists_eq_add_one.mpr (by omega : 0 < rounds)
    rw [scanLoop, recordsBytes_cons, scanRecord_readable (hrs r List.mem_cons_self) (by omega)
      (by omega) hfile]
    show (if count + 1 < 2 ^ 64 then _ else _) = _
    rw [if_pos (by omega), ih (fun r' hr' => hrs r' (List.mem_cons_of_mem r hr')) (by omega)
      (by omega) (by omega) (by omega), List.length_cons]
    congr 2
    omega

/-- **A scan over complete frames of which one is too long or does not decode** fails there, or
before. -/
theorem scanLoop_refused {frames : List (UInt8 × Bytes)} (hshort : ∀ f ∈ frames, f.2.length < 2 ^ 32)
    (hbad : ∃ f ∈ frames, maxRecordBytes < f.2.length ∨ ∃ e, decodeItem J f.1 f.2 = .error e)
    (tail : Bytes) (hend : start + (framesBytes frames).length ≤ fileLen)
    (hrounds : (framesBytes frames).length ≤ rounds) :
    ∃ e, scanLoop J limit fileLen rounds start count (framesBytes frames ++ tail) = .error e := by
  induction frames generalizing rounds start count with
  | nil =>
    obtain ⟨f, hf, -⟩ := hbad
    cases hf
  | cons f frames ih =>
    have hbytes : framesBytes (f :: frames) = frame f.1 f.2 ++ framesBytes frames := rfl
    have hlength : (frame f.1 f.2).length = 5 + f.2.length := by
      simp [frame]
      omega
    rw [hbytes, List.length_append, hlength] at hend hrounds
    obtain ⟨rounds, rfl⟩ := Nat.exists_eq_add_one.mpr (by omega : 0 < rounds)
    have hf := hshort f List.mem_cons_self
    rw [hbytes, List.append_assoc, scanLoop]
    rcases scanRecord_complete (J := J) hf (by omega : start + 5 + f.2.length ≤ fileLen)
      (framesBytes frames ++ tail) with ⟨item, hitem, hle, hrecord⟩ | ⟨e, he⟩
    · -- It is passed over, so the bad one comes later.
      have hlater : ∃ g ∈ frames, maxRecordBytes < g.2.length ∨ ∃ e, decodeItem J g.1 g.2 = .error e := by
        obtain ⟨g, hg, hwrong⟩ := hbad
        rcases List.mem_cons.mp hg with rfl | hg
        · rcases hwrong with hlong | ⟨e, he⟩
          · omega
          · cases hitem.symm.trans he
        · exact ⟨g, hg, hwrong⟩
      rw [hrecord]
      show ∃ e, (if count + 1 < 2 ^ 64 then _ else _) = _
      split_ifs
      · exact ih (fun g hg => hshort g (List.mem_cons_of_mem f hg)) hlater (by omega) (by omega)
      · exact ⟨_, rfl⟩
    · rw [he]
      exact ⟨e, rfl⟩

/-- **A scan that succeeds has passed over readable records**, up to the end of the file or to where
it is cut. -/
theorem of_scanLoop {total : Nat} {cut : Option Nat} (hrounds : bytes.length ≤ rounds)
    (h : scanLoop J limit fileLen rounds start count bytes = .ok (total, cut)) :
    ∃ rs : List (WalRecord J), (∀ r ∈ rs, r.Readable) ∧ total = count + rs.length ∧
      recordsBytes rs <+: bytes ∧
      cut.elim (bytes = recordsBytes rs) fun n => n = start + (recordsBytes rs).length := by
  induction rounds generalizing bytes start count with
  | zero =>
    cases h
    obtain rfl := List.length_eq_zero_iff.mp (Nat.le_zero.mp hrounds)
    exact ⟨[], nofun, rfl, List.prefix_refl _, rfl⟩
  | succ rounds ih =>
    rw [scanLoop] at h
    obtain ⟨found, hfound, h⟩ := bind_eq_ok.mp h
    cases found with
    | done =>
      cases h
      obtain rfl := eq_nil_of_scanRecord hfound
      exact ⟨[], nofun, rfl, List.prefix_refl _, rfl⟩
    | torn =>
      cases h
      exact ⟨[], nofun, rfl, List.nil_prefix, rfl⟩
    | record bodyLen rest =>
      obtain ⟨r, hr, rfl, rfl⟩ := of_scanRecord hfound
      dsimp only at h
      split_ifs at h
      have hlength : rest.length ≤ rounds := by
        rw [List.length_append, WalRecord.length_bytes] at hrounds
        omega
      obtain ⟨rs, hrs, rfl, hfront, hcut⟩ := ih hlength h
      refine ⟨r :: rs, ?_, ?_, ?_, ?_⟩
      · exact List.forall_mem_cons.mpr ⟨hr, hrs⟩
      · rw [List.length_cons]
        omega
      · exact (List.prefix_append_right_inj _).mpr hfront
      · cases cut with
        | none => exact congrArg (r.bytes ++ ·) hcut
        | some n =>
          show n = start + (recordsBytes (r :: rs)).length
          rw [recordsBytes_cons, List.length_append, WalRecord.length_bytes]
          have hn : n = start + 5 + r.body.length + (recordsBytes rs).length := hcut
          omega

end Scan

/-! ## Opening -/

lemma of_readMagic {file rest : Bytes} (h : readMagic file = .ok rest) : file = walMagic ++ rest := by
  unfold readMagic at h
  rcases hsplit : splitExact walMagic.length file with _ | ⟨magic, rest'⟩
  · rw [hsplit] at h
    cases h
  rw [hsplit] at h
  dsimp only at h
  split_ifs at h with hmagic
  cases h
  rw [← hmagic]
  exact (of_splitExact hsplit).1

lemma readMagic_append (rest : Bytes) : readMagic (walMagic ++ rest) = .ok rest := by
  rw [readMagic, splitExact_append rfl]
  exact if_pos rfl

/-- A file of records. -/
def walFile (rs : List (WalRecord J)) : Bytes := walMagic ++ recordsBytes rs

lemma length_walFile (rs : List (WalRecord J)) :
    (walFile rs).length = walMagic.length + (recordsBytes rs).length :=
  List.length_append

/-- **A file that is accepted consists of readable records.** -/
theorem of_scanSpillFile {file file' : Bytes} {recordCount : Nat}
    (h : scanSpillFile J file limit = .ok (recordCount, file')) :
    ∃ rs : List (WalRecord J), (∀ r ∈ rs, r.Readable) ∧ recordCount = rs.length ∧
      file' = walFile rs ∧ file'.length ≤ limit := by
  unfold scanSpillFile at h
  split_ifs at h with hlimit
  obtain ⟨rest, hrest, h⟩ := bind_eq_ok.mp h
  obtain rfl := of_readMagic hrest
  obtain ⟨⟨total, cut⟩, hscan, h⟩ := bind_eq_ok.mp h
  obtain ⟨rs, hrs, hcount, hfront, hcut⟩ := of_scanLoop le_rfl hscan
  have hfile : file' = walFile rs := by
    cases h
    cases cut with
    | none => exact congrArg (walMagic ++ ·) hcut
    | some n =>
      obtain ⟨tail, rfl⟩ := hfront
      obtain rfl : n = walMagic.length + (recordsBytes rs).length := hcut
      show (walMagic ++ (recordsBytes rs ++ tail)).take _ = _
      rw [← List.append_assoc, ← List.length_append, List.take_left]
      rfl
  refine ⟨rs, hrs, ?_, hfile, ?_⟩
  · cases h
    exact hcount.trans (Nat.zero_add _)
  · have hle := hfront.length_le
    rw [hfile, length_walFile]
    rw [List.length_append] at hlimit
    omega

variable {w : Spilling}

/-- A file that is accepted consists of readable records. -/
lemma openWal_sound {cfg : SpillWalConfig} {onDisk : Option Bytes}
    (h : openWal J cfg onDisk = .ok w) :
    ∃ rs : List (WalRecord J), (∀ r ∈ rs, r.Readable) ∧
      w = ⟨.opened cfg rs.length (walFile rs).length, walFile rs⟩ ∧
      (walFile rs).length ≤ cfg.walLimitBytes.toNat := by
  unfold openWal at h
  dsimp only at h
  split_ifs at h
  all_goals
    obtain ⟨⟨recordCount, file⟩, hscan, h⟩ := bind_eq_ok.mp h
    obtain ⟨rs, hrs, rfl, rfl, hlimit⟩ := of_scanSpillFile hscan
    cases h
    exact ⟨rs, hrs, rfl, hlimit⟩

section Reopen

variable {cfg : SpillWalConfig} {rs : List (WalRecord J)}

/-- What a scan leaves of the file. -/
def cutTo (cut : Option Nat) (file : Bytes) : Bytes := cut.elim file file.take

/-- A file with the header of a log is scanned behind it. -/
lemma openWal_header {rest : Bytes} (hlimit : (walMagic ++ rest).length ≤ cfg.walLimitBytes.toNat) :
    openWal J cfg (some (walMagic ++ rest)) =
      scanLoop J cfg.walLimitBytes.toNat (walMagic ++ rest).length rest.length walMagic.length 0
          rest >>= fun found =>
        .ok ⟨.opened cfg found.1 (cutTo found.2 (walMagic ++ rest)).length,
          cutTo found.2 (walMagic ++ rest)⟩ := by
  have hmagic : walMagic.length = 9 := rfl
  have hlength : (walMagic ++ rest).length = 9 + rest.length := List.length_append
  rw [openWal]
  dsimp only [Option.getD_some]
  rw [if_neg (by omega), if_neg (by omega), if_neg (by omega), scanSpillFile, if_neg (by omega),
    readMagic_append]
  show ((scanLoop J cfg.walLimitBytes.toNat _ _ _ _ rest >>= fun _ => _) >>= fun _ => _) = _
  rcases scanLoop J cfg.walLimitBytes.toNat (walMagic ++ rest).length rest.length walMagic.length 0
    rest with e | ⟨total, cut⟩
  · rfl
  · cases cut <;> rfl

/-- **A file of records is accepted if they are all readable**, and none is lost. -/
theorem openWal_readable (hrs : ∀ r ∈ rs, r.Readable)
    (hlimit : (walFile rs).length ≤ cfg.walLimitBytes.toNat) :
    openWal J cfg (some (walFile rs)) =
      .ok ⟨.opened cfg rs.length (walFile rs).length, walFile rs⟩ := by
  have hscan := scanLoop_readable hrs le_rfl (length_walFile rs).symm hlimit
    (lt_of_le_of_lt hlimit cfg.walLimitBytes.toNat_lt) (Nat.zero_le _) le_rfl
  rw [walFile] at hlimit hscan
  rw [walFile, openWal_header hlimit, hscan, Nat.zero_add]
  rfl

/-- **Opening twice is opening once**, whatever was on disk: what `open` leaves there opens again to
the same sink, without a change. -/
theorem openWal_twice (J : SpillJson) (cfg : SpillWalConfig) (onDisk : Option Bytes) :
    (openWal J cfg onDisk >>= fun w => openWal J cfg (some w.file)) = openWal J cfg onDisk := by
  rcases h : openWal J cfg onDisk with e | w
  · rfl
  · obtain ⟨rs, hrs, rfl, hlimit⟩ := openWal_sound h
    exact openWal_readable hrs hlimit

/-- **A complete record that is too long or does not decode** and the file is refused. -/
theorem openWal_refused {frames : List (UInt8 × Bytes)} (hshort : ∀ f ∈ frames, f.2.length < 2 ^ 32)
    (hbad : ∃ f ∈ frames, maxRecordBytes < f.2.length ∨ ∃ e, decodeItem J f.1 f.2 = .error e)
    (tail : Bytes) :
    ∃ e, openWal J cfg (some (walMagic ++ (framesBytes frames ++ tail))) = .error e := by
  by_cases hlimit : (walMagic ++ (framesBytes frames ++ tail)).length ≤ cfg.walLimitBytes.toNat
  · obtain ⟨e, he⟩ : ∃ e, scanLoop J cfg.walLimitBytes.toNat
        (walMagic ++ (framesBytes frames ++ tail)).length (framesBytes frames ++ tail).length
        walMagic.length 0 (framesBytes frames ++ tail) = .error e := by
      refine scanLoop_refused hshort hbad tail ?_ ?_
      all_goals
        simp only [List.length_append]
        omega
    rw [openWal_header hlimit, he]
    exact ⟨e, rfl⟩
  · rw [openWal]
    dsimp only [Option.getD_some]
    split_ifs with hsmall
    · exact ⟨_, rfl⟩
    · exact ⟨_, rfl⟩
    · exact absurd hlimit (by omega)
    · exact absurd hlimit (by omega)

/-- **One record that is not readable** and the whole file is refused. -/
theorem openWal_unreadable (hrs : ∃ r ∈ rs, ¬r.Readable) :
    ∃ e, openWal J cfg (some (walFile rs)) = .error e := by
  obtain ⟨r, hr, hlong⟩ := hrs
  have hbytes : recordsBytes rs = framesBytes (rs.map fun r => (r.item.tag, r.body)) ++ [] := by
    rw [List.append_nil, framesBytes, List.flatMap_map]
    rfl
  rw [walFile, hbytes]
  refine openWal_refused ?_ ?_ []
  · simpa only [List.forall_mem_map] using fun r _ => r.short
  · exact ⟨_, List.mem_map_of_mem hr, .inl (not_le.mp hlong)⟩

end Reopen

/-! ## Handing out -/

lemma reads_readOneItem {r : WalRecord J} (hr : r.Readable)
    (hlimit : walMagic.length + 5 + r.body.length ≤ limit) :
    Reads (readOneItem J limit) r.bytes (r.item, 5 + r.body.length) := by
  rw [WalRecord.bytes, frame, List.append_assoc]
  refine Reads.seq (Reads.takeExact eofError rfl) ?_
  refine Reads.seq (Reads.takeExact eofError (length_leBytes 4 _)) ?_
  rw [r.leNat_length]
  show Reads _ ([] ++ r.body) _
  refine Reads.seq (Reads.lift ((validateRecordLen_iff hlimit).mpr hr)) ?_
  refine Reads.last (Reads.takeExact eofError rfl) ?_
  rw [List.headD_cons, r.decodeItem_eq]
  exact Reads.pure

/-- **The record at the recovery offset is the next one handed out.** -/
theorem popRecovered_record {before after : Bytes} {r : WalRecord J} (hr : r.Readable)
    (hlimit : walMagic.length + 5 + r.body.length ≤ w.sink.walLimitBytes)
    (hfile : w.file = before ++ (r.bytes ++ after))
    (hoffset : w.sink.recoveryNextOffset = before.length) (hleft : w.sink.recoveredRemaining ≠ 0) :
    (popRecovered J .clear).run w = .ok (some r.item) { w with sink := { w.sink with
      recoveryNextOffset := saturatingAdd w.sink.recoveryNextOffset (5 + r.body.length)
      recoveredRemaining := w.sink.recoveredRemaining - 1 } } := by
  have hread : readAt J w none = .ok (r.item, 5 + r.body.length) := by
    rw [readAt, hfile, hoffset, List.drop_left, reads_readOneItem hr hlimit]
    rfl
  rw [popRecovered, run_get_seq, if_neg hleft]
  dsimp only [ReadAnswers.clear]
  rw [hread]
  rfl

lemma popRecovered_none (hdone : w.sink.recoveredRemaining = 0) (answers : ReadAnswers) :
    (popRecovered J answers).run w = .ok none w := by
  rw [popRecovered, run_get_seq, if_pos hdone]
  rfl

end SpillWal

end Marketfeed
