import Marketfeed.View.Replay

/-!
# Pages of a recorded file

Model of the paging in `crates/daemon/src/view/replay.rs` over the length-prefixed files that
`crates/sinks/src/protobuf_file.rs` appends to. Every page is read by a scan of the whole file, and the
scan fails at the first record it cannot read.
-/

namespace Marketfeed.Replay

/-- `serde_json` on values. -/
structure JsonText where
  toVec : Json → List UInt8
  fromSlice : List UInt8 → Except String Json

def maxReplayRecordBytes : Nat := 8 * 1024 * 1024

/-- The next record and what follows it.
Source: the reads in `scan_length_prefixed` -/
def nextRecord (bytes : List UInt8) : Except String (Option (List UInt8 × List UInt8)) :=
  if bytes = [] then .ok none
  else match splitExact 4 bytes with
  | none => .error "truncated mfne length prefix: failed to fill whole buffer"
  | some (length, rest) =>
    if leNat length > maxReplayRecordBytes then
      .error ("replay record exceeds " ++ toString maxReplayRecordBytes ++ " bytes")
    else match splitExact (leNat length) rest with
    | none => .error "truncated mfne record body: failed to fill whole buffer"
    | some parts => .ok (some parts)

/-- Source: the `saturating_add`s on `u64` -/
def saturating (n : Nat) : Nat := min n (2 ^ 64 - 1)

def collectPageEntry (envelope : Json) (index offset limit : Nat) : List TapeJson :=
  if offset ≤ index ∧ index < saturating (offset + limit) then
    (envelopeToTapeEntry envelope).toList
  else []

variable (J : JsonText)

/-- Source: the loop of `scan_length_prefixed`, for at most so many rounds -/
def scanLengthPrefixed (offset limit : Nat) : (rounds : Nat) → List UInt8 → (total : Nat) →
    List TapeJson → Except String (Nat × List TapeJson)
  | 0, _, total, entries => .ok (total, entries)
  | rounds + 1, bytes, total, entries =>
    match nextRecord bytes with
    | .error e => .error e
    | .ok none => .ok (total, entries)
    | .ok (some (record, rest)) =>
      match J.fromSlice record with
      | .error e => .error ("parse mfne record " ++ toString (saturating (total + 1)) ++ ": " ++ e)
      | .ok value =>
        scanLengthPrefixed offset limit rounds rest (saturating (total + 1))
          (entries ++ collectPageEntry value total offset limit)

structure ReplayEntriesResponse where
  offset : Nat
  limit : Nat
  total : Nat
  entries : List TapeJson
  error : Option String

/-- On the octets of a file. -/
def readReplayEntries (file : List UInt8) (offset limit : Nat) : ReplayEntriesResponse :=
  let limit := max 1 (min limit 500)
  match scanLengthPrefixed J offset limit (file.length + 1) file 0 [] with
  | .ok (total, entries) => ⟨offset, limit, total, entries, none⟩
  | .error e => ⟨offset, limit, 0, [], some e⟩

/-! ## Written files -/

/-- A value that has been written, is read back, and is not too long for the reader. -/
structure Written where
  value : Json
  reads : J.fromSlice (J.toVec value) = .ok value
  fits : (J.toVec value).length ≤ maxReplayRecordBytes

variable {J} (v : Written J) (vs : List (Written J))

/-- Source: `ProtobufFileSink::write_record` -/
def Written.bytes : List UInt8 := leBytes 4 (J.toVec v.value).length ++ J.toVec v.value

/-- What a page shows of the values from number `total` on. -/
def pageFrom (offset limit total : Nat) : List TapeJson :=
  ((vs.take (saturating (offset + limit) - total)).drop (offset - total)).filterMap
    (envelopeToTapeEntry ·.value)

lemma Written.leNat_length : leNat (leBytes 4 (J.toVec v.value).length) = (J.toVec v.value).length :=
  leNat_leBytes (v.fits.trans_lt (by decide))

lemma nextRecord_bytes (rest : List UInt8) :
    nextRecord (v.bytes ++ rest) = .ok (some (J.toVec v.value, rest)) := by
  have hne : v.bytes ++ rest ≠ [] := by simp [Written.bytes, leBytes]
  rw [nextRecord, if_neg hne, Written.bytes, List.append_assoc, splitExact_append (length_leBytes 4 _)]
  dsimp only
  rw [v.leNat_length, if_neg (not_lt.mpr v.fits), splitExact_append rfl]

/-- A record that is cut cannot be read. -/
lemma nextRecord_cut {j : Nat} (hpos : 0 < j) (hj : j < v.bytes.length) :
    ∃ e, nextRecord (v.bytes.take j) = .error e := by
  have hlength : (v.bytes.take j).length = j := List.length_take_of_le hj.le
  rw [nextRecord, if_neg (List.ne_nil_of_length_pos (hpos.trans_eq hlength.symm))]
  by_cases hshort : j < 4
  · rw [splitExact, if_neg (by omega)]
    exact ⟨_, rfl⟩
  · rw [Written.bytes, List.length_append, length_leBytes] at hj
    have hbody : splitExact (J.toVec v.value).length ((J.toVec v.value).take (j - 4)) = none := by
      rw [splitExact, if_neg]
      rw [List.length_take]
      omega
    rw [Written.bytes, List.take_append, List.take_of_length_le (by rw [length_leBytes]; omega),
      length_leBytes, splitExact_append (length_leBytes 4 _)]
    dsimp only
    rw [v.leNat_length, if_neg (not_lt.mpr v.fits), hbody]
    exact ⟨_, rfl⟩

lemma pageFrom_cons (offset limit total : Nat) :
    collectPageEntry v.value (saturating total) offset limit ++ pageFrom vs offset limit (total + 1) =
      pageFrom (v :: vs) offset limit total := by
  unfold collectPageEntry pageFrom
  obtain ⟨last, hlast⟩ : ∃ last, last = saturating (offset + limit) := ⟨_, rfl⟩
  have hle : last ≤ 2 ^ 64 - 1 := hlast ▸ Nat.min_le_right _ _
  rw [← hlast]
  by_cases hend : last ≤ total
  · -- The page is over.
    have hsat : ¬ saturating total < last := by
      unfold saturating
      omega
    rw [if_neg fun h => hsat h.2, Nat.sub_eq_zero_of_le hend,
      Nat.sub_eq_zero_of_le (hend.trans (Nat.le_succ total)), List.take_zero, List.take_zero]
    simp
  · have hsat : saturating total = total := Nat.min_eq_left (by omega)
    rw [hsat, show last - total = last - (total + 1) + 1 by omega, List.take_succ_cons]
    by_cases hstart : offset ≤ total
    · rw [if_pos ⟨hstart, by omega⟩, Nat.sub_eq_zero_of_le hstart,
        Nat.sub_eq_zero_of_le (hstart.trans (Nat.le_succ total)), List.drop_zero, List.drop_zero,
        List.filterMap_cons]
      cases envelopeToTapeEntry v.value <;> rfl
    · rw [if_neg fun h => hstart h.1, show offset - total = offset - (total + 1) + 1 by omega]
      rfl

/-- **The scan of a written file** goes on with what follows it. -/
theorem scan_file (offset limit rounds total : Nat) (tail : List UInt8) (entries : List TapeJson) :
    scanLengthPrefixed J offset limit (rounds + vs.length) (vs.flatMap Written.bytes ++ tail)
        (saturating total) entries =
      scanLengthPrefixed J offset limit rounds tail (saturating (total + vs.length))
        (entries ++ pageFrom vs offset limit total) := by
  induction vs generalizing total entries with
  | nil => simp [pageFrom]
  | cons v vs ih =>
    have hsat : saturating (saturating total + 1) = saturating (total + 1) := by
      unfold saturating
      omega
    rw [List.length_cons, ← Nat.add_assoc, scanLengthPrefixed, List.flatMap_cons, List.append_assoc,
      nextRecord_bytes]
    dsimp only
    rw [v.reads]
    dsimp only
    rw [hsat, ih, List.append_assoc, pageFrom_cons, Nat.add_right_comm, Nat.add_assoc]

mutual

/-- The text of a value without escapes, as `serde_json` writes it. -/
def Json.text : Json → String
  | .null => "null"
  | .num n => toString n
  | .str s => "\"" ++ s ++ "\""
  | .obj fields => "\x7b" ++ ",".intercalate (fieldTexts fields) ++ "\x7d"

/-- The texts of an object's fields. -/
def fieldTexts : List (String × Json) → List String
  | [] => []
  | (key, value) :: fields => ("\"" ++ key ++ "\":" ++ value.text) :: fieldTexts fields

end

/-- An event as the sink writes it; `serde_json` keeps the keys of an object in order. -/
def recordJson (payload : Json) : Json :=
  .obj [("connection_id", .num 1), ("event_index", .num 0), ("flags", .num 0), ("frame_seq", .num 1),
    ("payload", payload), ("receive_ts", .obj [("ns", .num 5)]), ("schema_version", .num 1),
    ("session_id", .num 1), ("venue_id", .num 1)]

def liveJson : Json := recordJson (.obj [("venue_status", .obj [("message", .str "live")])])

def priceJson (n : Int) : Json :=
  .obj [("value", .obj [("coefficient_hi", .num 0), ("coefficient_lo", .num n), ("scale", .num 0)])]

def quoteJson (bid ask : Int) : Json :=
  recordJson (.obj [("quote", .obj [("ask_price", priceJson ask), ("bid_price", priceJson bid)])])

/-- It reads the records of the file. -/
def recordText : JsonText where
  toVec v := utf8 v.text
  fromSlice bytes :=
    if bytes = utf8 liveJson.text then .ok liveJson
    else if bytes = utf8 (quoteJson 100 101).text then .ok (quoteJson 100 101)
    else if bytes = utf8 (quoteJson 102 103).text then .ok (quoteJson 102 103)
    else .error "EOF while parsing a value at line 1 column 0"

def liveRecord : Written recordText where
  value := liveJson
  reads := by
    unfold recordText
    dsimp only
    rw [if_pos rfl]
  fits := by decide +kernel

def firstQuote : Written recordText where
  value := quoteJson 100 101
  reads := by
    have hlive : utf8 (quoteJson 100 101).text ≠ utf8 liveJson.text := by decide +kernel
    unfold recordText
    dsimp only
    rw [if_neg hlive, if_pos rfl]
  fits := by decide +kernel

def secondQuote : Written recordText where
  value := quoteJson 102 103
  reads := by
    have hlive : utf8 (quoteJson 102 103).text ≠ utf8 liveJson.text := by decide +kernel
    have hfirst : utf8 (quoteJson 102 103).text ≠ utf8 (quoteJson 100 101).text := by decide +kernel
    unfold recordText
    dsimp only
    rw [if_neg hlive, if_neg hfirst, if_pos rfl]
  fits := by decide +kernel

end Marketfeed.Replay
