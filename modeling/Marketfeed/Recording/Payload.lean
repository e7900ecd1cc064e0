import Marketfeed.Recording.Format

/-!
# Recorded payloads

Model of `crates/recording/src/{http,control}.rs`: how an HTTP response and an accepted subscription
mutation become the payload of a record, and how they are read back.
-/

namespace Marketfeed

/-! ## HTTP responses -/

namespace HttpPayload

def maxHeaders : Nat := 1024

def maxHeaderFieldBytes : Nat := 64 * 1024

/-- Source: `u32::MAX` -/
def u32Max : Nat := 2 ^ 32 - 1

def maximumPayloadLen : Nat := Mfr1.maxRawRecordLen - 4 - Mfr1.rawHeaderBodyLen

/-- The Unicode `White_Space` property. -/
def isWhitespace (c : Char) : Bool :=
  let v := c.toNat
  (9 ≤ v && v ≤ 13) || v == 0x20 || v == 0x85 || v == 0xA0 || v == 0x1680 ||
    (0x2000 ≤ v && v ≤ 0x200A) || v == 0x2028 || v == 0x2029 || v == 0x202F || v == 0x205F ||
    v == 0x3000

def trim (cs : List Char) : List Char :=
  ((cs.dropWhile isWhitespace).reverse.dropWhile isWhitespace).reverse

/-- Source: the texts of `is_sensitive_header` -/
def sensitiveHeaders : List String :=
  ["authorization", "proxy-authorization", "cookie", "set-cookie", "x-api-key", "x-auth-token"]

def isSensitiveHeader (name : String) : Bool :=
  sensitiveHeaders.any fun sensitive => (trim name.toList).map Char.toLower = sensitive.toList

def recordTooLarge (payloadLen : Nat) : RecordingError :=
  .recordTooLarge (min (4 + Mfr1.rawHeaderBodyLen + payloadLen) u32Max) Mfr1.maxRawRecordLen

def pushU32 (value : Nat) : Except RecordingError Bytes :=
  if value ≤ u32Max then .ok (leBytes 4 value) else .error .invalidHeader

def pushBytes (value : Bytes) (maximum : Nat) : Except RecordingError Bytes :=
  if value.length > maximum then .error .invalidHeader
  else do
    let len ← pushU32 value.length
    return len ++ value

/-- A header as it is stored: the value of a sensitive one is replaced.
Source: `REDACTED` in `encode_http_response` -/
def storedHeader (header : String × String) : String × String :=
  (header.1, if isSensitiveHeader header.1 then "[REDACTED]" else header.2)

/-- Source: the `for` loop of `encode_http_response` -/
def pushHeaders : List (String × String) → Except RecordingError Bytes
  | [] => .ok []
  | header :: headers => do
    let name ← pushBytes (utf8 header.1) maxHeaderFieldBytes
    let value ← pushBytes (utf8 (storedHeader header).2) maxHeaderFieldBytes
    let rest ← pushHeaders headers
    return name ++ (value ++ rest)

/-- Source: `encode_http_response` -/
def encode (requestId : UInt64) (response : HttpResponse) : Except RecordingError Bytes :=
  if response.headers.length > maxHeaders then .error .invalidHeader
  else if response.body.length > maximumPayloadLen then .error (recordTooLarge response.body.length)
  else do
    let count ← pushU32 response.headers.length
    let headers ← pushHeaders response.headers
    let body ← pushBytes response.body u32Max
    let out := leBytes 8 requestId.toNat ++ (leBytes 2 response.status.toNat ++
      (count ++ (headers ++ body)))
    if out.length > maximumPayloadLen then .error (recordTooLarge out.length) else .ok out

def readExact (count : Nat) : Reader RecordingError Bytes := takeExact .truncated count

def readU16 : Reader RecordingError UInt16 := do return UInt16.ofNat (leNat (← readExact 2))

def readU32 : Reader RecordingError UInt32 := do return UInt32.ofNat (leNat (← readExact 4))

def readU64 : Reader RecordingError UInt64 := do return UInt64.ofNat (leNat (← readExact 8))

def readBytes (maximum : Nat) : Reader RecordingError Bytes := do
  let length ← readU32
  if length.toNat > maximum then throw .invalidHeader else readExact length.toNat

def readString (maximum : Nat) : Reader RecordingError String := do
  let bytes ← readBytes maximum
  match fromUtf8 bytes with
  | some s => pure s
  | none => throw .invalidHeader

/-- Source: the `for` loop of `decode_http_response` -/
def readHeaders : Nat → Reader RecordingError (List (String × String))
  | 0 => pure []
  | count + 1 => do
    let name ← readString maxHeaderFieldBytes
    let value ← readString maxHeaderFieldBytes
    let rest ← readHeaders count
    pure ((name, value) :: rest)

/-- Source: `decode_http_response`, up to the check for trailing octets -/
def readResponse : Reader RecordingError (UInt64 × HttpResponse) := do
  let requestId ← readU64
  let status ← readU16
  let headerCount ← readU32
  if headerCount.toNat > maxHeaders then throw .invalidHeader
  else
    let headers ← readHeaders headerCount.toNat
    let body ← readBytes u32Max
    pure (requestId, ⟨status, headers, body⟩)

/-- Source: `decode_http_response` -/
def decode (payload : Bytes) : Except RecordingError (UInt64 × HttpResponse) := do
  let (response, rest) ← readResponse payload
  if rest.isEmpty then .ok response else .error .invalidHeader

lemma reads_readU64 (x : UInt64) : Reads readU64 (leBytes 8 x.toNat) x := by
  have h := (Reads.takeExact RecordingError.truncated (length_leBytes 8 x.toNat)).map
    (f := fun bs => UInt64.ofNat (leNat bs))
  rwa [ofNat_leNat_leBytes64] at h

lemma reads_readU16 (x : UInt16) : Reads readU16 (leBytes 2 x.toNat) x := by
  have h := (Reads.takeExact RecordingError.truncated (length_leBytes 2 x.toNat)).map
    (f := fun bs => UInt16.ofNat (leNat bs))
  rwa [ofNat_leNat_leBytes16] at h

lemma reads_readU32 {n : Nat} (h : n ≤ u32Max) : Reads readU32 (leBytes 4 n) (UInt32.ofNat n) := by
  have hn : leNat (leBytes 4 n) = n := leNat_leBytes (by rw [u32Max] at h; omega)
  have hread := (Reads.takeExact RecordingError.truncated (length_leBytes 4 n)).map
    (f := fun bs => UInt32.ofNat (leNat bs))
  rwa [hn] at hread

lemma toNat_ofNat_of_le {n : Nat} (h : n ≤ u32Max) : (UInt32.ofNat n).toNat = n := by
  rw [u32Max] at h
  exact UInt32.toNat_ofNat_of_lt' (by simp only [UInt32.size]; omega)

variable {value out : Bytes} {maximum : Nat}

/-- A length-prefixed field is read by the same bound it was written with. -/
lemma reads_readBytes (h : pushBytes value maximum = .ok out) :
    Reads (readBytes maximum) out value := by
  unfold pushBytes at h
  split at h
  · cases h
  · rename_i hmax
    obtain ⟨len, hlen, hout⟩ := bind_eq_ok.mp h
    unfold pushU32 at hlen
    split at hlen
    · rename_i hu32
      cases hlen
      cases hout
      refine (reads_readU32 hu32).seq ?_
      rw [toNat_ofNat_of_le hu32, if_neg hmax]
      exact Reads.takeExact _ rfl
    · cases hlen

lemma reads_readString {value : String} (h : pushBytes (utf8 value) maximum = .ok out) :
    Reads (readString maximum) out value := by
  apply (reads_readBytes h).last
  rw [fromUtf8_utf8]
  exact Reads.pure

variable {headers : List (String × String)}

lemma reads_readHeaders (h : pushHeaders headers = .ok out) :
    Reads (readHeaders headers.length) out (headers.map storedHeader) := by
  induction headers generalizing out with
  | nil =>
    cases h
    exact Reads.pure
  | cons header headers ih =>
    obtain ⟨name, hname, h⟩ := bind_eq_ok.mp h
    obtain ⟨value, hvalue, h⟩ := bind_eq_ok.mp h
    obtain ⟨rest, hrest, h⟩ := bind_eq_ok.mp h
    cases h
    exact (reads_readString hname).seq ((reads_readString hvalue).seq ((ih hrest).map))

/-- What a decoder gets back. -/
def stored (response : HttpResponse) : HttpResponse :=
  { response with headers := response.headers.map storedHeader }

variable {response : HttpResponse}

lemma reads_readResponse (requestId : UInt64) (hcount : ¬ response.headers.length > maxHeaders)
    {headers body : Bytes} (hheaders : pushHeaders response.headers = .ok headers)
    (hbody : pushBytes response.body u32Max = .ok body) :
    Reads readResponse (leBytes 8 requestId.toNat ++ (leBytes 2 response.status.toNat ++
      (leBytes 4 response.headers.length ++ (headers ++ body)))) (requestId, stored response) := by
  have hu32 : response.headers.length ≤ u32Max := (Nat.not_lt.mp hcount).trans (by decide)
  refine (reads_readU64 requestId).seq ((reads_readU16 response.status).seq
    ((reads_readU32 hu32).seq ?_))
  rw [toNat_ofNat_of_le hu32, if_neg hcount]
  exact (reads_readHeaders hheaders).seq (reads_readBytes hbody).map

/-- **A stored response is the original, redacted.** -/
theorem decode_encode {requestId : UInt64} {payload : Bytes}
    (h : encode requestId response = .ok payload) :
    decode payload = .ok (requestId, stored response) := by
  unfold encode at h
  split at h
  · cases h
  · rename_i hcount
    split at h
    · cases h
    · obtain ⟨count, hcountBytes, h⟩ := bind_eq_ok.mp h
      obtain ⟨headers, hheaders, h⟩ := bind_eq_ok.mp h
      obtain ⟨body, hbody, h⟩ := bind_eq_ok.mp h
      rw [pushU32, if_pos ((Nat.not_lt.mp hcount).trans (by decide))] at hcountBytes
      cases hcountBytes
      simp only [] at h
      split at h
      · cases h
      · cases h
        have hread := reads_readResponse requestId hcount hheaders hbody []
        rw [List.append_nil] at hread
        rw [decode, hread]
        rfl

/-! ### What fits a record -/

/-- The length of a field with its length prefix. -/
def fieldLen (value : Bytes) : Nat := 4 + value.length

/-- The length of a header as it is stored. -/
def headerLen (header : String × String) : Nat :=
  fieldLen (utf8 header.1) + fieldLen (utf8 (storedHeader header).2)

/-- The length of the payload of a response. -/
def payloadLen (response : HttpResponse) : Nat :=
  8 + 2 + 4 + (response.headers.map headerLen).sum + fieldLen response.body

/-- The name and the stored value of a header are within their limit. -/
def HeaderFits (header : String × String) : Prop :=
  (utf8 header.1).length ≤ maxHeaderFieldBytes ∧
    (utf8 (storedHeader header).2).length ≤ maxHeaderFieldBytes

/-- **A response that can be recorded.** -/
structure Recordable (response : HttpResponse) : Prop where
  count : response.headers.length ≤ maxHeaders
  headers : ∀ header ∈ response.headers, HeaderFits header
  record : payloadLen response ≤ maximumPayloadLen

lemma pushBytes_eq_ok (hmax : maximum ≤ u32Max) :
    pushBytes value maximum = .ok out ↔
      value.length ≤ maximum ∧ out = leBytes 4 value.length ++ value := by
  unfold pushBytes pushU32
  by_cases h : value.length ≤ maximum
  · rw [if_neg (Nat.not_lt.mpr h), if_pos (h.trans hmax)]
    simp [h, bind, Except.bind, pure, Except.pure, eq_comm]
  · rw [if_pos (Nat.lt_of_not_le h)]
    simp [h]

lemma maxHeaderFieldBytes_le : maxHeaderFieldBytes ≤ u32Max := by decide

/-- The octets of a header as it is stored. -/
def headerBytes (header : String × String) : Bytes :=
  leBytes 4 (utf8 header.1).length ++ utf8 header.1 ++
    (leBytes 4 (utf8 (storedHeader header).2).length ++ utf8 (storedHeader header).2)

lemma length_headerBytes (header : String × String) :
    (headerBytes header).length = headerLen header := by
  simp only [headerBytes, headerLen, fieldLen, List.length_append, length_leBytes]

lemma pushHeaders_eq_ok :
    pushHeaders headers = .ok out ↔
      (∀ header ∈ headers, HeaderFits header) ∧ out = headers.flatMap headerBytes := by
  induction headers generalizing out with
  | nil => simp [pushHeaders, eq_comm]
  | cons header headers ih =>
    simp only [pushHeaders, bind_eq_ok, pushBytes_eq_ok maxHeaderFieldBytes_le, ih,
      List.forall_mem_cons, List.flatMap_cons, HeaderFits]
    constructor
    · rintro ⟨_, ⟨hname, rfl⟩, _, ⟨hvalue, rfl⟩, _, ⟨hrest, rfl⟩, hout⟩
      cases hout
      exact ⟨⟨⟨hname, hvalue⟩, hrest⟩, by simp only [headerBytes, List.append_assoc]⟩
    · rintro ⟨⟨⟨hname, hvalue⟩, hrest⟩, rfl⟩
      exact ⟨_, ⟨hname, rfl⟩, _, ⟨hvalue, rfl⟩, _, ⟨hrest, rfl⟩,
        by simp only [headerBytes, List.append_assoc]; rfl⟩

/-- The payload of a response, if it can be recorded. -/
def payloadOf (requestId : UInt64) (response : HttpResponse) : Bytes :=
  leBytes 8 requestId.toNat ++ (leBytes 2 response.status.toNat ++
    (leBytes 4 response.headers.length ++ (response.headers.flatMap headerBytes ++
      (leBytes 4 response.body.length ++ response.body))))

lemma length_payloadOf (requestId : UInt64) (response : HttpResponse) :
    (payloadOf requestId response).length = payloadLen response := by
  have hheaders : (response.headers.flatMap headerBytes).length =
      (response.headers.map headerLen).sum := by
    rw [List.length_flatMap]
    simp only [length_headerBytes]
  simp only [payloadOf, payloadLen, fieldLen, List.length_append, length_leBytes, hheaders]
  omega

/-- **The encoder answers exactly for what can be recorded.** -/
theorem encode_eq_ok {requestId : UInt64} {payload : Bytes} :
    encode requestId response = .ok payload ↔
      Recordable response ∧ payload = payloadOf requestId response := by
  have hbodyLen : response.body.length ≤ payloadLen response := by
    unfold payloadLen fieldLen
    omega
  have hmax : maximumPayloadLen ≤ u32Max := by decide
  have hcountMax : maxHeaders ≤ u32Max := by decide
  unfold encode
  rw [check_eq_ok, check_eq_ok]
  simp only [bind_eq_ok, pushHeaders_eq_ok, pushBytes_eq_ok (le_refl u32Max)]
  constructor
  · rintro ⟨hcount, -, _, hlen, _, ⟨hheaders, rfl⟩, _, ⟨-, rfl⟩, hout⟩
    rw [pushU32, if_pos ((Nat.not_lt.mp hcount).trans hcountMax)] at hlen
    cases hlen
    obtain ⟨hrecord, hout⟩ := check_eq_ok.mp hout
    have hpayload : payloadOf requestId response = payload := Except.ok.inj hout
    refine ⟨⟨Nat.not_lt.mp hcount, hheaders, ?_⟩, hpayload.symm⟩
    rw [← length_payloadOf requestId response]
    exact Nat.not_lt.mp hrecord
  · rintro ⟨⟨hcount, hheaders, hrecord⟩, rfl⟩
    have hlen : pushU32 response.headers.length = .ok (leBytes 4 response.headers.length) :=
      if_pos (hcount.trans hcountMax)
    refine ⟨Nat.not_lt.mpr hcount, Nat.not_lt.mpr (hbodyLen.trans hrecord), _, hlen, _,
      ⟨hheaders, rfl⟩, _, ⟨(hbodyLen.trans hrecord).trans hmax, rfl⟩, check_eq_ok.mpr ⟨?_, rfl⟩⟩
    rw [← length_payloadOf requestId response] at hrecord
    exact Nat.not_lt.mpr hrecord

/-! ### What is read is what was written -/

variable {bs rest : Bytes}

/-- A little-endian field that is read is the one that was written, at every width. -/
lemma readField_eq_ok {α : Type} {width : Nat} {ofNat : Nat → α} {toNat : α → Nat}
    (hinv : ∀ m < 256 ^ width, toNat (ofNat m) = m) {x : α}
    (h : (readExact width >>= fun field => pure (ofNat (leNat field))) bs = .ok (x, rest)) :
    bs = leBytes width (toNat x) ++ rest := by
  obtain ⟨field, mid, hread, hx⟩ := reader_bind_eq_ok.mp h
  obtain ⟨rfl, hlen⟩ := takeExact_eq_ok hread
  cases hx
  rw [hinv _ (hlen ▸ leNat_lt field), ← hlen, leBytes_leNat]

lemma readU64_eq_ok {x : UInt64} (h : readU64 bs = .ok (x, rest)) :
    bs = leBytes 8 x.toNat ++ rest :=
  readField_eq_ok (fun _ => UInt64.toNat_ofNat_of_lt') h

lemma readU16_eq_ok {x : UInt16} (h : readU16 bs = .ok (x, rest)) :
    bs = leBytes 2 x.toNat ++ rest :=
  readField_eq_ok (fun _ => UInt16.toNat_ofNat_of_lt') h

lemma readU32_eq_ok {x : UInt32} (h : readU32 bs = .ok (x, rest)) :
    bs = leBytes 4 x.toNat ++ rest :=
  readField_eq_ok (fun _ => UInt32.toNat_ofNat_of_lt') h

lemma readBytes_eq_ok (h : readBytes maximum bs = .ok (value, rest)) :
    value.length ≤ maximum ∧ bs = leBytes 4 value.length ++ value ++ rest := by
  obtain ⟨length, mid, hlength, h⟩ := reader_bind_eq_ok.mp h
  split at h
  · cases h
  · rename_i hmax
    obtain ⟨rfl, hlen⟩ := takeExact_eq_ok h
    rw [readU32_eq_ok hlength, ← hlen, List.append_assoc]
    exact ⟨hlen ▸ Nat.not_lt.mp hmax, rfl⟩

lemma readString_eq_ok {value : String} (h : readString maximum bs = .ok (value, rest)) :
    (utf8 value).length ≤ maximum ∧ bs = leBytes 4 (utf8 value).length ++ utf8 value ++ rest := by
  obtain ⟨field, mid, hfield, h⟩ := reader_bind_eq_ok.mp h
  cases htext : fromUtf8 field with
  | none =>
    simp only [htext] at h
    cases h
  | some text =>
    simp only [htext] at h
    cases h
    rw [utf8_of_fromUtf8 htext]
    exact readBytes_eq_ok hfield

/-- The headers that are read, none of them sensitive, are those that would be written. -/
lemma readHeaders_eq_ok {count : Nat}
    (hplain : ∀ header ∈ headers, isSensitiveHeader header.1 = false)
    (h : readHeaders count bs = .ok (headers, rest)) :
    headers.length = count ∧ (∀ header ∈ headers, HeaderFits header) ∧
      bs = headers.flatMap headerBytes ++ rest := by
  induction count generalizing bs headers with
  | zero =>
    cases h
    simp
  | succ count ih =>
    obtain ⟨name, afterName, hname, h⟩ := reader_bind_eq_ok.mp h
    obtain ⟨value, afterValue, hvalue, h⟩ := reader_bind_eq_ok.mp h
    obtain ⟨later, afterLater, hlater, h⟩ := reader_bind_eq_ok.mp h
    cases h
    obtain ⟨hplainHead, hplainLater⟩ := List.forall_mem_cons.mp hplain
    obtain ⟨hlen, hfits, hbytes⟩ := ih hplainLater hlater
    obtain ⟨hnameLen, hnameBytes⟩ := readString_eq_ok hname
    obtain ⟨hvalueLen, hvalueBytes⟩ := readString_eq_ok hvalue
    have hstored : storedHeader (name, value) = (name, value) := by
      rw [storedHeader, hplainHead]
      rfl
    refine ⟨by rw [List.length_cons, hlen], List.forall_mem_cons.mpr ⟨⟨hnameLen, ?_⟩, hfits⟩, ?_⟩
    · rw [hstored]
      exact hvalueLen
    · rw [hnameBytes, hvalueBytes, hbytes, List.flatMap_cons, headerBytes, hstored]
      simp only [List.append_assoc]

/-- **Round trips.** The encoder answers exactly for the responses that can be recorded, and what it
answers is decoded as the request and the response with the values of sensitive headers replaced.
Conversely, octets that fit a record and are decoded as a response without sensitive headers are what
the encoder makes of it. -/
theorem http_response_round_trip (requestId : UInt64) (response : HttpResponse) :
    ((∃ payload, encode requestId response = .ok payload) ↔ Recordable response) ∧
    (∀ payload, encode requestId response = .ok payload →
      decode payload = .ok (requestId, stored response)) ∧
    ∀ payload, decode payload = .ok (requestId, response) → payload.length ≤ maximumPayloadLen →
      (∀ header ∈ response.headers, isSensitiveHeader header.1 = false) →
      encode requestId response = .ok payload := by
  refine ⟨?_, fun payload => decode_encode, ?_⟩
  · constructor
    · rintro ⟨payload, h⟩
      exact (encode_eq_ok.mp h).1
    · intro h
      exact ⟨_, encode_eq_ok.mpr ⟨h, rfl⟩⟩
  · intro payload h hlen hplain
    obtain ⟨⟨decoded, rest⟩, hread, h⟩ := bind_eq_ok.mp h
    obtain rfl : rest = [] := by
      by_contra hrest
      simp [hrest] at h
    cases h
    obtain ⟨id, afterId, hid, hread⟩ := reader_bind_eq_ok.mp hread
    obtain ⟨status, afterStatus, hstatus, hread⟩ := reader_bind_eq_ok.mp hread
    obtain ⟨count, afterCount, hcount, hread⟩ := reader_bind_eq_ok.mp hread
    split at hread
    · cases hread
    · rename_i hmax
      obtain ⟨headers, afterHeaders, hheaders, hread⟩ := reader_bind_eq_ok.mp hread
      obtain ⟨body, afterBody, hbody, hread⟩ := reader_bind_eq_ok.mp hread
      cases hread
      obtain ⟨hnumber, hfits, hheaderBytes⟩ := readHeaders_eq_ok hplain hheaders
      obtain ⟨-, hbodyBytes⟩ := readBytes_eq_ok hbody
      have hpayload : payload = payloadOf requestId ⟨status, headers, body⟩ := by
        rw [readU64_eq_ok hid, readU16_eq_ok hstatus, readU32_eq_ok hcount, hheaderBytes, hbodyBytes,
          ← hnumber, List.append_nil]
        rfl
      refine encode_eq_ok.mpr ⟨⟨?_, hfits, ?_⟩, hpayload⟩
      · exact hnumber ▸ Nat.not_lt.mp hmax
      · rw [← length_payloadOf requestId, ← hpayload]
        exact hlen

/-- A cookie is not recorded, and the octets of a response without headers are those of its record. -/
theorem http_response_round_trip_example :
    (∃ payload, encode 42 ⟨206, [("Cookie", "a=1"), ("x-test", "value")], [0, 255]⟩ = .ok payload ∧
      decode payload =
        .ok (42, ⟨206, [("Cookie", "[REDACTED]"), ("x-test", "value")], [0, 255]⟩)) ∧
    encode 42 ⟨206, [], [0, 255]⟩ =
      .ok [42, 0, 0, 0, 0, 0, 0, 0, 206, 0, 0, 0, 0, 0, 2, 0, 0, 0, 0, 255] := by
  obtain ⟨hrecordable, hdecode, -⟩ :=
    http_response_round_trip 42 ⟨206, [("Cookie", "a=1"), ("x-test", "value")], [0, 255]⟩
  obtain ⟨payload, hpayload⟩ := hrecordable.mpr
    ⟨by decide, by simp only [HeaderFits]; decide +kernel, by decide +kernel⟩
  refine ⟨⟨payload, hpayload, (hdecode payload hpayload).trans (by decide +kernel)⟩, ?_⟩
  exact (http_response_round_trip 42 ⟨206, [], [0, 255]⟩).2.2 _ (by decide +kernel) (by decide)
    (by simp)

end HttpPayload

/-! ## Subscription mutations -/

inductive RecordedSubscriptionCommand
  | subscribe (symbols : List String)
  | unsubscribe (symbols : List String)
  | replace (symbols : List String)
deriving DecidableEq

/-- Source: `RecordedSubscriptionMutation`; `RecordedWireAction` mirrors the adapter's own type and
is not repeated -/
structure RecordedSubscriptionMutation where
  command : RecordedSubscriptionCommand
  wire : SubscriptionWireAction
deriving DecidableEq

/-- The JSON text of a mutation, and what a text is read as. -/
structure ControlJson where
  toVec : RecordedSubscriptionMutation → Option Bytes
  fromSlice : Bytes → Option RecordedSubscriptionMutation

/-- A codec that takes no record. -/
def ControlJson.silent : ControlJson := ⟨fun _ => none, fun _ => none⟩

namespace ControlPayload

def maxControlBytes : Nat := 1024 * 1024

def maxControlSymbols : Nat := 4096

def maxControlSymbolBytes : Nat := 1024

def maxControlWireBytes : Nat := 256 * 1024

def validateSymbols (symbols : List String) : Except RecordingError Unit :=
  if symbols.length > maxControlSymbols then
    .error (.invalidControlCommand "subscription symbol count exceeds limit")
  else if symbols.any fun s => (utf8 s).isEmpty || (utf8 s).length > maxControlSymbolBytes then
    .error (.invalidControlCommand "subscription symbol length is invalid")
  else .ok ()

def symbols : RecordedSubscriptionCommand → List String
  | .subscribe symbols | .unsubscribe symbols | .replace symbols => symbols

def fromCommand : SessionCommand → Except RecordingError RecordedSubscriptionCommand
  | .subscribe symbols => do
    validateSymbols symbols
    return .subscribe symbols
  | .unsubscribe symbols => do
    validateSymbols symbols
    return .unsubscribe symbols
  | .replace symbols => do
    validateSymbols symbols
    return .replace symbols
  | .resync _ | .stop =>
    .error (.invalidControlCommand "only dynamic subscription commands are recordable")

def intoCommand : RecordedSubscriptionCommand → SessionCommand
  | .subscribe symbols => .subscribe symbols
  | .unsubscribe symbols => .unsubscribe symbols
  | .replace symbols => .replace symbols

/-- Source: the payload of a `SubscriptionWireAction` -/
def wirePayload : SubscriptionWireAction → Bytes
  | .text payload | .binary payload | .ping payload => payload

/-- Source: `RecordedWireAction::from_wire`, `RecordedWireAction::validate` -/
def validateWire (wire : SubscriptionWireAction) : Except RecordingError Unit :=
  if (wirePayload wire).length > maxControlWireBytes then
    .error (.invalidControlCommand "subscription wire payload exceeds limit")
  else .ok ()

/-- Source: `encode_subscription_command` -/
def encode (J : ControlJson) (command : SessionCommand) (wire : SubscriptionWireAction) :
    Except RecordingError Bytes := do
  let command ← fromCommand command
  validateWire wire
  match J.toVec ⟨command, wire⟩ with
  | none => .error (.invalidControlCommand "subscription command encoding failed")
  | some payload =>
    if payload.length > maxControlBytes then
      .error (.invalidControlCommand "subscription command payload exceeds limit")
    else .ok payload

/-- Source: `decode_subscription_command` -/
def decode (J : ControlJson) (payload : Bytes) :
    Except RecordingError (SessionCommand × SubscriptionWireAction) :=
  if payload.length > maxControlBytes then
    .error (.invalidControlCommand "subscription command payload exceeds limit")
  else match J.fromSlice payload with
    | none => .error (.invalidControlCommand "subscription command payload is invalid")
    | some recorded => do
      validateSymbols (symbols recorded.command)
      validateWire recorded.wire
      return (intoCommand recorded.command, recorded.wire)

end ControlPayload

/-- Source: `metadata.rs` `MAX_METADATA_BYTES` -/
def maxMetadataBytes : Nat := 4 * 1024 * 1024

end Marketfeed
