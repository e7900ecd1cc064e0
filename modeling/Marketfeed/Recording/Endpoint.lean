import Marketfeed.Lib.Split

/-!
# Endpoints in recorded metadata

`crates/recording/src/metadata.rs` writes a session's endpoint into every segment it records, with
the credentials taken out by a hand-written splitter. An endpoint is the list of its characters.
-/

namespace Marketfeed

/-! ## The splitter -/

/-- Unicode `White_Space`, what `str::trim` removes. -/
def isWhitespace (c : Char) : Bool :=
  (0x9 ≤ c.toNat && c.toNat ≤ 0xd) || (0x2000 ≤ c.toNat && c.toNat ≤ 0x200a) ||
    c.toNat ∈ [0x20, 0x85, 0xa0, 0x1680, 0x2028, 0x2029, 0x202f, 0x205f, 0x3000]

def sensitiveNames : List (List Char) :=
  ["api_key", "apikey", "key", "signature", "sig", "token", "secret", "passphrase",
    "authorization", "auth"].map String.toList

def isSensitiveQueryName (name : List Char) : Bool :=
  let trimmed := (name.dropWhile isWhitespace).rdropWhile isWhitespace
  let normalized := trimmed.map fun c => if c.toLower = '-' then '_' else c.toLower
  sensitiveNames.any fun candidate =>
    decide (normalized = candidate) || ('_' :: candidate).isSuffixOf normalized

def redacted : List Char := "[REDACTED]".toList

def schemeEnd : List Char := [':', '/', '/']

/-- The base of an endpoint with its userinfo replaced.
Source: `sanitize_endpoint`, up to the query -/
def redactUserinfo (base : List Char) : List Char :=
  match splitOnce schemeEnd base with
  | some (scheme, authorityAndPath) =>
    let authority := authorityAndPath.takeWhile (· ≠ '/')
    let path := authorityAndPath.dropWhile (· ≠ '/')
    match rsplitOnce '@' authority with
    | some (_, host) => scheme ++ schemeEnd ++ (redacted ++ '@' :: (host ++ path))
    | none => base
  | none => base

/-- One part of the query with the value of a sensitive name replaced.
Source: the closure of `sanitize_endpoint` -/
def redactParameter (part : List Char) : List Char :=
  let (name, value) := (splitOnce ['='] part).getD (part, [])
  if isSensitiveQueryName name then name ++ '=' :: redacted
  else if value = [] then name
  else name ++ '=' :: value

def redactQuery (query : List Char) : List Char :=
  ['&'].intercalate ((query.splitOn '&').map redactParameter)

/-- The splitter, over `?`, `://`, `/`, `@`, `&` and `=` in the source's order. -/
def sanitizeEndpoint (endpoint : List Char) : List Char :=
  match splitOnce ['?'] endpoint with
  | some (base, query) => redactUserinfo base ++ '?' :: redactQuery query
  | none => redactUserinfo endpoint

/-- A session's metadata; the entries of the catalog and of the subscriptions are a parameter. -/
structure SessionRecordingMetadata (κ τ : Type) where
  schemaVersion : UInt16
  sessionId : UInt64
  venueId : UInt16
  adapter : String
  environment : String
  endpoint : List Char
  catalogVersion : UInt64
  catalog : List κ
  initialSubscriptions : List τ

def SessionRecordingMetadata.fromPlan {ι κ σ τ : Type} (catalogEntry : ι → κ)
    (subscriptionEntry : σ → τ) (session : UInt64) (venue : UInt16) (adapter environment : String)
    (endpointName : List Char) (subscriptions : List σ) (catalogVersion : UInt64)
    (instruments : List ι) : SessionRecordingMetadata κ τ where
  schemaVersion := 1
  sessionId := session
  venueId := venue
  adapter := adapter
  environment := environment
  endpoint := sanitizeEndpoint endpointName
  catalogVersion := catalogVersion
  catalog := instruments.map catalogEntry
  initialSubscriptions := subscriptions.map subscriptionEntry

/-! ## Sanitizing twice -/

lemma redactUserinfo_eq {base scheme rest before host : List Char}
    (hscheme : splitOnce schemeEnd base = some (scheme, rest))
    (hhost : rsplitOnce '@' (rest.takeWhile (· ≠ '/')) = some (before, host)) :
    redactUserinfo base =
      scheme ++ schemeEnd ++ (redacted ++ '@' :: (host ++ rest.dropWhile (· ≠ '/'))) := by
  rw [redactUserinfo, hscheme]
  dsimp only
  rw [hhost]

/-- Either nothing is replaced, or the base splits as `redactUserinfo_eq` asks. -/
lemma redactUserinfo_cases (base : List Char) :
    redactUserinfo base = base ∨ ∃ scheme rest before host,
      splitOnce schemeEnd base = some (scheme, rest) ∧
        rsplitOnce '@' (rest.takeWhile (· ≠ '/')) = some (before, host) := by
  rw [redactUserinfo]
  split
  · next scheme rest hscheme =>
      dsimp only
      split
      · next before host hhost => exact .inr ⟨scheme, rest, before, host, hscheme, hhost⟩
      · exact .inl rfl
  · exact .inl rfl

/-- The authority of `userinfo@rest` ends in `rest`. -/
lemma takeWhile_authority {userinfo : List Char} (h : '/' ∉ userinfo) (rest : List Char) :
    (userinfo ++ '@' :: rest).takeWhile (· ≠ '/') =
        userinfo ++ '@' :: rest.takeWhile (· ≠ '/') ∧
      (userinfo ++ '@' :: rest).dropWhile (· ≠ '/') = rest.dropWhile (· ≠ '/') := by
  have hall : ∀ c ∈ userinfo, decide (c ≠ '/') = true := fun c hc =>
    decide_eq_true fun he => h (he ▸ hc)
  rw [List.takeWhile_append_of_pos hall, List.dropWhile_append_of_pos hall]
  exact ⟨rfl, rfl⟩

lemma redactUserinfo_idem (base : List Char) :
    redactUserinfo (redactUserinfo base) = redactUserinfo base := by
  rcases redactUserinfo_cases base with hsame | ⟨scheme, rest, before, host, hscheme, hhost⟩
  · rw [hsame, hsame]
  · obtain ⟨hauth, hnot⟩ := eq_append_of_rsplitOnce hhost
    -- what is kept of the authority holds no `/`, so the path starts where it did
    have hslash : '/' ∉ host := by
      intro hmem
      have hin : '/' ∈ rest.takeWhile (· ≠ '/') := by
        rw [hauth]
        exact List.mem_append_right _ (List.mem_cons_of_mem _ hmem)
      have hne := List.mem_takeWhile_imp hin
      exact of_decide_eq_true hne rfl
    have hall : ∀ c ∈ host, decide (c ≠ '/') = true := fun c hc =>
      decide_eq_true fun he => hslash (he ▸ hc)
    have hkept : (host ++ rest.dropWhile (· ≠ '/')).takeWhile (· ≠ '/') = host ∧
        (host ++ rest.dropWhile (· ≠ '/')).dropWhile (· ≠ '/') = rest.dropWhile (· ≠ '/') := by
      rw [List.takeWhile_append_of_pos hall, List.dropWhile_append_of_pos hall,
        List.dropWhile_idempotent, List.takeWhile_eq_nil_iff.mpr (List.dropWhile_get_zero_not _ _),
        List.append_nil]
      exact ⟨rfl, rfl⟩
    obtain ⟨htake, hdrop⟩ :=
      takeWhile_authority (by decide : '/' ∉ redacted) (host ++ rest.dropWhile (· ≠ '/'))
    rw [hkept.1] at htake
    rw [hkept.2] at hdrop
    rw [redactUserinfo_eq hscheme hhost,
      redactUserinfo_eq (splitOnce_replace hscheme _) (htake ▸ rsplitOnce_append hnot redacted),
      hdrop]

lemma not_mem_redactUserinfo {base : List Char} (h : '?' ∉ base) : '?' ∉ redactUserinfo base := by
  rcases redactUserinfo_cases base with hsame | ⟨scheme, rest, before, host, hscheme, hhost⟩
  · rwa [hsame]
  · have hbase := eq_append_of_splitOnce hscheme
    have hrest := List.takeWhile_append_dropWhile (p := (· ≠ '/')) (l := rest)
    rw [(eq_append_of_rsplitOnce hhost).1] at hrest
    rw [hbase, ← hrest] at h
    rw [redactUserinfo_eq hscheme hhost]
    have hredacted : '?' ∉ redacted := by decide
    simp only [List.mem_append, List.mem_cons, not_or] at h ⊢
    exact ⟨h.1, hredacted, by decide, h.2.1.2.2, h.2.2⟩

/-- What `redactParameter` writes for a part that reads as this name and this value. -/
lemma redactParameter_of_splitOnce {part name value : List Char}
    (h : (splitOnce ['='] part).getD (part, []) = (name, value)) :
    redactParameter part = if isSensitiveQueryName name then name ++ '=' :: redacted
      else if value = [] then name else name ++ '=' :: value := by
  rw [redactParameter, h]

/-- The name of a part holds no `=`. -/
lemma not_mem_name {part name value : List Char}
    (h : (splitOnce ['='] part).getD (part, []) = (name, value)) : '=' ∉ name := by
  cases hsplit : splitOnce ['='] part with
  | none =>
    rw [hsplit] at h
    obtain ⟨rfl, -⟩ := Prod.mk.inj h
    exact splitOnce_eq_none_iff.mp hsplit
  | some parts =>
    rw [hsplit] at h
    obtain rfl : parts = (name, value) := h
    exact (splitOnce_eq_some_iff.mp hsplit).2

lemma redactParameter_idem (part : List Char) :
    redactParameter (redactParameter part) = redactParameter part := by
  obtain ⟨⟨name, value⟩, h⟩ : ∃ p, (splitOnce ['='] part).getD (part, []) = p := ⟨_, rfl⟩
  have hname := not_mem_name h
  have hwritten (v : List Char) :
      (splitOnce ['='] (name ++ '=' :: v)).getD (name ++ '=' :: v, []) = (name, v) := by
    rw [splitOnce_append hname]; rfl
  have hbare : (splitOnce ['='] name).getD (name, []) = (name, []) := by
    rw [splitOnce_eq_none_iff.mpr hname]; rfl
  rw [redactParameter_of_splitOnce h]
  split
  · next hsens => rw [redactParameter_of_splitOnce (hwritten redacted), if_pos hsens]
  · next hsens =>
      split
      · rw [redactParameter_of_splitOnce hbare, if_neg hsens, if_pos rfl]
      · next hvalue => rw [redactParameter_of_splitOnce (hwritten value), if_neg hsens, if_neg hvalue]

lemma not_mem_redactParameter {part : List Char} (hpart : '&' ∉ part) :
    '&' ∉ redactParameter part := by
  have hredacted : '&' ∉ '=' :: redacted := by decide
  cases hsplit : splitOnce ['='] part with
  | none =>
    have hparts : (splitOnce ['='] part).getD (part, []) = (part, []) := by rw [hsplit]; rfl
    rw [redactParameter_of_splitOnce hparts, if_pos (rfl : ([] : List Char) = [])]
    split
    · exact fun hmem => (List.mem_append.mp hmem).elim hpart hredacted
    · exact hpart
  | some parts =>
    have hparts : (splitOnce ['='] part).getD (part, []) = (parts.1, parts.2) := by
      rw [hsplit]; rfl
    have hwritten := (splitOnce_eq_some_iff (a := parts.1) (b := parts.2)).mp hsplit
    rw [hwritten.1, List.mem_append, not_or] at hpart
    rw [redactParameter_of_splitOnce hparts]
    split
    · exact fun hmem => (List.mem_append.mp hmem).elim hpart.1 hredacted
    · split
      · exact hpart.1
      · exact fun hmem => (List.mem_append.mp hmem).elim hpart.1 hpart.2

/-- The parts of a query that was written from parts without `&` are those parts. -/
lemma redactQuery_intercalate {parts : List (List Char)} (hne : parts ≠ [])
    (h : ∀ part ∈ parts, '&' ∉ part) :
    redactQuery (['&'].intercalate parts) = ['&'].intercalate (parts.map redactParameter) := by
  rw [redactQuery, List.splitOn_intercalate _ h hne]

lemma redactQuery_idem (query : List Char) :
    redactQuery (redactQuery query) = redactQuery query := by
  have hplain : ∀ part ∈ (query.splitOn '&').map redactParameter, '&' ∉ part := by
    intro part hpart
    obtain ⟨raw, hraw, rfl⟩ := List.mem_map.mp hpart
    exact not_mem_redactParameter (not_mem_of_mem_splitOn hraw)
  have hne : (query.splitOn '&').map redactParameter ≠ [] :=
    fun hnil => List.splitOn_ne_nil '&' query (List.map_eq_nil_iff.mp hnil)
  have htwice : redactParameter ∘ redactParameter = redactParameter :=
    funext redactParameter_idem
  nth_rewrite 2 [redactQuery]
  rw [redactQuery_intercalate hne hplain, List.map_map, htwice]
  rfl

lemma sanitizeEndpoint_append {base : List Char} (h : '?' ∉ base) (query : List Char) :
    sanitizeEndpoint (base ++ '?' :: query) = redactUserinfo base ++ '?' :: redactQuery query := by
  rw [sanitizeEndpoint, splitOnce_append h]

lemma sanitizeEndpoint_of_not_mem {base : List Char} (h : '?' ∉ base) :
    sanitizeEndpoint base = redactUserinfo base := by
  rw [sanitizeEndpoint, splitOnce_eq_none_iff.mpr h]

lemma sanitizeEndpoint_idem (endpoint : List Char) :
    sanitizeEndpoint (sanitizeEndpoint endpoint) = sanitizeEndpoint endpoint := by
  cases hsplit : splitOnce ['?'] endpoint with
  | none =>
    have hnot := splitOnce_eq_none_iff.mp hsplit
    rw [sanitizeEndpoint_of_not_mem hnot,
      sanitizeEndpoint_of_not_mem (not_mem_redactUserinfo hnot), redactUserinfo_idem]
  | some parts =>
    obtain ⟨hendpoint, hnot⟩ := (splitOnce_eq_some_iff (a := parts.1) (b := parts.2)).mp hsplit
    rw [hendpoint, sanitizeEndpoint_append hnot,
      sanitizeEndpoint_append (not_mem_redactUserinfo hnot), redactUserinfo_idem,
      redactQuery_idem]

/-! ## Written endpoints -/

/-- A query parameter: its name, and its value where an `=` follows the name. -/
structure QueryParameter where
  name : List Char
  value : Option (List Char)
  name_plain : '&' ∉ name ∧ '=' ∉ name
  value_plain : ∀ text ∈ value, '&' ∉ text

namespace QueryParameter

variable (p : QueryParameter)

def text : List Char :=
  p.name ++ p.value.elim [] fun value => '=' :: value

/-- One name, and one value unless the name is sensitive. -/
def SameButSecret (p p' : QueryParameter) : Prop :=
  p.name = p'.name ∧ (isSensitiveQueryName p.name = false → p.value = p'.value)

lemma not_mem_text : '&' ∉ p.text := by
  rw [text, List.mem_append, not_or]
  refine ⟨p.name_plain.1, ?_⟩
  cases hvalue : p.value with
  | none => exact List.not_mem_nil
  | some value =>
    exact List.not_mem_cons_of_ne_of_not_mem (by decide) (p.value_plain value hvalue)

lemma splitOnce_text : (splitOnce ['='] p.text).getD (p.text, []) = (p.name, p.value.getD []) := by
  cases hvalue : p.value with
  | none =>
    rw [text, hvalue, Option.elim_none, List.append_nil,
      splitOnce_eq_none_iff.mpr p.name_plain.2]
    rfl
  | some value =>
    rw [text, hvalue, Option.elim_some, splitOnce_append p.name_plain.2]
    rfl

lemma SameButSecret.redactParameter_eq {p p' : QueryParameter} (h : p.SameButSecret p') :
    redactParameter p.text = redactParameter p'.text := by
  rw [redactParameter_of_splitOnce p.splitOnce_text, redactParameter_of_splitOnce p'.splitOnce_text,
    ← h.1]
  cases hsens : isSensitiveQueryName p.name with
  | true => rfl
  | false => rw [h.2 hsens]

end QueryParameter

/-- An endpoint as it is written. The scheme is what stands before the first `://`; host and path
may hold anything but the `?` that starts the query. -/
structure Endpoint where
  scheme : List Char
  userinfo : List Char
  hostAndPath : List Char
  query : Option (List QueryParameter)
  scheme_plain : '?' ∉ scheme ∧ ¬schemeEnd <:+: scheme
  userinfo_plain : '/' ∉ userinfo ∧ '?' ∉ userinfo
  hostAndPath_plain : '?' ∉ hostAndPath

namespace Endpoint

variable (e : Endpoint)

/-- What stands before the query. -/
def base : List Char :=
  e.scheme ++ schemeEnd ++ (e.userinfo ++ '@' :: e.hostAndPath)

/-- `scheme://userinfo@host/path?query` -/
def text : List Char :=
  e.base ++ e.query.elim [] fun parameters =>
    '?' :: ['&'].intercalate (parameters.map QueryParameter.text)

/-- Two endpoints that differ in the userinfo and in the values of sensitive parameters alone. -/
structure SameButSecrets (e e' : Endpoint) : Prop where
  scheme : e.scheme = e'.scheme
  hostAndPath : e.hostAndPath = e'.hostAndPath
  query : Option.Rel (List.Forall₂ QueryParameter.SameButSecret) e.query e'.query

lemma not_mem_base : '?' ∉ e.base := by
  have hend : '?' ∉ schemeEnd := by decide
  rw [base]
  simp only [List.mem_append, List.mem_cons, not_or]
  exact ⟨⟨e.scheme_plain.1, hend⟩, e.userinfo_plain.2, by decide, e.hostAndPath_plain⟩

/-- A `://` cannot start inside a scheme that holds none: it would need a `/` where the separator
has its `:`. -/
lemma splitOnce_scheme {scheme : List Char} (h : ¬schemeEnd <:+: scheme) :
    splitOnce schemeEnd (scheme ++ schemeEnd) = some (scheme, []) := by
  induction scheme with
  | nil => rfl
  | cons x scheme ih =>
    have hnot : ¬schemeEnd <+: x :: (scheme ++ schemeEnd) := by
      intro hpre
      match scheme with
      | [] => simp [schemeEnd] at hpre
      | [y] => simp [schemeEnd] at hpre
      | y :: z :: rest =>
        refine h (List.IsPrefix.isInfix (?_ : schemeEnd <+: x :: y :: z :: rest))
        simpa [schemeEnd] using hpre
    have hrest := ih fun hin => h (hin.trans (List.suffix_cons x scheme).isInfix)
    rw [List.cons_append, splitOnce, if_neg hnot, hrest]
    rfl

lemma SameButSecrets.redactUserinfo_eq {e e' : Endpoint} (h : e.SameButSecrets e') :
    redactUserinfo e.base = redactUserinfo e'.base := by
  have hsplit (f : Endpoint) :
      splitOnce schemeEnd f.base = some (f.scheme, f.userinfo ++ '@' :: f.hostAndPath) :=
    splitOnce_replace (splitOnce_scheme f.scheme_plain.2) _
  have hauth := takeWhile_authority e.userinfo_plain.1 e.hostAndPath
  have hauth' := takeWhile_authority e'.userinfo_plain.1 e'.hostAndPath
  rw [← h.hostAndPath] at hauth'
  obtain ⟨before, before', host, hhost, hhost'⟩ := rsplitOnce_snd_eq (c := '@') e.userinfo
    e'.userinfo (e.hostAndPath.takeWhile (· ≠ '/'))
  rw [Marketfeed.redactUserinfo_eq (hsplit e) (hauth.1 ▸ hhost), hauth.2,
    Marketfeed.redactUserinfo_eq (hsplit e') (h.hostAndPath ▸ hauth'.1 ▸ hhost'),
    ← h.hostAndPath, hauth'.2, h.scheme]

lemma sanitizeEndpoint_text :
    sanitizeEndpoint e.text = redactUserinfo e.base ++ e.query.elim [] fun parameters =>
      '?' :: redactQuery (['&'].intercalate (parameters.map QueryParameter.text)) := by
  rw [text]
  cases e.query with
  | none =>
    rw [Option.elim_none, Option.elim_none, List.append_nil, List.append_nil]
    exact sanitizeEndpoint_of_not_mem e.not_mem_base
  | some parameters => exact sanitizeEndpoint_append e.not_mem_base _

lemma redactQuery_eq {ps ps' : List QueryParameter}
    (h : List.Forall₂ QueryParameter.SameButSecret ps ps') :
    redactQuery (['&'].intercalate (ps.map QueryParameter.text)) =
      redactQuery (['&'].intercalate (ps'.map QueryParameter.text)) := by
  have hplain (qs : List QueryParameter) : ∀ part ∈ qs.map QueryParameter.text, '&' ∉ part := by
    intro part hpart
    obtain ⟨p, -, rfl⟩ := List.mem_map.mp hpart
    exact p.not_mem_text
  have hparts : (ps.map QueryParameter.text).map redactParameter =
      (ps'.map QueryParameter.text).map redactParameter := by
    rw [List.map_map, List.map_map]
    induction h with
    | nil => rfl
    | cons hp _ ih => exact congrArg₂ List.cons hp.redactParameter_eq ih
  cases h with
  | nil => rfl
  | cons hp hrest =>
    rw [redactQuery_intercalate (by simp) (hplain _),
      redactQuery_intercalate (by simp) (hplain _), hparts]

end Endpoint

/-- **Recorded endpoints keep no secret.** Endpoints that differ in their userinfo, or in the
values of sensitive parameters, are sanitized to one text, so a session's metadata is the same for
both; and a sanitized text is its own sanitized form. -/
theorem sanitizeEndpoint_hides_secrets {ι κ σ τ : Type} (catalogEntry : ι → κ)
    (subscriptionEntry : σ → τ) :
    (∀ e e' : Endpoint, e.SameButSecrets e' →
      sanitizeEndpoint e.text = sanitizeEndpoint e'.text ∧
      ∀ session venue adapter environment subscriptions catalogVersion instruments,
        SessionRecordingMetadata.fromPlan catalogEntry subscriptionEntry session venue adapter
            environment e.text subscriptions catalogVersion instruments =
          SessionRecordingMetadata.fromPlan catalogEntry subscriptionEntry session venue adapter
            environment e'.text subscriptions catalogVersion instruments) ∧
    ∀ endpoint, sanitizeEndpoint (sanitizeEndpoint endpoint) = sanitizeEndpoint endpoint := by
  refine ⟨fun e e' h => ?_, sanitizeEndpoint_idem⟩
  have hsame : sanitizeEndpoint e.text = sanitizeEndpoint e'.text := by
    rw [e.sanitizeEndpoint_text, e'.sanitizeEndpoint_text, h.redactUserinfo_eq]
    have hquery := h.query
    generalize e.query = query, e'.query = query' at hquery
    rcases hquery with hquery | _
    · exact congrArg _ (congrArg _ (Endpoint.redactQuery_eq hquery))
    · rfl
  refine ⟨hsame, fun session venue adapter environment subscriptions version instruments => ?_⟩
  rw [SessionRecordingMetadata.fromPlan, hsame]
  rfl

/-- A key and a password, next to a parameter that stays. -/
def demoEndpoint (userinfo key : List Char) (huser : '/' ∉ userinfo ∧ '?' ∉ userinfo)
    (hkey : '&' ∉ key) : Endpoint where
  scheme := "wss".toList
  userinfo := userinfo
  hostAndPath := "ws.kraken.com/v2".toList
  query := some
    [⟨"API-Key".toList, some key, by decide, fun _ h => Option.some.inj h ▸ hkey⟩,
      ⟨"depth".toList, some "10".toList, by decide, by decide⟩]
  scheme_plain := by decide
  userinfo_plain := huser
  hostAndPath_plain := by decide

def demoEndpointA : Endpoint :=
  demoEndpoint "me:one".toList "a=b".toList (by decide) (by decide)

def demoEndpointB : Endpoint := demoEndpoint "you@two".toList [] (by decide) (by decide)

/-- Two endpoints with different keys leave one text. -/
theorem sanitizeEndpoint_hides_apiKey :
    demoEndpointA.SameButSecrets demoEndpointB ∧
      sanitizeEndpoint demoEndpointA.text = sanitizeEndpoint demoEndpointB.text :=
  have hsame : demoEndpointA.SameButSecrets demoEndpointB :=
    ⟨rfl, rfl, .some (.cons ⟨rfl, by decide⟩ (.cons ⟨rfl, fun _ => rfl⟩ .nil))⟩
  ⟨hsame, ((sanitizeEndpoint_hides_secrets (id : Unit → Unit) (id : Unit → Unit)).1
    demoEndpointA demoEndpointB hsame).1⟩

end Marketfeed
