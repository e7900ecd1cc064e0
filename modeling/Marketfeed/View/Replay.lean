import Marketfeed.View.Tape

/-!
# Recorded events in the replay view

Model of the JSON of `crates/recording/src/envelope_json.rs` and of its display in
`crates/daemon/src/view/replay.rs`. A coefficient is written as two signed halves; the viewer joins
them, formats the number and multiplies what it parsed again. Only trades and quotes are displayed:
how the other events are written is a parameter.
-/

namespace Marketfeed.Replay

/-! ## JSON -/

/-- Source: `serde_json::Value`, as far as the two crates use it here -/
inductive Json
  | null
  | num (n : Int)
  | str (s : String)
  | obj (fields : List (String × Json))

namespace Json

def get : Json → String → Option Json
  | .obj fields, key => fields.lookup key
  | _, _ => none

def asI64 : Json → Option Int
  | .num n => if -2 ^ 63 ≤ n ∧ n < 2 ^ 63 then some n else none
  | _ => none

def asU64 : Json → Option Nat
  | .num n => if 0 ≤ n ∧ n < 2 ^ 64 then some n.toNat else none
  | _ => none

def asStr : Json → Option String
  | .str s => some s
  | _ => none

end Json

/-! ## Writing -/

/-- Source: `coefficient as i64` -/
def lowHalf (coefficient : Int) : Int := ((BitVec.ofInt 128 coefficient).setWidth 64).toInt

/-- Source: `(coefficient >> 64) as i64` -/
def highHalf (coefficient : Int) : Int :=
  (((BitVec.ofInt 128 coefficient).sshiftRight 64).setWidth 64).toInt

def fixedJson (f : Fixed) : Json :=
  .obj [("coefficient_lo", .num (lowHalf f.coefficient)),
    ("coefficient_hi", .num (highHalf f.coefficient)), ("scale", .num f.scale)]

/-- The message that wraps a price or a quantity. -/
def valueJson (f : Fixed) : Json := .obj [("value", fixedJson f)]

def aggressorJson : AggressorSide → String
  | .buy => "AGGRESSOR_SIDE_BUY"
  | .sell => "AGGRESSOR_SIDE_SELL"
  | .unknown => "AGGRESSOR_SIDE_UNKNOWN"

/-- A field that is written if there is a value. -/
def field? (key : String) (value : Option Json) : List (String × Json) :=
  value.toList.map (key, ·)

/-- Source: `market_event_json`; `other` writes the events that are not displayed -/
def marketEventJson (other : MarketEvent → Json) : MarketEvent → Json
  | .trade t => .obj [("trade", .obj [("price", valueJson t.price.fixed),
      ("quantity", valueJson t.quantity.fixed), ("aggressor", .str (aggressorJson t.aggressor)),
      ("trade_id", t.tradeId.elim .null fun id => .str id.val)])]
  | .quote q => .obj [("quote", .obj ([("bid_price", valueJson q.bidPrice.fixed)] ++
      field? "bid_quantity" (q.bidQuantity.map fun qty => valueJson qty.fixed) ++
      [("ask_price", valueJson q.askPrice.fixed)] ++
      field? "ask_quantity" (q.askQuantity.map fun qty => valueJson qty.fixed)))]
  | event => other event

def eventEnvelopeJson (other : MarketEvent → Json) (env : EventEnvelope) : Json :=
  .obj ([("schema_version", .num env.schemaVersion), ("venue_id", .num env.venue.val.toNat)] ++
    field? "instrument_id" (env.instrument.map fun i => .num i.val.toNat) ++
    [("connection_id", .num env.connection.val.toNat), ("session_id", .num env.session.val.toNat),
      ("frame_seq", .num env.frameSeq.toNat), ("event_index", .num env.eventIndex)] ++
    field? "exchange_ts" (env.exchangeTs.map fun ts => .obj [("ns", .num ts.ns)]) ++
    [("receive_ts", .obj [("ns", .num env.receiveTs.ns)])] ++
    field? "source_sequence" (env.sourceSequence.map fun seq =>
      .obj [("first", .num seq.first.toNat), ("last", .num seq.last.toNat)]) ++
    [("flags", .num env.flags.bits.toNat), ("payload", marketEventJson other env.payload)])

/-! ## Displaying -/

/-- Source: the join in `fixed_json_to_string` -/
def joinHalves (hi lo : Int) : Int :=
  (BitVec.ofInt 128 hi <<< 64 ||| (BitVec.ofInt 64 lo).setWidth 128).toInt

def fixedJsonToString (v : Json) : Option (List UInt8) := do
  let inner := (v.get "value").getD v
  let lo ← (inner.get "coefficient_lo").bind Json.asI64
  let hi := ((inner.get "coefficient_hi").bind Json.asI64).getD 0
  let scale ← (inner.get "scale").bind Json.asU64
  some (formatFixed ⟨joinHalves hi lo, scale % 256⟩)

/-- Source: `fixed_mul`, which has the body of `notional_fixed` -/
def fixedMul : Fixed → Fixed → Option Fixed := notionalFixed

def notionalFromStrings (price qty : List UInt8) : Option (List UInt8) := do
  let p ← (Fixed.parseOctets price).toOption
  let q ← (Fixed.parseOctets qty).toOption
  (fixedMul p q).map formatFixed

/-- Source: the two objects `envelope_to_tape_entry` makes -/
inductive TapeJson
  | trade (price quantity : List UInt8) (notional : Option (List UInt8)) (aggressor : String)
    (tradeId : Option String) (exchangeTsNs : Option Int) (receiveTsNs : Int)
  | quote (bidPrice : List UInt8) (bidQuantity : Option (List UInt8)) (askPrice : List UInt8)
    (askQuantity : Option (List UInt8)) (exchangeTsNs : Option Int) (receiveTsNs : Int)
deriving DecidableEq

/-- A time of the envelope.
Source: `env.pointer("/…/ns").and_then(as_i64)` -/
def nsAt (env : Json) (key : String) : Option Int :=
  ((env.get key).bind (·.get "ns")).bind Json.asI64

def envelopeToTapeEntry (env : Json) : Option TapeJson := do
  let payload ← env.get "payload"
  match payload.get "trade" with
  | some trade =>
    let price ← fixedJsonToString (← trade.get "price")
    let quantity ← fixedJsonToString (← trade.get "quantity")
    some (.trade price quantity (notionalFromStrings price quantity)
      (((trade.get "aggressor").bind Json.asStr).getD "unknown")
      ((trade.get "trade_id").bind Json.asStr) (nsAt env "exchange_ts")
      ((nsAt env "receive_ts").getD 0))
  | none =>
    let quote ← payload.get "quote"
    let bidPrice ← fixedJsonToString (← quote.get "bid_price")
    let askPrice ← fixedJsonToString (← quote.get "ask_price")
    some (.quote bidPrice ((quote.get "bid_quantity").bind fixedJsonToString) askPrice
      ((quote.get "ask_quantity").bind fixedJsonToString) (nsAt env "exchange_ts")
      ((nsAt env "receive_ts").getD 0))

/-! ## What is displayed -/

/-- A decimal that the parser's range has. -/
structure Readable (f : Fixed) : Prop where
  min : i128Min < f.coefficient
  max : f.coefficient ≤ i128Max
  scale : f.scale ≤ 255

/-- A word is its upper half, extended by its sign and shifted, with its lower half. -/
lemma word_eq_halves (b : BitVec 128) :
    ((b.sshiftRight 64).setWidth 64).signExtend 128 <<< 64 ||| (b.setWidth 64).setWidth 128 =
      b := by
  ext i hi
  by_cases hlow : i < 64
  · simp [hlow, BitVec.getLsbD_eq_getElem hi]
  · have hhigh : i - 64 < 64 := by omega
    have hhigh' : i - 64 < 128 := by omega
    have hsum : 64 + (i - 64) = i := by omega
    simp [hlow, BitVec.getElem_signExtend, BitVec.getElem_sshiftRight, hhigh, hhigh', hsum, hi]

/-- The two halves of an `i128` give it back. -/
lemma joinHalves_halves {c : Int} (hmin : i128Min ≤ c) (hmax : c ≤ i128Max) :
    joinHalves (highHalf c) (lowHalf c) = c := by
  unfold i128Min at hmin
  unfold i128Max at hmax
  have hword := congrArg BitVec.toInt (word_eq_halves (BitVec.ofInt 128 c))
  rw [BitVec.toInt_ofInt, Int.bmod_eq_of_le (by omega) (by omega)] at hword
  rw [joinHalves, lowHalf, BitVec.ofInt_toInt]
  exact hword

lemma asI64_toInt (b : BitVec 64) : (Json.num b.toInt).asI64 = some b.toInt := by
  have hle : -2 ^ 63 ≤ b.toInt := by simpa using b.le_toInt
  have hlt : b.toInt < 2 ^ 63 := by simpa using b.toInt_lt
  rw [Json.asI64, if_pos ⟨hle, hlt⟩]

/-- A written number is displayed. -/
lemma fixedJsonToString_value {f : Fixed} (h : Readable f) :
    fixedJsonToString (valueJson f) = some (formatFixed f) := by
  have hvalue : (valueJson f).get "value" = some (fixedJson f) := by simp [valueJson, Json.get]
  have hlo : (fixedJson f).get "coefficient_lo" = some (.num (lowHalf f.coefficient)) := by
    simp [fixedJson, Json.get]
  have hhi : (fixedJson f).get "coefficient_hi" = some (.num (highHalf f.coefficient)) := by
    simp [fixedJson, Json.get, List.lookup_cons]
  have hscale : (fixedJson f).get "scale" = some (.num f.scale) := by
    simp [fixedJson, Json.get, List.lookup_cons]
  have hlo' : (Json.num (lowHalf f.coefficient)).asI64 = some (lowHalf f.coefficient) :=
    asI64_toInt _
  have hhi' : (Json.num (highHalf f.coefficient)).asI64 = some (highHalf f.coefficient) :=
    asI64_toInt _
  have hscale' : (Json.num f.scale).asU64 = some f.scale := by
    have := h.scale
    rw [Json.asU64, if_pos (by omega), Int.toNat_natCast]
  have hmod : f.scale % 256 = f.scale := Nat.mod_eq_of_lt (Nat.lt_succ_of_le h.scale)
  rw [fixedJsonToString, hvalue]
  dsimp only [Option.getD_some]
  rw [hlo, hhi, hscale, Option.bind_some, hlo', Option.bind_some, hscale', Option.bind_some, hhi',
    Option.bind_eq_bind, Option.bind_some, Option.bind_eq_bind, Option.bind_some, Option.getD_some,
    joinHalves_halves h.min.le h.max, hmod]

lemma Readable.parse {f : Fixed} (h : Readable f) : Fixed.parseOctets (formatFixed f) = .ok f :=
  parse_formatFixed h.min h.max h.scale

/-- The texts are parsed to what they were made of. -/
lemma notionalFromStrings_formatFixed {p q : Fixed} (hp : Readable p) (hq : Readable q) :
    notionalFromStrings (formatFixed p) (formatFixed q) = (fixedMul p q).map formatFixed := by
  rw [notionalFromStrings, hp.parse, hq.parse]
  rfl

lemma lookup_field? (key key' : String) (value : Option Json) :
    (field? key' value).lookup key = if key = key' then value else none := by
  cases value with
  | none => simp [field?]
  | some v =>
    by_cases h : key = key'
    · simp [field?, h]
    · simp [field?, List.lookup_cons, beq_false_of_ne h, h]

variable (other : MarketEvent → Json)

/-- The payload is the last field of the envelope. -/
lemma get_payload (env : EventEnvelope) :
    (eventEnvelopeJson other env).get "payload" = some (marketEventJson other env.payload) := by
  simp [eventEnvelopeJson, Json.get, List.lookup_append, List.lookup_cons, lookup_field?]

/-- What is displayed of a trade. -/
lemma tapeEntry_trade {env : EventEnvelope} {t : Trade} (ht : env.payload = .trade t)
    (hp : Readable t.price.fixed) (hq : Readable t.quantity.fixed) :
    envelopeToTapeEntry (eventEnvelopeJson other env) =
      some (.trade (formatFixed t.price.fixed) (formatFixed t.quantity.fixed)
        ((fixedMul t.price.fixed t.quantity.fixed).map formatFixed) (aggressorJson t.aggressor)
        (t.tradeId.map (·.val)) (nsAt (eventEnvelopeJson other env) "exchange_ts")
        ((nsAt (eventEnvelopeJson other env) "receive_ts").getD 0)) := by
  rw [envelopeToTapeEntry, get_payload, ht]
  cases htrade : t.tradeId <;>
    simp [marketEventJson, Json.get, List.lookup_cons, Json.asStr, fixedJsonToString_value hp,
      fixedJsonToString_value hq, notionalFromStrings_formatFixed hp hq, htrade]

/-- What is displayed of a quote. -/
lemma tapeEntry_quote {env : EventEnvelope} {q : Quote} (hquote : env.payload = .quote q)
    (hb : Readable q.bidPrice.fixed) (ha : Readable q.askPrice.fixed)
    (hbq : ∀ qty ∈ q.bidQuantity, Readable qty.fixed)
    (haq : ∀ qty ∈ q.askQuantity, Readable qty.fixed) :
    envelopeToTapeEntry (eventEnvelopeJson other env) =
      some (.quote (formatFixed q.bidPrice.fixed) (q.bidQuantity.map (formatFixed ·.fixed))
        (formatFixed q.askPrice.fixed) (q.askQuantity.map (formatFixed ·.fixed))
        (nsAt (eventEnvelopeJson other env) "exchange_ts")
        ((nsAt (eventEnvelopeJson other env) "receive_ts").getD 0)) := by
  have hqty {qty : Option Quantity} (h : ∀ x ∈ qty, Readable x.fixed) :
      (qty.map fun x => valueJson x.fixed).bind fixedJsonToString =
        qty.map (formatFixed ·.fixed) := by
    cases qty with
    | none => rfl
    | some x => exact fixedJsonToString_value (h x rfl)
  rw [envelopeToTapeEntry, get_payload, hquote, ← hqty hbq, ← hqty haq]
  simp [marketEventJson, Json.get, List.lookup_append, List.lookup_cons, lookup_field?,
    fixedJsonToString_value hb, fixedJsonToString_value ha]

/-- **Displayed numbers are exact.** Of a recorded trade or quote, every displayed price and
quantity parses to the decimal that was recorded, and the notional is the product of the two
decimals if its coefficient and its scale fit. -/
theorem replay_exact (env : EventEnvelope) :
    (∀ t, env.payload = .trade t → Readable t.price.fixed → Readable t.quantity.fixed →
      ∃ price quantity notional aggressor tradeId exchangeTs receiveTs,
        envelopeToTapeEntry (eventEnvelopeJson other env) =
          some (.trade price quantity notional aggressor tradeId exchangeTs receiveTs) ∧
        Fixed.parseOctets price = .ok t.price.fixed ∧
        Fixed.parseOctets quantity = .ok t.quantity.fixed ∧
        let product := t.price.fixed.coefficient * t.quantity.fixed.coefficient
        let scale := t.price.fixed.scale + t.quantity.fixed.scale
        i128Min ≤ product → product ≤ i128Max → scale ≤ 255 →
          notional = some (formatFixed ⟨product, scale⟩)) ∧
    ∀ q, env.payload = .quote q → Readable q.bidPrice.fixed → Readable q.askPrice.fixed →
      (∀ qty ∈ q.bidQuantity, Readable qty.fixed) → (∀ qty ∈ q.askQuantity, Readable qty.fixed) →
      ∃ bidPrice bidQuantity askPrice askQuantity exchangeTs receiveTs,
        envelopeToTapeEntry (eventEnvelopeJson other env) =
          some (.quote bidPrice bidQuantity askPrice askQuantity exchangeTs receiveTs) ∧
        Fixed.parseOctets bidPrice = .ok q.bidPrice.fixed ∧
        Fixed.parseOctets askPrice = .ok q.askPrice.fixed ∧
        bidQuantity.map Fixed.parseOctets = q.bidQuantity.map (.ok ·.fixed) ∧
        askQuantity.map Fixed.parseOctets = q.askQuantity.map (.ok ·.fixed) := by
  constructor
  · intro t ht hp hq
    refine ⟨_, _, _, _, _, _, _, tapeEntry_trade other ht hp hq, hp.parse, hq.parse, ?_⟩
    intro product scale hmin hmax hscale
    rw [fixedMul, notionalFixed, if_pos hscale, checkedI128, if_pos ⟨hmin, hmax⟩]
    rfl
  · intro q hquote hb ha hbq haq
    have hqty {qty : Option Quantity} (h : ∀ x ∈ qty, Readable x.fixed) :
        (qty.map (formatFixed ·.fixed)).map Fixed.parseOctets = qty.map (.ok ·.fixed) := by
      rw [Option.map_map]
      exact Option.map_congr fun x hx => (h x hx).parse
    exact ⟨_, _, _, _, _, _, tapeEntry_quote other hquote hb ha hbq haq, hb.parse, ha.parse,
      hqty hbq, hqty haq⟩

/-- A trade whose price is below zero and needs both halves. -/
def crashTrade : EventEnvelope :=
  ⟨1, ⟨1⟩, none, ⟨1⟩, ⟨1⟩, 1, 0, none, ⟨0⟩, none, .empty,
    .trade ⟨⟨⟨-18446744073709551617, 200⟩⟩, ⟨⟨3, 55⟩⟩, .sell, none⟩⟩

/-- The trade is displayed exactly. -/
theorem replay_exact_crash :
    ∃ price quantity notional aggressor tradeId exchangeTs receiveTs,
      envelopeToTapeEntry (eventEnvelopeJson (fun _ => .null) crashTrade) =
        some (.trade price quantity notional aggressor tradeId exchangeTs receiveTs) ∧
      Fixed.parseOctets price = .ok ⟨-18446744073709551617, 200⟩ ∧
      Fixed.parseOctets quantity = .ok ⟨3, 55⟩ ∧
      notional = some (formatFixed ⟨-55340232221128654851, 255⟩) := by
  obtain ⟨price, quantity, notional, aggressor, tradeId, exchangeTs, receiveTs, hentry, hp, hq,
    hnotional⟩ := (replay_exact (fun _ => .null) crashTrade).1 _ rfl
      ⟨by decide, by decide, by decide⟩ ⟨by decide, by decide, by decide⟩
  exact ⟨price, quantity, notional, aggressor, tradeId, exchangeTs, receiveTs, hentry, hp, hq,
    hnotional (by decide) (by decide) (by decide)⟩

end Marketfeed.Replay
