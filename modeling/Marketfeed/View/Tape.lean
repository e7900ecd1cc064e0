import Marketfeed.Book.Invariant
import Marketfeed.Model.Decimal
import Marketfeed.View.Plane
import Mathlib.Data.Nat.Digits.Lemmas

/-!
# The trade tapes of the view plane

Model of the tapes in `crates/daemon/src/view/plane.rs`. A trade goes to the tape of its venue and
instrument as text; texts are their octets here. A tape keeps its newest entries and takes only so many
in a second.
-/

namespace Marketfeed

/-! ## Decimals as text -/

/-- The digits of a number, the most significant first.
Source: `u128::to_string` -/
def decimalDigits (n : Nat) : List (Fin 10) :=
  if n = 0 then [0] else ((Nat.digits 10 n).map (Fin.ofNat 10)).reverse

lemma digitsValue_decimalDigits (n : Nat) : digitsValue (decimalDigits n) = n := by
  unfold decimalDigits
  split_ifs with hn
  · rw [hn]
    rfl
  · have hdigits : ((Nat.digits 10 n).map (Fin.ofNat 10)).map Fin.val = Nat.digits 10 n := by
      rw [List.map_map]
      refine (List.map_congr_left fun d hd => ?_).trans (List.map_id _)
      exact Nat.mod_eq_of_lt (Nat.digits_lt_base (by decide) hd)
    rw [digitsValue, List.reverse_reverse, hdigits, Nat.ofDigits_digits]

lemma decimalDigits_ne_nil (n : Nat) : decimalDigits n ≠ [] := by
  unfold decimalDigits
  split_ifs with hn
  · exact List.cons_ne_nil _ _
  · rw [Ne, List.reverse_eq_nil_iff, List.map_eq_nil_iff]
    exact Nat.digits_ne_nil_iff_ne_zero.mpr hn

/-- The digits before and after the dot.
Source: the middle of `format_fixed` -/
def formatParts (digits : List (Fin 10)) (scale : Nat) : List (Fin 10) × List (Fin 10) :=
  if scale = 0 then (digits, [])
  else if digits.length ≤ scale then ([0], List.replicate (scale - digits.length) 0 ++ digits)
  else (digits.take (digits.length - scale), digits.drop (digits.length - scale))

def formatFixed (f : Fixed) : List UInt8 :=
  let parts := formatParts (decimalDigits f.coefficient.natAbs) f.scale
  (if f.coefficient < 0 then [0x2D] else []) ++ digitOctets parts.1 ++
    (if parts.2 = [] then [] else 0x2E :: digitOctets parts.2)

lemma digitsValue_replicate_zero (k : Nat) (digits : List (Fin 10)) :
    digitsValue (List.replicate k 0 ++ digits) = digitsValue digits := by
  have hzeros : ∀ d ∈ (List.replicate k 0 ++ digits).take k, d = 0 := by
    intro d hd
    rw [List.take_left' List.length_replicate] at hd
    exact List.eq_of_mem_replicate hd
  have hdrop := digitsValue_drop hzeros
  rw [List.drop_left' List.length_replicate] at hdrop
  exact hdrop.symm

lemma formatParts_facts {digits : List (Fin 10)} (hne : digits ≠ []) (scale : Nat) :
    (formatParts digits scale).1 ≠ [] ∧ (formatParts digits scale).2.length = scale ∧
      digitsValue ((formatParts digits scale).1 ++ (formatParts digits scale).2) = digitsValue digits := by
  have hpos := List.length_pos_of_ne_nil hne
  unfold formatParts
  split_ifs with hzero hshort
  · exact ⟨hne, hzero.symm, by rw [List.append_nil]⟩
  · refine ⟨List.cons_ne_nil _ _, by simp; omega, ?_⟩
    exact (digitsValue_replicate_zero (scale - digits.length + 1) digits)
  · refine ⟨?_, by rw [List.length_drop]; omega, by rw [List.take_append_drop]⟩
    rw [Ne, List.take_eq_nil_iff, not_or]
    exact ⟨by omega, hne⟩

/-- **A written decimal is read back**, in the range that the parser accepts. -/
theorem parse_formatFixed {f : Fixed} (hmin : i128Min < f.coefficient) (hmax : f.coefficient ≤ i128Max)
    (hscale : f.scale ≤ 255) : Fixed.parseOctets (formatFixed f) = .ok f := by
  obtain ⟨hwhole, hplaces, hvalue⟩ :=
    formatParts_facts (decimalDigits_ne_nil f.coefficient.natAbs) f.scale
  rw [digitsValue_decimalDigits] at hvalue
  generalize hparts : formatParts (decimalDigits f.coefficient.natAbs) f.scale = parts at hwhole hplaces hvalue
  have hfraction : (if parts.2 = [] then none else some parts.2 : Option (List (Fin 10))).getD [] = parts.2 := by
    split_ifs with hnil
    · exact hnil.symm
    · rfl
  let num : Numeral := ⟨if f.coefficient < 0 then .minus else .none, parts.1,
    if parts.2 = [] then none else some parts.2, fun h => hwhole (List.append_eq_nil_iff.mp h).1⟩
  have hoctets : formatFixed f = num.octets := by
    unfold formatFixed Numeral.octets Numeral.unsigned
    rw [hparts, List.append_assoc]
    dsimp only [num]
    congr 1
    · split_ifs
      · rfl
      · rfl
    · congr 1
      split_ifs
      · rfl
      · rfl
  have hfits : (num.magnitude : Int) ≤ i128Max := by
    rw [Numeral.magnitude, Numeral.places, hfraction, hvalue]
    unfold i128Min at hmin
    unfold i128Max at hmax ⊢
    omega
  rw [hoctets, Fixed.parseOctets_numeral, Fixed.parseDecimal_eq_ok_iff]
  refine ⟨num, rfl, ?_, hfits, ?_⟩
  · rw [Numeral.places, hfraction, hplaces]
    exact hscale
  · rw [Numeral.fixed, Numeral.magnitude, Numeral.places, hfraction, hplaces, hvalue]
    dsimp only [num]
    by_cases hneg : f.coefficient < 0
    · have hfactor : Sign.minus.factor = -1 := rfl
      rw [if_pos hneg, hfactor, neg_one_mul, Int.natCast_natAbs, abs_of_neg hneg, neg_neg]
    · have hfactor : Sign.none.factor = 1 := rfl
      rw [if_neg hneg, hfactor, one_mul, Int.natCast_natAbs, abs_of_nonneg (not_lt.mp hneg)]

/-! ## Entries -/

def aggressorStr : AggressorSide → String
  | .buy => "buy"
  | .sell => "sell"
  | .unknown => "unknown"

def notionalFixed (price qty : Fixed) : Option Fixed :=
  if price.scale + qty.scale ≤ 255 then
    (checkedI128 (price.coefficient * qty.coefficient)).map fun coefficient =>
      ⟨coefficient, price.scale + qty.scale⟩
  else none

/-- Source: `TapeEntry::Trade` -/
structure TradeEntry where
  venue : String
  instrument : InstrumentId
  symbol : Option String
  price : List UInt8
  quantity : List UInt8
  notional : Option (List UInt8)
  aggressor : String
  tradeId : Option SourceId
  exchangeTsNs : Option Int
  receiveTsNs : Int
deriving DecidableEq

/-- Source: the entry that `ingest_batch` makes of a trade -/
def tradeEntry (venue : String) (symbol : Option String) (instrument : InstrumentId) (ev : EventEnvelope)
    (t : Trade) : TradeEntry where
  venue := venue
  instrument := instrument
  symbol := symbol
  price := formatFixed t.price.fixed
  quantity := formatFixed t.quantity.fixed
  notional := (notionalFixed t.price.fixed t.quantity.fixed).map formatFixed
  aggressor := aggressorStr t.aggressor
  tradeId := t.tradeId
  exchangeTsNs := ev.exchangeTs.map (·.ns)
  receiveTsNs := ev.receiveTs.ns

/-! ## Tapes -/

/-- Source: `TapeRing`; instants are nanoseconds of a monotonic clock -/
structure TapeRing where
  entries : List TradeEntry
  capacity : Nat
  windowStart : Nat
  windowCount : Nat
  maxPerSec : Nat
  dropped : UInt64
deriving DecidableEq

namespace TapeRing

def new (capacity maxPerSec now : Nat) : TapeRing := ⟨[], max capacity 1, now, 0, maxPerSec, 0⟩

/-- The end of `TapeRing::push`: a full tape loses its oldest entry. -/
def keep (r : TapeRing) (entry : TradeEntry) : TapeRing :=
  if r.capacity ≤ r.entries.length then
    { r with entries := r.entries.tail ++ [entry], dropped := ViewPlane.bump r.dropped }
  else { r with entries := r.entries ++ [entry] }

def push (r : TapeRing) (now : Nat) (entry : TradeEntry) : TapeRing :=
  if 0 < r.maxPerSec then
    let window := if 1000000000 ≤ now - r.windowStart then (now, 0) else (r.windowStart, r.windowCount)
    if r.maxPerSec ≤ window.2 then
      { r with windowStart := window.1, windowCount := window.2, dropped := ViewPlane.bump r.dropped }
    else { r with windowStart := window.1, windowCount := window.2 + 1 }.keep entry
  else r.keep entry

lemma entries_push (r : TapeRing) (now : Nat) (entry : TradeEntry) :
    (r.push now entry).entries.Sublist (r.entries ++ [entry]) := by
  have hkeep (r : TapeRing) : (r.keep entry).entries.Sublist (r.entries ++ [entry]) := by
    unfold keep
    split_ifs
    · exact (List.tail_sublist _).append (.refl _)
    · exact .refl _
  unfold push
  by_cases hlimit : 0 < r.maxPerSec
  · rw [if_pos hlimit]
    generalize (if 1000000000 ≤ now - r.windowStart then (now, 0) else (r.windowStart, r.windowCount)) =
      window
    dsimp only
    split_ifs
    · exact List.sublist_append_left _ _
    · exact hkeep _
  · rw [if_neg hlimit]
    exact hkeep r

end TapeRing

/-- **The plane with its tapes.**
Source: `ViewPlane`, its `tapes` and the settings of a tape -/
structure TapedPlane where
  plane : ViewPlane
  tapes : BookKey → Option TapeRing
  tapeCapacity : Nat
  tapeMaxPerSec : Nat

/-- An event with the two readings of the clock it may take: for a new tape and for the entry. -/
structure TimedEvent where
  event : EventEnvelope
  created : Nat
  pushed : Nat

namespace TapedPlane

/-- The tape of a key, made now if there is none. -/
def tape (d : TapedPlane) (key : BookKey) (created : Nat) : TapeRing :=
  (d.tapes key).getD (.new d.tapeCapacity d.tapeMaxPerSec created)

/-- The tape of its key after an event.
Source: the arms of `MarketEvent::Trade` and `MarketEvent::Quote` in `ingest_batch` -/
def tapeAfter (d : TapedPlane) (e : TimedEvent) (instrument : InstrumentId) : Option TapeRing :=
  let key := (e.event.venue, instrument)
  let name := (d.plane.idToVenue e.event.venue).getD ("venue-" ++ toString e.event.venue.val.toNat)
  match e.event.payload with
  | .trade t =>
    let entry := tradeEntry name (d.plane.symbols (name, instrument.val)) instrument e.event t
    some ((d.tape key e.created).push e.pushed entry)
  | .quote _ => some (d.tape key e.created)
  | _ => d.tapes key

def tapesAfter (d : TapedPlane) (e : TimedEvent) : BookKey → Option TapeRing :=
  match e.event.instrument with
  | none => d.tapes
  | some instrument => Function.update d.tapes (e.event.venue, instrument) (d.tapeAfter e instrument)

/-- One event of a batch. -/
def ingestEvent (d : TapedPlane) (e : TimedEvent) : TapedPlane :=
  { d with plane := d.plane.ingestEvent e.event, tapes := d.tapesAfter e }

/-- What the plane ingests. -/
inductive Ingest
  | batch (events : List TimedEvent)
  | system (sinkVenue : Option VenueId) (event : SystemEvent)

/-- Source: `ingest_batch`, `ingest_system` -/
def ingest (d : TapedPlane) : Ingest → TapedPlane
  | .batch events =>
    events.foldl ingestEvent { d with plane := { d.plane with batchesSeen := d.plane.batchesSeen + 1 } }
  | .system sinkVenue event => { d with plane := d.plane.ingestSystem sinkVenue event }

def Ingest.events : Ingest → List EventEnvelope
  | .batch events => events.map (·.event)
  | .system _ _ => []

/-! ## What is on a tape -/

/-- The trade of an event, if it is one of the key. -/
def tradeOf (key : BookKey) (ev : EventEnvelope) : Option (EventEnvelope × Trade) :=
  if ev.venue = key.1 ∧ ev.instrument = some key.2 then
    match ev.payload with
    | .trade t => some (ev, t)
    | _ => none
  else none

/-- The entry was made of the trade. -/
def IsEntryOf (trade : EventEnvelope × Trade) (entry : TradeEntry) : Prop :=
  ∃ name symbol instrument, entry = tradeEntry name symbol instrument trade.1 trade.2

/-- What an event does to a tape: nothing, it makes it, or it pushes the entry of a trade. -/
lemma tapesAfter_cases (d : TapedPlane) (e : TimedEvent) (key : BookKey) :
    d.tapesAfter e key = d.tapes key ∨ d.tapesAfter e key = some (d.tape key e.created) ∨
      ∃ (t : Trade) (entry : TradeEntry),
        d.tapesAfter e key = some ((d.tape key e.created).push e.pushed entry) ∧
        IsEntryOf (e.event, t) entry ∧ tradeOf key e.event = some (e.event, t) := by
  unfold tapesAfter
  rcases hinstrument : e.event.instrument with _ | instrument
  · exact .inl rfl
  dsimp only
  by_cases hkey : key = (e.event.venue, instrument)
  · subst hkey
    rw [Function.update_self]
    unfold tapeAfter
    dsimp only
    split
    · rename_i t ht
      refine .inr (.inr ⟨t, _, rfl, ⟨_, _, _, rfl⟩, ?_⟩)
      unfold tradeOf
      rw [if_pos ⟨rfl, hinstrument⟩, ht]
    · exact .inr (.inl rfl)
    · exact .inl rfl
  · exact .inl (Function.update_of_ne hkey ..)

/-- The book prices of an event are machine integers other than the least one. -/
def PricesFit : MarketEvent → Prop
  | .bookSnapshot snap => ∀ level ∈ snap.bids ++ snap.asks, level.price.fixed.Fits
  | .bookDelta delta => ∀ change ∈ delta.changes, change.price.fixed.Fits
  | _ => True

/-- **What has happened**: a tape holds entries of trades of its key, in their order. Every book keeps
its promises, and its prices fit if all ingested ones do. -/
structure Recorded (events : List EventEnvelope) (d : TapedPlane) : Prop where
  tape : ∀ key ring, d.tapes key = some ring → ∃ trades : List (EventEnvelope × Trade),
    trades.Sublist (events.filterMap (tradeOf key)) ∧ List.Forall₂ IsEntryOf trades ring.entries
  book : ∀ key live, d.plane.books key = some live →
    live.book.Sound ∧ ((∀ ev ∈ events, PricesFit ev.payload) → live.book.PricesFit)

/-- A book after an event is the book of a snapshot, the book before with some changes, or that book. -/
lemma bookAfter_cases {book : Option LiveBook} {payload : MarketEvent} {live : LiveBook}
    (h : ViewPlane.bookAfter book payload = some live) :
    (∃ snap priceScale qtyScale, payload = .bookSnapshot snap ∧
      (OrderBook.new priceScale qtyScale snap.depth).buildSnapshot (LiveBook.levelRows snap.bids)
        (LiveBook.levelRows snap.asks) none = .ok live.book) ∨
      (∃ delta old, payload = .bookDelta delta ∧ book = some old ∧
        live.book = (old.book.applyChangesAtomic delta.changes).1) ∨
      book = some live := by
  unfold ViewPlane.bookAfter at h
  split at h
  · rename_i snap
    rcases hsnap : LiveBook.fromSnapshot snap with _ | new
    · rw [hsnap, Option.none_or] at h
      exact .inr (.inr h)
    · rw [hsnap, Option.some_or] at h
      cases h
      unfold LiveBook.fromSnapshot at hsnap
      dsimp only at hsnap
      split at hsnap
      · rename_i book happ
        cases hsnap
        exact .inl ⟨snap, _, _, rfl, OrderBook.applySnapshot_eq_ok.mp happ⟩
      · cases hsnap
  · rename_i delta
    obtain ⟨old, hold, rfl⟩ := Option.map_eq_some_iff.mp h
    refine .inr (.inl ⟨delta, old, rfl, hold, ?_⟩)
    unfold LiveBook.applyDelta
    split <;> rename_i happ <;> rw [happ]
  · exact .inr (.inr h)

lemma sound_bookAfter {book : Option LiveBook} (h : ∀ live, book = some live → live.book.Sound)
    {payload : MarketEvent} {live : LiveBook} (hlive : ViewPlane.bookAfter book payload = some live) :
    live.book.Sound := by
  rcases bookAfter_cases hlive with ⟨snap, _, _, -, hnext⟩ | ⟨delta, old, -, hold, heq⟩ | hsame
  · exact fun _ => OrderBook.wellFormed_buildSnapshot hnext
  · exact heq ▸ OrderBook.sound_applyChangesAtomic (h old hold) delta.changes
  · exact h live hsame

lemma pricesFit_bookAfter {book : Option LiveBook}
    (h : ∀ live, book = some live → live.book.PricesFit) {payload : MarketEvent}
    (hpayload : PricesFit payload) {live : LiveBook}
    (hlive : ViewPlane.bookAfter book payload = some live) : live.book.PricesFit := by
  rcases bookAfter_cases hlive with ⟨snap, _, _, rfl, hnext⟩ | ⟨delta, old, rfl, hold, heq⟩ | hsame
  · refine OrderBook.pricesFit_buildSnapshot (fun row hrow => ?_) hnext
    unfold LiveBook.levelRows at hrow
    rw [← List.map_append] at hrow
    obtain ⟨level, hlevel, rfl⟩ := List.mem_map.mp hrow
    exact hpayload level hlevel
  · exact heq ▸ OrderBook.pricesFit_applyChangesAtomic (h old hold) hpayload
  · exact h live hsame

lemma exists_sublist_of_forall₂ {α β : Type} {R : α → β → Prop} {xs : List α} {ys zs : List β}
    (h : List.Forall₂ R xs ys) (hsub : zs.Sublist ys) :
    ∃ ws : List α, List.Forall₂ R ws zs ∧ ws.Sublist xs := by
  induction h generalizing zs with
  | nil => exact ⟨[], List.sublist_nil.mp hsub ▸ .nil, .refl _⟩
  | @cons x y xs ys hxy _ ih =>
    cases hsub with
    | cons _ hsub =>
      obtain ⟨ws, hws, hsublist⟩ := ih hsub
      exact ⟨ws, hws, hsublist.cons x⟩
    | cons_cons _ hsub =>
      obtain ⟨ws, hws, hsublist⟩ := ih hsub
      exact ⟨x :: ws, .cons hxy hws, hsublist.cons_cons x⟩

variable {events : List EventEnvelope} {d : TapedPlane}

lemma Recorded.mono (h : Recorded events d) (more : List EventEnvelope) : Recorded (events ++ more) d := by
  refine ⟨fun key ring hring => ?_, fun key live hlive => ?_⟩
  · obtain ⟨trades, hsub, hentries⟩ := h.tape key ring hring
    refine ⟨trades, hsub.trans ?_, hentries⟩
    rw [List.filterMap_append]
    exact List.sublist_append_left _ _
  · obtain ⟨hsound, hfits⟩ := h.book key live hlive
    exact ⟨hsound, fun hevents => hfits fun ev hev => hevents ev (List.mem_append_left _ hev)⟩

lemma Recorded.entries_tape (h : Recorded events d) (key : BookKey) (created : Nat) :
    ∃ trades : List (EventEnvelope × Trade), trades.Sublist (events.filterMap (tradeOf key)) ∧
      List.Forall₂ IsEntryOf trades (d.tape key created).entries := by
  unfold TapedPlane.tape
  rcases hring : d.tapes key with _ | ring
  · exact ⟨[], List.nil_sublist _, .nil⟩
  · exact h.tape key ring hring

/-- **One event keeps the record.** -/
theorem Recorded.ingestEvent (h : Recorded events d) (e : TimedEvent) :
    Recorded (events ++ [e.event]) (d.ingestEvent e) := by
  have hkeep := h.mono [e.event]
  refine ⟨fun key ring hring => ?_, fun key live hlive => ?_⟩
  · rcases d.tapesAfter_cases e key with hsame | hsame | ⟨t, entry, hsame, hentry, htrade⟩
    · exact hkeep.tape key ring (hsame.symm.trans hring)
    · cases hsame.symm.trans hring
      exact hkeep.entries_tape key e.created
    · cases hsame.symm.trans hring
      obtain ⟨trades, hsub, hentries⟩ := h.entries_tape key e.created
      obtain ⟨kept, hkept, hsublist⟩ := exists_sublist_of_forall₂
        (List.rel_append hentries (.cons hentry .nil)) (TapeRing.entries_push _ e.pushed entry)
      refine ⟨kept, hsublist.trans ?_, hkept⟩
      rw [List.filterMap_append, List.filterMap_cons, htrade]
      exact hsub.append (.refl _)
  · unfold TapedPlane.ingestEvent at hlive
    rw [ViewPlane.books_ingestEvent] at hlive
    split_ifs at hlive
    · refine ⟨sound_bookAfter (fun live hlive => (h.book key live hlive).1) hlive, fun hevents => ?_⟩
      refine pricesFit_bookAfter (fun live hlive => (hkeep.book key live hlive).2 hevents) ?_ hlive
      exact hevents _ (List.mem_append_right _ (List.mem_singleton_self _))
    · exact hkeep.book key live hlive

/-- **Every run keeps the record.** -/
theorem Recorded.run (h : Recorded events d) (inputs : List Ingest) :
    Recorded (events ++ inputs.flatMap Ingest.events) (Marketfeed.run ingest d inputs) := by
  induction inputs generalizing events d with
  | nil => rwa [List.flatMap_nil, List.append_nil]
  | cons input inputs ih =>
    have hstep : Recorded (events ++ input.events) (d.ingest input) := by
      cases input with
      | batch batch =>
        have hstart : Recorded events
            { d with plane := { d.plane with batchesSeen := d.plane.batchesSeen + 1 } } := ⟨h.tape, h.book⟩
        unfold TapedPlane.ingest
        dsimp only
        generalize ({ d with plane := { d.plane with batchesSeen := d.plane.batchesSeen + 1 } } :
          TapedPlane) = d' at hstart
        clear ih h
        induction batch generalizing events d' with
        | nil => simpa [Ingest.events] using hstart
        | cons e batch ih =>
          have hnext := ih _ (hstart.ingestEvent e)
          rwa [Ingest.events, List.append_assoc] at hnext
      | system sinkVenue event =>
        have hkeep := h.mono (Ingest.events (.system sinkVenue event))
        refine ⟨hkeep.tape, fun key live hlive => ?_⟩
        unfold TapedPlane.ingest ViewPlane.ingestSystem at hlive
        dsimp only at hlive
        split at hlive
        · dsimp only at hlive
          rw [Function.update_apply] at hlive
          split_ifs at hlive
          exact hkeep.book key live hlive
        · exact hkeep.book key live hlive
    have hrest := ih hstep
    rwa [List.append_assoc] at hrest

end TapedPlane

end Marketfeed
