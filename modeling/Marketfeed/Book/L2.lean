import Marketfeed.Lib.OrdMap
import Marketfeed.Lib.Run
import Marketfeed.Lib.UndoLog
import Marketfeed.Model.Events

/-!
# The L2 order book

Model of `crates/book/src/l2.rs`. A book keeps its two sides as ordered maps from price
coefficient to quantity coefficient, both at the catalog scales; levels enter only through an
exact rescale. A method that takes `&mut self` and returns a `Result` is a function to the new
book paired with the result, so what a failed call leaves behind is visible.

Each function has one lemma that says what it can do; later modules use those and do not unfold
the functions again.
-/

namespace Marketfeed

inductive BookValidity
  | valid
  | synchronizing
  | invalid
deriving DecidableEq

/-- The derived `Debug` text. -/
def BookValidity.debug : BookValidity → String
  | .valid => "Valid"
  | .synchronizing => "Synchronizing"
  | .invalid => "Invalid"

inductive BookError
  | notValid (validity : BookValidity)
  | nonPositiveQuantity
  | crossed
  | invalidDelete
  | scaleMismatch
deriving DecidableEq

/-- The `Display` texts of the error enum. -/
def BookError.display : BookError → String
  | .notValid v => "book is not valid for mutation/query: " ++ v.debug
  | .nonPositiveQuantity => "non-positive quantity on upsert"
  | .crossed => "crossed book: best bid >= best ask"
  | .invalidDelete => "delete missing quantity is required to be absent or zero"
  | .scaleMismatch => "price/qty scale does not match catalog exactly"

/-- One side of a book: price coefficient to quantity coefficient. -/
abbrev Levels := OrdMap Int Int

structure OrderBook where
  priceScale : Nat
  qtyScale : Nat
  bids : Levels
  asks : Levels
  validity : BookValidity
  depth : Option Nat
  sequence : Option UInt64
deriving DecidableEq

/-- Exact rescale to a catalog scale. -/
def scaleCoeff (value : Fixed) (targetScale : Nat) : Except BookError Int :=
  match value.rescale targetScale .exactOnly with
  | .ok v => .ok v.coefficient
  | .error _ => .error .scaleMismatch

namespace OrderBook

/-! ## Construction and field updates -/

def new (priceScale qtyScale : Nat) (depth : Option Nat) : OrderBook :=
  { priceScale, qtyScale, bids := ∅, asks := ∅, validity := .synchronizing, depth,
    sequence := none }

def setValidity (b : OrderBook) (validity : BookValidity) : OrderBook := { b with validity }

def setSequence (b : OrderBook) (seq : UInt64) : OrderBook := { b with sequence := some seq }

/-- Empties both sides; the validity is kept. -/
def clear (b : OrderBook) : OrderBook := { b with bids := ∅, asks := ∅, sequence := none }

def priceKey (b : OrderBook) (price : Price) : Except BookError Int :=
  scaleCoeff price.fixed b.priceScale

def price (b : OrderBook) (coeff : Int) : Price := ⟨⟨coeff, b.priceScale⟩⟩

def qty (b : OrderBook) (coeff : Int) : Quantity := ⟨⟨coeff, b.qtyScale⟩⟩

/-- The levels of one side. -/
def levels (b : OrderBook) : BookSide → Levels
  | .bid => b.bids
  | .ask => b.asks

/-- Store or remove one level: the `match side { insert / remove }` of the source. -/
def writeLevel (b : OrderBook) (side : BookSide) (key : Int) (quantity : Option Int) : OrderBook :=
  match side with
  | .bid => { b with bids := b.bids.write key quantity }
  | .ask => { b with asks := b.asks.write key quantity }

/-! ## Private helpers of the source -/

def upsert (b : OrderBook) (side : BookSide) (price : Price) (qty : Quantity) :
    Except BookError OrderBook :=
  if qty.fixed.coefficient ≤ 0 then .error .nonPositiveQuantity
  else do
    let pk ← b.priceKey price
    let qk ← scaleCoeff qty.fixed b.qtyScale
    .ok (b.writeLevel side pk (some qk))

/-- A price off the catalog scale is a level miss. -/
def delete (b : OrderBook) (side : BookSide) (price : Price) : OrderBook :=
  match b.priceKey price with
  | .ok pk => b.writeLevel side pk none
  | .error _ => b

/-- Drop the worst levels of each side beyond the configured depth. -/
def trimDepth (b : OrderBook) : OrderBook :=
  match b.depth with
  | none => b
  | some depth => { b with bids := b.bids.trimFirst depth, asks := b.asks.trimLast depth }

def checkNotCrossed (b : OrderBook) : Except BookError Unit :=
  match b.bids.last? with
  | none => .ok ()
  | some bid =>
    match b.asks.first? with
    | none => .ok ()
    | some ask => if bid.1 ≥ ask.1 then .error .crossed else .ok ()

/-- The `for … { next.upsert(side, price, qty)? }` loops of `apply_snapshot`. -/
def upsertAll (side : BookSide) : OrderBook → List (Price × Quantity) → Except BookError OrderBook
  | b, [] => .ok b
  | b, (price, qty) :: rest => do
    let b ← b.upsert side price qty
    upsertAll side b rest

/-! ## Public mutations -/

/-- The candidate that `apply_snapshot` builds before it replaces `self`. -/
def buildSnapshot (b : OrderBook) (bids asks : List (Price × Quantity)) (sequence : Option UInt64) :
    Except BookError OrderBook := do
  let next := new b.priceScale b.qtyScale b.depth
  let next ← upsertAll .bid next bids
  let next ← upsertAll .ask next asks
  let next := next.trimDepth
  next.checkNotCrossed
  .ok { next with validity := .valid, sequence }

/-- **Replace the book by a snapshot**, or leave it as it was. -/
def applySnapshot (b : OrderBook) (bids asks : List (Price × Quantity))
    (sequence : Option UInt64) : OrderBook × Except BookError Unit :=
  match b.buildSnapshot bids asks sequence with
  | .ok next => (next, .ok ())
  | .error e => (b, .error e)

/-- **Apply one level change.** -/
def applyChange (b : OrderBook) (side : BookSide) (operation : BookOperation) (price : Price)
    (quantity : Option Quantity) : OrderBook × Except BookError Unit :=
  if b.validity ≠ .valid then (b, .error (.notValid b.validity))
  else
    match operation with
    | .delete => (b.delete side price, .ok ())
    | .upsert =>
      match quantity with
      | none => (b, .error .invalidDelete)
      | some qty =>
        -- zero quantity normalizes to delete
        if qty.fixed.coefficient = 0 then (b.delete side price, .ok ())
        else
          match b.upsert side price qty with
          | .error e => (b, .error e)
          | .ok b' =>
            match b'.trimDepth.checkNotCrossed with
            | .ok () => (b'.trimDepth, .ok ())
            | .error e => (b'.trimDepth.setValidity .invalid, .error e)

/-- One prepared write of a transaction: a level and its new contents. -/
abbrev LevelWrite := (BookSide × Int) × Option Int

/-- The removal a delete stands for; a price off the catalog scale is omitted. -/
def prepareDelete (b : OrderBook) (side : BookSide) (price : Price) : Option LevelWrite :=
  match b.priceKey price with
  | .ok key => some ((side, key), none)
  | .error _ => none

/-- Normalize and validate one change, touching nothing.
Source: the `let mutation = match change.operation` of `apply_changes_atomic` -/
def prepareChange (b : OrderBook) (change : BookChange) : Except BookError (Option LevelWrite) :=
  match change.operation with
  | .delete => .ok (b.prepareDelete change.side change.price)
  | .upsert =>
    match change.quantity with
    | none => .error .invalidDelete
    | some quantity =>
      if quantity.fixed.coefficient = 0 then .ok (b.prepareDelete change.side change.price)
      else if quantity.fixed.coefficient < 0 then .error .nonPositiveQuantity
      else do
        let key ← b.priceKey change.price
        let quantity ← scaleCoeff quantity.fixed b.qtyScale
        .ok (some ((change.side, key), some quantity))

/-- The `prepared` vector of `apply_changes_atomic`. -/
def prepareChanges (b : OrderBook) : List BookChange → Except BookError (List LevelWrite)
  | [] => .ok []
  | change :: rest => do
    let write ← b.prepareChange change
    let writes ← b.prepareChanges rest
    .ok (write.toList ++ writes)

/-- What the book holds at one level. -/
def levelAt (b : OrderBook) (cell : BookSide × Int) : Option Int := (b.levels cell.1)[cell.2]?

/-- Write one level, addressed by side and key. -/
def putLevel (b : OrderBook) (cell : BookSide × Int) (quantity : Option Int) : OrderBook :=
  b.writeLevel cell.1 cell.2 quantity

/-- **Apply one message's changes as a transaction.** The writes go straight into the book; if it
ends up crossed, the recorded contents of every touched level are written back. -/
def applyChangesAtomic (b : OrderBook) (changes : List BookChange) :
    OrderBook × Except BookError Unit :=
  if b.validity ≠ .valid then (b, .error (.notValid b.validity))
  else
    match b.prepareChanges changes with
    | .error e => (b, .error e)
    | .ok prepared =>
      let journal := UndoLog.applyAll levelAt putLevel b prepared
      match journal.store.checkNotCrossed with
      | .error e => (UndoLog.rollback putLevel journal, .error e)
      | .ok () => (journal.store.trimDepth, .ok ())

/-! ## Queries -/

/-- Answers only while the book is valid. -/
def bestBid (b : OrderBook) : Option (Price × Quantity) :=
  if b.validity ≠ .valid then none
  else b.bids.last?.map fun e => (b.price e.1, b.qty e.2)

/-- Answers only while the book is valid. -/
def bestAsk (b : OrderBook) : Option (Price × Quantity) :=
  if b.validity ≠ .valid then none
  else b.asks.first?.map fun e => (b.price e.1, b.qty e.2)

/-- One listed level. -/
def bookLevel (b : OrderBook) (e : Int × Int) : BookLevel := ⟨b.price e.1, b.qty e.2⟩

/-- At most `limit` best levels of each side, best first. -/
def snapshotLevelsBounded (b : OrderBook) (limit : Nat) :
    Option (List BookLevel × List BookLevel) :=
  if b.validity ≠ .valid then none
  else some ((b.bids.toList.reverse.take limit).map b.bookLevel,
    (b.asks.toList.take limit).map b.bookLevel)

/-- Answers only while the book is valid. -/
def snapshotLevels (b : OrderBook) : Option (List BookLevel × List BookLevel) :=
  b.snapshotLevelsBounded usizeMax

/-! ## What each function can do -/

/-- Reading a level after writing one. -/
lemma levelAt_putLevel (b : OrderBook) (cell : BookSide × Int) (quantity : Option Int)
    (cell' : BookSide × Int) :
    (b.putLevel cell quantity).levelAt cell' = if cell = cell' then quantity else b.levelAt cell' := by
  obtain ⟨side, key⟩ := cell
  obtain ⟨side', key'⟩ := cell'
  cases side <;> cases side' <;>
    simp [putLevel, writeLevel, levelAt, levels, OrdMap.getElem?_write]

/-- The fields of a book besides its levels. -/
def header (b : OrderBook) : Nat × Nat × BookValidity × Option Nat × Option UInt64 :=
  (b.priceScale, b.qtyScale, b.validity, b.depth, b.sequence)

@[simp] lemma header_putLevel (b : OrderBook) (cell : BookSide × Int) (quantity : Option Int) :
    (b.putLevel cell quantity).header = b.header := by
  rcases cell with ⟨_ | _, key⟩ <;> rfl

variable {b c : OrderBook}

/-- Books that agree on every level and on the other fields are equal. -/
lemma ext_levelAt (hh : b.header = c.header) (hl : ∀ cell, b.levelAt cell = c.levelAt cell) :
    b = c := by
  obtain ⟨ps, qs, bids, asks, v, d, sq⟩ := b
  obtain ⟨ps', qs', bids', asks', v', d', sq'⟩ := c
  simp only [header, Prod.mk.injEq] at hh
  obtain ⟨rfl, rfl, rfl, rfl, rfl⟩ := hh
  have hb : bids = bids' := Std.ExtTreeMap.ext_getElem? fun k => hl (.bid, k)
  have ha : asks = asks' := Std.ExtTreeMap.ext_getElem? fun k => hl (.ask, k)
  rw [hb, ha]

/-- The book after a list of level writes. -/
def putLevels (b : OrderBook) (ws : List LevelWrite) : OrderBook :=
  ws.foldl (fun b w => b.putLevel w.1 w.2) b

lemma putLevels_append (b : OrderBook) (ws ws' : List LevelWrite) :
    b.putLevels (ws ++ ws') = (b.putLevels ws).putLevels ws' :=
  List.foldl_append

lemma putLevels_cons (b : OrderBook) (w : LevelWrite) (ws : List LevelWrite) :
    b.putLevels (w :: ws) = (b.putLevel w.1 w.2).putLevels ws := rfl

@[simp] lemma header_putLevels (b : OrderBook) (ws : List LevelWrite) :
    (b.putLevels ws).header = b.header := by
  induction ws generalizing b with
  | nil => rfl
  | cons w ws ih => rw [putLevels_cons, ih, header_putLevel]

/-- Rolling a transaction back gives the book it started from. -/
lemma rollback_applyAll (b : OrderBook) (ws : List LevelWrite) :
    UndoLog.rollback putLevel (UndoLog.applyAll levelAt putLevel b ws) = b := by
  refine ext_levelAt ?_ (UndoLog.get_rollback levelAt_putLevel b ws)
  rw [UndoLog.rollback, UndoLog.store_applyAll]
  exact (header_putLevels _ _).trans (header_putLevels b ws)

variable {v : Fixed} {n : Nat}

/-- A rescaled coefficient stands for the same number at the target scale. -/
lemma toRat_of_scaleCoeff {c : Int} (h : scaleCoeff v n = .ok c) :
    (⟨c, n⟩ : Fixed).toRat = v.toRat := by
  unfold scaleCoeff at h
  cases hr : v.rescale n .exactOnly with
  | error e => simp [hr] at h
  | ok y =>
    simp only [hr, Except.ok.injEq] at h
    obtain ⟨hs, hv⟩ := Fixed.toRat_rescale_exactOnly hr
    rw [← hv, ← h, ← hs]

lemma pos_of_scaleCoeff {c : Int} (h : scaleCoeff v n = .ok c) : 0 < c ↔ 0 < v.coefficient := by
  rw [← Fixed.toRat_pos, ← toRat_of_scaleCoeff h, Fixed.toRat_pos]

variable {side : BookSide}

/-- An accepted upsert writes a positive quantity at the rescaled price. -/
lemma upsert_ok {b' : OrderBook} {price : Price} {qty : Quantity}
    (h : b.upsert side price qty = .ok b') :
    ∃ pk qk, b.priceKey price = .ok pk ∧ scaleCoeff qty.fixed b.qtyScale = .ok qk ∧ 0 < qk ∧
      b' = b.putLevel (side, pk) (some qk) := by
  unfold upsert at h
  split_ifs at h with hq
  obtain ⟨pk, hp, h⟩ := bind_eq_ok.mp h
  obtain ⟨qk, hs, h⟩ := bind_eq_ok.mp h
  exact ⟨pk, qk, hp, hs, (pos_of_scaleCoeff hs).mpr (by omega), (Except.ok.inj h).symm⟩

/-- A refused upsert is not about a crossed book. -/
lemma failsOnly_upsert {price : Price} {qty : Quantity} :
    FailsOnly (· ≠ .crossed) (b.upsert side price qty) := by
  have hscale (v : Fixed) (n : Nat) : FailsOnly (· ≠ .crossed) (scaleCoeff v n) := by
    unfold scaleCoeff
    split
    · exact .ok _
    · exact .error (by simp)
  unfold upsert
  split_ifs
  · exact .error (by simp)
  · exact (hscale _ _).bind fun _ _ => (hscale _ _).bind fun _ _ => .ok _

/-- A delete removes one level or does nothing. -/
lemma delete_cases (b : OrderBook) (side : BookSide) (price : Price) :
    (∃ pk, b.priceKey price = .ok pk ∧ b.delete side price = b.putLevel (side, pk) none) ∨
      ((∃ e, b.priceKey price = .error e) ∧ b.delete side price = b) := by
  unfold delete
  cases hp : b.priceKey price with
  | ok pk => exact .inl ⟨pk, rfl, rfl⟩
  | error e => exact .inr ⟨⟨e, rfl⟩, rfl⟩

/-- Every bid key is below every ask key. -/
def Uncrossed (b : OrderBook) : Prop :=
  ∀ (kb qb ka qa : Int), b.levelAt (.bid, kb) = some qb → b.levelAt (.ask, ka) = some qa → kb < ka

/-- The crossing check of the source decides `Uncrossed`. -/
lemma checkNotCrossed_eq_ok : b.checkNotCrossed = .ok () ↔ b.Uncrossed := by
  have hsep := OrdMap.separated_iff (m := b.bids) (n := b.asks)
  unfold Uncrossed levelAt levels
  rw [← hsep]
  unfold checkNotCrossed
  cases hb : b.bids.last? with
  | none => simp
  | some bid =>
    cases ha : b.asks.first? with
    | none => simp
    | some ask =>
      by_cases hge : bid.1 ≥ ask.1
      · simp [hge]
      · have hlt : bid.1 < ask.1 := not_le.mp hge
        simp [hge, hlt]

lemma checkNotCrossed_error {e : BookError} (h : b.checkNotCrossed = .error e) : e = .crossed := by
  unfold checkNotCrossed at h
  split at h <;> try contradiction
  split at h <;> try contradiction
  split_ifs at h
  exact (Except.error.inj h).symm

/-- Trimming keeps the fields besides the levels. -/
@[simp] lemma header_trimDepth (b : OrderBook) : b.trimDepth.header = b.header := by
  unfold trimDepth
  split <;> rfl

/-- Trimming only removes levels. -/
lemma levelAt_of_trimDepth {cell : BookSide × Int} {q : Int}
    (h : b.trimDepth.levelAt cell = some q) : b.levelAt cell = some q := by
  obtain ⟨side, key⟩ := cell
  unfold trimDepth at h
  split at h
  · exact h
  · cases side with
    | bid => exact OrdMap.getElem?_of_trimFirst h
    | ask => exact OrdMap.getElem?_of_trimLast h

lemma size_trimDepth {d : Nat} (hd : b.depth = some d) (side : BookSide) :
    (b.trimDepth.levels side).size ≤ d := by
  unfold trimDepth
  rw [hd]
  cases side with
  | bid => exact OrdMap.size_trimFirst_le d b.bids
  | ask => exact OrdMap.size_trimLast_le d b.asks

/-- Trimming an uncrossed book leaves it uncrossed. -/
lemma Uncrossed.trimDepth (h : b.Uncrossed) : b.trimDepth.Uncrossed :=
  fun _ _ _ _ hb ha => h _ _ _ _ (levelAt_of_trimDepth hb) (levelAt_of_trimDepth ha)

/-- **Snapshot outcomes.** Either the book is replaced by the built candidate, or an error leaves
it as it was. -/
theorem applySnapshot_cases (b : OrderBook) (bids asks : List (Price × Quantity))
    (sequence : Option UInt64) :
    (∃ next, b.buildSnapshot bids asks sequence = .ok next ∧
        b.applySnapshot bids asks sequence = (next, .ok ())) ∨
      ∃ e, b.buildSnapshot bids asks sequence = .error e ∧
        b.applySnapshot bids asks sequence = (b, .error e) := by
  unfold applySnapshot
  cases h : b.buildSnapshot bids asks sequence with
  | ok next => exact .inl ⟨next, rfl, rfl⟩
  | error e => exact .inr ⟨e, rfl, rfl⟩

variable {next : OrderBook} {bids asks : List (Price × Quantity)} {sequence : Option UInt64}

lemma applySnapshot_eq_ok : b.applySnapshot bids asks sequence = (next, .ok ()) ↔
      b.buildSnapshot bids asks sequence = .ok next := by
  unfold applySnapshot
  cases b.buildSnapshot bids asks sequence with
  | ok next' | error e => simp

/-- A level is written with a positive quantity, at one of the prices. -/
def WritesAt (b : OrderBook) (prices : List Price) (w : LevelWrite) : Prop :=
  ∀ q, w.2 = some q → 0 < q ∧ ∃ price ∈ prices, b.priceKey price = .ok w.1.2

lemma WritesAt.mono {prices prices' : List Price} {w : LevelWrite} (h : b.WritesAt prices w)
    (hsubset : prices ⊆ prices') : b.WritesAt prices' w := by
  intro q hq
  obtain ⟨hpos, price, hmem, hkey⟩ := h q hq
  exact ⟨hpos, price, hsubset hmem, hkey⟩

/-- The upserts of a snapshot as level writes. -/
lemma upsertAll_ok {b' : OrderBook} {rows : List (Price × Quantity)}
    (h : upsertAll side b rows = .ok b') :
    ∃ ws : List LevelWrite, b' = b.putLevels ws ∧ ∀ w ∈ ws, b.WritesAt (rows.map Prod.fst) w := by
  induction rows generalizing b with
  | nil => exact ⟨[], (Except.ok.inj h).symm, by simp⟩
  | cons row rows ih =>
    obtain ⟨b₁, hb₁, h⟩ := bind_eq_ok.mp h
    obtain ⟨pk, qk, hpk, -, hpos, rfl⟩ := upsert_ok hb₁
    obtain ⟨ws, rfl, hws⟩ := ih h
    refine ⟨((side, pk), some qk) :: ws, rfl, List.forall_mem_cons.mpr ⟨fun q hq => ?_, fun w hw => ?_⟩⟩
    · exact ⟨Option.some.inj hq ▸ hpos, row.1, List.mem_cons_self, hpk⟩
    · have hkeys : (b.putLevel (side, pk) (some qk)).WritesAt (rows.map Prod.fst) w := hws w hw
      cases side <;> exact hkeys.mono (List.subset_cons_self _ _)

/-- **An accepted snapshot** is a fold of positive writes over the empty book, trimmed, uncrossed
and valid, with the requested sequence. -/
theorem buildSnapshot_ok (h : b.buildSnapshot bids asks sequence = .ok next) :
    ∃ ws : List LevelWrite, (∀ w ∈ ws, b.WritesAt ((bids ++ asks).map Prod.fst) w) ∧
      let filled := (new b.priceScale b.qtyScale b.depth).putLevels ws
      filled.trimDepth.Uncrossed ∧
        next = { filled.trimDepth with validity := .valid, sequence } := by
  obtain ⟨n₁, h₁, h⟩ := bind_eq_ok.mp h
  obtain ⟨n₂, h₂, h⟩ := bind_eq_ok.mp h
  obtain ⟨_, h₃, h⟩ := bind_eq_ok.mp h
  obtain ⟨ws₁, rfl, hws₁⟩ := upsertAll_ok h₁
  obtain ⟨ws₂, rfl, hws₂⟩ := upsertAll_ok h₂
  have hscale : ((new b.priceScale b.qtyScale b.depth).putLevels ws₁).priceScale = b.priceScale :=
    congrArg Prod.fst (header_putLevels _ ws₁)
  refine ⟨ws₁ ++ ws₂, ?_, ?_⟩
  · intro w hw
    rw [List.map_append]
    rcases List.mem_append.mp hw with hw | hw
    · exact WritesAt.mono (b := b) (hws₁ w hw) (List.subset_append_left _ _)
    · have hkeys := hws₂ w hw
      unfold WritesAt priceKey at hkeys
      rw [hscale] at hkeys
      exact WritesAt.mono (b := b) hkeys (List.subset_append_right _ _)
  · rw [putLevels_append]
    exact ⟨checkNotCrossed_eq_ok.mp h₃, (Except.ok.inj h).symm⟩

/-- An accepted snapshot keeps the scales and the depth of the book it replaces. -/
lemma scales_buildSnapshot (h : b.buildSnapshot bids asks sequence = .ok next) :
    next.priceScale = b.priceScale ∧ next.qtyScale = b.qtyScale ∧ next.depth = b.depth ∧
      next.sequence = sequence := by
  obtain ⟨ws, -, -, rfl⟩ := buildSnapshot_ok h
  have hh : ((new b.priceScale b.qtyScale b.depth).putLevels ws).trimDepth.header =
      (new b.priceScale b.qtyScale b.depth).header := by
    rw [header_trimDepth, header_putLevels]
  simp only [header, new, Prod.mk.injEq] at hh
  exact ⟨hh.1, hh.2.1, hh.2.2.2.1, rfl⟩

/-- **Single-change outcomes.** The book is untouched, or loses one level, or receives one level
and is trimmed; in the last case it is marked invalid when that leaves it crossed. -/
theorem applyChange_cases (b : OrderBook) (side : BookSide) (operation : BookOperation)
    (price : Price) (quantity : Option Quantity) :
    (∃ e, e ≠ .crossed ∧ b.applyChange side operation price quantity = (b, .error e)) ∨
      (b.validity = .valid ∧
        b.applyChange side operation price quantity = (b.delete side price, .ok ())) ∨
      ∃ q b', b.validity = .valid ∧ operation = .upsert ∧ quantity = some q ∧
        q.fixed.coefficient ≠ 0 ∧ b.upsert side price q = .ok b' ∧
        ((b'.trimDepth.Uncrossed ∧
            b.applyChange side operation price quantity = (b'.trimDepth, .ok ())) ∨
          (¬ b'.trimDepth.Uncrossed ∧
            b.applyChange side operation price quantity =
              (b'.trimDepth.setValidity .invalid, .error .crossed))) := by
  unfold applyChange
  by_cases hv : b.validity = .valid
  · simp only [hv, ne_eq, not_true_eq_false, if_false, true_and]
    cases operation with
    | delete => simp
    | upsert =>
      cases quantity with
      | none => exact Or.inl ⟨.invalidDelete, by simp, rfl⟩
      | some q =>
        by_cases hq : q.fixed.coefficient = 0
        · simp [hq]
        · simp only [hq, if_false]
          cases hu : b.upsert side price q with
          | error e => exact .inl ⟨e, failsOnly_upsert e hu, rfl⟩
          | ok b' =>
            refine .inr (.inr ⟨q, b', trivial, rfl, hq, hu, ?_⟩)
            cases hc : b'.trimDepth.checkNotCrossed with
            | ok _ => exact Or.inl ⟨checkNotCrossed_eq_ok.mp hc, by simp only [hc]⟩
            | error e =>
              obtain rfl := checkNotCrossed_error hc
              refine Or.inr ⟨fun hu => ?_, by simp only [hc]⟩
              cases hc.symm.trans (checkNotCrossed_eq_ok.mpr hu)
  · simp only [hv, ne_eq, not_false_eq_true, if_true]
    exact Or.inl ⟨_, by simp, rfl⟩

/-- A prepared write stores a positive quantity at the price of the change, or removes the level. -/
lemma prepareChange_ok {change : BookChange} {w : LevelWrite}
    (h : b.prepareChange change = .ok (some w)) : b.WritesAt [change.price] w := by
  have hdel : ∀ {side price}, b.prepareDelete side price = some w → w.2 = none := by
    intro side price hd
    unfold prepareDelete at hd
    split at hd
    · cases hd
      rfl
    · cases hd
  unfold prepareChange at h
  intro q hq
  split at h
  · rw [hdel (Except.ok.inj h)] at hq
    cases hq
  · split at h
    · cases h
    · split_ifs at h with h0 hneg
      · rw [hdel (Except.ok.inj h)] at hq
        cases hq
      · obtain ⟨key, hkey, h⟩ := bind_eq_ok.mp h
        obtain ⟨c, hc, h⟩ := bind_eq_ok.mp h
        cases h
        cases hq
        exact ⟨(pos_of_scaleCoeff hc).mpr (by omega), _, List.mem_singleton_self _, hkey⟩

lemma prepareChanges_ok {changes : List BookChange} {ws : List LevelWrite}
    (h : b.prepareChanges changes = .ok ws) :
    ∀ w ∈ ws, b.WritesAt (changes.map (·.price)) w := by
  induction changes generalizing ws with
  | nil =>
    cases h
    simp
  | cons change rest ih =>
    obtain ⟨o, ho, h⟩ := bind_eq_ok.mp h
    obtain ⟨ws', hws', h⟩ := bind_eq_ok.mp h
    cases h
    intro w hw
    rcases List.mem_append.mp hw with hw | hw
    · cases o with
      | none => simp at hw
      | some w' =>
        rw [Option.toList_some, List.mem_singleton] at hw
        subst hw
        exact (prepareChange_ok ho).mono (List.cons_subset_cons _ (List.nil_subset _))
    · exact (ih hws' w hw).mono (List.subset_cons_self _ _)

/-- **The transaction without its undo log**: prepare, write, check, and either trim or forget. -/
theorem applyChangesAtomic_eq (b : OrderBook) (changes : List BookChange) :
    b.applyChangesAtomic changes =
      if b.validity ≠ .valid then (b, .error (.notValid b.validity))
      else match b.prepareChanges changes with
        | .error e => (b, .error e)
        | .ok ws =>
          match (b.putLevels ws).checkNotCrossed with
          | .error e => (b, .error e)
          | .ok () => ((b.putLevels ws).trimDepth, .ok ()) := by
  unfold applyChangesAtomic putLevels
  simp only [UndoLog.store_applyAll, rollback_applyAll]

/-- **Transaction outcomes.** A failed transaction leaves the book exactly as it was, rollback
included; a successful one is the fold of its writes, uncrossed, trimmed to the depth. -/
theorem applyChangesAtomic_cases (b : OrderBook) (changes : List BookChange) :
    (∃ e, b.applyChangesAtomic changes = (b, .error e)) ∨
      ∃ ws, b.validity = .valid ∧ b.prepareChanges changes = .ok ws ∧
        (b.putLevels ws).Uncrossed ∧
        b.applyChangesAtomic changes = ((b.putLevels ws).trimDepth, .ok ()) := by
  rw [applyChangesAtomic_eq]
  by_cases hv : b.validity = .valid
  · simp only [hv, ne_eq, not_true_eq_false, if_false, true_and]
    rcases b.prepareChanges changes with e | ws
    · exact .inl ⟨e, rfl⟩
    · rcases hc : (b.putLevels ws).checkNotCrossed with e | _
      · exact Or.inl ⟨e, by simp only [hc]⟩
      · exact Or.inr ⟨ws, rfl, checkNotCrossed_eq_ok.mp hc, by simp only [hc]⟩
  · simp only [hv, ne_eq, not_false_eq_true, if_true]
    exact .inl ⟨_, rfl⟩

/-! ## The sequence is not read by a transaction -/

/-- The book without its sequence. -/
def unsequenced (b : OrderBook) : OrderBook := { b with sequence := none }

lemma putLevels_unsequenced (b : OrderBook) (ws : List LevelWrite) :
    b.unsequenced.putLevels ws = (b.putLevels ws).unsequenced := by
  induction ws generalizing b with
  | nil => rfl
  | cons w ws ih =>
    obtain ⟨⟨side, key⟩, quantity⟩ := w
    have hput : b.unsequenced.putLevel (side, key) quantity =
        (b.putLevel (side, key) quantity).unsequenced := by
      rcases side with _ | _ <;> rfl
    rw [putLevels_cons, hput, ih, putLevels_cons]

lemma prepareChanges_unsequenced (b : OrderBook) (changes : List BookChange) :
    b.unsequenced.prepareChanges changes = b.prepareChanges changes := by
  induction changes with
  | nil => rfl
  | cons change rest ih =>
    show (b.prepareChange change >>= _) = (b.prepareChange change >>= _)
    rw [ih]

/-- An accepted snapshot without a sequence, on any book with the same scales and depth. -/
lemma buildSnapshot_unsequenced (hp : c.priceScale = b.priceScale)
    (hq : c.qtyScale = b.qtyScale) (hd : c.depth = b.depth)
    (h : b.buildSnapshot bids asks sequence = .ok next) :
    c.buildSnapshot bids asks none = .ok next.unsequenced := by
  obtain ⟨n₁, h₁, h⟩ := bind_eq_ok.mp h
  obtain ⟨n₂, h₂, h⟩ := bind_eq_ok.mp h
  obtain ⟨_, h₃, h⟩ := bind_eq_ok.mp h
  rw [← Except.ok.inj h]
  rw [← hp, ← hq, ← hd] at h₁
  exact bind_eq_ok.mpr ⟨n₁, h₁, bind_eq_ok.mpr ⟨n₂, h₂, bind_eq_ok.mpr ⟨_, h₃, rfl⟩⟩⟩

/-- **A transaction commutes with forgetting the sequence.** -/
theorem applyChangesAtomic_unsequenced (b : OrderBook) (changes : List BookChange) :
    b.unsequenced.applyChangesAtomic changes =
      ((b.applyChangesAtomic changes).1.unsequenced, (b.applyChangesAtomic changes).2) := by
  have htrim : ∀ c : OrderBook, c.unsequenced.trimDepth = c.trimDepth.unsequenced := by
    intro c
    unfold trimDepth
    rcases h : c.depth with _ | d <;> simp [unsequenced, h]
  simp only [applyChangesAtomic_eq, prepareChanges_unsequenced, putLevels_unsequenced]
  by_cases hv : b.validity = .valid
  · have hv' : b.unsequenced.validity = .valid := hv
    simp only [hv, hv', ne_eq, not_true_eq_false, if_false]
    rcases b.prepareChanges changes with e | ws
    · rfl
    · have hcheck : (b.putLevels ws).unsequenced.checkNotCrossed =
          (b.putLevels ws).checkNotCrossed := rfl
      simp only [hcheck]
      rcases (b.putLevels ws).checkNotCrossed with e | _
      · rfl
      · simp only [htrim]
  · have hv' : b.unsequenced.validity ≠ .valid := hv
    simp only [hv, hv', ne_eq, not_false_eq_true, if_true]
    rfl

/-- Books that differ only in their sequence stay so through a transaction. -/
lemma unsequenced_applyChangesAtomic (h : c.unsequenced = b.unsequenced)
    (changes : List BookChange) :
    (c.applyChangesAtomic changes).1.unsequenced = (b.applyChangesAtomic changes).1.unsequenced := by
  have hc := applyChangesAtomic_unsequenced c changes
  rw [h, applyChangesAtomic_unsequenced b changes] at hc
  exact (congrArg Prod.fst hc).symm

end OrderBook

end Marketfeed
