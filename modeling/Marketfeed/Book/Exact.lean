import Marketfeed.Book.L2
import Mathlib.Data.Int.ConditionallyCompleteOrder

/-!
# Order books as exact decimals

What a book message means, independent of the scales a book is kept at. An `ExactBook` maps rational
prices to rational quantities. A snapshot writes its levels into an empty book, a delta writes its
changes into the book, and each of them is then cut to the snapshot's depth.
-/

namespace Marketfeed

/-- A book of exact decimals, with the depth it is cut to. -/
structure ExactBook where
  bids : OrdMap ℚ ℚ
  asks : OrdMap ℚ ℚ
  depth : Option Nat
deriving DecidableEq

namespace ExactBook

/-- One level and its new contents. -/
abbrev Write := (BookSide × ℚ) × Option ℚ

variable (b : ExactBook)

/-- The levels of one side. -/
def levels : BookSide → OrdMap ℚ ℚ
  | .bid => b.bids
  | .ask => b.asks

/-- What the book holds at one level. -/
def levelAt (cell : BookSide × ℚ) : Option ℚ := (b.levels cell.1)[cell.2]?

/-- Store or remove one level. -/
def put (cell : BookSide × ℚ) (quantity : Option ℚ) : ExactBook :=
  match cell.1 with
  | .bid => { b with bids := b.bids.write cell.2 quantity }
  | .ask => { b with asks := b.asks.write cell.2 quantity }

/-- The book after a list of level writes. -/
def putAll (ws : List Write) : ExactBook := ws.foldl (fun b w => b.put w.1 w.2) b

/-- Keep the best levels of each side: the highest bids and the lowest asks. -/
def cut : ExactBook :=
  match b.depth with
  | none => b
  | some depth => { b with bids := b.bids.trimFirst depth, asks := b.asks.trimLast depth }

/-- Every bid is below every ask. -/
def Uncrossed : Prop :=
  ∀ (bid qb ask qa : ℚ), b.levelAt (.bid, bid) = some qb → b.levelAt (.ask, ask) = some qa →
    bid < ask

lemma uncrossed_iff {b : ExactBook} :
    b.Uncrossed ↔ ∀ bid ∈ b.bids.last?, ∀ ask ∈ b.asks.first?, bid.1 < ask.1 := by
  have hsep := OrdMap.separated_iff (m := b.bids) (n := b.asks)
  unfold Uncrossed levelAt levels
  rw [← hsep]
  exact ⟨fun h bid hb ask ha => h bid ask hb ha, fun h bid ask hb ha => h bid hb ask ha⟩

instance (b : ExactBook) : Decidable b.Uncrossed := decidable_of_iff _ uncrossed_iff.symm

/-- At most `limit` levels of each side, best first. -/
def best (limit : Nat) : List (ℚ × ℚ) × List (ℚ × ℚ) :=
  (b.bids.toList.reverse.take limit, b.asks.toList.take limit)

/-- The levels a snapshot lists, bids before asks. -/
def snapshotWrites (snap : BookSnapshot) : List Write :=
  let side (side : BookSide) (levels : List BookLevel) : List Write :=
    levels.map fun l => ((side, l.price.fixed.toRat), some l.quantity.fixed.toRat)
  side .bid snap.bids ++ side .ask snap.asks

/-- **The book a snapshot stands for.** -/
def ofSnapshot (snap : BookSnapshot) : ExactBook :=
  (putAll ⟨∅, ∅, snap.depth⟩ (snapshotWrites snap)).cut

/-- A change sets its level; a delete, and an upsert of zero, removes it. -/
def changeWrite (change : BookChange) : Write :=
  ((change.side, change.price.fixed.toRat), match change.operation with
    | .delete => none
    | .upsert => change.quantity.bind fun q =>
      if q.fixed.coefficient = 0 then none else some q.fixed.toRat)

/-- **The book after a delta.** -/
def applyDelta (delta : BookDelta) : ExactBook :=
  (b.putAll (delta.changes.map changeWrite)).cut

lemma putAll_cons (w : Write) (ws : List Write) :
    b.putAll (w :: ws) = (b.put w.1 w.2).putAll ws := rfl

lemma putAll_append (ws ws' : List Write) : b.putAll (ws ++ ws') = (b.putAll ws).putAll ws' :=
  List.foldl_append

/-- Removing an absent level changes nothing. -/
lemma put_none_of_absent {b : ExactBook} {cell : BookSide × ℚ} (h : b.levelAt cell = none) :
    b.put cell none = b := by
  obtain ⟨side, price⟩ := cell
  cases side with
  | bid =>
    have hw : b.bids.write price none = b.bids := OrdMap.write_none_of_absent h
    simp only [put, hw]
  | ask =>
    have hw : b.asks.write price none = b.asks := OrdMap.write_none_of_absent h
    simp only [put, hw]

end ExactBook

/-! ## The exact reading of a kept book -/

/-- The number a coefficient stands for at a scale. -/
def decimal (scale : Nat) (coefficient : Int) : ℚ := (⟨coefficient, scale⟩ : Fixed).toRat

lemma strictMono_decimal (scale : Nat) : StrictMono (decimal scale) :=
  fun _ _ h => Fixed.toRat_lt_toRat.mpr h

lemma decimal_of_scaleCoeff {v : Fixed} {scale : Nat} {c : Int} (h : scaleCoeff v scale = .ok c) :
    decimal scale c = v.toRat :=
  OrderBook.toRat_of_scaleCoeff h

namespace OrderBook

/-- **The exact reading of a book.** -/
def exact (b : OrderBook) : ExactBook where
  bids := b.bids.image (decimal b.priceScale) (decimal b.qtyScale)
  asks := b.asks.image (decimal b.priceScale) (decimal b.qtyScale)
  depth := b.depth

lemma exact_putLevel (b : OrderBook) (side : BookSide) (key : Int) (quantity : Option Int) :
    (b.putLevel (side, key) quantity).exact =
      b.exact.put (side, decimal b.priceScale key) (quantity.map (decimal b.qtyScale)) := by
  cases side with
  | bid | ask =>
    simp only [putLevel, writeLevel, exact, ExactBook.put,
      OrdMap.image_write (strictMono_decimal b.priceScale)]

lemma exact_trimDepth (b : OrderBook) : b.trimDepth.exact = b.exact.cut := by
  unfold trimDepth ExactBook.cut
  rcases hd : b.depth with _ | d
  · simp only [exact, hd]
  · simp only [exact, hd, OrdMap.image_trimFirst (strictMono_decimal b.priceScale),
      OrdMap.image_trimLast (strictMono_decimal b.priceScale)]

variable {b : OrderBook} {side : BookSide}

lemma levelAt_exact_iff {price quantity : ℚ} :
    b.exact.levelAt (side, price) = some quantity ↔
      ∃ key q, b.levelAt (side, key) = some q ∧ decimal b.priceScale key = price ∧
        decimal b.qtyScale q = quantity := by
  cases side with
  | bid | ask => exact OrdMap.getElem?_image_iff (strictMono_decimal b.priceScale)

/-- The order of the prices does not depend on the scale. -/
lemma uncrossed_exact : b.exact.Uncrossed ↔ b.Uncrossed := by
  constructor
  · intro h kb qb ka qa hb ha
    have := h _ _ _ _ (levelAt_exact_iff.mpr ⟨kb, qb, hb, rfl, rfl⟩)
      (levelAt_exact_iff.mpr ⟨ka, qa, ha, rfl, rfl⟩)
    exact (strictMono_decimal b.priceScale).lt_iff_lt.mp this
  · intro h bid qb ask qa hb ha
    obtain ⟨kb, _, hkb, rfl, -⟩ := levelAt_exact_iff.mp hb
    obtain ⟨ka, _, hka, rfl, -⟩ := levelAt_exact_iff.mp ha
    exact strictMono_decimal b.priceScale (h _ _ _ _ hkb hka)

variable (ps qs : Nat)

lemma exact_new (d : Option Nat) : (new ps qs d).exact = ⟨∅, ∅, d⟩ := by
  simp only [new, exact, OrdMap.image_empty]

/-- The levels a listing shows, as exact decimals. -/
def exactLevels (levels : List BookLevel) : List (ℚ × ℚ) :=
  levels.map fun l => (l.price.fixed.toRat, l.quantity.fixed.toRat)

/-- A valid book lists the best levels of its exact reading. -/
lemma snapshotLevelsBounded_exact (hv : b.validity = .valid) (limit : Nat) :
    (b.snapshotLevelsBounded limit).map (fun r => (exactLevels r.1, exactLevels r.2)) =
      some (b.exact.best limit) := by
  have hlist : ∀ rows : List (Int × Int), exactLevels (rows.map b.bookLevel) =
      rows.map (Prod.map (decimal b.priceScale) (decimal b.qtyScale)) := by
    intro rows
    rw [exactLevels, List.map_map]
    rfl
  unfold snapshotLevelsBounded ExactBook.best
  rw [if_neg (by simp [hv])]
  rw [Option.map_some, hlist, hlist]
  simp only [exact, OrdMap.toList_image (strictMono_decimal b.priceScale), List.map_take,
    List.map_reverse]

/-! ## Accepted messages mean what they say -/

/-- The levels of one side as exact writes. -/
def rowWrites (side : BookSide) (rows : List (Price × Quantity)) : List ExactBook.Write :=
  rows.map fun row => ((side, row.1.fixed.toRat), some row.2.fixed.toRat)

lemma exact_upsertAll {b' : OrderBook} {rows : List (Price × Quantity)}
    (h : upsertAll side b rows = .ok b') :
    b'.exact = b.exact.putAll (rowWrites side rows) ∧ b'.header = b.header := by
  induction rows generalizing b with
  | nil =>
    rw [← Except.ok.inj h]
    exact ⟨rfl, rfl⟩
  | cons row rows ih =>
    obtain ⟨b₁, hb₁, h⟩ := bind_eq_ok.mp h
    obtain ⟨pk, qk, hp, hq, -, rfl⟩ := upsert_ok hb₁
    obtain ⟨hexact, hheader⟩ := ih h
    rw [exact_putLevel, Option.map_some, decimal_of_scaleCoeff hp, decimal_of_scaleCoeff hq]
      at hexact
    exact ⟨hexact, hheader.trans (header_putLevel b _ _)⟩

/-- The exact book of two lists of levels. -/
def exactRows (bids asks : List (Price × Quantity)) (depth : Option Nat) : ExactBook :=
  (ExactBook.putAll ⟨∅, ∅, depth⟩ (rowWrites .bid bids ++ rowWrites .ask asks)).cut

/-- **An accepted snapshot is the exact book of its levels.** -/
theorem buildSnapshot_exact {next : OrderBook} {bids asks : List (Price × Quantity)}
    {sequence : Option UInt64} (h : b.buildSnapshot bids asks sequence = .ok next) :
    next.exact = exactRows bids asks b.depth ∧ next.validity = .valid := by
  obtain ⟨n₁, h₁, h⟩ := bind_eq_ok.mp h
  obtain ⟨n₂, h₂, h⟩ := bind_eq_ok.mp h
  obtain ⟨_, -, h⟩ := bind_eq_ok.mp h
  rw [← Except.ok.inj h]
  refine ⟨?_, rfl⟩
  show n₂.trimDepth.exact = _
  rw [exact_trimDepth, (exact_upsertAll h₂).1, (exact_upsertAll h₁).1, exact_new, exactRows,
    ExactBook.putAll_append]

/-- The decimal can be written at the scale without loss. -/
def Expressible (x : Fixed) (scale : Nat) : Prop := (scaleCoeff x scale).isOk = true

instance (x : Fixed) (scale : Nat) : Decidable (Expressible x scale) :=
  inferInstanceAs (Decidable (_ = _))

lemma Expressible.coeff {x : Fixed} {scale : Nat} (h : Expressible x scale) :
    ∃ c, scaleCoeff x scale = .ok c := by
  unfold Expressible at h
  rcases hx : scaleCoeff x scale with e | c
  · simp [hx, Except.isOk, Except.toBool] at h
  · exact ⟨c, rfl⟩

/-- A level that a book at the given scales can hold: a positive quantity, price and quantity
expressible. -/
def RowFits (row : Price × Quantity) : Prop :=
  0 < row.2.fixed.coefficient ∧ Expressible row.1.fixed ps ∧ Expressible row.2.fixed qs

instance (row : Price × Quantity) : Decidable (RowFits ps qs row) :=
  inferInstanceAs (Decidable (_ ∧ _))

lemma upsertAll_of_fits {rows : List (Price × Quantity)}
    (h : ∀ row ∈ rows, RowFits b.priceScale b.qtyScale row) :
    ∃ b', upsertAll side b rows = .ok b' := by
  induction rows generalizing b with
  | nil => exact ⟨b, rfl⟩
  | cons row rows ih =>
    obtain ⟨hpos, hp, hq⟩ := h row (by simp)
    obtain ⟨pk, hpk⟩ := hp.coeff
    obtain ⟨qk, hqk⟩ := hq.coeff
    have hup : b.upsert side row.1 row.2 = .ok (b.writeLevel side pk (some qk)) := by
      unfold upsert
      rw [if_neg (by omega)]
      exact bind_eq_ok.mpr ⟨pk, hpk, bind_eq_ok.mpr ⟨qk, hqk, rfl⟩⟩
    obtain ⟨b', hb'⟩ := ih (b := b.writeLevel side pk (some qk)) fun row hrow => by
      cases side <;> exact h row (List.mem_cons_of_mem _ hrow)
    exact ⟨b', bind_eq_ok.mpr ⟨_, hup, hb'⟩⟩

/-- **A snapshot that fits is accepted.** -/
theorem buildSnapshot_of_fits (b : OrderBook) (bids asks : List (Price × Quantity))
    (sequence : Option UInt64) (h : ∀ row ∈ bids ++ asks, RowFits b.priceScale b.qtyScale row)
    (hu : (exactRows bids asks b.depth).Uncrossed) :
    ∃ next, b.buildSnapshot bids asks sequence = .ok next := by
  obtain ⟨n₁, h₁⟩ := upsertAll_of_fits (b := new b.priceScale b.qtyScale b.depth)
    fun row hrow => h row (List.mem_append_left _ hrow)
  obtain ⟨he₁, hh₁⟩ := exact_upsertAll h₁
  have hps : n₁.priceScale = b.priceScale := congrArg Prod.fst hh₁
  have hqs : n₁.qtyScale = b.qtyScale := congrArg (fun x => x.2.1) hh₁
  obtain ⟨n₂, h₂⟩ := upsertAll_of_fits (b := n₁) fun row hrow => by
    rw [hps, hqs]
    exact h row (List.mem_append_right _ hrow)
  have huncrossed : n₂.trimDepth.Uncrossed := by
    rw [← uncrossed_exact, exact_trimDepth, (exact_upsertAll h₂).1, he₁, exact_new,
      ← ExactBook.putAll_append]
    exact hu
  exact ⟨_, bind_eq_ok.mpr ⟨n₁, h₁, bind_eq_ok.mpr ⟨n₂, h₂, bind_eq_ok.mpr ⟨(),
    checkNotCrossed_eq_ok.mpr huncrossed, rfl⟩⟩⟩⟩

/-- A removal that a book at the given price scale can carry out exactly: the price is expressible,
or there is nothing to remove. -/
def Removable (ps : Nat) (b : ExactBook) (side : BookSide) (price : Price) : Prop :=
  Expressible price.fixed ps ∨ b.levelAt (side, price.fixed.toRat) = none

/-- A change that a book at the given scales can carry out exactly. -/
def ChangeFits (b : ExactBook) (change : BookChange) : Prop :=
  match change.operation with
  | .delete => Removable ps b change.side change.price
  | .upsert =>
    match change.quantity with
    | none => False
    | some q =>
      if q.fixed.coefficient = 0 then Removable ps b change.side change.price
      else RowFits ps qs (change.price, q)

instance (ps : Nat) (b : ExactBook) (side : BookSide) (price : Price) :
    Decidable (Removable ps b side price) :=
  inferInstanceAs (Decidable (_ ∨ _))

instance (b : ExactBook) (change : BookChange) : Decidable (ChangeFits ps qs b change) := by
  unfold ChangeFits
  split
  · infer_instance
  · split
    · infer_instance
    · infer_instance

/-- Every change fits the book it meets. -/
def ChangesFit : ExactBook → List BookChange → Prop :=
  Guarded (fun b change => b.put (ExactBook.changeWrite change).1 (ExactBook.changeWrite change).2)
    (ChangeFits ps qs)

instance (b : ExactBook) (changes : List BookChange) : Decidable (ChangesFit ps qs b changes) :=
  decidableGuarded _ _ _ _

/-- Preparing a change reads only the scales of the book. -/
lemma prepareChanges_congr {c : OrderBook} (hp : c.priceScale = b.priceScale)
    (hq : c.qtyScale = b.qtyScale) (changes : List BookChange) :
    c.prepareChanges changes = b.prepareChanges changes := by
  have hone : ∀ change, c.prepareChange change = b.prepareChange change := by
    intro change
    simp only [prepareChange, prepareDelete, priceKey, hp, hq]
  induction changes with
  | nil => rfl
  | cons change rest ih => simp only [prepareChanges, hone, ih]

/-- A removal that fits is prepared as its exact removal. -/
lemma prepareDelete_exact {price : Price} (h : Removable b.priceScale b.exact side price) :
    (b.putLevels (b.prepareDelete side price).toList).exact =
      b.exact.put (side, price.fixed.toRat) none := by
  rcases hp : b.priceKey price with e | key
  · have hnot : ¬ Expressible price.fixed b.priceScale := by
      intro hex
      obtain ⟨c, hc⟩ := hex.coeff
      rw [priceKey, hc] at hp
      cases hp
    simp only [prepareDelete, hp, Option.toList_none]
    rw [ExactBook.put_none_of_absent (h.resolve_left hnot)]
    rfl
  · simp only [prepareDelete, hp, Option.toList_some]
    show (b.putLevel (side, key) none).exact = _
    rw [exact_putLevel, Option.map_none, decimal_of_scaleCoeff hp]

lemma prepareChange_of_fits {change : BookChange}
    (h : ChangeFits b.priceScale b.qtyScale b.exact change) :
    ∃ w, b.prepareChange change = .ok w ∧ (b.putLevels w.toList).exact =
      b.exact.put (ExactBook.changeWrite change).1 (ExactBook.changeWrite change).2 := by
  unfold ChangeFits at h
  unfold prepareChange ExactBook.changeWrite
  rcases hop : change.operation with _ | _
  · simp only [hop] at h
    rcases hq : change.quantity with _ | q
    · simp [hq] at h
    · simp only [hq] at h
      by_cases h0 : q.fixed.coefficient = 0
      · simp only [h0, if_true, Option.bind_some] at h ⊢
        exact ⟨_, rfl, prepareDelete_exact h⟩
      · simp only [h0, if_false, Option.bind_some] at h ⊢
        obtain ⟨hpos, hp, hq⟩ := h
        obtain ⟨key, hkey⟩ := hp.coeff
        obtain ⟨c, hc⟩ := hq.coeff
        refine ⟨some ((change.side, key), some c), ?_, ?_⟩
        · rw [if_neg (by simpa using hpos.le)]
          exact bind_eq_ok.mpr ⟨key, hkey, bind_eq_ok.mpr ⟨c, hc, rfl⟩⟩
        · show (b.putLevel (change.side, key) (some c)).exact = _
          rw [exact_putLevel, Option.map_some, decimal_of_scaleCoeff hkey, decimal_of_scaleCoeff hc]
  · simp only [hop] at h
    exact ⟨_, rfl, prepareDelete_exact h⟩

/-- Changes that fit are prepared as their exact writes. -/
lemma prepareChanges_of_fits {changes : List BookChange}
    (h : ChangesFit b.priceScale b.qtyScale b.exact changes) :
    ∃ ws, b.prepareChanges changes = .ok ws ∧
      (b.putLevels ws).exact = b.exact.putAll (changes.map ExactBook.changeWrite) := by
  induction changes generalizing b with
  | nil => exact ⟨[], rfl, rfl⟩
  | cons change rest ih =>
    obtain ⟨w, hw, hexact⟩ := prepareChange_of_fits h.1
    have hh := header_putLevels b w.toList
    have hps : (b.putLevels w.toList).priceScale = b.priceScale := congrArg Prod.fst hh
    have hqs : (b.putLevels w.toList).qtyScale = b.qtyScale := congrArg (fun x => x.2.1) hh
    obtain ⟨ws, hws, hexact'⟩ := ih (b := b.putLevels w.toList) (by
      rw [hps, hqs, hexact]
      exact h.2)
    refine ⟨w.toList ++ ws, ?_, ?_⟩
    · rw [prepareChanges_congr hps hqs] at hws
      exact bind_eq_ok.mpr ⟨w, hw, bind_eq_ok.mpr ⟨ws, hws, rfl⟩⟩
    · rw [putLevels_append, hexact', hexact, List.map_cons, ExactBook.putAll_cons]

/-- **A delta that fits is accepted, and means what the exact book says.** -/
theorem applyChangesAtomic_of_fits (hv : b.validity = .valid) {delta : BookDelta}
    (h : ChangesFit b.priceScale b.qtyScale b.exact delta.changes)
    (hu : (b.exact.putAll (delta.changes.map ExactBook.changeWrite)).Uncrossed) :
    ∃ b', b.applyChangesAtomic delta.changes = (b', .ok ()) ∧
      b'.exact = b.exact.applyDelta delta ∧ b'.validity = .valid := by
  obtain ⟨ws, hws, hexact⟩ := prepareChanges_of_fits h
  have huncrossed : (b.putLevels ws).Uncrossed := by
    rw [← uncrossed_exact, hexact]
    exact hu
  refine ⟨(b.putLevels ws).trimDepth, ?_, ?_, ?_⟩
  · rw [applyChangesAtomic_eq, if_neg (by simp [hv])]
    simp only [hws, checkNotCrossed_eq_ok.mpr huncrossed]
  · rw [exact_trimDepth, hexact]
    rfl
  · have hh : (b.putLevels ws).trimDepth.header = b.header := by
      rw [header_trimDepth, header_putLevels]
    exact (congrArg (fun x => x.2.2.1) hh).trans hv

end OrderBook

end Marketfeed
