import Marketfeed.Book.L2

/-!
# What a valid book promises

Every book that the public mutations can produce keeps its promises whenever it calls itself
valid: positive quantities, at most `depth` levels a side, an uncrossed top, and listings in strict
price order whose heads are the best levels.

A book that is not valid promises nothing: a crossing single change leaves its levels in place and
only withdraws the validity.
-/

namespace Marketfeed

namespace OrderBook

/-- The promises of a valid book, on its stored levels. -/
structure WellFormed (b : OrderBook) : Prop where
  pos : ∀ cell q, b.levelAt cell = some q → 0 < q
  within : ∀ d, b.depth = some d → ∀ side, (b.levels side).size ≤ d
  uncrossed : b.Uncrossed

/-- A book keeps its promises whenever it calls itself valid. -/
def Sound (b : OrderBook) : Prop := b.validity = .valid → b.WellFormed

variable {b : OrderBook}

/-- What holds of every level survives writes of such levels. -/
lemma forall_putLevels {P : BookSide × Int → Int → Prop}
    (hb : ∀ cell q, b.levelAt cell = some q → P cell q) (ws : List LevelWrite)
    (hws : ∀ w ∈ ws, ∀ q, w.2 = some q → P w.1 q) :
    ∀ cell q, (b.putLevels ws).levelAt cell = some q → P cell q := by
  induction ws generalizing b with
  | nil => exact hb
  | cons w ws ih =>
    refine ih (fun cell q h => ?_) fun w' hw' => hws w' (List.mem_cons_of_mem _ hw')
    rw [levelAt_putLevel] at h
    split_ifs at h with he
    · exact he ▸ hws w List.mem_cons_self q h
    · exact hb cell q h

variable (ps qs : Nat)

variable (d : Option Nat)

lemma levelAt_new (cell : BookSide × Int) : (new ps qs d).levelAt cell = none := by
  obtain ⟨side, key⟩ := cell
  cases side <;> simp [new, levelAt, levels]

/-- Trimming a positive, uncrossed book makes it well formed. -/
lemma wellFormed_trimDepth (hpos : ∀ cell q, b.levelAt cell = some q → 0 < q)
    (hu : b.trimDepth.Uncrossed) : b.trimDepth.WellFormed where
  pos cell q h := hpos cell q (levelAt_of_trimDepth h)
  within d hd side := by
    have hdepth : b.trimDepth.depth = b.depth := by
      have := header_trimDepth b
      simp only [header, Prod.mk.injEq] at this
      exact this.2.2.2.1
    exact size_trimDepth (hdepth ▸ hd) side
  uncrossed := hu

lemma WellFormed.of_levels {c : OrderBook} (h : b.WellFormed) (hb : c.bids = b.bids)
    (ha : c.asks = b.asks) (hd : c.depth = b.depth) : c.WellFormed := by
  have hl : ∀ side, c.levels side = b.levels side := by
    intro side
    cases side <;> simp [levels, hb, ha]
  have hat : ∀ cell, c.levelAt cell = b.levelAt cell := fun cell => by
    simp [levelAt, hl]
  refine ⟨fun cell q hq => h.pos cell q (hat cell ▸ hq), fun d hd' side => ?_, ?_⟩
  · rw [hl]
    exact h.within d (hd ▸ hd') side
  · intro kb qb ka qa hkb hka
    exact h.uncrossed kb qb ka qa (hat _ ▸ hkb) (hat _ ▸ hka)

/-- **An accepted snapshot is well formed**, whatever the book was. -/
theorem wellFormed_buildSnapshot {next : OrderBook} {bids asks : List (Price × Quantity)}
    {sequence : Option UInt64} (h : b.buildSnapshot bids asks sequence = .ok next) :
    next.WellFormed := by
  obtain ⟨ws, hws, hu, rfl⟩ := buildSnapshot_ok h
  refine WellFormed.of_levels (wellFormed_trimDepth ?_ hu) rfl rfl rfl
  refine forall_putLevels (fun cell q hq => ?_) ws fun w hw q hq => (hws w hw q hq).1
  rw [levelAt_new] at hq
  cases hq

/-- Removing a level keeps a well-formed book well formed. -/
lemma WellFormed.putLevel_none (h : b.WellFormed) (cell : BookSide × Int) :
    (b.putLevel cell none).WellFormed := by
  have hat : ∀ cell' q, (b.putLevel cell none).levelAt cell' = some q → b.levelAt cell' = some q := by
    intro cell' q hq
    rw [levelAt_putLevel] at hq
    split_ifs at hq
    exact hq
  refine ⟨fun cell' q hq => h.pos cell' q (hat _ _ hq), fun d hd side => ?_, ?_⟩
  · obtain ⟨s, k⟩ := cell
    refine le_trans ?_ (h.within d (by cases s <;> exact hd) side)
    cases s <;> cases side <;>
      simp only [putLevel, writeLevel, levels, OrdMap.write, le_refl] <;>
      exact Std.ExtTreeMap.size_erase_le
  · intro kb qb ka qa hkb hka
    exact h.uncrossed kb qb ka qa (hat _ _ hkb) (hat _ _ hka)

lemma WellFormed.delete (h : b.WellFormed) (side : BookSide) (price : Price) :
    (b.delete side price).WellFormed := by
  rcases delete_cases b side price with ⟨pk, -, he⟩ | ⟨-, he⟩ <;> rw [he]
  · exact h.putLevel_none _
  · exact h

/-- An empty book is well formed. -/
lemma wellFormed_clear (b : OrderBook) : b.clear.WellFormed := by
  have hat : ∀ cell, b.clear.levelAt cell = none := by
    rintro ⟨side, key⟩
    cases side <;> simp [clear, levelAt, levels]
  refine ⟨fun cell q hq => ?_, fun d _ side => ?_, fun kb qb ka qa hkb _ => ?_⟩
  · rw [hat] at hq
    cases hq
  · cases side <;> simp [clear, levels]
  · rw [hat] at hkb
    cases hkb

lemma sound_applySnapshot (h : b.Sound) (bids asks : List (Price × Quantity))
    (sequence : Option UInt64) : (b.applySnapshot bids asks sequence).1.Sound := by
  rcases applySnapshot_cases b bids asks sequence with ⟨next, hn, he⟩ | ⟨e, -, he⟩
  · rw [he]
    exact fun _ => wellFormed_buildSnapshot hn
  · rwa [he]

lemma sound_applyChange (h : b.Sound) (side : BookSide) (operation : BookOperation)
    (price : Price) (quantity : Option Quantity) :
    (b.applyChange side operation price quantity).1.Sound := by
  rcases applyChange_cases b side operation price quantity with
    ⟨e, -, he⟩ | ⟨hv, he⟩ | ⟨q, b', hv, -, -, -, hup, ⟨hu, he⟩ | ⟨-, he⟩⟩ <;> rw [he]
  · exact h
  · exact fun _ => (h hv).delete side price
  · obtain ⟨pk, qk, -, -, hqk, rfl⟩ := upsert_ok hup
    intro _
    refine wellFormed_trimDepth ?_ hu
    refine forall_putLevels (h hv).pos [((side, pk), some qk)] ?_
    simpa using hqk
  · -- a crossing upsert withdraws the validity
    exact fun hv' => by cases hv'

lemma sound_applyChangesAtomic (h : b.Sound) (changes : List BookChange) :
    (b.applyChangesAtomic changes).1.Sound := by
  rcases applyChangesAtomic_cases b changes with ⟨e, he⟩ | ⟨ws, hv, hp, hu, he⟩ <;> rw [he]
  · exact h
  · intro _
    exact wellFormed_trimDepth (forall_putLevels (h hv).pos ws
      fun w hw q hq => (prepareChanges_ok hp w hw q hq).1) hu.trimDepth

/-! ## Prices -/

/-- Every price of the book is a machine integer other than the least one. -/
def PricesFit (b : OrderBook) : Prop :=
  ∀ cell q, b.levelAt cell = some q → (b.price cell.2).fixed.Fits

/-- A price that fits is stored at a key that fits. -/
lemma fits_price {price : Price} {key : Int} (hfits : price.fixed.Fits)
    (h : b.priceKey price = .ok key) : (b.price key).fixed.Fits := by
  unfold priceKey scaleCoeff at h
  split at h
  · rename_i y hy
    cases h
    have hy' : y.Fits := hfits.rescale hy
    exact hy'
  · cases h

/-- Writes at prices that fit, and the trim after them. -/
lemma pricesFit_trimDepth {c : OrderBook} (hscale : c.priceScale = b.priceScale)
    (hc : ∀ cell q, c.levelAt cell = some q → (b.price cell.2).fixed.Fits) {prices : List Price}
    (hprices : ∀ price ∈ prices, price.fixed.Fits) {ws : List LevelWrite}
    (hws : ∀ w ∈ ws, b.WritesAt prices w) : (c.putLevels ws).trimDepth.PricesFit := by
  have hheader : (c.putLevels ws).trimDepth.priceScale = b.priceScale := by
    have hheader := (header_trimDepth (c.putLevels ws)).trans (header_putLevels c ws)
    exact (congrArg Prod.fst hheader).trans hscale
  intro cell q hq
  unfold price
  rw [hheader]
  refine forall_putLevels hc ws (fun w hw q hq => ?_) cell q (levelAt_of_trimDepth hq)
  obtain ⟨-, price, hmem, hkey⟩ := hws w hw q hq
  exact fits_price (hprices price hmem) hkey

lemma pricesFit_buildSnapshot {next : OrderBook} {bids asks : List (Price × Quantity)}
    {sequence : Option UInt64} (hprices : ∀ row ∈ bids ++ asks, row.1.fixed.Fits)
    (h : b.buildSnapshot bids asks sequence = .ok next) : next.PricesFit := by
  obtain ⟨ws, hws, -, rfl⟩ := buildSnapshot_ok h
  refine pricesFit_trimDepth (b := b) (c := new b.priceScale b.qtyScale b.depth) rfl ?_
    (List.forall_mem_map.mpr hprices) hws
  intro cell q hq
  rw [levelAt_new] at hq
  cases hq

lemma pricesFit_applyChangesAtomic (h : b.PricesFit) {changes : List BookChange}
    (hprices : ∀ change ∈ changes, change.price.fixed.Fits) :
    (b.applyChangesAtomic changes).1.PricesFit := by
  rcases applyChangesAtomic_cases b changes with ⟨e, he⟩ | ⟨ws, -, hp, -, he⟩ <;> rw [he]
  · exact h
  · exact pricesFit_trimDepth rfl h (List.forall_mem_map.mpr hprices) (prepareChanges_ok hp)

/-! ## Runs of public mutations -/

/-- A call of one of the public mutations; its result is discarded. -/
inductive Call
  | applySnapshot (bids asks : List (Price × Quantity)) (sequence : Option UInt64)
  | applyChange (side : BookSide) (operation : BookOperation) (price : Price)
      (quantity : Option Quantity)
  | applyChangesAtomic (changes : List BookChange)
  | clear
  | setSequence (seq : UInt64)

/-- The book after a call, whether it returned `Ok` or `Err`. -/
def call (b : OrderBook) : Call → OrderBook
  | .applySnapshot bids asks sequence => (b.applySnapshot bids asks sequence).1
  | .applyChange side operation price quantity => (b.applyChange side operation price quantity).1
  | .applyChangesAtomic changes => (b.applyChangesAtomic changes).1
  | .clear => b.clear
  | .setSequence seq => b.setSequence seq

/-- **Every mutation keeps the promises of a valid book.** -/
theorem sound_call (h : b.Sound) (c : Call) : (b.call c).Sound := by
  cases c with
  | applySnapshot bids asks sequence => exact sound_applySnapshot h bids asks sequence
  | applyChange side operation price quantity =>
    exact sound_applyChange h side operation price quantity
  | applyChangesAtomic changes => exact sound_applyChangesAtomic h changes
  | clear => exact fun _ => wellFormed_clear b
  | setSequence seq => exact fun hv => (h hv).of_levels rfl rfl rfl

lemma sound_new : (new ps qs d).Sound :=
  fun hv => by cases hv

lemma sound_run (calls : List Call) : (run call (new ps qs d) calls).Sound :=
  run_invariant' (P := Sound) (fun _ c h => sound_call h c) (sound_new ps qs d) calls

/-- No call changes the configured depth. -/
lemma depth_call (b : OrderBook) (c : Call) : (b.call c).depth = b.depth := by
  have hfold : ∀ (b : OrderBook) (ws : List LevelWrite),
      (b.putLevels ws).trimDepth.depth = b.depth := by
    intro b ws
    have h := header_trimDepth (b.putLevels ws)
    rw [header_putLevels] at h
    simp only [header, Prod.mk.injEq] at h
    exact h.2.2.2.1
  cases c with
  | applySnapshot bids asks sequence =>
    rcases applySnapshot_cases b bids asks sequence with ⟨next, hn, he⟩ | ⟨e, -, he⟩ <;>
      simp only [call, he]
    obtain ⟨ws, -, -, rfl⟩ := buildSnapshot_ok hn
    exact hfold _ ws
  | applyChange side operation price quantity =>
    rcases applyChange_cases b side operation price quantity with
      ⟨e, -, he⟩ | ⟨-, he⟩ | ⟨q, b', -, -, -, -, hup, ⟨-, he⟩ | ⟨-, he⟩⟩ <;>
      simp only [call, he]
    · rcases delete_cases b side price with ⟨pk, -, he⟩ | ⟨-, he⟩ <;> rw [he]
      cases side <;> rfl
    all_goals
      obtain ⟨pk, qk, -, -, -, rfl⟩ := upsert_ok hup
      exact hfold b [((side, pk), some qk)]
  | applyChangesAtomic changes =>
    rcases applyChangesAtomic_cases b changes with ⟨e, he⟩ | ⟨ws, -, -, -, he⟩ <;>
      simp only [call, he]
    exact hfold b ws
  | clear | setSequence seq => rfl

lemma depth_run (calls : List Call) : (run call (new ps qs d) calls).depth = d :=
  run_invariant' (P := fun b => b.depth = d) (fun b c h => (depth_call b c).trans h) rfl calls

/-! ## The promises through the public queries -/

lemma bestBid_of_valid (hv : b.validity = .valid) :
    b.bestBid = b.bids.last?.map fun e => (b.price e.1, b.qty e.2) := by
  simp [bestBid, hv]

lemma bestAsk_of_valid (hv : b.validity = .valid) :
    b.bestAsk = b.asks.first?.map fun e => (b.price e.1, b.qty e.2) := by
  simp [bestAsk, hv]

/-- In an uncrossed book the best bid is strictly below the best ask, as decimals. -/
lemma bestBid_lt_bestAsk (hu : b.Uncrossed) {bid ask : Price × Quantity}
    (hb : b.bestBid = some bid) (ha : b.bestAsk = some ask) :
    bid.1.fixed.toRat < ask.1.fixed.toRat := by
  by_cases hv : b.validity = .valid
  · rw [bestBid_of_valid hv] at hb
    rw [bestAsk_of_valid hv] at ha
    obtain ⟨eb, heb, rfl⟩ := Option.map_eq_some_iff.mp hb
    obtain ⟨ea, hea, rfl⟩ := Option.map_eq_some_iff.mp ha
    exact Fixed.toRat_lt_toRat.mpr
      (hu _ _ _ _ (OrdMap.getElem?_of_last? heb) (OrdMap.getElem?_of_first? hea))
  · simp [bestBid, hv] at hb

/-- The listing of a valid book: bids from the top down, asks from the bottom up, headed by the
best levels. -/
lemma snapshotLevels_of_valid (hv : b.validity = .valid) :
    ∃ bids asks, b.snapshotLevels = some (bids, asks) ∧
      bids.Pairwise (fun x y => y.price.fixed.toRat < x.price.fixed.toRat) ∧
      asks.Pairwise (fun x y => x.price.fixed.toRat < y.price.fixed.toRat) ∧
      b.bestBid = bids.head?.map (fun l => (l.price, l.quantity)) ∧
      b.bestAsk = asks.head?.map (fun l => (l.price, l.quantity)) := by
  have hmono : ∀ e f : Int × Int, e.1 < f.1 →
      (b.bookLevel e).price.fixed.toRat < (b.bookLevel f).price.fixed.toRat :=
    fun _ _ h => Fixed.toRat_lt_toRat.mpr h
  refine ⟨(b.bids.toList.reverse.take usizeMax).map b.bookLevel,
    (b.asks.toList.take usizeMax).map b.bookLevel,
    by simp only [snapshotLevels, snapshotLevelsBounded, hv]; rfl, ?_, ?_, ?_, ?_⟩
  · refine List.Pairwise.map b.bookLevel (fun e f => hmono f e) ?_
    exact (List.pairwise_reverse.mpr (OrdMap.sorted_toList b.bids)).sublist (List.take_sublist _ _)
  · refine List.Pairwise.map b.bookLevel hmono ?_
    exact (OrdMap.sorted_toList b.asks).sublist (List.take_sublist _ _)
  · simp [bestBid_of_valid hv, OrdMap.last?, List.head?_take, usizeMax, bookLevel,
      Function.comp_def]
  · simp [bestAsk_of_valid hv, OrdMap.first?, List.head?_take, usizeMax, bookLevel,
      Function.comp_def]

/-- **The promises of a valid book.** After any sequence of public mutations, accepted or not, a
book that calls itself valid stores only positive quantities, holds at most `depth` levels a side,
has its best bid strictly below its best ask, and lists its bids strictly downwards and its asks
strictly upwards with the best levels in front. -/
theorem valid_book_wellFormed (priceScale qtyScale : Nat) (depth : Option Nat)
    (calls : List Call) (hv : (run call (new priceScale qtyScale depth) calls).validity = .valid) :
    let b := run call (new priceScale qtyScale depth) calls
    (∀ side (key q : Int), (b.levels side)[key]? = some q → 0 < q) ∧
      (∀ d, depth = some d → ∀ side, (b.levels side).size ≤ d) ∧
      (∀ bid ask, b.bestBid = some bid → b.bestAsk = some ask →
        bid.1.fixed.toRat < ask.1.fixed.toRat) ∧
      ∃ bids asks, b.snapshotLevels = some (bids, asks) ∧
        bids.Pairwise (fun x y => y.price.fixed.toRat < x.price.fixed.toRat) ∧
        asks.Pairwise (fun x y => x.price.fixed.toRat < y.price.fixed.toRat) ∧
        b.bestBid = bids.head?.map (fun l => (l.price, l.quantity)) ∧
        b.bestAsk = asks.head?.map (fun l => (l.price, l.quantity)) := by
  intro b
  have hwf : b.WellFormed := sound_run priceScale qtyScale depth calls hv
  refine ⟨fun side key q h => hwf.pos (side, key) q h, fun d hd side => ?_,
    fun bid ask hb ha => bestBid_lt_bestAsk hwf.uncrossed hb ha, snapshotLevels_of_valid hv⟩
  exact hwf.within d ((depth_run priceScale qtyScale depth calls).trans hd) side

/-- A snapshot cut to one level a side, a rejected crossing transaction and a rejected snapshot. -/
def exampleCalls : List Call :=
  [.applySnapshot [(⟨⟨100, 0⟩⟩, ⟨⟨1, 0⟩⟩), (⟨⟨9900, 2⟩⟩, ⟨⟨2, 0⟩⟩)] [(⟨⟨101, 0⟩⟩, ⟨⟨3, 0⟩⟩)] (some 7),
    .applyChangesAtomic [⟨.bid, .upsert, ⟨⟨102, 0⟩⟩, some ⟨⟨1, 0⟩⟩⟩],
    .applySnapshot [(⟨⟨100, 0⟩⟩, ⟨⟨0, 0⟩⟩)] [] none]

/-- A book of depth one. -/
theorem valid_book_wellFormed_exampleCalls :
    (run call (new 2 3 (some 1)) exampleCalls).validity = .valid ∧
      (run call (new 2 3 (some 1)) exampleCalls).bestBid = some (⟨⟨10000, 2⟩⟩, ⟨⟨1000, 3⟩⟩) ∧
      ∀ d, some 1 = some d → ∀ side,
        ((run call (new 2 3 (some 1)) exampleCalls).levels side).size ≤ d :=
  ⟨by decide, by decide, (valid_book_wellFormed 2 3 (some 1) exampleCalls (by decide)).2.1⟩

end OrderBook

end Marketfeed
