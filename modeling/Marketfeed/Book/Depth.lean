import Marketfeed.Book.Invariant

/-!
# What a depth limit forgets

A book with a depth drops its worst levels after every message and never learns of them again. Next to
it we run a book without a depth on the same snapshot and the same messages and keep every price the
limited book has trimmed since the snapshot.
-/

namespace Marketfeed.OrderBook

/-! ## Trimmed levels -/

/-- The levels that trimming the book removes. -/
def trimmedLevels (b : OrderBook) : List (BookSide × Int) :=
  [BookSide.bid, BookSide.ask].flatMap fun side =>
    (((b.levels side).toList.map Prod.fst).filter fun key =>
      (b.trimDepth.levelAt (side, key)).isNone).map fun key => (side, key)

variable {b : OrderBook}

lemma mem_trimmedLevels {side : BookSide} {key q : Int} (h : b.levelAt (side, key) = some q)
    (hgone : b.trimDepth.levelAt (side, key) = none) : (side, key) ∈ b.trimmedLevels := by
  refine List.mem_flatMap.mpr ⟨side, ?_, ?_⟩
  · rcases side with _ | _ <;> simp
  · refine List.mem_map.mpr ⟨key, ?_, rfl⟩
    refine List.mem_filter.mpr ⟨?_, ?_⟩
    · exact List.mem_map.mpr ⟨(key, q), OrdMap.mem_toList.mpr h, rfl⟩
    · rw [hgone]
      rfl

/-- One price of a side is strictly better than another. -/
def Better : BookSide → Int → Int → Prop
  | .bid, key, other => other < key
  | .ask, key, other => key < other

lemma not_better_self (side : BookSide) (key : Int) : ¬ Better side key key := by
  rcases side with _ | _
  · exact lt_irrefl key
  · exact lt_irrefl key

/-! ## Two books -/

/-- **Two books that agree up to what was trimmed**: every level of the first is one of the second,
and every level of the second that is better than all trimmed prices of its side is one of the
first. -/
structure Agrees (limited unlimited : OrderBook) (trimmed : List (BookSide × Int)) : Prop where
  held : ∀ (cell : BookSide × Int) (q : Int),
    limited.levelAt cell = some q → unlimited.levelAt cell = some q
  kept : ∀ (side : BookSide) (key q : Int), unlimited.levelAt (side, key) = some q →
    (∀ other, (side, other) ∈ trimmed → Better side key other) →
    limited.levelAt (side, key) = some q

namespace Agrees

variable {limited unlimited : OrderBook} {trimmed : List (BookSide × Int)}

variable (h : Agrees limited unlimited trimmed)

include h

/-- The same write on both books. -/
lemma putLevel (cell : BookSide × Int) (quantity : Option Int) :
    Agrees (limited.putLevel cell quantity) (unlimited.putLevel cell quantity) trimmed := by
  constructor
  · intro other q hother
    rw [levelAt_putLevel] at hother ⊢
    split_ifs at hother ⊢
    · exact hother
    · exact h.held other q hother
  · intro side key q hlevel hbetter
    rw [levelAt_putLevel] at hlevel ⊢
    split_ifs at hlevel ⊢
    · exact hlevel
    · exact h.kept side key q hlevel hbetter

lemma putLevels (writes : List LevelWrite) :
    Agrees (limited.putLevels writes) (unlimited.putLevels writes) trimmed := by
  induction writes generalizing limited unlimited with
  | nil => exact h
  | cons write writes ih => exact ih (h.putLevel write.1 write.2)

/-- The limited book is trimmed, and what it drops is noted. -/
lemma trimDepth : Agrees limited.trimDepth unlimited (trimmed ++ limited.trimmedLevels) := by
  constructor
  · intro cell q hcell
    exact h.held cell q (levelAt_of_trimDepth hcell)
  · intro side key q hlevel hbetter
    have hlimited := h.kept side key q hlevel fun other hother =>
      hbetter other (List.mem_append_left _ hother)
    rcases hkept : limited.trimDepth.levelAt (side, key) with _ | q'
    · -- A level that goes is not better than itself.
      have hmem := mem_trimmedLevels hlimited hkept
      exact absurd (hbetter key (List.mem_append_right _ hmem)) (not_better_self side key)
    · exact (levelAt_of_trimDepth hkept).symm.trans hlimited

/-- Only the levels matter. -/
lemma of_levels {limited' unlimited' : OrderBook}
    (hl : ∀ cell, limited'.levelAt cell = limited.levelAt cell)
    (hu : ∀ cell, unlimited'.levelAt cell = unlimited.levelAt cell) :
    Agrees limited' unlimited' trimmed := by
  constructor
  · intro cell q hcell
    rw [hl] at hcell
    rw [hu]
    exact h.held cell q hcell
  · intro side key q hlevel hbetter
    rw [hu] at hlevel
    rw [hl]
    exact h.kept side key q hlevel hbetter

end Agrees

/-! ## The same input on both books -/

/-- Two books with the same scales. -/
structure SameScales (b c : OrderBook) : Prop where
  price : c.priceScale = b.priceScale
  qty : c.qtyScale = b.qtyScale

variable {c : OrderBook}

lemma prepareChange_sameScales (h : SameScales b c) (change : BookChange) :
    c.prepareChange change = b.prepareChange change := by
  unfold prepareChange prepareDelete priceKey
  rw [h.price, h.qty]

lemma prepareChanges_sameScales (h : SameScales b c) (changes : List BookChange) :
    c.prepareChanges changes = b.prepareChanges changes := by
  induction changes with
  | nil => rfl
  | cons change changes ih => rw [prepareChanges, prepareChanges, prepareChange_sameScales h, ih]

lemma SameScales.of_header {b' c' : OrderBook} (h : SameScales b c) (hb : b'.header = b.header)
    (hc : c'.header = c.header) : SameScales b' c' := by
  simp only [header, Prod.mk.injEq] at hb hc
  exact ⟨hc.1.trans (h.price.trans hb.1.symm), hc.2.1.trans (h.qty.trans hb.2.1.symm)⟩

/-- The upserts of a snapshot are the same writes on every book with the scales. -/
lemma upsertAll_sameScales {side : BookSide} {rows : List (Price × Quantity)} {b' : OrderBook}
    (h : upsertAll side b rows = .ok b') :
    ∃ writes : List LevelWrite, b' = b.putLevels writes ∧
      ∀ c, SameScales b c → upsertAll side c rows = .ok (c.putLevels writes) := by
  induction rows generalizing b with
  | nil => exact ⟨[], (Except.ok.inj h).symm, fun _ _ => rfl⟩
  | cons row rows ih =>
    obtain ⟨b₁, hb₁, h⟩ := bind_eq_ok.mp h
    obtain ⟨pk, qk, hpk, hqk, hpos, rfl⟩ := upsert_ok hb₁
    obtain ⟨writes, rfl, hwrites⟩ := ih h
    refine ⟨((side, pk), some qk) :: writes, rfl, ?_⟩
    intro c hc
    have hpk' : c.priceKey row.1 = .ok pk := by
      rw [priceKey, hc.price]
      exact hpk
    have hqk' : scaleCoeff row.2.fixed c.qtyScale = .ok qk := by
      rw [hc.qty]
      exact hqk
    have hupsert : c.upsert side row.1 row.2 = .ok (c.putLevel (side, pk) (some qk)) := by
      have hqty : ¬ row.2.fixed.coefficient ≤ 0 := not_le.mpr ((pos_of_scaleCoeff hqk).mp hpos)
      rw [upsert, if_neg hqty, hpk', hqk']
      rfl
    refine bind_eq_ok.mpr ⟨_, hupsert, hwrites _ ?_⟩
    exact hc.of_header (header_putLevel b _ _) (header_putLevel c _ _)

/-! ## Runs -/

/-- A limited book and an unlimited one, with every price the limited one has trimmed. -/
structure Twin where
  limited : OrderBook
  unlimited : OrderBook
  trimmed : List (BookSide × Int)

/-- The book that `apply_snapshot` trims. -/
def snapshotCandidate (b : OrderBook) (bids asks : List (Price × Quantity)) :
    Except BookError OrderBook := do
  let next ← upsertAll .bid (new b.priceScale b.qtyScale b.depth) bids
  upsertAll .ask next asks

/-- What an accepted snapshot trims. -/
def trimmedBySnapshot (b : OrderBook) (bids asks : List (Price × Quantity)) :
    List (BookSide × Int) :=
  match b.snapshotCandidate bids asks with
  | .ok next => next.trimmedLevels
  | .error _ => []

/-- What an accepted message trims. -/
def trimmedByChanges (b : OrderBook) (changes : List BookChange) : List (BookSide × Int) :=
  match b.prepareChanges changes with
  | .ok writes => (b.putLevels writes).trimmedLevels
  | .error _ => []

/-- **An accepted snapshot** is its candidate, trimmed. -/
theorem applySnapshot_candidate {bids asks : List (Price × Quantity)} {sequence : Option UInt64}
    (h : (b.applySnapshot bids asks sequence).2 = .ok ()) :
    ∃ next, b.snapshotCandidate bids asks = .ok next ∧
      (b.applySnapshot bids asks sequence).1 = { next.trimDepth with validity := .valid, sequence } := by
  rcases applySnapshot_cases b bids asks sequence with ⟨next, hbuild, heq⟩ | ⟨e, -, heq⟩
  · obtain ⟨n₁, h₁, hbuild⟩ := bind_eq_ok.mp hbuild
    obtain ⟨n₂, h₂, hbuild⟩ := bind_eq_ok.mp hbuild
    obtain ⟨_, -, hbuild⟩ := bind_eq_ok.mp hbuild
    refine ⟨n₂, bind_eq_ok.mpr ⟨n₁, h₁, h₂⟩, ?_⟩
    rw [heq]
    exact (Except.ok.inj hbuild).symm
  · rw [heq] at h
    cases h

/-- The candidates of two books with the same scales come from the same writes. -/
lemma snapshotCandidate_sameScales {next : OrderBook} (h : SameScales b c)
    {bids asks : List (Price × Quantity)} (hnext : b.snapshotCandidate bids asks = .ok next) :
    ∃ writes, next = (new b.priceScale b.qtyScale b.depth).putLevels writes ∧
      c.snapshotCandidate bids asks = .ok ((new c.priceScale c.qtyScale c.depth).putLevels writes) := by
  have hnew : SameScales (new b.priceScale b.qtyScale b.depth)
      (new c.priceScale c.qtyScale c.depth) := ⟨h.price, h.qty⟩
  obtain ⟨n₁, h₁, h₂⟩ := bind_eq_ok.mp hnext
  obtain ⟨writes, rfl, hwrites⟩ := upsertAll_sameScales h₁
  obtain ⟨writes', rfl, hwrites'⟩ := upsertAll_sameScales h₂
  have hfilled := hnew.of_header (header_putLevels _ writes) (header_putLevels _ writes)
  refine ⟨writes ++ writes', (putLevels_append _ _ _).symm, ?_⟩
  rw [putLevels_append]
  exact bind_eq_ok.mpr ⟨_, hwrites _ hnew, hwrites' _ hfilled⟩

namespace Twin

/-- Both books get the snapshot. -/
def ofSnapshot (limited unlimited : OrderBook) (bids asks : List (Price × Quantity))
    (sequence : Option UInt64) : Twin where
  limited := (limited.applySnapshot bids asks sequence).1
  unlimited := (unlimited.applySnapshot bids asks sequence).1
  trimmed := limited.trimmedBySnapshot bids asks

/-- Both books get a message. -/
def applyChanges (t : Twin) (changes : List BookChange) : Twin where
  limited := (t.limited.applyChangesAtomic changes).1
  unlimited := (t.unlimited.applyChangesAtomic changes).1
  trimmed := t.trimmed ++ t.limited.trimmedByChanges changes

/-- The message succeeds on both books. -/
def Accepts (t : Twin) (changes : List BookChange) : Prop :=
  (t.limited.applyChangesAtomic changes).2 = .ok () ∧
    (t.unlimited.applyChangesAtomic changes).2 = .ok ()

/-- What holds of the two books at every point. -/
structure Sound (t : Twin) : Prop where
  scales : SameScales t.limited t.unlimited
  depth : t.unlimited.depth = none
  agrees : Agrees t.limited t.unlimited t.trimmed

lemma trimDepth_of_none {b : OrderBook} (h : b.depth = none) : b.trimDepth = b := by
  rw [trimDepth, h]

lemma sound_ofSnapshot {limited unlimited : OrderBook} (hscales : SameScales limited unlimited)
    (hdepth : unlimited.depth = none) {bids asks : List (Price × Quantity)}
    {sequence : Option UInt64} (hl : (limited.applySnapshot bids asks sequence).2 = .ok ())
    (hu : (unlimited.applySnapshot bids asks sequence).2 = .ok ()) :
    (ofSnapshot limited unlimited bids asks sequence).Sound := by
  obtain ⟨next, hnext, hlimited⟩ := applySnapshot_candidate hl
  obtain ⟨next', hnext', hunlimited⟩ := applySnapshot_candidate hu
  obtain ⟨writes, rfl, hsame⟩ := snapshotCandidate_sameScales hscales hnext
  cases hsame.symm.trans hnext'
  have hempty : Agrees (new limited.priceScale limited.qtyScale limited.depth)
      (new unlimited.priceScale unlimited.qtyScale unlimited.depth) [] := by
    constructor
    · intro cell q hcell
      exact absurd ((levelAt_new _ _ _ cell).symm.trans hcell).symm (Option.some_ne_none q)
    · intro side key q hlevel
      exact absurd ((levelAt_new _ _ _ _).symm.trans hlevel).symm (Option.some_ne_none q)
  have hnone : ((new unlimited.priceScale unlimited.qtyScale unlimited.depth).putLevels writes).depth =
      none := by
    have hheader := header_putLevels
      (new unlimited.priceScale unlimited.qtyScale unlimited.depth) writes
    simp only [header, Prod.mk.injEq] at hheader
    rw [hheader.2.2.2.1]
    exact hdepth
  rw [trimDepth_of_none hnone] at hunlimited
  have htrimmed : limited.trimmedBySnapshot bids asks = ((new limited.priceScale limited.qtyScale
      limited.depth).putLevels writes).trimmedLevels := by
    rw [trimmedBySnapshot, hnext]
  have hfilled := (hempty.putLevels writes).trimDepth
  rw [List.nil_append, ← htrimmed] at hfilled
  have hscales' : SameScales
      ((new limited.priceScale limited.qtyScale limited.depth).putLevels writes).trimDepth
      ((new unlimited.priceScale unlimited.qtyScale unlimited.depth).putLevels writes) :=
    SameScales.of_header (b := new limited.priceScale limited.qtyScale limited.depth)
      (c := new unlimited.priceScale unlimited.qtyScale unlimited.depth) ⟨hscales.price, hscales.qty⟩ ((header_trimDepth _).trans (header_putLevels _ writes))
      (header_putLevels _ writes)
  unfold ofSnapshot
  rw [hlimited, hunlimited]
  exact ⟨⟨hscales'.price, hscales'.qty⟩, hnone, hfilled.of_levels (fun _ => rfl) fun _ => rfl⟩

/-- **One message** that both books accept. -/
theorem sound_applyChanges {t : Twin} (h : t.Sound) {changes : List BookChange}
    (haccepts : t.Accepts changes) : (t.applyChanges changes).Sound := by
  obtain ⟨hl, hu⟩ := haccepts
  rcases applyChangesAtomic_cases t.limited changes with ⟨e, he⟩ | ⟨writes, -, hprepared, -, hlimited⟩
  · rw [he] at hl
    cases hl
  rcases applyChangesAtomic_cases t.unlimited changes with ⟨e, he⟩ | ⟨writes', -, hprepared', -, hunlimited⟩
  · rw [he] at hu
    cases hu
  -- Both books write the same.
  rw [prepareChanges_sameScales h.scales, hprepared] at hprepared'
  cases hprepared'
  have hnone : (t.unlimited.putLevels writes).depth = none := by
    have hheader := header_putLevels t.unlimited writes
    simp only [header, Prod.mk.injEq] at hheader
    rw [hheader.2.2.2.1, h.depth]
  rw [trimDepth_of_none hnone] at hunlimited
  have htrimmed : t.limited.trimmedByChanges changes = (t.limited.putLevels writes).trimmedLevels := by
    rw [trimmedByChanges, hprepared]
  have hstep : t.applyChanges changes = ⟨(t.limited.putLevels writes).trimDepth,
      t.unlimited.putLevels writes, t.trimmed ++ (t.limited.putLevels writes).trimmedLevels⟩ := by
    rw [applyChanges, hlimited, hunlimited, htrimmed]
  rw [hstep]
  refine ⟨?_, hnone, (h.agrees.putLevels writes).trimDepth⟩
  refine h.scales.of_header ?_ (header_putLevels t.unlimited writes)
  exact (header_trimDepth _).trans (header_putLevels t.limited writes)

end Twin

/-- **A depth limit forgets only what it trimmed.** Two books with the same scales, the second without
a depth, accept the same snapshot and then the same messages. At every point each level of the limited
book is one of the unlimited book with the same quantity, and each level of the unlimited book that is
strictly better than every price of its side the limited book has trimmed since the snapshot is one of
the limited book. -/
theorem limited_agrees {limited unlimited : OrderBook}
    (hprice : unlimited.priceScale = limited.priceScale)
    (hqty : unlimited.qtyScale = limited.qtyScale) (hdepth : unlimited.depth = none)
    (bids asks : List (Price × Quantity)) (sequence : Option UInt64)
    (hlimited : (limited.applySnapshot bids asks sequence).2 = .ok ())
    (hunlimited : (unlimited.applySnapshot bids asks sequence).2 = .ok ())
    (messages : List (List BookChange))
    (haccepts : Guarded Twin.applyChanges Twin.Accepts
      (Twin.ofSnapshot limited unlimited bids asks sequence) messages) (n : Nat) :
    let t := run Twin.applyChanges (Twin.ofSnapshot limited unlimited bids asks sequence)
      (messages.take n)
    (∀ (side : BookSide) (key q : Int),
      (t.limited.levels side)[key]? = some q → (t.unlimited.levels side)[key]? = some q) ∧
    ∀ (side : BookSide) (key q : Int), (t.unlimited.levels side)[key]? = some q →
      (∀ other, (side, other) ∈ t.trimmed → Better side key other) →
      (t.limited.levels side)[key]? = some q := by
  intro t
  have hstart := Twin.sound_ofSnapshot ⟨hprice, hqty⟩ hdepth hlimited hunlimited
  have hsound : t.Sound := run_invariant (P := Twin.Sound)
    (fun _ _ h haccepts => Twin.sound_applyChanges h haccepts) hstart (haccepts.take n)
  constructor
  · intro side key q hlevel
    exact hsound.agrees.held (side, key) q hlevel
  · intro side key q hlevel hbetter
    exact hsound.agrees.kept side key q hlevel hbetter

/-- Bids at 100 and 99 and an ask at 101 in a book of depth one, then the best bid goes and a worse
one comes in. -/
def exampleTwin : Twin :=
  .ofSnapshot (new 0 0 (some 1)) (new 0 0 none)
    [(⟨⟨100, 0⟩⟩, ⟨⟨1, 0⟩⟩), (⟨⟨99, 0⟩⟩, ⟨⟨2, 0⟩⟩)] [(⟨⟨101, 0⟩⟩, ⟨⟨3, 0⟩⟩)] none

def exampleMessages : List (List BookChange) :=
  [[⟨.bid, .delete, ⟨⟨100, 0⟩⟩, none⟩], [⟨.bid, .upsert, ⟨⟨98, 0⟩⟩, some ⟨⟨5, 0⟩⟩⟩]]

/-- The limited book ends with the bid at 98 only, the unlimited one has 99 as well, and 99 is what
was trimmed. -/
theorem limited_agrees_example :
    (let t := run Twin.applyChanges exampleTwin exampleMessages
    t.trimmed = [(.bid, 99)] ∧ t.limited.bids.toList = [(98, 5)] ∧
      t.unlimited.bids.toList = [(98, 5), (99, 2)]) ∧
    ∀ side (key q : Int),
      ((run Twin.applyChanges exampleTwin (exampleMessages.take 2)).limited.levels side)[key]? = some q →
      ((run Twin.applyChanges exampleTwin (exampleMessages.take 2)).unlimited.levels side)[key]? =
        some q := by
  refine ⟨by decide, ?_⟩
  refine (@limited_agrees (new 0 0 (some 1)) (new 0 0 none) rfl rfl rfl _ _ none ?_ ?_ exampleMessages
    ⟨?_, ?_, trivial⟩ 2).1
  · decide
  · decide
  · exact ⟨by decide, by decide⟩
  · exact ⟨by decide, by decide⟩

end Marketfeed.OrderBook
