import Marketfeed.Book.Sync

/-!
# What a transaction does to a book

`apply_changes_atomic` prepares its changes, writes them straight into the book, and undoes the writes
if the book ends up crossed. Stated without the journal:
-/

namespace Marketfeed

namespace OrderBook

open BookSynchronizer (Unreadable Fits not_fits_iff)

variable {b : OrderBook}

/-- The contents a change asks for at its level. -/
def newLevel (b : OrderBook) (change : BookChange) : Option Int :=
  match change.operation, change.quantity with
  | .upsert, some quantity =>
    if quantity.fixed.coefficient = 0 then none else (scaleCoeff quantity.fixed b.qtyScale).toOption
  | _, _ => none

/-- Levels with one of them overwritten: the one at the change's side and price, if the price can be
written exactly at the catalog scale. -/
def overwrite (b : OrderBook) (contents : BookSide × Int → Option Int) (change : BookChange)
    (cell : BookSide × Int) : Option Int :=
  if change.side = cell.1 ∧ b.priceKey change.price = .ok cell.2 then b.newLevel change
  else contents cell

/-- **The levels of a book overwritten in the order of the changes.** -/
def overwritten (b : OrderBook) (changes : List BookChange) : BookSide × Int → Option Int :=
  changes.foldl (b.overwrite) b.levelAt

/-- The levels of a side, best first. -/
def bestFirst (b : OrderBook) : BookSide → List (Int × Int)
  | .bid => b.bids.toList.reverse
  | .ask => b.asks.toList

/-- The first entries of a listing, all of them without a depth. -/
def cutTo {α : Type} (depth : Option Nat) (levels : List α) : List α :=
  depth.elim levels (levels.take ·)

/-! ## One change -/

/-- A change is prepared iff the book can read it. -/
lemma exists_prepareChange_iff {change : BookChange} :
    (∃ w, b.prepareChange change = .ok w) ↔
      ¬ Unreadable b change.operation change.price change.quantity := by
  unfold prepareChange Unreadable
  rcases change.operation with _ | _ <;> rcases change.quantity with _ | q <;> simp only
  · simp
  · by_cases hzero : q.fixed.coefficient = 0
    · simp [hzero]
    · by_cases hneg : q.fixed.coefficient < 0
      · simp [hzero, hneg]
      · simp only [hzero, hneg, if_false, not_fits_iff, priceKey, ne_eq, not_false_eq_true, true_and,
          false_or]
        rcases scaleCoeff change.price.fixed b.priceScale with e | key <;>
          rcases scaleCoeff q.fixed b.qtyScale with e' | quantity <;>
          simp [bind, Except.bind]
  · simp
  · simp

/-- What a prepared removal writes. -/
lemma levelAt_prepareDelete (c : OrderBook) {side : BookSide} {price : Price}
    (cell : BookSide × Int) :
    (c.putLevels (b.prepareDelete side price).toList).levelAt cell =
      if side = cell.1 ∧ b.priceKey price = .ok cell.2 then none else c.levelAt cell := by
  unfold prepareDelete
  rcases hkey : b.priceKey price with e | key
  · simp [putLevels]
  · change (c.putLevel (side, key) none).levelAt cell = _
    rw [levelAt_putLevel]
    simp only [Prod.ext_iff, Except.ok.injEq]

/-- **A prepared change overwrites its level** and no other. -/
theorem levelAt_prepareChange {change : BookChange} {w : Option LevelWrite}
    (h : b.prepareChange change = .ok w) (c : OrderBook) (cell : BookSide × Int) :
    (c.putLevels w.toList).levelAt cell = b.overwrite c.levelAt change cell := by
  unfold overwrite newLevel
  unfold prepareChange at h
  rcases hop : change.operation with _ | _ <;> rcases hq : change.quantity with _ | q <;>
    simp only [hop, hq] at h ⊢
  · cases h
  · by_cases hzero : q.fixed.coefficient = 0
    · simp only [hzero, if_true] at h ⊢
      cases h
      exact levelAt_prepareDelete c cell
    · simp only [hzero, if_false] at h ⊢
      split_ifs at h
      obtain ⟨key, hkey, h⟩ := bind_eq_ok.mp h
      obtain ⟨quantity, hquantity, h⟩ := bind_eq_ok.mp h
      cases h
      change (c.putLevel (change.side, key) (some quantity)).levelAt cell = _
      rw [levelAt_putLevel, hkey, hquantity]
      simp only [Prod.ext_iff, Except.ok.injEq]
      rfl
  · cases h
    exact levelAt_prepareDelete c cell
  · cases h
    exact levelAt_prepareDelete c cell

/-! ## All changes -/

/-- The changes are prepared iff the book can read each of them. -/
lemma exists_prepareChanges_iff {changes : List BookChange} :
    (∃ ws, b.prepareChanges changes = .ok ws) ↔
      ∀ change ∈ changes, ¬ Unreadable b change.operation change.price change.quantity := by
  induction changes with
  | nil => simp [prepareChanges]
  | cons change rest ih =>
    rw [List.forall_mem_cons, ← ih, ← exists_prepareChange_iff]
    constructor
    · rintro ⟨ws, h⟩
      obtain ⟨w, hw, h⟩ := bind_eq_ok.mp h
      obtain ⟨ws', hws', -⟩ := bind_eq_ok.mp h
      exact ⟨⟨w, hw⟩, ws', hws'⟩
    · rintro ⟨⟨w, hw⟩, ws, hws⟩
      exact ⟨_, bind_eq_ok.mpr ⟨w, hw, bind_eq_ok.mpr ⟨ws, hws, rfl⟩⟩⟩

/-- The prepared writes overwrite the levels in the order of the changes. -/
lemma levelAt_prepareChanges {changes : List BookChange} {ws : List LevelWrite}
    (h : b.prepareChanges changes = .ok ws) (c : OrderBook) (cell : BookSide × Int) :
    (c.putLevels ws).levelAt cell = changes.foldl b.overwrite c.levelAt cell := by
  induction changes generalizing c ws with
  | nil =>
    cases h
    rfl
  | cons change rest ih =>
    obtain ⟨w, hw, h⟩ := bind_eq_ok.mp h
    obtain ⟨ws', hws', h⟩ := bind_eq_ok.mp h
    cases h
    rw [putLevels_append, ih hws', List.foldl_cons, funext (levelAt_prepareChange hw c)]

/-- Trimming keeps the best levels of each side. -/
lemma bestFirst_trimDepth (b : OrderBook) (side : BookSide) :
    b.trimDepth.bestFirst side = cutTo b.depth (b.bestFirst side) := by
  unfold trimDepth
  rcases b.depth with _ | depth
  · rfl
  · cases side with
    | bid =>
      change (b.bids.trimFirst depth).toList.reverse = b.bids.toList.reverse.take depth
      rw [OrdMap.toList_trimFirst, List.take_reverse, Std.ExtTreeMap.length_toList]
    | ask => exact OrdMap.toList_trimLast depth b.asks

/-- **The outcome of a transaction on a valid book.** Either it fails and the book is exactly as it was,
because some change is unreadable or the overwritten levels cross, or it succeeds and the book holds the
overwritten levels, which do not cross, cut to the best `depth` of each side. -/
theorem transaction_outcome (hvalid : b.validity = .valid) (changes : List BookChange) :
    ((∃ e, b.applyChangesAtomic changes = (b, .error e)) ∧
      ((∃ change ∈ changes, Unreadable b change.operation change.price change.quantity) ∨
        ∃ bid ask, ask ≤ bid ∧ b.overwritten changes (.bid, bid) ≠ none ∧
          b.overwritten changes (.ask, ask) ≠ none)) ∨
    (∀ change ∈ changes, ¬ Unreadable b change.operation change.price change.quantity) ∧
      ∃ full b' : OrderBook, b.applyChangesAtomic changes = (b', .ok ()) ∧
        full.header = b.header ∧ full.levelAt = b.overwritten changes ∧ full.Uncrossed ∧
        b'.header = b.header ∧ ∀ side, b'.bestFirst side = cutTo b.depth (full.bestFirst side) := by
  rw [applyChangesAtomic_eq, if_neg (not_not.mpr hvalid)]
  rcases hprepared : b.prepareChanges changes with e | ws
  · left
    refine ⟨⟨e, rfl⟩, .inl ?_⟩
    by_contra hreadable
    push Not at hreadable
    obtain ⟨ws, hws⟩ := exists_prepareChanges_iff.mpr hreadable
    cases hprepared.symm.trans hws
  · have hlevels : (b.putLevels ws).levelAt = b.overwritten changes :=
      funext (levelAt_prepareChanges hprepared b)
    rcases hcheck : (b.putLevels ws).checkNotCrossed with e | ⟨⟩
    · left
      refine ⟨⟨e, by simp only [hcheck]⟩, Or.inr ?_⟩
      have hcrossed : ¬ (b.putLevels ws).Uncrossed := fun h => by
        cases hcheck.symm.trans (checkNotCrossed_eq_ok.mpr h)
      unfold Uncrossed at hcrossed
      push Not at hcrossed
      obtain ⟨bid, qb, ask, qa, hbid, hask, hle⟩ := hcrossed
      rw [hlevels] at hbid hask
      exact ⟨bid, ask, hle, by simp [hbid], by simp [hask]⟩
    · right
      refine ⟨exists_prepareChanges_iff.mp ⟨ws, hprepared⟩, b.putLevels ws, (b.putLevels ws).trimDepth,
        by simp only [hcheck], header_putLevels b ws, hlevels, checkNotCrossed_eq_ok.mp hcheck, ?_, ?_⟩
      · rw [header_trimDepth, header_putLevels]
      · have hdepth : (b.putLevels ws).depth = b.depth := by
          have hheader := header_putLevels b ws
          simp only [header, Prod.mk.injEq] at hheader
          exact hheader.2.2.2.1
        intro side
        rw [bestFirst_trimDepth, hdepth]

/-- A book of depth two with the bids 9 and 10 and the ask 11. -/
def exampleDepthTwo : OrderBook :=
  ((new 0 0 (some 2)).applySnapshot [(⟨⟨10, 0⟩⟩, ⟨⟨1, 0⟩⟩), (⟨⟨9, 0⟩⟩, ⟨⟨1, 0⟩⟩)]
    [(⟨⟨11, 0⟩⟩, ⟨⟨1, 0⟩⟩)] (some 7)).1

/-- A bid written twice over the ask, the ask removed with quantity zero, and a delete between two
prices. -/
def exampleChanges : List BookChange :=
  [⟨.bid, .upsert, ⟨⟨12, 0⟩⟩, some ⟨⟨4, 0⟩⟩⟩, ⟨.ask, .upsert, ⟨⟨11, 0⟩⟩, some ⟨⟨0, 0⟩⟩⟩,
    ⟨.bid, .upsert, ⟨⟨12, 0⟩⟩, some ⟨⟨5, 0⟩⟩⟩, ⟨.bid, .delete, ⟨⟨105, 1⟩⟩, none⟩]

/-- The message succeeds, though the book is crossed after its first change, and the bid 9 is cut. -/
theorem transaction_outcome_example :
    exampleDepthTwo.validity = .valid ∧
    exampleDepthTwo.overwritten exampleChanges (.bid, 12) = some 5 ∧
    ∃ full b' : OrderBook, exampleDepthTwo.applyChangesAtomic exampleChanges = (b', .ok ()) ∧
      full.levelAt = exampleDepthTwo.overwritten exampleChanges ∧
      b'.bestFirst .bid = (full.bestFirst .bid).take 2 := by
  have hvalid : exampleDepthTwo.validity = .valid := by decide +kernel
  refine ⟨hvalid, by decide +kernel, ?_⟩
  rcases transaction_outcome hvalid exampleChanges with
    ⟨⟨e, he⟩, -⟩ | ⟨-, full, b', h, -, hlevels, -, -, hcut⟩
  · have hok : (exampleDepthTwo.applyChangesAtomic exampleChanges).2 = .ok () := by decide +kernel
    rw [he] at hok
    cases hok
  · exact ⟨full, b', h, hlevels, hcut .bid⟩

end OrderBook

end Marketfeed
