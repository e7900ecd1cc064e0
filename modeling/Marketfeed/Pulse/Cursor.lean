import Mathlib.Algebra.Ring.Nat
import Mathlib.Tactic.Common

/-!
# Cursors and their display sequence

Model of `CursorV1` in `crates/event-pulse/src/wire.rs`. A derived cursor names an item of an action of
a frame; its display sequence packs the three coordinates into one number, with sixteen bits each for
the action and the item.
-/

namespace Marketfeed.Pulse

/-- Source: `WireError::Cursor`; the other variants concern other values -/
inductive WireError
  | cursor
deriving DecidableEq

def maxI64U64 : Nat := 2 ^ 63 - 1

/-- Source: `u16::MAX as u32` -/
def u16Max : UInt32 := 65535

/-- Source: `CursorKindV1`, `CursorV1` -/
inductive CursorV1
  | nativeRange (start stop : UInt64)
  | derivedAction (frameOrdinal : UInt64) (actionIndex itemIndex : UInt32)
deriving DecidableEq

namespace CursorV1

def native (start stop : UInt64) : Except WireError CursorV1 :=
  if start > stop ∨ maxI64U64 < stop.toNat then .error .cursor else .ok (.nativeRange start stop)

/-- The packed coordinates, as the `u128` they are computed in. -/
def display (frame : UInt64) (action item : UInt32) : Nat :=
  (frame.toNat * 65536 + action.toNat) * 65536 + item.toNat

def derived (frameOrdinal : UInt64) (actionIndex itemIndex : UInt32) : Except WireError CursorV1 :=
  if actionIndex = u16Max ∨ u16Max < itemIndex then .error .cursor
  else if maxI64U64 < display frameOrdinal actionIndex itemIndex then .error .cursor
  else .ok (.derivedAction frameOrdinal actionIndex itemIndex)

def displaySequence : CursorV1 → Except WireError UInt64
  | .nativeRange _ stop => .ok stop
  | .derivedAction frame action item =>
    if display frame action item ≤ maxI64U64 then .ok (UInt64.ofNat (display frame action item))
    else .error .cursor

def derivedDrop (frameOrdinal : UInt64) (itemIndex : UInt32) : Except WireError CursorV1 :=
  if 2 < itemIndex then .error .cursor
  else do
    let cursor := CursorV1.derivedAction frameOrdinal u16Max itemIndex
    let _ ← cursor.displaySequence
    return cursor

/-- The wire form has the same fields as the cursor, unchecked.
Source: `CursorV1::deserialize` over `CursorWireV1` -/
def deserialize : CursorV1 → Except WireError CursorV1
  | .nativeRange start stop => native start stop
  | .derivedAction frameOrdinal actionIndex itemIndex =>
    if actionIndex = u16Max then derivedDrop frameOrdinal itemIndex
    else derived frameOrdinal actionIndex itemIndex

/-- The cursors that can be built. -/
inductive Built : CursorV1 → Prop
  | native {start stop : UInt64} {c : CursorV1} : native start stop = .ok c → Built c
  | derived {frame : UInt64} {action item : UInt32} {c : CursorV1} :
      derived frame action item = .ok c → Built c
  | derivedDrop {frame : UInt64} {item : UInt32} {c : CursorV1} :
      derivedDrop frame item = .ok c → Built c
  | deserialize {wire c : CursorV1} : deserialize wire = .ok c → Built c

/-- The action index fits the sixteen bits it has in the display sequence. -/
def Narrow : CursorV1 → Prop
  | .nativeRange _ _ => True
  | .derivedAction _ action _ => action ≤ u16Max

/-- The coordinates of the first cursor are lexicographically smaller. -/
def Before : CursorV1 → CursorV1 → Prop
  | .derivedAction f a i, .derivedAction f' a' i' =>
    f < f' ∨ f = f' ∧ (a < a' ∨ a = a' ∧ i < i')
  | _, _ => False

/-- **Two cursors are displayed as they are ordered**: both have a display sequence, the smaller one
belongs to the smaller cursor, and equal ones to equal cursors. -/
def Agrees (c d : CursorV1) : Prop :=
  ∃ m n, c.displaySequence = .ok m ∧ d.displaySequence = .ok n ∧
    (m < n ↔ c.Before d) ∧ (m = n → c = d)

/-! ## What can be built -/

variable {f : UInt64} {a i : UInt32}

lemma derived_eq_ok {c : CursorV1} :
    derived f a i = .ok c ↔
      c = .derivedAction f a i ∧ a ≠ u16Max ∧ i ≤ u16Max ∧ display f a i ≤ maxI64U64 := by
  unfold derived
  rw [← UInt32.not_lt]
  split_ifs with h₁ h₂
  · simp only [false_iff]
    exact fun h => h₁.elim h.2.1 h.2.2.1
  · simp only [false_iff]
    exact fun h => absurd h.2.2.2 (Nat.not_le.mpr h₂)
  · simp only [Except.ok.injEq]
    push Not at h₁
    exact ⟨fun h => ⟨h.symm, h₁.1, h₁.2, Nat.not_lt.mp h₂⟩, fun h => h.1.symm⟩

lemma derivedDrop_eq_ok {c : CursorV1} :
    derivedDrop f i = .ok c ↔
      c = .derivedAction f u16Max i ∧ i ≤ 2 ∧ display f u16Max i ≤ maxI64U64 := by
  unfold derivedDrop
  split_ifs with h
  · simp only [false_iff]
    exact fun h' => absurd h (UInt32.not_lt.mpr h'.2.1)
  · show (displaySequence _ >>= fun _ => .ok _) = _ ↔ _
    by_cases hd : display f u16Max i ≤ maxI64U64
    · rw [show (derivedAction f u16Max i).displaySequence = .ok _ from if_pos hd]
      exact ⟨fun h' => ⟨(Except.ok.inj h').symm, UInt32.not_lt.mp h, hd⟩, fun h' => h'.1 ▸ rfl⟩
    · rw [show (derivedAction f u16Max i).displaySequence = .error _ from if_neg hd]
      exact ⟨nofun, fun h' => absurd h'.2.2 hd⟩

/-- **The derived cursors that can be built**: the item fits its field and the packed number an `i64`.
The reserved action is left to the drops, of which a frame has three. -/
theorem built_iff :
    Built (.derivedAction f a i) ↔
      i ≤ u16Max ∧ display f a i ≤ maxI64U64 ∧ (a = u16Max → i ≤ 2) := by
  have hdrop : ∀ {f' : UInt64} {i' : UInt32}, derivedDrop f' i' = .ok (.derivedAction f a i) →
      i ≤ u16Max ∧ display f a i ≤ maxI64U64 ∧ (a = u16Max → i ≤ 2) := by
    intro f' i' h
    obtain ⟨heq, hi, hd⟩ := derivedDrop_eq_ok.mp h
    cases heq
    exact ⟨UInt32.le_trans hi (by decide), hd, fun _ => hi⟩
  have hderived : ∀ {f' : UInt64} {a' i' : UInt32}, derived f' a' i' = .ok (.derivedAction f a i) →
      i ≤ u16Max ∧ display f a i ≤ maxI64U64 ∧ (a = u16Max → i ≤ 2) := by
    intro f' a' i' h
    obtain ⟨heq, ha, hi, hd⟩ := derived_eq_ok.mp h
    cases heq
    exact ⟨hi, hd, fun h => absurd h ha⟩
  constructor
  · intro h
    cases h with
    | native h =>
      unfold CursorV1.native at h
      split_ifs at h
      cases h
    | derived h => exact hderived h
    | derivedDrop h => exact hdrop h
    | @deserialize wire _ h =>
      cases wire with
      | nativeRange start stop =>
        simp only [deserialize, native] at h
        split_ifs at h
        cases h
      | derivedAction f' a' i' =>
        simp only [deserialize] at h
        split_ifs at h
        · exact hdrop h
        · exact hderived h
  · rintro ⟨hi, hd, hreserved⟩
    by_cases ha : a = u16Max
    · subst ha
      exact .derivedDrop (derivedDrop_eq_ok.mpr ⟨rfl, hreserved rfl, hd⟩)
    · exact .derived (derived_eq_ok.mpr ⟨rfl, ha, hi, hd⟩)

/-! ## The order of the displays -/

lemma displaySequence_eq_ok (h : display f a i ≤ maxI64U64) :
    (derivedAction f a i).displaySequence = .ok (UInt64.ofNat (display f a i)) := if_pos h

lemma toNat_display {n : Nat} (h : n ≤ maxI64U64) : (UInt64.ofNat n).toNat = n := by
  exact UInt64.toNat_ofNat_of_lt' (Nat.lt_of_le_of_lt h (by decide))

/-- Within their fields the coordinates are ordered as the packed numbers are. -/
lemma display_lt_iff {f' : UInt64} {a' i' : UInt32} (ha : a ≤ u16Max) (ha' : a' ≤ u16Max)
    (hi : i ≤ u16Max) (hi' : i' ≤ u16Max) :
    display f a i < display f' a' i' ↔ (derivedAction f a i).Before (.derivedAction f' a' i') := by
  simp only [Before, display, UInt64.lt_iff_toNat_lt, UInt32.lt_iff_toNat_lt, UInt32.le_iff_toNat_le,
    ← UInt64.toNat_inj, ← UInt32.toNat_inj] at *
  have hmax : u16Max.toNat = 65535 := rfl
  omega

lemma display_inj {f' : UInt64} {a' i' : UInt32} (ha : a ≤ u16Max) (ha' : a' ≤ u16Max)
    (hi : i ≤ u16Max) (hi' : i' ≤ u16Max) (h : display f a i = display f' a' i') :
    derivedAction f a i = .derivedAction f' a' i' := by
  simp only [derivedAction.injEq, display, UInt32.le_iff_toNat_le, ← UInt64.toNat_inj,
    ← UInt32.toNat_inj] at *
  have hmax : u16Max.toNat = 65535 := rfl
  omega

/-- A frame that has been overrun: the cursor at the start of the next frame can be built, comes later
and is displayed no later. -/
lemma overrun (hb : Built (.derivedAction f a i)) (ha : u16Max < a) :
    Built (.derivedAction (f + 1) 0 0) ∧ f < f + 1 ∧ display (f + 1) 0 0 ≤ display f a i := by
  have hd := (built_iff.mp hb).2.1
  have hmax : u16Max.toNat = 65535 := rfl
  have hlast : maxI64U64 = 2 ^ 63 - 1 := rfl
  have hzero : (0 : UInt32).toNat = 0 := rfl
  rw [UInt32.lt_iff_toNat_lt] at ha
  have hf : (f + 1).toNat = f.toNat + 1 := by
    rw [display] at hd
    rw [UInt64.toNat_add, show (1 : UInt64).toNat = 1 from rfl, Nat.mod_eq_of_lt (by omega)]
  have hle : display (f + 1) 0 0 ≤ display f a i := by
    rw [display, display, hf, hzero]
    omega
  refine ⟨built_iff.mpr ⟨by decide, Nat.le_trans hle hd, by decide⟩, ?_, hle⟩
  rw [UInt64.lt_iff_toNat_lt, hf]
  omega

/-- **A derived cursor is displayed in the right place iff its action index fits its field.** The
cursors it is compared with are all those that can be built with an action index that fits. -/
theorem displaySequence_agrees_iff {f : UInt64} {a i : UInt32} (hb : Built (.derivedAction f a i)) :
    (∀ f' a' i', Built (.derivedAction f' a' i') → (derivedAction f' a' i').Narrow →
        Agrees (.derivedAction f a i) (.derivedAction f' a' i')) ↔
      (derivedAction f a i).Narrow := by
  obtain ⟨hi, hd, -⟩ := built_iff.mp hb
  constructor
  · intro h
    by_contra hwide
    have ha : u16Max < a := UInt32.not_le.mp hwide
    obtain ⟨hnext, hlt, hle⟩ := overrun hb ha
    obtain ⟨m, n, hm, hn, hiff, -⟩ := h _ _ _ hnext (show (0 : UInt32) ≤ u16Max by decide)
    rw [displaySequence_eq_ok hd, Except.ok.injEq] at hm
    rw [displaySequence_eq_ok (Nat.le_trans hle hd), Except.ok.injEq] at hn
    have hmn := hiff.mpr (.inl hlt)
    rw [← hm, ← hn, UInt64.lt_iff_toNat_lt, toNat_display hd, toNat_display (Nat.le_trans hle hd)] at hmn
    omega
  · intro ha f' a' i' hb' ha'
    obtain ⟨hi', hd', -⟩ := built_iff.mp hb'
    refine ⟨_, _, displaySequence_eq_ok hd, displaySequence_eq_ok hd', ?_, ?_⟩
    · rw [UInt64.lt_iff_toNat_lt, toNat_display hd, toNat_display hd']
      exact display_lt_iff ha ha' hi hi'
    · intro h
      rw [← UInt64.toNat_inj, toNat_display hd, toNat_display hd'] at h
      exact display_inj ha ha' hi hi' h

/-- The last ordinary action of a frame and its first drop are displayed in order. -/
theorem displaySequence_agrees_reserved :
    Agrees (.derivedAction 7 65534 65535) (.derivedAction 7 65535 0) :=
  (displaySequence_agrees_iff (built_iff.mpr (by decide))).mpr
    (show (65534 : UInt32) ≤ u16Max by decide) 7 65535 0 (built_iff.mpr (by decide))
    (show (65535 : UInt32) ≤ u16Max by decide)

/-- Action 65536 of the first frame is displayed as the first action of the second. -/
theorem wide_action_collides :
    derived 0 65536 0 = .ok (.derivedAction 0 65536 0) ∧ derived 1 0 0 = .ok (.derivedAction 1 0 0) ∧
      (derivedAction 0 65536 0).displaySequence = (derivedAction 1 0 0).displaySequence := by
  decide

end CursorV1

end Marketfeed.Pulse
