import Marketfeed.Lib.Effect
import Mathlib.Data.List.Infix

/-!
# A buffered writer

A buffer of fixed capacity in front of a file that is only appended to. What is in the file stays
there; what is in the buffer follows it when it is flushed. A raw write may stop short with an error.
-/

namespace Marketfeed

/-- A raw write that stops short: after some octets, with an error. -/
structure ShortWrite (ε : Type) where
  written : Nat
  error : ε
deriving DecidableEq

/-- A buffer and the file behind it. -/
structure BufWriter where
  buffer : List UInt8
  file : List UInt8
deriving DecidableEq

namespace BufWriter

variable {ε : Type}

/-- Write out the buffer. What a raw write that stops short has left stays in the buffer. -/
def flush (answer : Option (ShortWrite ε)) : EStateM ε BufWriter Unit := fun w =>
  match answer with
  | none => .ok () ⟨[], w.file ++ w.buffer⟩
  | some short =>
    .error short.error ⟨w.buffer.drop short.written, w.file ++ w.buffer.take short.written⟩

/-- Write past the buffer. What a raw write that stops short has left is lost. -/
def writeDirect (data : List UInt8) (answer : Option (ShortWrite ε)) :
    EStateM ε BufWriter Unit := fun w =>
  match answer with
  | none => .ok () { w with file := w.file ++ data }
  | some short => .error short.error { w with file := w.file ++ data.take short.written }

/-- Put octets into the buffer. -/
def put (data : List UInt8) : EStateM ε BufWriter Unit :=
  modify fun w => { w with buffer := w.buffer ++ data }

/-- What the raw writes of one `writeAll` answer. -/
structure WriteAnswers (ε : Type) where
  flush : Option (ShortWrite ε)
  direct : Option (ShortWrite ε)
deriving DecidableEq

/-- Every raw write succeeds. -/
def WriteAnswers.Clear (answers : WriteAnswers ε) : Prop :=
  answers.flush = none ∧ answers.direct = none

/-- Flush if the octets do not fit. -/
def makeRoom (capacity : Nat) (data : List UInt8) (answer : Option (ShortWrite ε)) :
    EStateM ε BufWriter Unit := do
  let w ← get
  if capacity - w.buffer.length < data.length then flush answer else pure ()

/-- Octets that would fill the whole buffer go past it. -/
def place (capacity : Nat) (data : List UInt8) (answer : Option (ShortWrite ε)) :
    EStateM ε BufWriter Unit :=
  if capacity ≤ data.length then writeDirect data answer else put data

/-- Append octets. -/
def writeAll (capacity : Nat) (data : List UInt8) (answers : WriteAnswers ε) :
    EStateM ε BufWriter Unit := do
  let w ← get
  if data.length < capacity - w.buffer.length then put data
  else do
    makeRoom capacity data answers.flush
    place capacity data answers.direct

/-- Whichever way it ends the file has only grown; after a success the buffer is in it. -/
lemma ends_flush (answer : Option (ShortWrite ε)) (w : BufWriter) :
    Ends (flush answer) w (fun _ w' => w' = ⟨[], w.file ++ w.buffer⟩)
      (fun _ w' => w.file <+: w'.file ∧ answer ≠ none) := by
  cases answer with
  | none => exact rfl
  | some short => exact ⟨List.prefix_append _ _, nofun⟩

variable {capacity : Nat}

/-- Octets that go past the buffer find it empty. -/
lemma ends_makeRoom (hcapacity : 0 < capacity) (data : List UInt8)
    (answer : Option (ShortWrite ε)) (w : BufWriter) :
    Ends (makeRoom capacity data answer) w
      (fun _ w' => w.file <+: w'.file ∧ w'.file ++ w'.buffer = w.file ++ w.buffer ∧
        (capacity ≤ data.length → w'.buffer = []))
      (fun _ w' => w.file <+: w'.file ∧ answer ≠ none) := by
  refine Ends.get ?_
  split_ifs with hfull
  · refine (ends_flush answer w).mono (fun _ w' h => ?_) fun _ _ h => h
    subst h
    exact ⟨List.prefix_append _ _, List.append_nil _, fun _ => rfl⟩
  · refine ⟨List.prefix_refl _, rfl, fun hlarge => ?_⟩
    exact List.length_eq_zero_iff.mp (by omega)

lemma ends_place {data : List UInt8} {answer : Option (ShortWrite ε)} {w : BufWriter}
    (h : capacity ≤ data.length → w.buffer = []) :
    Ends (place capacity data answer) w
      (fun _ w' => w.file <+: w'.file ∧ w'.file ++ w'.buffer = w.file ++ w.buffer ++ data)
      (fun _ w' => w.file <+: w'.file ∧ answer ≠ none) := by
  unfold place
  split_ifs with hlarge
  · cases answer with
    | none =>
      refine ⟨List.prefix_append _ _, ?_⟩
      show w.file ++ data ++ w.buffer = _
      rw [h hlarge, List.append_nil, List.append_nil]
    | some short => exact ⟨List.prefix_append _ _, nofun⟩
  · exact ⟨List.prefix_refl _, (List.append_assoc _ _ _).symm⟩

/-- **An append**: the octets follow what file and buffer hold, unless a raw write stops short. -/
theorem ends_writeAll (hcapacity : 0 < capacity) (data : List UInt8) (answers : WriteAnswers ε)
    (w : BufWriter) :
    Ends (writeAll capacity data answers) w
      (fun _ w' => w.file <+: w'.file ∧ w'.file ++ w'.buffer = w.file ++ w.buffer ++ data)
      (fun _ w' => w.file <+: w'.file ∧ ¬answers.Clear) := by
  refine Ends.get ?_
  split_ifs with hfits
  · exact ⟨List.prefix_refl _, (List.append_assoc _ _ _).symm⟩
  · refine ((ends_makeRoom hcapacity data answers.flush w).mono_error
      fun _ w' h => ⟨h.1, fun hclear => h.2 hclear.1⟩).seq ?_
    rintro ⟨⟩ w₁ ⟨hgrown, hcontents, hempty⟩
    refine (ends_place hempty).mono (fun _ w' h => ?_) fun _ w' h => ?_
    · exact ⟨hgrown.trans h.1, by rw [h.2, hcontents]⟩
    · exact ⟨hgrown.trans h.1, fun hclear => h.2 hclear.2⟩

end BufWriter

end Marketfeed
