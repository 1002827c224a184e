/-
This file holds a memory of bytes at addresses. A memory is the history of its writes, the
latest first, and a byte is the one most recently written at its address, zero if there is
none. Writes that a later one covers completely are forgotten, which changes no byte, so that
the history stays as short as the memory is fragmented. Reading a range cuts the runs that are
visible in it out of the history.
-/

import MemoryLending.Bytes

namespace MemoryLending

/-- A run written at an address. -/
structure Patch where
  start : Nat
  run : Run
  deriving DecidableEq, Repr

namespace Patch

/-- The address after the last byte. -/
def finish (patch : Patch) : Nat := patch.start + patch.run.length

/-- Whether the patch gives the byte at an address. -/
def covers (patch : Patch) (address : Nat) : Bool :=
  patch.start ≤ address && address < patch.start + patch.run.length

/-- Whether the patch lies inside `length` bytes from `start` on. -/
def within (patch : Patch) (start length : Nat) : Bool :=
  start ≤ patch.start && patch.start + patch.run.length ≤ start + length

/-- Whether the patch covers all `length` bytes from `start` on. -/
def spans (patch : Patch) (start length : Nat) : Bool :=
  patch.start ≤ start && start + length ≤ patch.start + patch.run.length

/-- The byte at an address that the patch covers. -/
def byte (patch : Patch) (address : Nat) : UInt8 :=
  patch.run.byte (address - patch.start)

theorem covers_iff (patch : Patch) (address : Nat) :
    patch.covers address = true ↔
      patch.start ≤ address ∧ address < patch.start + patch.run.length := by
  simp [covers]

theorem within_iff (patch : Patch) (start length : Nat) :
    patch.within start length = true ↔
      start ≤ patch.start ∧ patch.start + patch.run.length ≤ start + length := by
  simp [within]

end Patch

/-- A memory as the history of its writes, the latest first. -/
structure Memory where
  patches : List Patch := []
  /-- The address after the last byte ever written. -/
  finish : Nat := 0
  deriving Repr, Inhabited

namespace Memory

/-- The byte at an address. -/
def byte (memory : Memory) (address : Nat) : UInt8 :=
  match memory.patches.find? (·.covers address) with
  | some patch => patch.byte address
  | none => 0

/-- Forgets writes that a new write to a range covers. A write to the whole range has forgotten all
such writes before it, so nothing older is looked at. -/
def forget (start length : Nat) : List Patch → List Patch
  | [] => []
  | patch :: older =>
    if patch.spans start length then if patch.within start length then older else patch :: older
    else if patch.within start length then forget start length older
    else patch :: forget start length older

/-- Writes one run. Where nothing has been written yet there is nothing to forget. -/
def putRun (memory : Memory) (start : Nat) (run : Run) : Memory :=
  if run.length = 0 then memory
  else
    let older :=
      if memory.finish ≤ start then memory.patches
      else forget start run.length memory.patches
    ⟨⟨start, run⟩ :: older, max memory.finish (start + run.length)⟩

/-- Writes bytes one run after another. -/
def put (memory : Memory) (start : Nat) : Bytes → Memory
  | [] => memory
  | run :: rest => (memory.putRun start run).put (start + run.length) rest

/-- The bytes that a history shows in a range: what the latest patch gives, and on both sides
of it what the older ones give. -/
def cutFrom : List Patch → (start length : Nat) → Bytes
  | [], _, length => if length = 0 then [] else [Run.fill 0 length]
  | patch :: older, start, length =>
    if length = 0 then []
    else
      let low := max start patch.start
      let high := min (start + length) patch.finish
      if high ≤ low then cutFrom older start length
      else
        cutFrom older start (low - start) ++
          patch.run.window (low - patch.start) (high - low) ::
            cutFrom older high (start + length - high)

/-- The `length` bytes from `start` on. -/
def cut (memory : Memory) (start length : Nat) : Bytes :=
  cutFrom memory.patches start length

/-- Copies `length` bytes from one range to another, as they are before the copy. -/
def copy (memory : Memory) (source target length : Nat) : Memory :=
  memory.put target (memory.cut source length)

/-! ### Reading back what was written -/

/-- Forgetting changes nothing outside the range. -/
theorem find?_forget (start length address : Nat)
    (outside : ¬(start ≤ address ∧ address < start + length)) (patches : List Patch) :
    (forget start length patches).find? (·.covers address) =
      patches.find? (·.covers address) := by
  have uncovered : ∀ patch : Patch, patch.within start length = true →
      patch.covers address = false := by
    intro patch inside
    rw [Patch.within_iff] at inside
    rw [← Bool.not_eq_true, Patch.covers_iff]
    omega
  induction patches with
  | nil => rfl
  | cons patch older inductionHypothesis =>
    unfold forget
    split
    · split
      · rename_i inside
        simp [uncovered patch inside]
      · rfl
    · split
      · rename_i inside
        rw [inductionHypothesis]
        simp [uncovered patch inside]
      · simp only [List.find?_cons, inductionHypothesis]

theorem byte_putRun (memory : Memory) (start : Nat) (run : Run) (address : Nat) :
    (memory.putRun start run).byte address =
      if start ≤ address ∧ address < start + run.length then run.byte (address - start)
      else memory.byte address := by
  unfold putRun
  by_cases empty : run.length = 0
  · have outside : ¬(start ≤ address ∧ address < start + run.length) := by omega
    rw [if_pos empty, if_neg outside]
  · rw [if_neg empty]
    by_cases inside : start ≤ address ∧ address < start + run.length
    · rw [if_pos inside]
      simp [byte, Patch.covers, Patch.byte, inside.1, inside.2]
    · rw [if_neg inside]
      have outside : (Patch.mk start run).covers address = false := by
        rw [← Bool.not_eq_true, Patch.covers_iff]
        exact inside
      by_cases beyond : memory.finish ≤ start
      · simp only [byte, List.find?_cons, outside, if_pos beyond]
      · simp only [byte, List.find?_cons, outside, if_neg beyond,
          find?_forget start run.length address inside]

end Memory

end MemoryLending
