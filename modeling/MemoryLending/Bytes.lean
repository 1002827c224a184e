/-
This file represents the contents of memory without writing every byte out. A run is a row of
bytes in arithmetic progression, so a fill of any length, a ramp and a single byte are all one
run, and a window of a run is a run again. A text of bytes is a list of runs one after another.
-/

namespace MemoryLending

/-- `length` bytes of which byte `i` is `first + i * step`. -/
structure Run where
  first : UInt8
  step : UInt8
  length : Nat
  deriving DecidableEq, Repr, Inhabited

namespace Run

/-- Equal bytes. -/
def fill (value : UInt8) (length : Nat) : Run := ⟨value, 0, length⟩

/-- Byte `index` of a run; the progression goes on past the length. -/
def byte (run : Run) (index : Nat) : UInt8 :=
  run.first + UInt8.ofNat index * run.step

/-- The `length` bytes from `offset` on. -/
def window (run : Run) (offset length : Nat) : Run :=
  ⟨run.byte offset, run.step, length⟩

/-- The bytes of a run. -/
def toList (run : Run) : List UInt8 :=
  (List.range run.length).map run.byte

/-- The sum of the bytes from `index` on, `count` of them, with `total` added. -/
def sumFrom (run : Run) : (count index total : Nat) → Nat
  | 0, _, total => total
  | count + 1, index, total => run.sumFrom count (index + 1) (total + (run.byte index).toNat)

/-- The sum of all bytes. -/
def sum (run : Run) : Nat :=
  if run.step = 0 then run.length * run.first.toNat else run.sumFrom run.length 0 0

theorem byte_fill (value : UInt8) (length index : Nat) : (fill value length).byte index = value := by
  simp [fill, byte]

theorem byte_window (run : Run) (offset length index : Nat) :
    (run.window offset length).byte index = run.byte (offset + index) := by
  simp only [window, byte, UInt8.ofNat_add, UInt8.add_mul, UInt8.add_assoc]

theorem length_toList (run : Run) : run.toList.length = run.length := by
  simp [toList]

end Run

/-- Bytes as a list of runs. -/
abbrev Bytes := List Run

namespace Bytes

/-- The number of bytes. -/
def size : Bytes → Nat
  | [] => 0
  | run :: rest => run.length + size rest

/-- Bytes given one by one. -/
def ofList (bytes : List UInt8) : Bytes :=
  bytes.map fun byte => Run.fill byte 1

/-- The bytes one by one. -/
def toList (bytes : Bytes) : List UInt8 :=
  bytes.flatMap Run.toList

/-- The sum of the bytes. -/
def sum : Bytes → Nat
  | [] => 0
  | run :: rest => run.sum + sum rest

/-- The first byte. -/
def head? : Bytes → Option UInt8
  | [] => none
  | run :: rest => if run.length = 0 then head? rest else some run.first

/-- The `width` low bytes of a word, the lowest first. -/
def littleEndian : (width : Nat) → (word : UInt64) → List UInt8
  | 0, _ => []
  | width + 1, word => word.toUInt8 :: littleEndian width (word >>> 8)

theorem length_toList (bytes : Bytes) : bytes.toList.length = bytes.size := by
  induction bytes with
  | nil => rfl
  | cons run rest inductionHypothesis =>
    rw [size, ← inductionHypothesis, ← run.length_toList]
    simp [toList]

end Bytes

end MemoryLending
