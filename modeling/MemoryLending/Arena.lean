/-
This file places blocks in memory. A block is a row of bytes at a fixed address with an
identity of its own: two blocks are the same block when their identities agree, whatever their
addresses, and no identity is given out twice. The arena takes the addresses announced to it
first; when there are none it places each block after the last one it placed by itself, rounded
up to the alignment and with a gap behind it. A fresh block is filled with zeros.
-/

import MemoryLending.Memory

namespace MemoryLending

/-- A row of `capacity` bytes at a fixed address. -/
structure Block where
  id : Nat
  address : Nat
  capacity : Nat
  /-- Whether the block goes back to a reserve when nobody holds it any more. -/
  pooled : Bool
  deriving DecidableEq, Repr, Inhabited

/-- The block without bytes, which is nowhere. -/
def Block.empty : Block := ⟨0, 0, 0, true⟩

/-- A memory and what is needed to place blocks in it. -/
structure Arena where
  memory : Memory
  /-- Where the next block is placed if no address is announced. -/
  next : Nat
  align : Nat
  gap : Nat
  /-- The addresses announced for the next fresh blocks. -/
  announced : List Nat
  /-- The number of identities given out. -/
  identities : Nat
  deriving Repr, Inhabited

namespace Arena

/-- An arena of zeros that begins to place blocks at an address. -/
def startingAt (address align gap : Nat) : Arena :=
  { memory := {}, next := address, align, gap, announced := [], identities := 0 }

/-- The least multiple of `align` that is not below `address`. -/
def roundUp (address align : Nat) : Nat :=
  if align = 0 then address else (address + align - 1) / align * align

/-- Announces the addresses of the next fresh blocks, in place of those announced before. -/
def announce (arena : Arena) (addresses : List Nat) : Arena :=
  { arena with announced := addresses }

/-- Where the next fresh block goes. -/
def nextAddress (arena : Arena) : Nat :=
  match arena.announced with
  | address :: _ => address
  | [] => roundUp arena.next arena.align

/-- The arena after a fresh block of a length has got its address. -/
def advance (arena : Arena) (length : Nat) : Arena :=
  match arena.announced with
  | _ :: later => { arena with announced := later }
  | [] => { arena with next := arena.nextAddress + length + arena.gap }

/-- The next fresh identity. -/
def nextIdentity (arena : Arena) : Nat := arena.identities + 1

/-- The arena after its next identity has been given out. -/
def identify (arena : Arena) : Arena :=
  { arena with identities := arena.nextIdentity }

/-- The next fresh block. -/
def nextBlock (arena : Arena) (length : Nat) (pooled : Bool) : Block :=
  ⟨arena.nextIdentity, arena.nextAddress, length, pooled⟩

/-- Places a fresh block of zeros: the arena in which `nextBlock` exists. -/
def place (arena : Arena) (length : Nat) : Arena :=
  let placed := (arena.advance length).identify
  { placed with memory := arena.memory.putRun arena.nextAddress (Run.fill 0 length) }

/-- Writes bytes at an address. -/
def write (arena : Arena) (address : Nat) (bytes : Bytes) : Arena :=
  { arena with memory := arena.memory.put address bytes }

/-- The bytes of a range. -/
def read (arena : Arena) (address length : Nat) : Bytes :=
  arena.memory.cut address length

/-- Copies a range onto another one. -/
def copy (arena : Arena) (source target length : Nat) : Arena :=
  { arena with memory := arena.memory.copy source target length }

theorem identities_place (arena : Arena) (length : Nat) :
    (arena.place length).identities = arena.identities + 1 := by
  unfold place identify nextIdentity advance
  split <;> rfl

theorem byte_place (arena : Arena) (length address : Nat) :
    (arena.place length).memory.byte address =
      if arena.nextAddress ≤ address ∧ address < arena.nextAddress + length then 0
      else arena.memory.byte address := by
  simp only [place, Memory.byte_putRun, Run.byte_fill]
  rfl

end Arena

end MemoryLending
