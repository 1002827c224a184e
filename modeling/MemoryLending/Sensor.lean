/-
This file describes the native side: the parties that accept the callbacks of a lender. A host
keeps the callbacks it is offered, may ask for memory at once, and answers with a result, zero
for acceptance. A sensor accepts the callbacks once. It takes its frames from the allocate
callback, and it has buffers of its own, which no lender knows.
-/

import MemoryLending.Arena

namespace MemoryLending

/-- A party that accepts the callbacks or not. -/
structure Host where
  /-- The result it answers with. -/
  result : Int
  /-- The sizes it asks for while it is offered the callbacks. -/
  early : List Int
  /-- Whether it has the callbacks. -/
  connected : Bool
  deriving DecidableEq, Repr, Inhabited

/-- The source of frames. -/
structure Sensor where
  /-- Whether it has the callbacks. -/
  connected : Bool
  frameLength : Nat
  /-- Its own buffers. -/
  buffers : List Block
  running : Bool
  deriving DecidableEq, Repr, Inhabited

namespace Sensor

/-- The length of each buffer of its own. -/
def bufferLength : Nat := 64 * 1024

/-- The length of an entry in the table of its own buffers. The table is one block, so it bounds
how many buffers a sensor can have. -/
def entryLength : Nat := 16

/-- The greatest length the native layer can ask for. -/
def longestFrame : Nat := UInt32.size / 2 - 1

/-- The result with which a sensor refuses callbacks when it already has some. -/
def refusal : Int := 1

/-- The arena and the buffers after `count` more buffers, from number `index` on. Buffer `index`
is filled with its number. -/
def placeBuffers (arena : Arena) : (count index : Nat) → Arena × List Block
  | 0, _ => (arena, [])
  | count + 1, index =>
    let block := arena.nextBlock bufferLength false
    let placed := (arena.place bufferLength).write block.address
      [Run.fill (UInt8.ofNat index) bufferLength]
    let (arena, later) := placeBuffers placed count (index + 1)
    (arena, block :: later)

/-- The bytes of a frame: the number of the frame in its first eight bytes, lowest first, and
its lowest byte in all others. -/
def frameContents (sequence : UInt64) (length : Nat) : Bytes :=
  let stamp := (Bytes.littleEndian 8 sequence).take length
  Bytes.ofList stamp ++ [Run.fill sequence.toUInt8 (length - stamp.length)]

end Sensor

end MemoryLending
