/-
This file holds the settings of a soak run and what follows from them: the length of a frame,
two bytes for each pixel, and the policy of the lender. Both are products of what the operator
wrote, and a product that leaves the machine word is a panic, as is a frame without two sides.
-/

import MemoryLending.Fault
import MemoryLending.Policy

namespace MemoryLending

/-- What an operator can set for a soak run. -/
structure Settings where
  /-- The number of workers. -/
  threads : Nat
  /-- The number of frames each worker takes. -/
  iterations : Nat
  /-- The sides of a frame in pixels, width first. -/
  frameSize : List Nat
  /-- The number of buffers the sensor has of its own. -/
  foreignBuffers : Nat
  /-- Every capture of this number is kept until the end; zero keeps none. -/
  leakEvery : Nat
  /-- What the reserve keeps, in MiB. -/
  retainMebibytes : Nat
  /-- What the reserve keeps, in blocks. -/
  retainBlocks : Nat
  unknownReturn : UnknownReturn
  verbose : Bool
  journald : Bool
  tracy : Bool
  deriving DecidableEq, Repr

namespace Settings

/-- The settings of an operator who sets nothing. -/
def standard : Settings :=
  { threads := 4
    iterations := 1000
    frameSize := [1920, 1080]
    foreignBuffers := 8
    leakEvery := 64
    retainMebibytes := 256
    retainBlocks := 64
    unknownReturn := .reject
    verbose := false
    journald := false
    tracy := false }

/-- A product that panics when it leaves the machine word. -/
def product (left right : Nat) : Except Panic Nat :=
  match Word.mul? left right with
  | some product => .ok product
  | none => .error .mulOverflow

/-- A side of the frame. -/
def side (settings : Settings) (index : Nat) : Except Panic Nat :=
  match settings.frameSize[index]? with
  | some side => .ok side
  | none => .error (.outOfBounds settings.frameSize.length index)

/-- The length of a frame in bytes. -/
def frameLength (settings : Settings) : Except Panic Nat := do
  let width ← settings.side 0
  let height ← settings.side 1
  let pixels ← product width height
  product pixels 2

/-- The policy of the lender. -/
def policy (settings : Settings) : Except Panic Policy := do
  let kibibytes ← product settings.retainMebibytes 1024
  let bytes ← product kibibytes 1024
  return ⟨⟨bytes, settings.retainBlocks⟩, settings.unknownReturn⟩

end Settings

end MemoryLending
