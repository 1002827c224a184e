/-
This file runs one worker of a soak run. A worker takes frame after frame, sums up a window that
wanders through the frame, reads one of the sensor's own buffers, and keeps every capture whose
turn it is. Whatever ends the worker early also lets go of the captures it has kept.
-/

import MemoryLending.Settings
import MemoryLending.Soak.Capture

namespace MemoryLending

/-- What a worker has got so far: the captures it keeps, the latest first, and its checksum. -/
structure WorkerProgress where
  kept : List WrapperId
  checksum : UInt64

namespace Action

/-- The longest window that is summed up. -/
def longestWindow : Nat := 4096

/-- How far the window moves from frame to frame. -/
def windowStride : Nat := 7919

/-- Reads the buffer of the sensor whose turn it is. The answer is its first byte. -/
def readForeign (lender sensor sequence : Nat) : Action UInt64 := do
  let buffer ← ownBuffer sensor sequence
  reading lender buffer.address buffer.capacity fun reach bytes => do
    if reach.isInPlace then throw (.complained .foreignOwned)
    match bytes.head? with
    | some byte => return byte.toUInt64
    | none => throw (.panicked (.outOfBounds 0 0))

/-- Takes frame `index` and reads it. The answer is the capture, with one holder, and what the
frame adds to the checksum. -/
def workFrame (lender sensor worker index frameLength : Nat) (settings : Settings) :
    Action (WrapperId × UInt64) := do
  let earlier ← product worker settings.iterations
  let sequence ← sum earlier index
  let frame ← grab sensor (UInt64.ofNat sequence)
  let capture ← makeCapture lender sensor frame
  let window := min frameLength longestWindow
  let readAll : Action UInt64 := do
    let distance ← product index windowStride
    let offset := distance % (frameLength - window + 1)
    let own := UInt64.ofNat (← windowSum capture offset window)
    if (← Action.sensor sensor).buffers.isEmpty then return own
    return own + (← readForeign lender sensor sequence)
  try
    return (capture, ← readAll)
  catch
    | .aborted => throw .aborted
    | fault =>
      letGo capture
      throw fault

/-- Whether the capture of frame `index` is kept. -/
def keeps (settings : Settings) (index : Nat) : Bool :=
  0 < settings.leakEvery && index % settings.leakEvery == settings.leakEvery - 1

/-- Takes `count` more frames, from frame `index` on. -/
def workFrames (lender sensor worker frameLength : Nat) (settings : Settings) :
    (count index : Nat) → WorkerProgress → Action WorkerProgress
  | 0, _, progress => return progress
  | count + 1, index, progress => do
    let (capture, part) ←
      try
        workFrame lender sensor worker index frameLength settings
      catch
        | .aborted => throw .aborted
        | fault =>
          letGoAll progress.kept.reverse
          throw fault
    let checksum := progress.checksum + part
    if keeps settings index then
      workFrames lender sensor worker frameLength settings count (index + 1)
        ⟨capture :: progress.kept, checksum⟩
    else
      letGo capture
      workFrames lender sensor worker frameLength settings count (index + 1)
        ⟨progress.kept, checksum⟩

/-- Runs a worker. The answer is the captures it keeps, in order. -/
def work (lender sensor worker : Nat) (settings : Settings) : Action (List WrapperId) := do
  match settings.frameLength with
  | .error panic => throw (.panicked panic)
  | .ok frameLength =>
    let progress ←
      workFrames lender sensor worker frameLength settings settings.iterations 0 ⟨[], 0⟩
    log (.workerFinished worker progress.checksum progress.kept.length)
    return progress.kept.reverse

end Action

end MemoryLending
