/-
This file captures frames. A capture is a wrapper over one frame of the sensor: it is enrolled
with its lender when it is made, hands the frame back when it retires, and can sum up a window
of the frame as long as it has not retired. The window is read through the lender, in place if
the lender finds the frame among its loans.
-/

import MemoryLending.Office.Serving

namespace MemoryLending

namespace Action

/-- Makes and enrols the capture of a frame. -/
def makeCapture (lender sensor : Nat) (frame : Frame) : Action WrapperId := do
  let capture ← makeWrapper "" lender (.capture sensor (some frame))
  enroll lender capture
  return capture

/-- A sum that panics when it leaves the machine word. -/
def sum (left right : Nat) : Action Nat :=
  match Word.add? left right with
  | some sum => return sum
  | none => throw (.panicked .addOverflow)

/-- A product that panics when it leaves the machine word. -/
def product (left right : Nat) : Action Nat :=
  match Word.mul? left right with
  | some product => return product
  | none => throw (.panicked .mulOverflow)

/-- Gets access to a range, does some work with its bytes, and ends the access, also when the
work fails. -/
def reading {Answer : Type} (lender address length : Nat)
    (work : Reach → Bytes → Action Answer) : Action Answer := do
  let reach ← atDesk lender (·.reach address length)
  let bytes ← readDesk lender (·.reachBytes reach)
  let outcome : Except Fault Answer ←
    try
      let answer ← work reach bytes
      pure (.ok answer)
    catch
      | .aborted => throw .aborted
      | fault => pure (.error fault)
  changeDesk lender (·.letGo reach)
  match outcome with
  | .ok answer => return answer
  | .error fault => throw fault

/-- The frame of a capture that has not retired. -/
def heldFrame (capture : WrapperId) : Action (Nat × Frame) := do
  match (← get).wrappers[capture]? with
  | none => throw (.complained .frameReleased)
  | some wrapper =>
    match wrapper.flag.requireHeld with
    | .error violation => refuse violation
    | .ok () =>
      match wrapper.duty with
      | .capture _ (some frame) => return (wrapper.lender, frame)
      | _ => throw (.complained .frameReleased)

/-- Sums up the `length` bytes of a frame from an offset on. -/
def windowSum (capture : WrapperId) (offset length : Nat) : Action Nat := do
  let (lender, frame) ← heldFrame capture
  let finish ← sum offset length
  if frame.length < finish then
    throw (.complained (.windowOutside offset length frame.length))
  let address ← sum frame.address offset
  reading lender address length fun reach bytes => do
    if !reach.isInPlace then log (.frameNotOwned frame.address)
    return bytes.sum

/-- Asks a lender for the first byte of the loan that a wrapper holds. -/
def firstByte (lender : Nat) (id : WrapperId) : Action UInt8 := do
  match (← get).wrappers[id]? with
  | some { duty := .loan address _, flag, .. } =>
    if let .error violation := flag.requireHeld then refuse violation
    match ← atDesk lender fun desk => (.ok (desk.openView address 1).1, (desk.openView address 1).2) with
    | none => refuse (.untracked address)
    | some view =>
      let bytes ← readDesk lender (·.viewBytes view)
      changeDesk lender (·.closeView view)
      return bytes.head?.getD 0
  | _ => refuse .alreadyReleased

end Action

end MemoryLending
