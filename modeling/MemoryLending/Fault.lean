/-
This file says in how many ways an operation can end without a value. A violation is reported
to the caller; a complaint is reported by the soak run; a panic unwinds the running thread; an
abort ends the process. Whatever an operation changed before it failed stays changed.
-/

import MemoryLending.Violation

namespace MemoryLending

/-- Why a thread unwinds. -/
inductive Panic where
  /-- A sum left the machine word. -/
  | addOverflow
  /-- A product left the machine word. -/
  | mulOverflow
  /-- A block longer than half the address space was asked for. -/
  | capacityOverflow
  /-- A remainder by zero was asked for. -/
  | zeroDivisor
  /-- A list of `length` items was asked for item `index`. -/
  | outOfBounds (length index : Nat)
  /-- A shutdown guard ended with a failed sweep. -/
  | shutdownFailed (violation : Violation)
  /-- A wrapper refused to be retired. -/
  | refusedRetirement (name : String)
  /-- A worker panicked and nobody was left to be told. -/
  | workerPanicked
  /-- The panic with which a caller leaves the scope of a guard. -/
  | unwinding
  deriving DecidableEq, Repr

namespace Panic

/-- The text a panic carries. -/
def message : Panic → String
  | addOverflow => "attempt to add with overflow"
  | mulOverflow => "attempt to multiply with overflow"
  | capacityOverflow => "capacity overflow"
  | zeroDivisor => "attempt to calculate the remainder with a divisor of zero"
  | outOfBounds length index =>
    s!"index out of bounds: the len is {length} but the index is {index}"
  | shutdownFailed violation => "shutdown sweep failed: " ++ violation.message
  | refusedRetirement name => "dispose of " ++ name ++ " panicked"
  | workerPanicked => "a scoped thread panicked"
  | unwinding => "unwinding"

end Panic

/-- What a soak run can complain about besides violations. -/
inductive Complaint where
  /-- The sensor has been stopped. -/
  | sensorStopped
  /-- The sensor was never offered the callbacks. -/
  | noCallbacks
  /-- The frame length is no native integer. -/
  | lengthTooLarge
  /-- The allocate callback answered null. -/
  | allocationRefused (length : Nat)
  /-- The frame behind a capture is gone. -/
  | frameReleased
  /-- A window does not lie inside its frame. -/
  | windowOutside (offset length frame : Nat)
  /-- A buffer of the sensor itself was found among the loans. -/
  | foreignOwned
  /-- A frame has no bytes. -/
  | emptyFrame
  /-- A worker ended in a panic. -/
  | workerPanicked
  /-- Captures were left unreleased by the sweep. -/
  | survivors (count : Nat)
  deriving DecidableEq, Repr

namespace Complaint

/-- The text of a complaint. -/
def message : Complaint → String
  | sensorStopped => "sensor stopped"
  | noCallbacks => "allocator hooks not installed"
  | lengthTooLarge => "number too large to fit in target type"
  | allocationRefused length => s!"allocate callback failed for {length} bytes"
  | frameReleased => "capture already released"
  | windowOutside offset length frame =>
    s!"window {offset}+{length} exceeds frame of {frame} bytes"
  | foreignOwned => "sdk-internal buffer resolved as bridge-owned"
  | emptyFrame => "frame size must be non-zero"
  | workerPanicked => "capture worker panicked"
  | survivors count => s!"{count} capture(s) survived forced disposal"

/-- The structural text: a complaint in words is quoted, a failed conversion names its kind. -/
def outline : Complaint → String
  | lengthTooLarge => "TryFromIntError(PosOverflow)"
  | complaint => "\"" ++ complaint.message ++ "\""

end Complaint

/-- How an operation ends without a value. -/
inductive Fault where
  /-- The caller is told of a violation. -/
  | refused (violation : Violation)
  /-- The soak run reports a complaint. -/
  | complained (complaint : Complaint)
  /-- The thread unwinds. -/
  | panicked (panic : Panic)
  /-- The process ends at once. -/
  | aborted
  deriving DecidableEq, Repr

namespace Fault

/-- The name under which a fault is reported. -/
def name : Fault → String
  | refused violation => violation.name
  | complained _ => "Soak"
  | panicked _ => "panic"
  | aborted => "abort"

/-- The text of a fault. -/
def message : Fault → String
  | refused violation => violation.message
  | complained complaint => complaint.message
  | panicked panic => panic.message
  | aborted => "aborted"

end Fault

end MemoryLending
