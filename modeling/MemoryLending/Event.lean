/-
This file holds the records a run leaves behind. Every record is a value, so that a statement
about the log is a statement about a list of events; the line an operator reads is a function
of the event. A record has a level, and a reader chooses the least severe level to be shown.
The lines about wrappers have no level and are always shown.
-/

import MemoryLending.Violation
import MemoryLending.Token

namespace MemoryLending

/-- How severe a record is. -/
inductive Level where
  | error
  | warn
  | info
  | debug
  | trace
  deriving DecidableEq, Repr

namespace Level

/-- Zero for the most severe level. -/
def rank : Level → Nat
  | error => 0
  | warn => 1
  | info => 2
  | debug => 3
  | trace => 4

/-- The word a line begins with. -/
def word : Level → String
  | error => "ERROR"
  | warn => "WARN"
  | info => "INFO"
  | debug => "DEBUG"
  | trace => "TRACE"

/-- The level with a word in lower case. -/
def ofWord? : String → Option Level
  | "error" => some error
  | "warn" => some warn
  | "info" => some info
  | "debug" => some debug
  | "trace" => some trace
  | _ => none

end Level

/-- One record. -/
inductive Event where
  /-- A wrapper releases what it holds. -/
  | wrapperRetired (name : String)
  /-- The last holder of a wrapper is gone. -/
  | wrapperDropped (name : String)
  /-- A retiring wrapper could not give its loan back. -/
  | wrapperFreeFailed (violation : Violation)
  /-- A request was met by a kept block. -/
  | reserveHit (requested length : Nat)
  /-- A request needs a fresh block. -/
  | reserveMiss (length : Nat)
  /-- Old blocks were given up to stay within the budget. -/
  | reserveEvicted (count : Nat)
  /-- All kept blocks were given up. -/
  | reserveCleared (count : Nat)
  /-- A block went out on loan. -/
  | lent (address size : Nat) (token : Token)
  /-- A loan came back. -/
  | reclaimed (address size : Nat) (token : Token)
  /-- A return of something that is not on loan was let pass. -/
  | unknownReturnIgnored (address : Nat) (token : Token)
  /-- A replica of foreign memory was made. -/
  | replicaCreated (address size : Nat)
  /-- A replica took the foreign contents. -/
  | replicaFilled (address size : Nat)
  /-- The last reference to a replica was given back. -/
  | replicaReleased (address : Nat)
  /-- A lease found no replica to give its reference back to. -/
  | leaseReturnFailed (violation : Violation)
  /-- The host accepted the callbacks. -/
  | callbacksInstalled
  /-- Loans are left after a sweep. -/
  | loansOutlived (count bytes : Nat)
  /-- Replicas are left after a sweep. -/
  | replicasRemain (count : Nat)
  /-- A sweep has ended. -/
  | sweepComplete (retired pruned : Nat)
  /-- A sweep failed while its thread was unwinding. -/
  | sweepFailedUnwinding (violation : Violation)
  /-- The native layer asked for memory and no lender serves it. -/
  | allocateUnserved
  /-- The native layer asked for a negative number of bytes. -/
  | allocateNegative (size : Int)
  /-- The native layer left no place for the token. -/
  | allocateWithoutContext (size : Nat)
  /-- The lender could not lend. -/
  | allocateFailed (violation : Violation) (size : Nat)
  /-- The native layer returned memory and no lender serves it. -/
  | freeUnserved
  /-- The native layer returned what it did not have. -/
  | freeBrokeContract (violation : Violation)
  /-- The sweep at the end of the process failed. -/
  | exitSweepFailed (violation : Violation)
  /-- The sensor was stopped. -/
  | sensorStopped
  /-- A worker has taken all its frames. -/
  | workerFinished (worker : Nat) (checksum : UInt64) (kept : Nat)
  /-- A frame was read through a replica. -/
  | frameNotOwned (address : Nat)
  /-- A soak run begins. -/
  | soakStarted (threads iterations frameLength : Nat)
  /-- All workers of a soak run have ended. -/
  | capturesComplete (outstanding tracked replicas : Nat)
  deriving DecidableEq, Repr

namespace Event

/-- The level of a record; the lines about wrappers have none. -/
def level : Event → Option Level
  | wrapperRetired _ | wrapperDropped _ | wrapperFreeFailed _ => none
  | reserveHit .. | replicaFilled .. => some .trace
  | reserveMiss _ | reserveEvicted _ | reserveCleared _ | lent .. | reclaimed ..
  | replicaCreated .. | replicaReleased _ | sensorStopped | workerFinished .. => some .debug
  | callbacksInstalled | sweepComplete .. | soakStarted .. | capturesComplete .. => some .info
  | unknownReturnIgnored .. | replicasRemain _ | frameNotOwned _ => some .warn
  | leaseReturnFailed _ | loansOutlived .. | sweepFailedUnwinding _ | allocateUnserved
  | allocateNegative _ | allocateWithoutContext _ | allocateFailed .. | freeUnserved
  | freeBrokeContract _ | exitSweepFailed _ => some .error

/-- What a record says, after its level. -/
def message : Event → String
  | wrapperRetired name => "dispose " ++ name
  | wrapperDropped name => "drop " ++ name
  | wrapperFreeFailed violation => "free failed: " ++ violation.message
  | reserveHit requested length => s!"pool hit requested={requested} len={length}"
  | reserveMiss length => s!"pool miss, allocating len={length}"
  | reserveEvicted count => s!"pool over budget, evicted buffers count={count}"
  | reserveCleared count => s!"pool trimmed count={count}"
  | lent address size token =>
    "allocate address=" ++ Word.hex address ++ s!" size={size} token=" ++ token.text
  | reclaimed address size token =>
    "free address=" ++ Word.hex address ++ s!" size={size} token=" ++ token.text
  | unknownReturnIgnored address token =>
    "ignoring free of untracked address address=" ++ Word.hex address ++ " token=" ++ token.text
  | replicaCreated address size => "shadow created address=" ++ Word.hex address ++ s!" size={size}"
  | replicaFilled address size =>
    "shadow populated address=" ++ Word.hex address ++ s!" size={size}"
  | replicaReleased address => "shadow released address=" ++ Word.hex address
  | leaseReturnFailed violation => "shadow lease release failed: " ++ violation.message
  | callbacksInstalled => "sensor allocator hooks installed"
  | loansOutlived count bytes =>
    s!"native allocations outlived every wrapper outstanding={count} bytes={bytes}"
  | replicasRemain count =>
    s!"shadow buffers still referenced after forced disposal entries={count}"
  | sweepComplete retired pruned =>
    s!"forced disposal complete disposed={retired} pruned={pruned}"
  | sweepFailedUnwinding violation =>
    "shutdown sweep failed during unwind: " ++ violation.message
  | allocateUnserved => "allocate callback invoked with no bridge installed"
  | allocateNegative size => (Violation.invalidSize size).message
  | allocateWithoutContext size =>
    s!"sdk supplied no context slot, refusing allocation size={size}"
  | allocateFailed violation size =>
    "native allocation failed: " ++ violation.message ++ s!" size={size}"
  | freeUnserved => "free callback invoked with no bridge installed"
  | freeBrokeContract violation =>
    "native free broke the allocator contract: " ++ violation.message
  | exitSweepFailed violation => "exit-time disposal failed: " ++ violation.message
  | sensorStopped => "simulated sensor stopped"
  | workerFinished worker checksum kept =>
    s!"worker finished worker={worker} checksum={checksum.toNat} kept={kept}"
  | frameNotOwned address => s!"frame buffer was not bridge-owned address={address}"
  | soakStarted threads iterations frameLength =>
    s!"starting soak threads={threads} iterations={iterations} frame_bytes={frameLength}"
  | capturesComplete outstanding tracked replicas =>
    s!"captures complete outstanding={outstanding} tracked={tracked} shadows={replicas}"

/-- The line of a record: its level, if it has one, and what it says. -/
def line (event : Event) : String :=
  match event.level with
  | some level => level.word ++ " " ++ event.message
  | none => event.message

/-- Whether a record is shown to a reader who wants everything down to `least`. -/
def shownAt (least : Level) (event : Event) : Bool :=
  match event.level with
  | some level => level.rank ≤ least.rank
  | none => true

end Event

/-- The records of a run, the latest first. -/
abbrev Journal := List Event

/-- The lines of a journal in the order of the run, as far as they are shown at a level. -/
def Journal.lines (journal : Journal) (least : Level) : List String :=
  (journal.reverse.filter (Event.shownAt least)).map Event.line

end MemoryLending
