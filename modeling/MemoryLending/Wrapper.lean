/-
This file says what a wrapper is: an object of the program that stands for a native resource. A
wrapper lives as long as somebody holds it. It can be told to retire, which releases the
resource; the release flag makes that happen once. The duty of a wrapper says what it holds and
how it retires. Some wrappers retire by themselves when their last holder is gone, and those
also withdraw from the roster when they retire. A wrapper of somebody else's kind makes the calls it
has been given, in their order, and it may withdraw or stay.
-/

import MemoryLending.ReleaseFlag
import MemoryLending.Replica
import MemoryLending.Roster
import MemoryLending.Token

namespace MemoryLending

/-- A frame in native hands: its address, the token that came with it, and its length. -/
structure Frame where
  address : Nat
  context : Token
  length : Nat
  deriving DecidableEq, Repr

/-- A call that a wrapper makes when it retires. -/
inductive Chore where
  /-- Gives a loan back to a lender. -/
  | returnLoan (lender address : Nat) (token : Token)
  /-- Withdraws from the roster of a lender. -/
  | withdraw (lender : Nat)
  deriving DecidableEq, Repr

/-- What a wrapper holds and how it retires. -/
inductive Duty where
  /-- Holds nothing. -/
  | plain
  /-- Holds nothing, and retires by itself. -/
  | automatic
  /-- Holds a loan and gives it back; retires by itself. -/
  | loan (address : Nat) (token : Token)
  /-- Holds a lease and ends it; retires by itself. -/
  | lease (held : Option Replica)
  /-- Holds another wrapper, retires that one and lets go of it. -/
  | parent (child : Option WrapperId)
  /-- Holds another wrapper and lets go of it. -/
  | owner (child : Option WrapperId)
  /-- Makes, enrols and holds a plain wrapper on retirement. -/
  | spawner (spawned : Option WrapperId)
  /-- Holds a captured frame and hands it back to its sensor; retires by itself, unannounced. -/
  | capture (sensor : Nat) (frame : Option Frame)
  /-- Stands for a sensor session and stops the sensor, unannounced. -/
  | session (sensor : Nat)
  /-- Panics on retirement. -/
  | faulty
  /-- Makes these calls, one after another. -/
  | chores (todo : List Chore)
  deriving DecidableEq, Repr

namespace Duty

/-- Whether the wrapper retires when its last holder is gone, and withdraws when it retires. -/
def selfRetiring : Duty → Bool
  | automatic | loan .. | lease _ | capture .. => true
  | plain | parent _ | owner _ | spawner _ | session _ | faulty | chores _ => false

/-- Whether retirement and the end of the wrapper are recorded. -/
def announced : Duty → Bool
  | capture .. | session _ => false
  | _ => true

/-- The wrapper that is held. -/
def child? : Duty → Option WrapperId
  | parent child | owner child | spawner child => child
  | _ => none

end Duty

/-- An object of the program that stands for a native resource. -/
structure Wrapper where
  name : String
  /-- The lender the wrapper works with. -/
  lender : Nat
  duty : Duty
  flag : ReleaseFlag
  /-- How many slots, wrappers and sweeps hold this wrapper. -/
  holders : Nat
  deriving DecidableEq, Repr

namespace Wrapper

/-- Whether somebody holds the wrapper. -/
def alive (wrapper : Wrapper) : Bool := wrapper.holders != 0

end Wrapper

end MemoryLending
