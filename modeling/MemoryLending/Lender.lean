/-
This file holds a lender: the party that supplies native code with memory and reads what native
code points at. A lender has a reserve of blocks, a book of the loans in native hands together
with the views that are still looking at loaned blocks, the replicas of memory that is not its
own, and the roster of the wrappers to retire at the end. A desk is a lender at work: the
lender, the arena in which fresh blocks are placed, and the journal of what it does. Everything
a lender does is a function from desks to desks.
-/

import MemoryLending.Event
import MemoryLending.Loan
import MemoryLending.Policy
import MemoryLending.Replica
import MemoryLending.Roster

namespace MemoryLending

/-- A supplier of memory to native code. -/
structure Lender where
  policy : Policy
  reserve : Reserve
  loans : LoanBook
  /-- The token of the next loan. -/
  nextToken : Token
  /-- The views that are looking at loaned blocks, one entry for each. -/
  views : List View
  replicas : ReplicaTable
  roster : Roster
  /-- Whether the native callbacks are served by this lender. -/
  serving : Bool
  deriving Repr

namespace Lender

/-- A lender that has lent nothing yet. -/
def ofPolicy (policy : Policy) : Lender :=
  { policy
    reserve := Reserve.empty policy.budget
    loans := LoanBook.empty
    nextToken := Token.first
    views := []
    replicas := ReplicaTable.empty
    roster := Roster.empty
    serving := false }

instance : Inhabited Lender := ⟨ofPolicy Policy.standard⟩

/-- Whether a loan or a view holds a block. -/
def pins (lender : Lender) (id : Nat) : Bool :=
  lender.loans.loans.any (·.block.id == id) || lender.views.any (·.block.id == id)

end Lender

/-- A lender at work. -/
structure Desk where
  arena : Arena
  lender : Lender
  journal : Journal

namespace Desk

/-- Leaves a record. -/
def log (desk : Desk) (event : Event) : Desk :=
  { desk with journal := event :: desk.journal }

/-- Puts another reserve in place. -/
def withReserve (desk : Desk) (reserve : Reserve) : Desk :=
  { desk with lender := { desk.lender with reserve } }

/-- Puts another table of replicas in place. -/
def withReplicas (desk : Desk) (replicas : ReplicaTable) : Desk :=
  { desk with lender := { desk.lender with replicas } }

/-- Takes a block of at least `size` bytes out of the reserve, or places a fresh one of exactly
`size` bytes. A request for no bytes gets the block without bytes and counts for nothing. -/
def procure (desk : Desk) (size : Nat) : Except Fault Block × Desk :=
  if size = 0 then (.ok Block.empty, desk)
  else
    match desk.lender.reserve.request size with
    | (some block, reserve) =>
      (.ok block, (desk.withReserve reserve).log (.reserveHit size block.capacity))
    | (none, reserve) =>
      let desk := (desk.withReserve reserve).log (.reserveMiss size)
      if Word.longestBlock < size then (.error (.panicked .capacityOverflow), desk)
      else
        (.ok (desk.arena.nextBlock size true), { desk with arena := desk.arena.place size })

/-- Gives a block to the reserve. -/
def restore (desk : Desk) (block : Block) : Desk :=
  let (evicted, reserve) := desk.lender.reserve.restore block
  let desk := desk.withReserve reserve
  if evicted = 0 then desk else desk.log (.reserveEvicted evicted)

/-- Gives up everything the reserve keeps. -/
def clearReserve (desk : Desk) : Desk :=
  let (count, reserve) := desk.lender.reserve.clear
  (desk.withReserve reserve).log (.reserveCleared count)

/-- Lets go of a block for good: a pooled one goes back to the reserve. -/
def retireBlock (desk : Desk) (block : Block) : Desk :=
  if block.pooled then desk.restore block else desk

end Desk

end MemoryLending
