/-
This file lets callers trade with one lender. A trade is the desk of the lender, the blocks that
callers have taken out of the reserve and hold themselves, and the record of what was asked for
and answered. A turn is one deed together with the place that the heap has ready for a fresh
block, should the deed need one; a list of turns is then a run of the lender over a heap that
places blocks wherever it likes. The debts of native code are read off the record alone: what
was lent and not taken back. The book of loans is no part of that reading.
-/

import MemoryLending.Lender.Reach

namespace MemoryLending

/-- One thing that is asked of a lender. -/
inductive Deed where
  /-- A caller takes a block of at least `size` bytes out of the reserve and holds it. -/
  | rent (size : Nat)
  /-- A caller gives a rented block to the reserve. -/
  | handIn (block : Block)
  /-- A caller lets a rented block go and gives it to nobody. -/
  | discard (block : Block)
  /-- A caller gives the reserve a block of `size` bytes that it never lent. -/
  | donate (size : Nat)
  /-- The reserve gives up what it keeps. -/
  | clear
  | lend (size : Nat)
  | reclaim (address : Nat) (token : Token)
  | openView (address size : Nat)
  | closeView (view : View)
  | share (address size : Nat)
  | giveBack (address : Nat)
  | takeLease (address size : Nat)
  | endLease (replica : Replica)
  /-- Somebody who reads a replica takes one more handle of it. -/
  | copyHandle (replica : Replica)
  | closeHandle (replica : Replica)
  /-- What is reached is let go of as the view or the lease it is. -/
  | reach (address size : Nat)
  /-- Somebody who reads a replica takes the foreign contents anew. -/
  | pull (replica : Replica)
  /-- Somebody who reads a replica writes its contents back. -/
  | push (replica : Replica)
  /-- Somebody who reads a replica writes into it. -/
  | edit (replica : Replica) (offset : Nat) (bytes : Bytes)
  /-- Native code writes into memory. -/
  | write (address : Nat) (bytes : Bytes)
  deriving DecidableEq, Repr

namespace Deed

def isLend : Deed → Bool
  | lend _ => true
  | _ => false

/-- The length of the fresh block a deed may need. A loan of no bytes needs a byte. -/
def freshLength : Deed → Nat
  | rent size | donate size | share _ size | takeLease _ size | reach _ size => size
  | lend size => if size = 0 then 1 else size
  | _ => 0

end Deed

/-- What is answered to a deed. -/
inductive Reply where
  | done
  | block (block : Block)
  | loan (address : Nat) (token : Token)
  | view (view : Option View)
  | replica (replica : Replica)
  | reach (reach : Reach)
  | failed (fault : Fault)
  deriving DecidableEq, Repr

/-- The reply that carries an answer or a fault. -/
def Reply.ofAnswer {Answer : Type} (carry : Answer → Reply) : Except Fault Answer → Reply
  | .ok answer => carry answer
  | .error fault => .failed fault

/-- What was asked for and answered, the latest first. -/
abbrev Record := List (Deed × Reply)

/-- What native code was given and has to return. -/
structure Debt where
  base : Nat
  length : Nat
  token : Token
  deriving DecidableEq, Repr

/-- The debt that a loan stands for. -/
def Loan.debt (loan : Loan) : Debt := ⟨loan.base, loan.length, loan.token⟩

namespace Record

/-- A loan makes a debt; taking something back settles the debts with that base and token. -/
def settle : Deed × Reply → List Debt → List Debt
  | (.lend size, .loan address token), debts => ⟨address, size, token⟩ :: debts
  | (.reclaim address token, .done), debts =>
    debts.filter fun debt => !(debt.base == address && debt.token == token)
  | _, debts => debts

/-- The debts not settled yet. -/
def debts (record : Record) : List Debt := record.foldr settle []

/-- Every debt there ever was, settled or not. -/
def granted (record : Record) : List Debt :=
  record.filterMap fun
    | (.lend size, .loan address token) => some ⟨address, size, token⟩
    | _ => none

/-- An address and a token that were lent together and not taken back since. -/
def Owed (record : Record) (address : Nat) (token : Token) : Prop :=
  ∃ later size earlier, record = later ++ (.lend size, .loan address token) :: earlier ∧
    (.reclaim address token, .done) ∉ later

end Record

/-- A deed, and the place the heap has ready for a fresh block. -/
structure Turn where
  deed : Deed
  place : Nat := 0
  deriving DecidableEq, Repr

namespace Turn

/-- The heap places no block past the last address. -/
def Fits (turn : Turn) : Prop :=
  turn.deed.freshLength ≤ Word.longestBlock →
    turn.place + turn.deed.freshLength < Word.limit
  deriving Decidable

/-- How often a loan is asked for. -/
def lendCount (turns : List Turn) : Nat := turns.countP (·.deed.isLend)

end Turn

/-- A desk, the blocks that callers have rented and hold, and the record. -/
structure Trade where
  desk : Desk
  rented : List Block
  record : Record

namespace Trade

/-- The trade in which nothing has been asked for yet. -/
def opened (policy : Policy) (arena : Arena) : Trade :=
  ⟨⟨arena, Lender.ofPolicy policy, []⟩, [], []⟩

/-- Puts another desk in place. -/
def withDesk (trade : Trade) (desk : Desk) : Trade := { trade with desk }

/-- Gives the reserve a block from outside. Nobody has one that no block can be as long as. -/
def donate (trade : Trade) (size : Nat) : Trade :=
  if size = 0 then trade.withDesk (trade.desk.restore Block.empty)
  else if Word.longestBlock < size then trade
  else
    let block := trade.desk.arena.nextBlock size true
    trade.withDesk ({ trade.desk with arena := trade.desk.arena.place size }.restore block)

/-- Whether somebody can read a replica: through a handle, or through a lease. -/
def reads (trade : Trade) (replica : Replica) : Bool :=
  replica ∈ trade.desk.lender.replicas.handles || replica ∈ trade.desk.lender.replicas.leases

/-- Works on a replica that somebody can read. -/
def whereRead (trade : Trade) (replica : Replica) (work : Desk → Desk) : Trade :=
  if trade.reads replica then trade.withDesk (work trade.desk) else trade

/-- Works at the desk, and replies with the answer. -/
def atDesk {Answer : Type} (trade : Trade) (carry : Answer → Reply)
    (work : Except Fault Answer × Desk) : Reply × Trade :=
  (Reply.ofAnswer carry work.1, trade.withDesk work.2)

/-- The rented blocks once a request has been answered. -/
def rentedWith (trade : Trade) : Except Fault Block → List Block
  | .ok block => block :: trade.rented
  | .error _ => trade.rented

/-- Does a deed. Whatever is let go of must be there. -/
def perform (trade : Trade) : Deed → Reply × Trade
  | .rent size =>
    let work := trade.desk.procure size
    (Reply.ofAnswer Reply.block work.1,
      { trade with desk := work.2, rented := trade.rentedWith work.1 })
  | .handIn block =>
    if block ∈ trade.rented then
      (.done,
        { trade with desk := trade.desk.restore block, rented := trade.rented.erase block })
    else (.done, trade)
  | .discard block => (.done, { trade with rented := trade.rented.erase block })
  | .donate size => (.done, trade.donate size)
  | .clear => (.done, trade.withDesk trade.desk.clearReserve)
  | .lend size => trade.atDesk (fun grant => .loan grant.1 grant.2) (trade.desk.lend size)
  | .reclaim address token =>
    let work := trade.desk.reclaim address token
    trade.atDesk (fun _ => .done) (work.1.mapError Fault.refused, work.2)
  | .openView address size =>
    let work := trade.desk.openView address size
    (.view work.1, trade.withDesk work.2)
  | .closeView view => (.done, trade.withDesk (trade.desk.closeView view))
  | .share address size => trade.atDesk Reply.replica (trade.desk.share address size)
  | .giveBack address =>
    let work := trade.desk.giveBack address
    trade.atDesk (fun _ => .done) (work.1.mapError Fault.refused, work.2)
  | .takeLease address size => trade.atDesk Reply.replica (trade.desk.takeLease address size)
  | .endLease replica => (.done, trade.withDesk (trade.desk.endLease replica))
  | .copyHandle replica => (.done, trade.whereRead replica (·.openHandle replica))
  | .closeHandle replica => (.done, trade.withDesk (trade.desk.closeHandle replica))
  | .reach address size => trade.atDesk Reply.reach (trade.desk.reach address size)
  | .pull replica => (.done, trade.whereRead replica (·.pull replica))
  | .push replica => (.done, trade.whereRead replica (·.push replica))
  | .edit replica offset bytes =>
    (.done, trade.whereRead replica fun desk =>
      (desk.editReplica? replica offset bytes).getD desk)
  | .write address bytes =>
    (.done, trade.withDesk { trade.desk with arena := trade.desk.arena.write address bytes })

/-- The trade in which the heap has a place ready. -/
def ready (trade : Trade) (place : Nat) : Trade :=
  trade.withDesk { trade.desk with arena := trade.desk.arena.announce [place] }

/-- Takes a turn: does the deed and records the reply. -/
def take (trade : Trade) (turn : Turn) : Trade :=
  let result := (trade.ready turn.place).perform turn.deed
  { result.2 with record := (turn.deed, result.1) :: trade.record }

/-- Takes one turn after another. -/
def run (trade : Trade) (turns : List Turn) : Trade := turns.foldl take trade

/-- What a turn is answered. -/
def answer (trade : Trade) (turn : Turn) : Reply := ((trade.ready turn.place).perform turn.deed).1

/-- Whether each turn of a run is allowed in the trade that it finds. -/
def Throughout (Allowed : Trade → Turn → Prop) (trade : Trade) : List Turn → Prop
  | [] => True
  | turn :: rest => Allowed trade turn ∧ Throughout Allowed (trade.take turn) rest

/-- A rule that can be checked for a turn can be checked for a run. -/
instance decidableThroughout (Allowed : Trade → Turn → Prop)
    [∀ trade turn, Decidable (Allowed trade turn)] :
    (trade : Trade) → (turns : List Turn) → Decidable (trade.Throughout Allowed turns)
  | _, [] => isTrue trivial
  | trade, turn :: rest =>
    have := decidableThroughout Allowed (trade.take turn) rest
    inferInstanceAs (Decidable (Allowed trade turn ∧ Throughout Allowed (trade.take turn) rest))

/-- How many turns of a run find a trade in which something happens. -/
def times (happens : Trade → Turn → Bool) (trade : Trade) : List Turn → Nat
  | [] => 0
  | turn :: rest => times happens (trade.take turn) rest + if happens trade turn then 1 else 0

theorem run_concat (trade : Trade) (front : List Turn) (turn : Turn) :
    trade.run (front ++ [turn]) = (trade.run front).take turn :=
  List.foldl_append

theorem times_concat (happens : Trade → Turn → Bool) (trade : Trade) (front : List Turn)
    (turn : Turn) :
    trade.times happens (front ++ [turn]) =
      trade.times happens front + if happens (trade.run front) turn then 1 else 0 := by
  induction front generalizing trade with
  | nil => rfl
  | cons first rest inductionHypothesis =>
    show (trade.take first).times happens (rest ++ [turn]) + _ = _
    rw [inductionHypothesis]
    exact Nat.add_right_comm _ _ _

/-- What holds at first and is kept by every allowed turn holds after every run of such turns. -/
theorem throughout_induction {Allowed : Trade → Turn → Prop} {Holds : Trade → Prop}
    {trade : Trade} (start : Holds trade) {turns : List Turn}
    (allowed : trade.Throughout Allowed turns)
    (step : ∀ trade turn, Allowed trade turn → Holds trade → Holds (trade.take turn)) :
    Holds (trade.run turns) := by
  induction turns generalizing trade with
  | nil => exact start
  | cons turn rest inductionHypothesis =>
    exact inductionHypothesis (step trade turn allowed.1 start) allowed.2

/-- What holds at first and is kept by every turn that the heap allows holds after every run. -/
theorem run_induction {Holds : Trade → Prop} {trade : Trade} (start : Holds trade)
    (turns : List Turn) (fits : ∀ turn ∈ turns, turn.Fits)
    (step : ∀ trade turn, turn.Fits → Holds trade → Holds (trade.take turn)) :
    Holds (trade.run turns) := by
  induction turns generalizing trade with
  | nil => exact start
  | cons turn rest inductionHypothesis =>
    exact inductionHypothesis (step trade turn (fits turn List.mem_cons_self) start)
      fun later member => fits later (List.mem_cons_of_mem _ member)

end Trade

end MemoryLending
