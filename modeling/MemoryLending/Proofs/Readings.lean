/-
This file says what an operation of a desk leaves alone. A reading is anything that is told of a
desk: its arena, its book of loans, some of its records. A reading that overlooks what an
operation writes is the same after the operation as before, so that for a reading only those few
operations are left to look into that it does not overlook.
-/

import MemoryLending.Proofs.Desk
import MemoryLending.Proofs.Trade

namespace MemoryLending

/-- Whether a record says that a lease had no reference left to give back. -/
def Event.isLostReturn : Event → Bool
  | leaseReturnFailed _ => true
  | _ => false

/-- Whether a record says that a loan went out. -/
def Event.isGrant : Event → Bool
  | lent .. => true
  | _ => false

/-- Whether a record says what came of a return: it was taken back, let pass or broke the rules. -/
def Event.isReturn : Event → Bool
  | reclaimed .. | unknownReturnIgnored .. | freeUnserved | freeBrokeContract _ => true
  | _ => false

/-- Whether a record says what came of a loan or of a return. -/
def Event.isDeal (event : Event) : Bool := event.isGrant || event.isReturn

theorem Event.isLostReturn_of_deal {event : Event} (deal : event.isDeal = true) :
    event.isLostReturn = false := by
  cases event with
  | leaseReturnFailed violation => cases deal
  | _ => rfl

namespace Desk

/-! ### Readings -/

/-- A reading that tells nothing of the reserve and the views, and of no record but those of
loans, of returns and of lost returns. -/
structure Overlooks {Reading : Type} (read : Desk → Reading) : Prop where
  reserve : ∀ desk reserve, read (desk.withReserve reserve) = read desk
  views : ∀ desk views, read (desk.withViews views) = read desk
  record : ∀ desk event, event.isLostReturn = false → event.isDeal = false →
    read (desk.log event) = read desk

/-- A reading that tells nothing of loans either. -/
structure OverlooksLoans {Reading : Type} (read : Desk → Reading) : Prop
    extends Overlooks read where
  deals : ∀ desk event, event.isDeal = true → read (desk.log event) = read desk
  loans : ∀ desk loans, read (desk.withLoans loans) = read desk
  token : ∀ desk : Desk, read desk.drawToken = read desk

/-- A reading that tells nothing of replicas either. -/
structure OverlooksReplicas {Reading : Type} (read : Desk → Reading) : Prop
    extends Overlooks read where
  replicas : ∀ desk replicas, read (desk.withReplicas replicas) = read desk

/-- A reading that tells nothing of memory either. -/
structure OverlooksArena {Reading : Type} (read : Desk → Reading) : Prop
    extends OverlooksReplicas read where
  arena : ∀ (desk : Desk) (arena : Arena), read { desk with arena } = read desk

variable {Reading : Type} {read : Desk → Reading}

/-! ### Blocks and views -/

section Blocks

variable (overlooks : Overlooks read) (desk : Desk)

include overlooks

theorem Overlooks.restore (block : Block) : read (desk.restore block) = read desk := by
  unfold Desk.restore
  dsimp only
  split
  · exact overlooks.reserve _ _
  · exact (overlooks.record _ _ rfl rfl).trans (overlooks.reserve _ _)

theorem Overlooks.clearReserve : read desk.clearReserve = read desk :=
  (overlooks.record _ _ rfl rfl).trans (overlooks.reserve _ _)

theorem Overlooks.retireBlock (block : Block) : read (desk.retireBlock block) = read desk := by
  unfold Desk.retireBlock
  split
  · exact overlooks.restore desk block
  · rfl

theorem Overlooks.unpin (block : Block) : read (desk.unpin block) = read desk := by
  unfold Desk.unpin
  split
  · rfl
  · exact overlooks.retireBlock desk block

theorem Overlooks.openView (address size : Nat) :
    read (desk.openView address size).2 = read desk := by
  unfold Desk.openView
  split
  · exact overlooks.views _ _
  · rfl

theorem Overlooks.closeView (view : View) : read (desk.closeView view) = read desk := by
  unfold Desk.closeView
  split
  · exact (overlooks.unpin _ _).trans (overlooks.views _ _)
  · rfl

end Blocks

/-! ### Loans -/

section Loans

variable (overlooks : OverlooksLoans read) (desk : Desk)

include overlooks

theorem OverlooksLoans.reclaim (address : Nat) (token : Token) :
    read (desk.reclaim address token).2 = read desk := by
  unfold Desk.reclaim
  split
  · split
    · exact (overlooks.unpin _ _).trans
        ((overlooks.deals _ _ rfl).trans (overlooks.loans _ _))
    · rfl
  · split
    · rfl
    · exact overlooks.deals _ _ rfl

/-- Lending does to such a reading what getting the block does to it. -/
theorem OverlooksLoans.lend (size : Nat) :
    read (desk.lend size).2 = read (desk.blockFor size).2 := by
  unfold Desk.lend
  rcases desk.blockFor size with ⟨fault | block, after⟩
  · rfl
  dsimp only
  cases after.drawToken.lender.loans.enter ⟨after.lender.nextToken, block, size⟩ with
  | ok loans =>
    exact (overlooks.deals _ _ rfl).trans
      ((overlooks.loans after.drawToken _).trans (overlooks.token after))
  | error fault => exact (overlooks.retireBlock _ block).trans (overlooks.token after)

end Loans

/-! ### Letting go of replicas -/

section Replicas

variable (overlooks : OverlooksReplicas read) (desk : Desk)

include overlooks

theorem OverlooksReplicas.unholdReplica (replica : Replica) :
    read (desk.unholdReplica replica) = read desk := by
  unfold Desk.unholdReplica
  split
  · rfl
  · exact (overlooks.retireBlock _ _).trans (overlooks.replicas _ _)

theorem OverlooksReplicas.giveBack (address : Nat) :
    read (desk.giveBack address).2 = read desk := by
  unfold Desk.giveBack
  split
  · rfl
  · dsimp only
    split
    · exact (overlooks.unholdReplica _ _).trans
        ((overlooks.record _ _ rfl rfl).trans (overlooks.replicas _ _))
    · exact overlooks.replicas _ _

theorem OverlooksReplicas.closeHandle (replica : Replica) :
    read (desk.closeHandle replica) = read desk := by
  unfold Desk.closeHandle
  split
  · exact (overlooks.unholdReplica _ _).trans (overlooks.replicas _ _)
  · rfl

/-- A lease that ends loses its return only if there is no reference to give back. -/
theorem OverlooksReplicas.endLease {replica : Replica}
    (lost : replica ∈ desk.lender.replicas.leases →
      desk.lender.replicas.entry? replica.address = none →
        ∀ violation, read (desk.log (.leaseReturnFailed violation)) = read desk) :
    read (desk.endLease replica) = read desk := by
  unfold Desk.endLease
  split
  · rename_i held
    refine (overlooks.unholdReplica _ _).trans ((overlooks.replicas _ _).trans ?_)
    have given := overlooks.giveBack desk replica.address
    cases found : desk.lender.replicas.entry? replica.address with
    | none =>
      rw [giveBack_of_absent found]
      exact lost held found _
    | some entry =>
      by_cases last : entry.references - 1 = 0
      · obtain ⟨aside, returned⟩ := giveBack_of_last found last
        rw [returned] at given ⊢
        exact given
      · rw [giveBack_of_more found last] at given ⊢
        exact given
  · rfl

end Replicas

/-! ### Asking for blocks and replicas -/

section Arena

variable (overlooks : OverlooksArena read) (desk : Desk)

include overlooks

theorem OverlooksArena.procure (size : Nat) : read (desk.procure size).2 = read desk := by
  unfold Desk.procure
  split
  · rfl
  rcases desk.lender.reserve.request size with ⟨_ | block, reserve⟩
  · have missed := (overlooks.record (desk.withReserve reserve) (.reserveMiss size) rfl rfl).trans
      (overlooks.reserve desk reserve)
    dsimp only
    split
    · exact missed
    · exact (overlooks.arena _ _).trans missed
  · exact (overlooks.record _ _ rfl rfl).trans (overlooks.reserve _ _)

theorem OverlooksArena.blockFor (size : Nat) : read (desk.blockFor size).2 = read desk := by
  unfold Desk.blockFor
  split
  · exact overlooks.arena _ _
  · exact overlooks.procure desk size

theorem OverlooksArena.fillReplica (replica : Replica) :
    read (desk.fillReplica replica) = read desk := by
  unfold Desk.fillReplica
  split
  · rfl
  · exact (overlooks.record _ _ rfl rfl).trans
      ((overlooks.replicas _ _).trans (overlooks.arena _ _))

theorem OverlooksArena.reference (address size : Nat) :
    read (desk.reference address size).2 = read desk := by
  have procured := overlooks.procure desk size
  unfold Desk.reference
  split
  · rfl
  split
  · split
    · exact (overlooks.fillReplica _ _).trans (overlooks.replicas _ _)
    · rfl
  · unfold Desk.makeReplica
    generalize desk.procure size = result at procured
    obtain ⟨fault | storage, after⟩ := result
    · exact procured
    · exact (overlooks.fillReplica _ _).trans ((overlooks.record _ _ rfl rfl).trans
        ((overlooks.replicas _ _).trans ((overlooks.arena _ _).trans procured)))

theorem OverlooksArena.share (address size : Nat) :
    read (desk.share address size).2 = read desk := by
  have referenced := overlooks.reference desk address size
  unfold Desk.share
  generalize desk.reference address size = result at referenced
  obtain ⟨fault | replica, after⟩ := result
  · exact referenced
  · exact (overlooks.replicas _ _).trans referenced

theorem OverlooksArena.takeLease (address size : Nat) :
    read (desk.takeLease address size).2 = read desk := by
  have referenced := overlooks.reference desk address size
  unfold Desk.takeLease
  generalize desk.reference address size = result at referenced
  obtain ⟨fault | replica, after⟩ := result
  · exact referenced
  · exact (overlooks.replicas _ _).trans referenced

theorem OverlooksArena.reach (address size : Nat) :
    read (desk.reach address size).2 = read desk := by
  have viewed := overlooks.openView desk address size
  unfold Desk.reach
  split
  · rfl
  generalize desk.openView address size = result at viewed
  obtain ⟨_ | view, opened⟩ := result
  · have leased := overlooks.takeLease opened address size
    dsimp only
    generalize opened.takeLease address size = result at leased
    obtain ⟨fault | replica, after⟩ := result <;> exact leased.trans viewed
  · exact viewed

theorem OverlooksArena.editReplica (replica : Replica) (offset : Nat) (bytes : Bytes) :
    read ((desk.editReplica? replica offset bytes).getD desk) = read desk := by
  unfold Desk.editReplica?
  split
  · exact overlooks.arena _ _
  · rfl

end Arena

end Desk

namespace Trade

/-! ### Deeds -/

variable {Reading : Type} {read : Desk → Reading}

theorem read_whereRead (trade : Trade) (replica : Replica) (work : Desk → Desk)
    (same : read (work trade.desk) = read trade.desk) :
    read (trade.whereRead replica work).desk = read trade.desk := by
  unfold whereRead
  split
  · exact same
  · rfl

theorem read_donate (overlooks : Desk.OverlooksArena read) (trade : Trade) (size : Nat) :
    read (trade.donate size).desk = read trade.desk := by
  unfold donate
  split
  · exact overlooks.restore trade.desk Block.empty
  · split
    · rfl
    · exact (overlooks.restore _ _).trans (overlooks.arena _ _)

/-- What is told of a desk but not of its memory, replicas and blocks changes with a deed only if
the deed lends, takes back or loses a return. -/
theorem read_perform (overlooks : Desk.OverlooksArena read) (trade : Trade) {deed : Deed}
    (lent : ∀ size, deed = .lend size → read (trade.desk.lend size).2 = read trade.desk)
    (reclaimed : ∀ address token, deed = .reclaim address token →
      read (trade.desk.reclaim address token).2 = read trade.desk)
    (ended : ∀ replica, deed = .endLease replica →
      read (trade.desk.endLease replica) = read trade.desk) :
    read (trade.perform deed).2.desk = read trade.desk := by
  cases deed with
  | rent size => exact overlooks.procure trade.desk size
  | handIn block =>
    unfold perform
    dsimp only
    split
    · exact overlooks.restore trade.desk block
    · rfl
  | discard block => rfl
  | donate size => exact trade.read_donate overlooks size
  | clear => exact overlooks.clearReserve trade.desk
  | lend size => exact lent size rfl
  | reclaim address token => exact reclaimed address token rfl
  | openView address size => exact overlooks.openView trade.desk address size
  | closeView view => exact overlooks.closeView trade.desk view
  | share address size => exact overlooks.share trade.desk address size
  | giveBack address => exact overlooks.giveBack trade.desk address
  | takeLease address size => exact overlooks.takeLease trade.desk address size
  | endLease replica => exact ended replica rfl
  | copyHandle replica => exact trade.read_whereRead replica _ (overlooks.replicas _ _)
  | closeHandle replica => exact overlooks.closeHandle trade.desk replica
  | reach address size => exact overlooks.reach trade.desk address size
  | pull replica => exact trade.read_whereRead replica _ (overlooks.arena _ _)
  | push replica => exact trade.read_whereRead replica _ (overlooks.arena _ _)
  | edit replica offset bytes =>
    exact trade.read_whereRead replica _ (overlooks.editReplica _ replica offset bytes)
  | write address bytes => exact overlooks.arena _ _

end Trade

end MemoryLending
