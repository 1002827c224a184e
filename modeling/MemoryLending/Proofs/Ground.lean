/-
This file says what the operations of a desk do to its ground: to the arena and to the table of
replicas. The forms of the operations set the arena and the marks of filled replicas aside; here
they are followed. Most operations leave the ground as it is, a block that is asked for is placed
in the arena if the reserve has none, and only the operations that share replicas touch the
table.
-/

import MemoryLending.Proofs.Moves
import MemoryLending.Proofs.Readings

namespace MemoryLending

namespace Desk

/-- The arena and the table of replicas. -/
def ground (desk : Desk) : Arena × ReplicaTable := (desk.arena, desk.lender.replicas)

theorem overlooks_ground : OverlooksLoans ground where
  reserve _ _ := rfl
  views _ _ := rfl
  record _ _ _ _ := rfl
  deals _ _ _ := rfl
  loans _ _ := rfl
  token _ := rfl

theorem overlooks_table : OverlooksLoans fun desk => desk.lender.replicas where
  reserve _ _ := rfl
  views _ _ := rfl
  record _ _ _ _ := rfl
  deals _ _ _ := rfl
  loans _ _ := rfl
  token _ := rfl

theorem overlooks_arena : OverlooksReplicas arena where
  reserve _ _ := rfl
  views _ _ := rfl
  record _ _ _ _ := rfl
  replicas _ _ := rfl

/-! ### Where a block comes from -/

/-- A block comes out of the reserve, or it is placed in the arena. -/
inductive Supplied (desk : Desk) (size : Nat) : Except Fault Block → Arena → Prop where
  | failed (fault : Fault) (long : Word.longestBlock < size) :
      Supplied desk size (.error fault) desk.arena
  | kept (block : Block) (old : block = Block.empty ∨ block ∈ desk.lender.reserve.kept)
      (room : size ≤ block.capacity) : Supplied desk size (.ok block) desk.arena
  | placed (positive : size ≠ 0) (short : size ≤ Word.longestBlock) :
      Supplied desk size (.ok (desk.arena.nextBlock size true)) (desk.arena.place size)

theorem supplied (desk : Desk) (size : Nat) :
    Supplied desk size (desk.procure size).1 (desk.procure size).2.arena := by
  unfold procure
  by_cases zero : size = 0
  · rw [if_pos zero]
    exact .kept Block.empty (Or.inl rfl) (Nat.le_of_eq zero)
  rw [if_neg zero]
  unfold Reserve.request
  cases taken : Reserve.takeFirst size desk.lender.reserve.kept with
  | some pair =>
    exact .kept pair.1 (Or.inr (Reserve.mem_of_takeFirst taken))
      (Reserve.le_capacity_of_takeFirst taken)
  | none =>
    dsimp only
    by_cases long : Word.longestBlock < size
    · rw [if_pos long]
      exact .failed _ long
    · rw [if_neg long]
      exact .placed zero (Nat.le_of_not_lt long)

/-- A request fails only if no block can be so long. -/
theorem long_of_procure (desk : Desk) {size : Nat} {fault : Fault} {after : Desk}
    (drawn : desk.procure size = (.error fault, after)) : Word.longestBlock < size := by
  have supplied := desk.supplied size
  rw [drawn] at supplied
  generalize (Except.error fault, after).2.arena = arena at supplied
  cases supplied with
  | failed fault long => exact long

theorem replicas_procure (desk : Desk) (size : Nat) :
    (desk.procure size).2.lender.replicas = desk.lender.replicas := by
  unfold procure Reserve.request
  cases Reserve.takeFirst size desk.lender.reserve.kept with
  | some pair => split <;> rfl
  | none =>
    dsimp only
    split
    · rfl
    · split <;> rfl

theorem arena_procure (desk : Desk) (size : Nat) :
    (desk.procure size).2.arena = desk.arena ∨
      (desk.procure size).2.arena = desk.arena.place size := by
  have supplied := desk.supplied size
  generalize (desk.procure size).1 = answer at supplied
  generalize (desk.procure size).2.arena = arena at supplied ⊢
  cases supplied with
  | failed => exact Or.inl rfl
  | kept => exact Or.inl rfl
  | placed => exact Or.inr rfl

theorem replicas_blockFor (desk : Desk) (size : Nat) :
    (desk.blockFor size).2.lender.replicas = desk.lender.replicas := by
  unfold blockFor
  split
  · rfl
  · exact desk.replicas_procure size

theorem arena_blockFor (desk : Desk) (size : Nat) :
    (desk.blockFor size).2.arena = desk.arena ∨
      (desk.blockFor size).2.arena = desk.arena.place (if size = 0 then 1 else size) := by
  unfold blockFor
  by_cases zero : size = 0
  · rw [if_pos zero, if_pos zero]
    exact Or.inr rfl
  · rw [if_neg zero, if_neg zero]
    exact desk.arena_procure size

end Desk

/-! ### Deeds that leave the table as it is -/

/-- Whether a deed has to do with who holds a replica. -/
def Deed.isSharing : Deed → Bool
  | .share .. | .giveBack _ | .takeLease .. | .endLease _ | .copyHandle _ | .closeHandle _
  | .reach .. => true
  | _ => false

namespace Trade

theorem replicas_donate (trade : Trade) (size : Nat) :
    (trade.donate size).replicas = trade.replicas := by
  unfold donate
  split
  · exact Desk.overlooks_table.restore trade.desk Block.empty
  · split
    · rfl
    · exact Desk.overlooks_table.restore _ _

theorem replicas_perform (trade : Trade) {deed : Deed} (other : deed.isSharing = false) :
    (trade.perform deed).2.replicas = trade.replicas := by
  cases deed with
  | rent size => exact trade.desk.replicas_procure size
  | handIn block =>
    unfold perform
    dsimp only
    split
    · exact Desk.overlooks_table.restore trade.desk block
    · rfl
  | discard block => rfl
  | donate size => exact trade.replicas_donate size
  | clear => rfl
  | lend size =>
    exact (Desk.overlooks_table.lend trade.desk size).trans (trade.desk.replicas_blockFor size)
  | reclaim address token => exact Desk.overlooks_table.reclaim trade.desk address token
  | openView address size => exact Desk.overlooks_table.openView trade.desk address size
  | closeView view => exact Desk.overlooks_table.closeView trade.desk view
  | pull replica => exact @read_whereRead _ (·.lender.replicas) trade replica _ rfl
  | push replica => exact @read_whereRead _ (·.lender.replicas) trade replica _ rfl
  | edit replica offset bytes =>
    refine @read_whereRead _ (·.lender.replicas) trade replica _ ?_
    unfold Desk.editReplica?
    split <;> rfl
  | write address bytes => rfl
  | _ => cases other

theorem replicas_take (trade : Trade) {turn : Turn} (other : turn.deed.isSharing = false) :
    (trade.take turn).replicas = trade.replicas :=
  (trade.ready turn.place).replicas_perform other

end Trade

end MemoryLending
