/-
This file says which blocks a turn brings back to the reserve. A deed that lets go of a loan, of
a view or of a reference, a handle or a lease of a replica asks the reserve for nothing, and
whatever it brings back was pinned or was storage until then. What comes back with any other deed
was neither: a caller has handed it in, or it was drawn for a loan that does not come about.
-/

import MemoryLending.Proofs.Custody

namespace MemoryLending

/-- Whether a deed lets go of a loan, a view, a reference, a handle or a lease. -/
def Deed.letsGo : Deed → Bool
  | reclaim .. | closeView _ | giveBack _ | endLease _ | closeHandle _ => true
  | _ => false

/-! ### Blocks that come back one by one -/

namespace Traffic

theorem restored_map_restore (blocks : List Block) : restored (blocks.map restore) = blocks := by
  induction blocks with
  | nil => rfl
  | cons block rest inductionHypothesis => exact congrArg (block :: ·) inductionHypothesis

/-- What has lost a holder comes back if nobody else holds it and it is pooled. -/
theorem exists_of_lost (held : Bool) (block : Block) :
    ∃ blocks : List Block, (if held then [] else block.retirement) = blocks.map restore ∧
      ∀ other ∈ blocks, other = block ∧ other.pooled = true := by
  cases held with
  | true => exact ⟨[], rfl, nofun⟩
  | false =>
    unfold Block.retirement
    cases pooled : block.pooled with
    | true => exact ⟨[block], rfl, fun other member => by
        rw [List.mem_singleton.mp member]; exact ⟨rfl, pooled⟩⟩
    | false => exact ⟨[], rfl, nofun⟩

end Traffic

/-- A reserve takes no notice of blocks without bytes. -/
theorem Reserve.passAll_restores (reserve : Reserve) {blocks : List Block}
    (empty : ∀ block ∈ blocks, block.id = 0 → block.capacity = 0) :
    reserve.passAll (blocks.map .restore) =
      reserve.passAll ((blocks.filter (·.id != 0)).map .restore) := by
  induction blocks generalizing reserve with
  | nil => rfl
  | cons block rest inductionHypothesis =>
    have later := fun reserve : Reserve => inductionHypothesis reserve fun other member =>
      empty other (List.mem_cons_of_mem block member)
    by_cases real : block.id = 0
    · have same : reserve.pass (.restore block) = reserve :=
        reserve.restore_of_empty (empty block List.mem_cons_self real)
      have passed : reserve.passAll ((block :: rest).map .restore) =
          (reserve.pass (.restore block)).passAll (rest.map .restore) := rfl
      rw [passed, same, List.filter_cons_of_neg (by simp [real]), later]
    · rw [List.filter_cons_of_pos (by simp [real])]
      exact later (reserve.pass (.restore block))

namespace Trade

/-! ### Who lets go -/

/-- Blocks that come back, each of them pooled, and pinned or storage before. -/
def Stowed (trade : Trade) (traffic : List Traffic) : Prop :=
  ∃ blocks : List Block, traffic = blocks.map .restore ∧ ∀ block ∈ blocks, block.pooled = true ∧
    ∃ place, (place = .pinned ∨ place = .backing) ∧ trade.Stores place block

theorem stowed_nil (trade : Trade) : trade.Stowed [] := ⟨[], rfl, nofun⟩

theorem Stowed.append {trade : Trade} {first second : List Traffic}
    (before : trade.Stowed first) (later : trade.Stowed second) :
    trade.Stowed (first ++ second) := by
  obtain ⟨blocks, rfl, stowed⟩ := before
  obtain ⟨blocks', rfl, stowed'⟩ := later
  exact ⟨blocks ++ blocks', (List.map_append ..).symm,
    List.forall_mem_append.mpr ⟨stowed, stowed'⟩⟩

theorem stowed_unpinning {trade : Trade} (desk : Desk) {block : Block}
    (pinned : trade.Stores .pinned block) : trade.Stowed (desk.unpinning block) := by
  obtain ⟨blocks, lost, back⟩ := Traffic.exists_of_lost (desk.lender.pins block.id) block
  exact ⟨blocks, lost, fun other member =>
    ⟨(back other member).2, .pinned, Or.inl rfl, (back other member).1 ▸ pinned⟩⟩

theorem stowed_unholding {trade : Trade} (desk : Desk) {replica : Replica}
    (has : trade.replicas.Has replica) : trade.Stowed (desk.unholding replica) := by
  obtain ⟨blocks, lost, back⟩ :=
    Traffic.exists_of_lost (desk.lender.replicas.holds replica.id) replica.storage
  exact ⟨blocks, lost, fun other member =>
    ⟨(back other member).2, .backing, Or.inr rfl, replica, has, (back other member).1.symm⟩⟩

theorem stowed_backFromGiving (trade : Trade) (address : Nat) :
    trade.Stowed (trade.desk.backFromGiving address) := by
  unfold Desk.backFromGiving
  cases found : trade.desk.lender.replicas.entry? address with
  | none => exact trade.stowed_nil
  | some entry =>
    dsimp only
    split
    · exact stowed_unholding _ (ReplicaTable.has_of_found found)
    · exact trade.stowed_nil

/-- What a deed that lets go brings back was pinned or was storage. -/
theorem stowed_back (trade : Trade) {turn : Turn} (letsGo : turn.deed.letsGo = true) :
    trade.Stowed (trade.back turn) := by
  obtain ⟨deed, place⟩ := turn
  cases deed with
  | reclaim address token =>
    show trade.Stowed (Desk.backFromReclaim _ address token)
    unfold Desk.backFromReclaim
    cases found : (trade.ready place).desk.lender.loans.at? address with
    | none => exact trade.stowed_nil
    | some loan =>
      have member : loan ∈ trade.loans := trade.desk.lender.loans.mem_of_at? found
      dsimp only
      split
      · exact stowed_unpinning _ (Or.inl ⟨loan, member, rfl⟩)
      · exact trade.stowed_nil
  | closeView view =>
    show trade.Stowed (Desk.backFromView _ view)
    unfold Desk.backFromView
    split
    · rename_i opened
      exact stowed_unpinning _ (Or.inr ⟨view, opened, rfl⟩)
    · exact trade.stowed_nil
  | giveBack address => exact (trade.ready place).stowed_backFromGiving address
  | endLease replica =>
    show trade.Stowed (Desk.backFromLease _ replica)
    unfold Desk.backFromLease
    split
    · rename_i leased
      exact ((trade.ready place).stowed_backFromGiving replica.address).append
        (stowed_unholding _ (Or.inr (Or.inr leased)))
    · exact trade.stowed_nil
  | closeHandle replica =>
    show trade.Stowed (Desk.backFromHandle _ replica)
    unfold Desk.backFromHandle
    split
    · rename_i handled
      exact stowed_unholding _ (Or.inr (Or.inl handled))
    · exact trade.stowed_nil
  | _ => cases letsGo

theorem asked_of_letsGo (trade : Trade) {turn : Turn} (letsGo : turn.deed.letsGo = true) :
    trade.asked turn = [] := by
  obtain ⟨deed, place⟩ := turn
  cases deed with
  | reclaim | closeView | giveBack | endLease | closeHandle => rfl
  | _ => cases letsGo

/-- A request brings nothing back. -/
theorem restored_asked (trade : Trade) (turn : Turn) :
    Traffic.restored (trade.asked turn) = [] := by
  have requested (size : Nat) : Traffic.restored (Traffic.asking size) = [] := by
    unfold Traffic.asking
    split <;> rfl
  have referenced (desk : Desk) (address size : Nat) :
      Traffic.restored (desk.askingReference address size) = [] := by
    unfold Desk.askingReference
    split
    · rfl
    · exact requested size
  unfold asked
  cases turn.deed with
  | rent size | lend size => exact requested size
  | share address size | takeLease address size => exact referenced _ address size
  | reach address size =>
    dsimp only
    split
    · rfl
    · exact referenced _ address size
  | _ => rfl

/-! ### What else comes back -/

/-- A block that is not pinned and is no storage: it is kept, or in hands, or nowhere yet, or has
no bytes. -/
def Loose (trade : Trade) (block : Block) : Prop :=
  block.id = 0 ∨ trade.Stores .kept block ∨ trade.Stores .rented block ∨ trade.issued < block.id

theorem loose_of_procure {trade : Trade} {size : Nat} {block : Block} {after : Desk}
    (drawn : trade.desk.procure size = (.ok block, after)) : trade.Loose block := by
  have outcome := trade.desk.procured size
  rw [drawn] at outcome
  cases outcome with
  | nothing zero => exact Or.inl rfl
  | kept _ rest aside positive taken => exact Or.inr (Or.inl (Reserve.mem_of_takeFirst taken))
  | fresh => exact Or.inr (Or.inr (Or.inr (Nat.lt_succ_self _)))

theorem loose_of_lending {trade : Trade} {size : Nat} {block : Block}
    (back : block ∈ Traffic.restored (trade.desk.backFromLending size)) : trade.Loose block := by
  unfold Desk.backFromLending at back
  rcases drawn : trade.desk.blockFor size with ⟨fault | drawnBlock, after⟩ <;> rw [drawn] at back
  · cases back
  dsimp only at back
  obtain ⟨rfl, pooled⟩ := Traffic.restored_of_lost back
  unfold Desk.blockFor at drawn
  split at drawn
  · -- the byte for a loan of no bytes is not pooled
    cases drawn
    cases pooled
  · exact loose_of_procure drawn

/-- What any other deed brings back was neither pinned nor storage. -/
theorem loose_of_back {trade : Trade} {turn : Turn} (other : turn.deed.letsGo = false)
    {block : Block} (back : block ∈ Traffic.restored (trade.back turn)) : trade.Loose block := by
  obtain ⟨deed, place⟩ := turn
  cases deed with
  | handIn handed =>
    change block ∈ Traffic.restored (if handed ∈ trade.rented then [.restore handed] else []) at back
    split at back
    · rename_i held
      exact Or.inr (Or.inr (Or.inl (List.mem_singleton.mp back ▸ held)))
    · cases back
  | donate size =>
    change block ∈ Traffic.restored (if size = 0 then [.restore Block.empty]
      else if Word.longestBlock < size then []
      else [.restore ((trade.ready place).desk.arena.nextBlock size true)]) at back
    split at back
    · exact Or.inl (List.mem_singleton.mp back ▸ rfl)
    · split at back
      · cases back
      · refine Or.inr (Or.inr (Or.inr ?_))
        rw [List.mem_singleton.mp back]
        exact Nat.lt_succ_self _
  | lend size => exact @loose_of_lending (trade.ready place) size block back
  | reclaim | closeView | giveBack | endLease | closeHandle => cases other
  | _ => cases back

/-- What is loose is not pinned and is no storage. -/
theorem Custody.loose_apart {trade : Trade} (custody : trade.Custody) {loose block : Block}
    (free : trade.Loose loose) (real : block.id ≠ 0) {place : Place}
    (shelter : place = .pinned ∨ place = .backing) (stored : trade.Stores place block) :
    loose.id ≠ block.id := by
  intro same
  have single := custody.single block.id real
  have out : 0 < (trade.desk.lender.pins block.id).toNat +
      (trade.replicas.backs block.id).toNat := by
    rcases shelter with rfl | rfl
    · rw [Lender.pins_iff.mpr ⟨block, stored, rfl⟩]
      exact Nat.lt_of_lt_of_le Nat.one_pos (Nat.le_add_right 1 _)
    · rw [backs_iff.mpr ⟨block, stored, rfl⟩]
      exact Nat.lt_of_lt_of_le Nat.one_pos (Nat.le_add_left 1 _)
  unfold stock Trade.out at single
  rcases free with none | kept | rented | later
  · exact real (same ▸ none)
  · have copies : 0 < Block.copies block.id trade.kept := Block.copies_pos.mpr ⟨loose, kept, same⟩
    omega
  · have copies : 0 < Block.copies block.id trade.rented :=
      Block.copies_pos.mpr ⟨loose, rented, same⟩
    omega
  · have issued := custody.named.issued block ⟨place, stored⟩
    omega

end Trade

end MemoryLending
