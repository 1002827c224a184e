/-
This file shows that nothing is read or written past the end of a block. A view is opened on a
range of a live loan and a replica is given storage of its length or more, and neither is looked
into again: whatever happens to the loan, the reserve and the table afterwards, the view shows a
slice of its own block and the replica the front of its own storage. What a view relies on is
therefore said of the loan it was opened on, which may have been returned long ago, and that loan
is found in the record of what was granted.
-/

import MemoryLending.Proofs.Answers
import MemoryLending.Proofs.Copies

namespace MemoryLending

/-- A range that lies in a loan ends inside it, wherever the loan itself ends. -/
theorem Loan.inside_of_offset? {loan : Loan} {address size offset : Nat}
    (inside : loan.offset? address size = some offset) : offset + size ≤ loan.length := by
  unfold offset? at inside
  split at inside
  · cases inside
  · dsimp only at inside
    split at inside
    · cases inside
    · split at inside
      · rename_i finish sum
        split at inside
        · rename_i ends
          rw [← Option.some.inj inside, (Word.add?_eq_some_iff.mp sum).1]
          exact ends
        · cases inside
      · cases inside

/-- A view of part of what was granted, on a block with room for all of it. -/
structure View.IsPartOf (view : View) (debt : Debt) : Prop where
  base : view.base = debt.base
  token : view.token = debt.token
  inside : view.offset + view.length ≤ debt.length
  room : debt.length ≤ view.block.capacity

theorem View.IsPartOf.le_capacity {view : View} {debt : Debt} (part : view.IsPartOf debt) :
    view.offset + view.length ≤ view.block.capacity :=
  Nat.le_trans part.inside part.room

/-- What is seen at an address is part of a live loan. -/
theorem Lender.part_of_seen {lender : Lender} {address size : Nat} {view : View}
    (long : ∀ loan ∈ lender.loans.toList, loan.length ≤ loan.block.capacity)
    (seen : lender.seen address size = some view) :
    ∃ loan ∈ lender.loans.toList, view.IsPartOf loan.debt := by
  obtain ⟨⟨loan, offset⟩, found, rfl⟩ := Option.map_eq_some_iff.mp seen
  obtain ⟨member, inside⟩ := lender.loans.mem_of_find? found
  exact ⟨loan, member, rfl, rfl, Loan.inside_of_offset? inside, long loan member⟩

/-! ### Operations and views -/

namespace Desk

theorem views_procure (desk : Desk) (size : Nat) :
    (desk.procure size).2.lender.views = desk.lender.views := by
  rw [lender_procure]

theorem views_restore (desk : Desk) (block : Block) :
    (desk.restore block).lender.views = desk.lender.views := by
  obtain ⟨aside, restored⟩ := desk.restore_eq block
  rw [restored]
  rfl

theorem views_reclaim (desk : Desk) (address : Nat) (token : Token) :
    (desk.reclaim address token).2.lender.views = desk.lender.views := by
  cases found : desk.lender.loans.at? address with
  | some loan =>
    by_cases same : loan.token = token
    · obtain ⟨aside, reclaimed⟩ := reclaim_of_match found same
      rw [reclaimed]
      rfl
    · rw [reclaim_of_mismatch found same]
  | none =>
    rw [reclaim_of_absent found]
    cases desk.lender.policy.unknownReturn <;> rfl

theorem views_closeView_subset (desk : Desk) (view : View) :
    (desk.closeView view).lender.views ⊆ desk.lender.views := by
  by_cases opened : view ∈ desk.lender.views
  · obtain ⟨aside, closed⟩ := closeView_of_mem opened
    rw [closed]
    exact List.erase_subset
  · unfold closeView
    rw [if_neg opened]
    exact List.Subset.refl _

theorem views_reference (desk : Desk) (address size : Nat) :
    (desk.reference address size).2.lender.views = desk.lender.views := by
  have drawn := desk.views_procure size
  have outcome := desk.referencing address size
  generalize desk.reference address size = result at outcome
  cases outcome with
  | refused violation => rfl
  | counted entry aside found same => rfl
  | failed fault after missing procured =>
    rw [procured] at drawn
    exact drawn
  | made storage after aside missing procured =>
    rw [procured] at drawn
    exact drawn

theorem views_share (desk : Desk) (address size : Nat) :
    (desk.share address size).2.lender.views = desk.lender.views := by
  have referenced := desk.views_reference address size
  unfold share
  generalize desk.reference address size = result at referenced
  obtain ⟨fault | replica, after⟩ := result <;> exact referenced

theorem views_takeLease (desk : Desk) (address size : Nat) :
    (desk.takeLease address size).2.lender.views = desk.lender.views := by
  have referenced := desk.views_reference address size
  unfold takeLease
  generalize desk.reference address size = result at referenced
  obtain ⟨fault | replica, after⟩ := result <;> exact referenced

theorem views_giveBack (desk : Desk) (address : Nat) :
    (desk.giveBack address).2.lender.views = desk.lender.views := by
  cases found : desk.lender.replicas.entry? address with
  | none => rw [giveBack_of_absent found]
  | some entry =>
    by_cases last : entry.references - 1 = 0
    · obtain ⟨aside, given⟩ := giveBack_of_last found last
      rw [given]
      rfl
    · rw [giveBack_of_more found last]
      rfl

theorem views_endLease (desk : Desk) (replica : Replica) :
    (desk.endLease replica).lender.views = desk.lender.views := by
  by_cases held : replica ∈ desk.lender.replicas.leases
  · obtain ⟨aside, aside', ended⟩ := endLease_of_mem held
    rw [ended]
    exact desk.views_giveBack replica.address
  · unfold endLease
    rw [if_neg held]

theorem views_closeHandle (desk : Desk) (replica : Replica) :
    (desk.closeHandle replica).lender.views = desk.lender.views := by
  by_cases held : replica ∈ desk.lender.replicas.handles
  · obtain ⟨aside, closed⟩ := closeHandle_of_mem held
    rw [closed]
    rfl
  · unfold closeHandle
    rw [if_neg held]

theorem views_openView (desk : Desk) (address size : Nat) :
    (desk.openView address size).2.lender.views =
      (desk.lender.seen address size).toList ++ desk.lender.views := by
  rw [openView_eq]
  rfl

/-- Reaching opens a view or takes a lease, which opens none. -/
theorem views_reach_subset (desk : Desk) (address size : Nat) :
    (desk.reach address size).2.lender.views ⊆
      (desk.lender.seen address size).toList ++ desk.lender.views := by
  have opened := desk.views_openView address size
  unfold reach
  split
  · exact List.subset_append_right _ _
  generalize desk.openView address size = result at opened
  obtain ⟨_ | view, after⟩ := result
  · have leased := after.views_takeLease address size
    dsimp only at opened ⊢
    generalize after.takeLease address size = result at leased
    obtain ⟨fault | replica, final⟩ := result <;>
      exact (leased.trans opened) ▸ List.Subset.refl _
  · exact opened ▸ List.Subset.refl _

end Desk

namespace Trade

/-! ### Views of a trade -/

theorem views_whereRead (trade : Trade) (replica : Replica) (work : Desk → Desk)
    (same : (work trade.desk).lender.views = trade.views) :
    (trade.whereRead replica work).views = trade.views := by
  unfold whereRead
  split
  · exact same
  · rfl

theorem views_donate (trade : Trade) (size : Nat) : (trade.donate size).views = trade.views := by
  unfold donate
  split
  · exact trade.desk.views_restore Block.empty
  · split
    · rfl
    · exact Desk.views_restore _ _

/-- A view that is open after a turn was open before, or was seen at the address it was asked
for. -/
theorem views_take (trade : Trade) (turn : Turn) {view : View}
    (member : view ∈ (trade.take turn).views) :
    view ∈ trade.views ∨ ∃ address size, trade.desk.lender.seen address size = some view := by
  obtain ⟨deed, place⟩ := turn
  have kept : (trade.take ⟨deed, place⟩).views = trade.views →
      view ∈ trade.views ∨ ∃ address size, trade.desk.lender.seen address size = some view :=
    fun same => Or.inl (same ▸ member)
  have looked : ∀ address size,
      view ∈ (trade.desk.lender.seen address size).toList ++ trade.views →
      view ∈ trade.views ∨ ∃ address size, trade.desk.lender.seen address size = some view := by
    intro address size more
    rcases List.mem_append.mp more with new | old
    · exact Or.inr ⟨address, size, Option.mem_toList.mp new⟩
    · exact Or.inl old
  let desk := (trade.ready place).desk
  cases deed with
  | rent size => exact kept (desk.views_procure size)
  | handIn block =>
    refine kept ?_
    show ((trade.ready place).perform (.handIn block)).2.views = _
    unfold perform
    dsimp only
    split
    · exact desk.views_restore block
    · rfl
  | donate size => exact kept ((trade.ready place).views_donate size)
  | lend size => exact kept (trade.views_lend size place)
  | reclaim address token => exact kept (desk.views_reclaim address token)
  | openView address size =>
    exact looked address size (desk.views_openView address size ▸ member)
  | closeView closing => exact Or.inl (desk.views_closeView_subset closing member)
  | share address size => exact kept (desk.views_share address size)
  | giveBack address => exact kept (desk.views_giveBack address)
  | takeLease address size => exact kept (desk.views_takeLease address size)
  | endLease replica => exact kept (desk.views_endLease replica)
  | closeHandle replica => exact kept (desk.views_closeHandle replica)
  | reach address size => exact looked address size (desk.views_reach_subset address size member)
  | copyHandle replica | pull replica | push replica =>
    exact kept ((trade.ready place).views_whereRead replica _ rfl)
  | edit replica offset bytes =>
    refine kept ((trade.ready place).views_whereRead replica _ ?_)
    unfold Desk.editReplica?
    split <;> rfl
  | discard | clear | write => exact kept rfl

/-! ### The invariant -/

/-- Loans have room in their blocks and are on record, and so is what the views look at. -/
structure Bounded (trade : Trade) : Prop where
  room : ∀ loan ∈ trade.loans, loan.length ≤ loan.block.capacity
  granted : ∀ loan ∈ trade.loans, loan.debt ∈ trade.record.granted
  views : ∀ view ∈ trade.views, ∃ debt ∈ trade.record.granted, view.IsPartOf debt

theorem bounded_opened (policy : Policy) (arena : Arena) : (opened policy arena).Bounded :=
  ⟨nofun, nofun, nofun⟩

theorem granted_take_subset (trade : Trade) (turn : Turn) :
    trade.record.granted ⊆ (trade.take turn).record.granted := by
  show _ ⊆ Record.granted (_ :: trade.record)
  rw [Record.granted_cons]
  exact List.subset_append_right _ _

/-- A loan after a turn was there before, or has just been granted and has room in its block. -/
theorem loans_take (trade : Trade) (turn : Turn) {loan : Loan}
    (member : loan ∈ (trade.take turn).loans) :
    loan ∈ trade.loans ∨
      loan.length ≤ loan.block.capacity ∧ loan.debt ∈ (trade.take turn).record.granted := by
  by_cases lends : turn.deed.isLend = true
  · obtain ⟨deed, place⟩ := turn
    cases deed with
    | lend size =>
      have lent := (trade.ready place).desk.lent size
      rw [take_lend_eq] at member ⊢
      generalize (trade.ready place).desk.lend size = result at lent member
      cases lent with
      | refused fault after loans =>
        have same : after.lender.loans.toList = trade.loans := congrArg LoanBook.toList loans
        exact Or.inl (same ▸ (show loan ∈ after.lender.loans.toList from member))
      | granted block after long accepted =>
        rcases (LoanBook.mem_of_enter accepted).mp member with rfl | older
        · refine Or.inr ⟨long, ?_⟩
          rw [Record.granted_cons]
          exact List.mem_append_left _ (List.mem_singleton.mpr rfl)
        · exact Or.inl older
    | _ => cases lends
  · exact Or.inl ((trade.loans_sublist (Bool.not_eq_true _ ▸ lends)).subset member)

theorem Bounded.take {trade : Trade} (bounded : trade.Bounded) (turn : Turn) :
    (trade.take turn).Bounded where
  room loan member := by
    rcases trade.loans_take turn member with older | ⟨long, -⟩
    · exact bounded.room loan older
    · exact long
  granted loan member := by
    rcases trade.loans_take turn member with older | ⟨-, new⟩
    · exact trade.granted_take_subset turn (bounded.granted loan older)
    · exact new
  views view member := by
    rcases trade.views_take turn member with older | ⟨address, size, seen⟩
    · obtain ⟨debt, granted, part⟩ := bounded.views view older
      exact ⟨debt, trade.granted_take_subset turn granted, part⟩
    · obtain ⟨loan, lent, part⟩ := Lender.part_of_seen bounded.room seen
      exact ⟨loan.debt, trade.granted_take_subset turn (bounded.granted loan lent), part⟩

/-! ### Access within bounds -/

/-- What every access to a block relies on. -/
structure Bounds (trade : Trade) : Prop where
  loans : ∀ loan ∈ trade.loans, loan.length ≤ loan.block.capacity
  /-- A view is part of a loan that was granted on its block, returned since or not. -/
  views : ∀ view ∈ trade.views, ∃ debt ∈ trade.record.granted, view.IsPartOf debt
  replicas : ∀ replica, trade.replicas.Has replica → replica.size ≤ replica.storage.capacity
  /-- A view shows as many bytes as it was asked for, all of them bytes of its block. -/
  viewed : ∀ view ∈ trade.views,
    (trade.desk.viewBytes view).toList.length = view.length ∧
      (trade.desk.viewBytes view).toList =
        ((trade.memory.bytes view.base view.block.capacity).drop view.offset).take view.length
  /-- A replica shows as many bytes as it was asked for, the first ones of its storage. -/
  copied : ∀ replica, trade.replicas.Has replica →
    (trade.content replica).length = replica.size ∧
      trade.content replica =
        (trade.memory.bytes replica.storage.address replica.storage.capacity).take replica.size
  /-- Making a replica, taking the foreign bytes anew and writing into a replica change no byte
  outside the storage of a replica. -/
  written : ∀ turn, turn.deed.copies = true →
    ∀ address, (∀ replica, (trade.take turn).replicas.Has replica →
      address ∉ replica.storage.range) →
      (trade.take turn).memory.byte address = trade.memory.byte address
  /-- Writing a replica back brings the bytes it shows to its foreign range and changes no byte
  besides. -/
  pushed : ∀ replica place, trade.reads replica = true →
    (trade.take ⟨.push replica, place⟩).native replica = trade.content replica ∧
      ∀ address, address ∉ replica.foreign →
        (trade.take ⟨.push replica, place⟩).memory.byte address = trade.memory.byte address
  /-- A request is answered with a block that is long enough, unless no block can be. -/
  rented : ∀ size place,
    (∃ block, trade.answer ⟨.rent size, place⟩ = .block block ∧ size ≤ block.capacity) ∨
      Word.longestBlock < size ∧
        trade.answer ⟨.rent size, place⟩ = .failed (.panicked .capacityOverflow)

theorem answer_rent (trade : Trade) (size place : Nat) :
    (∃ block, trade.answer ⟨.rent size, place⟩ = .block block ∧ size ≤ block.capacity) ∨
      Word.longestBlock < size ∧
        trade.answer ⟨.rent size, place⟩ = .failed (.panicked .capacityOverflow) := by
  show (∃ block, Reply.ofAnswer Reply.block ((trade.ready place).desk.procure size).1 = _ ∧ _) ∨
    _ ∧ Reply.ofAnswer Reply.block ((trade.ready place).desk.procure size).1 = _
  have outcome := (trade.ready place).desk.procured size
  rcases drawn : (trade.ready place).desk.procure size with ⟨fault | block, after⟩
  · rw [drawn] at outcome
    cases outcome with
    | beyond aside positive missing long => exact Or.inr ⟨long, rfl⟩
  · exact Or.inl ⟨block, rfl, Desk.le_capacity_of_procure drawn⟩

theorem Bounded.bounds {trade : Trade} (bounded : trade.Bounded) (custody : trade.Custody)
    (marked : trade.Marked) (ample : trade.Ample) : trade.Bounds where
  loans := bounded.room
  views := bounded.views
  replicas := ample
  viewed view opened := by
    obtain ⟨debt, -, part⟩ := bounded.views view opened
    have shown : (trade.desk.viewBytes view).toList =
        trade.memory.bytes (view.base + view.offset) view.length :=
      trade.memory.toList_cut (view.base + view.offset) view.length
    rw [shown, Memory.length_bytes, Memory.drop_take_bytes _ _ part.le_capacity]
    exact ⟨rfl, rfl⟩
  copied replica had := by
    have front := trade.memory.drop_take_bytes replica.storage.address
      (show 0 + replica.size ≤ replica.storage.capacity by
        rw [Nat.zero_add]
        exact ample replica had)
    rw [content_eq, Memory.length_bytes]
    exact ⟨rfl, front.symm⟩
  written turn copies address := byte_copies custody marked ample copies
  pushed replica place reading := ⟨native_push reading, fun address => byte_push⟩
  rented := trade.answer_rent

/-- Whatever has been asked of a lender, wherever the heap placed its blocks: every view lies in
the loan it was opened on and that loan in its block, every replica lies in its storage, and what
is read or written through them ends where they end. -/
theorem bounds_run (policy : Policy) (arena : Arena) (turns : List Turn) :
    ((opened policy arena).run turns).Bounds := by
  have bounded : ∀ (trade : Trade), trade.Bounded → trade.Custody → trade.Marked → trade.Ample →
      (trade.run turns).Bounds := by
    induction turns with
    | nil => exact fun trade bounded custody marked ample => bounded.bounds custody marked ample
    | cons turn rest inductionHypothesis =>
      exact fun trade bounded custody marked ample => inductionHypothesis (trade.take turn)
        (bounded.take turn) (custody.take turn) (marked.take turn) (ample.take marked turn)
  exact bounded _ (bounded_opened policy arena) (custody_opened policy arena)
    (marked_opened policy arena) (ample_opened policy arena)

end Trade

end MemoryLending
