/-
This file says what a turn does to memory. Most turns leave the arena as it is. A turn that needs
a fresh block places it there, and a turn that makes a replica also copies the foreign contents
into its storage, which is a block out of the reserve or a fresh one. Whether a replica is filled
when it is asked for again depends on the marks of filled replicas: every replica that somebody
holds has its mark, so the contents are taken once.
-/

import MemoryLending.Proofs.Custody
import MemoryLending.Proofs.Turnover

namespace MemoryLending

/-! ### Marks of filled replicas -/

namespace ReplicaTable

theorem has_fill {table : ReplicaTable} {id : Nat} {replica : Replica} :
    (table.fill id).Has replica ↔ table.Has replica :=
  Iff.rfl

/-- Holders and marks become fewer, and a replica that is still held keeps its mark. -/
structure Thins (before after : ReplicaTable) : Prop where
  has : ∀ replica, after.Has replica → before.Has replica
  fewer : ∀ id ∈ after.filled, id ∈ before.filled
  marked : ∀ replica, after.Has replica → replica.id ∈ before.filled → replica.id ∈ after.filled

theorem Thins.of_filled {before after : ReplicaTable}
    (has : ∀ replica, after.Has replica → before.Has replica)
    (filled : after.filled = before.filled) : before.Thins after :=
  ⟨has, fun _ member => filled ▸ member, fun _ _ member => filled ▸ member⟩

theorem Thins.refl (table : ReplicaTable) : table.Thins table := .of_filled (fun _ => id) rfl

theorem Thins.trans {first second third : ReplicaTable} (before : first.Thins second)
    (after : second.Thins third) : first.Thins third where
  has replica had := before.has replica (after.has replica had)
  fewer id member := before.fewer id (after.fewer id member)
  marked replica had member :=
    after.marked replica had (before.marked replica (after.has replica had) member)

end ReplicaTable

namespace Desk

theorem thins_unholdReplica (desk : Desk) (replica : Replica) :
    desk.lender.replicas.Thins (desk.unholdReplica replica).lender.replicas := by
  unfold unholdReplica
  split
  · exact .refl _
  · rename_i unheld
    rw [← show _ = (retireBlock _ replica.storage).lender.replicas from
      (overlooks_table.retireBlock _ _).symm]
    refine ⟨fun _ => id, fun _ => List.mem_of_mem_erase, fun other had member => ?_⟩
    refine (List.mem_erase_of_ne fun same => unheld ?_).mpr member
    exact ReplicaTable.holds_iff.mpr ⟨other, had, same⟩

/-- A replica that loses a holder. -/
theorem thins_unhold {desk : Desk} {before : ReplicaTable} (replica : Replica)
    (has : ∀ other, desk.lender.replicas.Has other → before.Has other)
    (filled : desk.lender.replicas.filled = before.filled) :
    before.Thins (desk.unholdReplica replica).lender.replicas :=
  .trans (.of_filled has filled) (desk.thins_unholdReplica replica)

theorem thins_giveBack (desk : Desk) (address : Nat) :
    desk.lender.replicas.Thins (desk.giveBack address).2.lender.replicas := by
  unfold giveBack
  split
  · exact .refl _
  · dsimp only
    split
    · exact thins_unhold _ (fun _ => ReplicaTable.has_of_remove) rfl
    · exact .of_filled (fun _ => ReplicaTable.has_recount.mp) rfl

theorem thins_closeHandle (desk : Desk) (replica : Replica) :
    desk.lender.replicas.Thins (desk.closeHandle replica).lender.replicas := by
  unfold closeHandle
  split
  · refine thins_unhold _ (fun other had => ?_) rfl
    exact had.imp_right (Or.imp_left List.mem_of_mem_erase)
  · exact .refl _

theorem thins_endLease (desk : Desk) (replica : Replica) :
    desk.lender.replicas.Thins (desk.endLease replica).lender.replicas := by
  have given := desk.thins_giveBack replica.address
  unfold endLease
  split
  · generalize desk.giveBack replica.address = result at given
    obtain ⟨violation | _, after⟩ := result <;>
      exact given.trans (thins_unhold _
        (fun other had => had.imp_right (Or.imp_right List.mem_of_mem_erase)) rfl)
  · exact .refl _

/-! ### Making replicas -/

/-- Asking for a block changes the reserve and nothing else of the lender. -/
theorem lender_procure (desk : Desk) (size : Nat) :
    (desk.procure size).2.lender =
      { desk.lender with reserve := (desk.procure size).2.lender.reserve } := by
  unfold procure Reserve.request
  cases Reserve.takeFirst size desk.lender.reserve.kept with
  | some pair => split <;> rfl
  | none =>
    dsimp only
    split
    · rfl
    · split <;> rfl

theorem kept_procure_sublist (desk : Desk) (size : Nat) :
    (desk.procure size).2.lender.reserve.kept.Sublist desk.lender.reserve.kept := by
  have asked : ∀ aside, (desk.amend [.request size] aside).lender.reserve.kept.Sublist
      desk.lender.reserve.kept := fun _ => desk.lender.reserve.kept_request_sublist size
  have outcome := desk.procured size
  generalize desk.procure size = result at outcome
  cases outcome with
  | nothing => exact List.Sublist.refl _
  | kept block rest aside => exact asked aside
  | beyond aside => exact asked aside
  | fresh aside => exact asked aside

/-- What asking for a reference can do, when every replica in the table is filled and no mark is
ahead of its replica. -/
inductive Making (desk : Desk) (address size : Nat) : Except Fault Replica × Desk → Prop where
  | refused (fault : Fault) (reserve : Reserve) (journal : Journal)
      (kept : reserve.kept.Sublist desk.lender.reserve.kept) :
      Making desk address size
        (.error fault, { desk with lender := { desk.lender with reserve }, journal })
  | counted (entry : ReplicaEntry) (found : desk.lender.replicas.entry? address = some entry) :
      Making desk address size
        (.ok entry.replica,
          desk.withReplicas (desk.lender.replicas.recount address (entry.references + 1)))
  | made (storage : Block) (arena : Arena) (reserve : Reserve) (journal : Journal)
      (missing : desk.lender.replicas.entry? address = none)
      (supplied : Supplied desk size (.ok storage) arena)
      (kept : reserve.kept.Sublist desk.lender.reserve.kept) :
      Making desk address size
        (.ok ⟨arena.nextIdentity, address, size, storage⟩,
          { arena := arena.identify.copy address storage.address size
            lender :=
              { desk.lender with
                reserve
                replicas :=
                  (desk.lender.replicas.add ⟨arena.nextIdentity, address, size, storage⟩).fill
                    arena.nextIdentity }
            journal })

theorem fillReplica_of_unfilled {desk : Desk} {replica : Replica}
    (unfilled : desk.lender.replicas.isFilled replica.id = false) :
    desk.fillReplica replica =
      ((desk.pull replica).withReplicas (desk.lender.replicas.fill replica.id)).log
        (.replicaFilled replica.address replica.size) :=
  if_neg (Bool.eq_false_iff.mp unfilled)

theorem Supplied.identities_le {desk : Desk} {size : Nat} {answer : Except Fault Block}
    {arena : Arena} (supplied : Supplied desk size answer arena) :
    desk.arena.identities ≤ arena.identities := by
  cases supplied with
  | failed => exact Nat.le_refl _
  | kept => exact Nat.le_refl _
  | placed => exact Nat.le_trans (Nat.le_succ _) (Nat.le_of_eq (Arena.identities_place _ _).symm)

theorem making (desk : Desk) (address size : Nat)
    (filled : ∀ entry ∈ desk.lender.replicas.entries,
      entry.replica.id ∈ desk.lender.replicas.filled)
    (issued : ∀ id ∈ desk.lender.replicas.filled, id ≤ desk.arena.identities) :
    Making desk address size (desk.reference address size) := by
  unfold reference
  by_cases null : address = 0
  · rw [if_pos null]
    exact .refused _ desk.lender.reserve desk.journal (List.Sublist.refl _)
  rw [if_neg null]
  cases found : desk.lender.replicas.entry? address with
  | some entry =>
    dsimp only
    by_cases same : entry.replica.size = size
    · have marked : (desk.withReplicas (desk.lender.replicas.recount address
          (entry.references + 1))).lender.replicas.isFilled entry.replica.id = true :=
        List.contains_iff_mem.mpr (filled entry (ReplicaTable.mem_of_found found).1)
      rw [if_pos same, fillReplica, if_pos marked]
      exact .counted entry found
    · rw [if_neg same]
      exact .refused _ desk.lender.reserve desk.journal (List.Sublist.refl _)
  | none =>
    have supplied := desk.supplied size
    have lender := desk.lender_procure size
    have kept := desk.kept_procure_sublist size
    unfold makeReplica
    generalize desk.procure size = result at supplied lender kept
    obtain ⟨answer, arena, lender', journal⟩ := result
    dsimp only at supplied lender kept ⊢
    generalize lender'.reserve = reserve at lender kept
    subst lender
    cases answer with
    | error fault =>
      cases supplied with
      | failed => exact .refused fault reserve journal kept
    | ok storage =>
      have unmarked : arena.nextIdentity ∉ desk.lender.replicas.filled := fun marked =>
        Nat.not_succ_le_self _ (Nat.le_trans (issued _ marked) supplied.identities_le)
      have fresh : (desk.lender.replicas.add
          ⟨arena.nextIdentity, address, size, storage⟩).isFilled arena.nextIdentity = false :=
        Bool.eq_false_iff.mpr fun marked => unmarked (List.contains_iff_mem.mp marked)
      dsimp only
      rw [fillReplica_of_unfilled]
      · exact .made storage arena reserve _ found supplied kept
      · exact fresh

end Desk

/-! ### What a turn does to memory -/

/-- Whether a deed works on memory and on nothing else. -/
def Deed.works : Deed → Bool
  | .pull _ | .push _ | .edit .. | .write .. => true
  | _ => false

namespace Trade

/-- What a turn can do to the arena and to the holders of replicas. -/
inductive Impact (trade : Trade) (turn : Turn) (after : Trade) : Prop where
  | still (idle : turn.deed.works = false)
      (arena : after.desk.arena = (trade.ready turn.place).desk.arena)
      (thins : trade.replicas.Thins after.replicas)
  | placed (idle : turn.deed.works = false) (other : turn.deed.isSharing = false)
      (arena : after.desk.arena =
        Arena.place (trade.ready turn.place).desk.arena turn.deed.freshLength)
      (replicas : after.replicas = trade.replicas)
  | made (replica : Replica) (arena : Arena)
      (asks : turn.deed.asks = some (replica.address, replica.size))
      (supplied : (trade.ready turn.place).desk.Supplied replica.size (.ok replica.storage) arena)
      (fresh : replica.id = arena.nextIdentity)
      (filled : after.desk.arena =
        arena.identify.copy replica.address replica.storage.address replica.size)
      (marks : after.replicas.filled = replica.id :: trade.replicas.filled)
      (has : ∀ other, after.replicas.Has other ↔ other = replica ∨ trade.replicas.Has other)
      (holds : ∀ block, after.Holds block → trade.Holds block ∨ block = replica.storage)
  | worked (memory : Memory) (works : turn.deed.works = true)
      (arena : after.desk.arena = { (trade.ready turn.place).desk.arena with memory })
      (replicas : after.replicas = trade.replicas)

/-- Every replica that somebody holds is filled, and no mark is ahead of its replica. -/
structure Marked (trade : Trade) : Prop where
  filled : ∀ replica, trade.replicas.Has replica → replica.id ∈ trade.replicas.filled
  issued : ∀ id ∈ trade.replicas.filled, id ≤ trade.issued

section Impact

variable {trade after : Trade} {turn : Turn}

theorem impact_of_ground (idle : turn.deed.works = false)
    (same : after.desk.ground = (trade.ready turn.place).desk.ground) :
    Impact trade turn after := by
  have replicas : after.replicas = trade.replicas := congrArg Prod.snd same
  exact .still idle (congrArg Prod.fst same) (replicas ▸ .refl _)

/-- When nothing but a replica has been added, its storage is the only new block there can be. -/
theorem holds_of_added {storage block : Block} (kept : ∀ block ∈ after.kept, block ∈ trade.kept)
    (rented : after.rented = trade.rented)
    (loans : after.desk.lender.loans = trade.desk.lender.loans) (views : after.views = trade.views)
    (has : ∀ replica, after.replicas.Has replica →
      replica.storage = storage ∨ trade.replicas.Has replica)
    (holds : after.Holds block) : trade.Holds block ∨ block = storage := by
  obtain ⟨place, stored⟩ := holds
  cases place with
  | kept => exact Or.inl ⟨.kept, kept block stored⟩
  | rented => exact Or.inl ⟨.rented, (rented ▸ stored : block ∈ trade.rented)⟩
  | pinned =>
    rcases stored with ⟨loan, member, same⟩ | ⟨view, member, same⟩
    · exact Or.inl ⟨.pinned, Or.inl ⟨loan, loans ▸ member, same⟩⟩
    · exact Or.inl ⟨.pinned, Or.inr ⟨view, (views ▸ member : view ∈ trade.views), same⟩⟩
  | backing =>
    obtain ⟨replica, had, rfl⟩ := stored
    rcases has replica had with same | older
    · exact Or.inr same
    · exact Or.inl ⟨.backing, replica, older, rfl⟩

/-- A reference whose holder is noted afterwards. -/
theorem impact_of_making {address size : Nat} {result : Except Fault Replica × Desk}
    (idle : turn.deed.works = false) (asks : turn.deed.asks = some (address, size))
    (making : (trade.ready turn.place).desk.Making address size result) (record : Record)
    (note : Replica → ReplicaTable → ReplicaTable)
    (noted : ∀ replica table, table.Has replica →
      ∀ other, (note replica table).Has other ↔ table.Has other)
    (marks : ∀ replica table, (note replica table).filled = table.filled) :
    Impact trade turn
      { trade.withDesk
          (match result with
            | (.ok replica, after) => after.withReplicas (note replica after.lender.replicas)
            | (.error _, after) => after) with
        record } := by
  cases making with
  | refused fault reserve journal kept => exact .still idle rfl (.refl _)
  | counted entry found =>
    refine .still idle rfl (.of_filled (fun other had => ?_) (marks _ _))
    exact ReplicaTable.has_recount.mp ((noted _ _ (ReplicaTable.has_recount.mpr
      (ReplicaTable.has_of_found found)) other).mp had)
  | made storage arena reserve journal missing supplied kept =>
    have has : ∀ other, ReplicaTable.Has (note ⟨arena.nextIdentity, address, size, storage⟩
        ((trade.replicas.add ⟨arena.nextIdentity, address, size, storage⟩).fill
          arena.nextIdentity)) other ↔
        other = ⟨arena.nextIdentity, address, size, storage⟩ ∨ trade.replicas.Has other := by
      intro other
      rw [noted _ _ (ReplicaTable.has_fill.mpr (ReplicaTable.has_add.mpr (Or.inl rfl))),
        ReplicaTable.has_fill, ReplicaTable.has_add]
    refine .made ⟨arena.nextIdentity, address, size, storage⟩ arena asks supplied rfl rfl
      (marks _ _) has fun block => holds_of_added (fun block member => kept.subset member) rfl
        rfl rfl fun replica had => ?_
    exact ((has replica).mp had).imp_left (congrArg Replica.storage)

/-! ### Each kind of deed -/

theorem impact_of_placing (idle : turn.deed.works = false) (other : turn.deed.isSharing = false)
    (arena : after.desk.arena = (trade.ready turn.place).desk.arena ∨
      after.desk.arena = Arena.place (trade.ready turn.place).desk.arena turn.deed.freshLength)
    (replicas : after.replicas = trade.replicas) : Impact trade turn after := by
  rcases arena with same | placed
  · exact .still idle same (replicas ▸ .refl _)
  · exact .placed idle other placed replicas

theorem arena_donate (trade : Trade) (size : Nat) :
    (trade.donate size).desk.arena = trade.desk.arena ∨
      (trade.donate size).desk.arena = trade.desk.arena.place size := by
  unfold donate
  split
  · exact Or.inl (congrArg Prod.fst (Desk.overlooks_ground.restore trade.desk Block.empty))
  · split
    · exact Or.inl rfl
    · exact Or.inr (congrArg Prod.fst (Desk.overlooks_ground.restore _ _))

variable {place : Nat} (marked : trade.Marked)

include marked in
theorem making_ready (address size : Nat) :
    (trade.ready place).desk.Making address size
      ((trade.ready place).desk.reference address size) :=
  Desk.making _ address size
    (fun entry member => marked.filled entry.replica (Or.inl ⟨entry, member, rfl⟩)) marked.issued

include marked in
theorem impact_share (address size : Nat) :
    Impact trade ⟨.share address size, place⟩ (trade.take ⟨.share address size, place⟩) := by
  have impact := @impact_of_making trade ⟨.share address size, place⟩ address size _ rfl rfl
    (making_ready marked address size) (trade.take ⟨.share address size, place⟩).record
    (fun replica table => { table with handles := replica :: table.handles })
    (fun replica table => ReplicaTable.has_cons_handle) fun _ _ => rfl
  show Impact trade _ { trade.withDesk ((trade.ready place).desk.share address size).2 with
    record := _ }
  unfold Desk.share
  generalize (trade.ready place).desk.reference address size = result at impact
  obtain ⟨fault | replica, after⟩ := result <;> exact impact

include marked in
theorem impact_takeLease (address size : Nat) :
    Impact trade ⟨.takeLease address size, place⟩
      (trade.take ⟨.takeLease address size, place⟩) := by
  have impact := @impact_of_making trade ⟨.takeLease address size, place⟩ address size _ rfl rfl
    (making_ready marked address size) (trade.take ⟨.takeLease address size, place⟩).record
    (fun replica table => { table with leases := replica :: table.leases })
    (fun replica table => ReplicaTable.has_cons_lease) fun _ _ => rfl
  show Impact trade _ { trade.withDesk ((trade.ready place).desk.takeLease address size).2 with
    record := _ }
  unfold Desk.takeLease
  generalize (trade.ready place).desk.reference address size = result at impact
  obtain ⟨fault | replica, after⟩ := result <;> exact impact

include marked in
theorem impact_reach (address size : Nat) :
    Impact trade ⟨.reach address size, place⟩ (trade.take ⟨.reach address size, place⟩) := by
  have impact := @impact_of_making trade ⟨.reach address size, place⟩ address size _ rfl rfl
    (making_ready marked address size) (trade.take ⟨.reach address size, place⟩).record
    (fun replica table => { table with leases := replica :: table.leases })
    (fun replica table => ReplicaTable.has_cons_lease) fun _ _ => rfl
  show Impact trade _ { trade.withDesk ((trade.ready place).desk.reach address size).2 with
    record := _ }
  unfold Desk.reach
  by_cases null : address = 0
  · rw [if_pos null]
    exact .still rfl rfl (.refl _)
  rw [if_neg null]
  cases viewed : ((trade.ready place).desk.openView address size).1 with
  | some view =>
    rw [← Prod.eta ((trade.ready place).desk.openView address size), viewed]
    exact impact_of_ground rfl
      (Desk.overlooks_ground.openView (trade.ready place).desk address size)
  | none =>
    rw [← Prod.eta ((trade.ready place).desk.openView address size), viewed,
      Desk.openView_of_none viewed]
    dsimp only
    unfold Desk.takeLease
    generalize (trade.ready place).desk.reference address size = result at impact
    obtain ⟨fault | replica, after⟩ := result <;> exact impact

theorem impact_copyHandle (trade : Trade) (replica : Replica) :
    Impact trade ⟨.copyHandle replica, place⟩ (trade.take ⟨.copyHandle replica, place⟩) := by
  show Impact trade _
    { (trade.ready place).whereRead replica (·.openHandle replica) with record := _ }
  unfold whereRead
  split
  · rename_i reading
    exact .still rfl rfl (.of_filled (fun other =>
      (ReplicaTable.has_cons_handle (has_of_reads _ reading) other).mp) rfl)
  · exact impact_of_ground rfl rfl

/-- A deed on a replica works on memory, if somebody reads the replica. -/
theorem impact_of_work {replica : Replica} {work : Desk → Desk} (works : turn.deed.works = true)
    (record : Record)
    (only : ∀ desk : Desk, ∃ memory, (work desk).arena = { desk.arena with memory } ∧
      (work desk).lender.replicas = desk.lender.replicas) :
    Impact trade turn { (trade.ready turn.place).whereRead replica work with record } := by
  unfold whereRead
  split
  · obtain ⟨memory, arena, replicas⟩ := only (trade.ready turn.place).desk
    exact .worked memory works arena replicas
  · exact .worked (trade.ready turn.place).desk.arena.memory works rfl rfl

include marked in
theorem impact (turn : Turn) : Impact trade turn (trade.take turn) := by
  obtain ⟨deed, place⟩ := turn
  cases deed with
  | rent size =>
    exact impact_of_placing rfl rfl ((trade.ready place).desk.arena_procure size)
      ((trade.ready place).desk.replicas_procure size)
  | handIn block =>
    refine impact_of_ground rfl ?_
    show (perform (trade.ready place) (.handIn block)).2.desk.ground = _
    unfold perform
    dsimp only
    split
    · exact Desk.overlooks_ground.restore (trade.ready place).desk block
    · rfl
  | discard block => exact impact_of_ground rfl rfl
  | donate size =>
    exact impact_of_placing rfl rfl ((trade.ready place).arena_donate size)
      ((trade.ready place).replicas_donate size)
  | clear => exact impact_of_ground rfl rfl
  | lend size =>
    have ground := Desk.overlooks_ground.lend (trade.ready place).desk size
    refine impact_of_placing rfl rfl ?_ ((congrArg Prod.snd ground).trans
      ((trade.ready place).desk.replicas_blockFor size))
    rw [show (trade.take ⟨.lend size, place⟩).desk.arena = _ from congrArg Prod.fst ground]
    exact (trade.ready place).desk.arena_blockFor size
  | reclaim address token =>
    exact impact_of_ground rfl
      (Desk.overlooks_ground.reclaim (trade.ready place).desk address token)
  | openView address size =>
    exact impact_of_ground rfl
      (Desk.overlooks_ground.openView (trade.ready place).desk address size)
  | closeView view =>
    exact impact_of_ground rfl (Desk.overlooks_ground.closeView (trade.ready place).desk view)
  | share address size => exact impact_share marked address size
  | giveBack address =>
    exact .still rfl (Desk.overlooks_arena.giveBack (trade.ready place).desk address)
      ((trade.ready place).desk.thins_giveBack address)
  | takeLease address size => exact impact_takeLease marked address size
  | endLease replica =>
    exact .still rfl (Desk.overlooks_arena.endLease (trade.ready place).desk fun _ _ _ => rfl)
      ((trade.ready place).desk.thins_endLease replica)
  | copyHandle replica => exact trade.impact_copyHandle replica
  | closeHandle replica =>
    exact .still rfl (Desk.overlooks_arena.closeHandle (trade.ready place).desk replica)
      ((trade.ready place).desk.thins_closeHandle replica)
  | reach address size => exact impact_reach marked address size
  | pull replica => exact impact_of_work rfl _ fun desk => ⟨_, rfl, rfl⟩
  | push replica => exact impact_of_work rfl _ fun desk => ⟨_, rfl, rfl⟩
  | edit replica offset bytes =>
    refine @impact_of_work _ ⟨.edit replica offset bytes, place⟩ replica
      (fun desk => (desk.editReplica? replica offset bytes).getD desk) rfl _ fun desk => ?_
    unfold Desk.editReplica?
    split <;> exact ⟨_, rfl, rfl⟩
  | write address bytes => exact .worked _ rfl rfl rfl

end Impact

/-! ### What follows for runs -/

theorem marked_opened (policy : Policy) (arena : Arena) : (opened policy arena).Marked := by
  refine ⟨fun replica had => ?_, nofun⟩
  exact absurd ⟨.backing, replica, had, rfl⟩ (not_holds_opened policy arena replica.storage)

/-- A replica is held before a turn, or its number is later than all before. -/
theorem Marked.has_take {trade : Trade} (marked : trade.Marked) {turn : Turn} {replica : Replica}
    (had : (trade.take turn).replicas.Has replica) :
    trade.replicas.Has replica ∨ trade.issued < replica.id := by
  cases impact marked turn with
  | still idle arena thins => exact Or.inl (thins.has replica had)
  | placed idle other arena replicas => exact Or.inl (replicas ▸ had)
  | made made arena asks supplied fresh filled marks has holds =>
    rcases (has replica).mp had with rfl | older
    · exact Or.inr (fresh ▸ Nat.lt_succ_of_le supplied.identities_le)
    · exact Or.inl older
  | worked memory works arena replicas => exact Or.inl (replicas ▸ had)

theorem Marked.take {trade : Trade} (marked : trade.Marked) (turn : Turn) :
    (trade.take turn).Marked := by
  cases impact marked turn with
  | still idle arena thins =>
    refine ⟨fun replica had => ?_, fun id member => ?_⟩
    · exact thins.marked replica had (marked.filled replica (thins.has replica had))
    · exact Nat.le_trans (marked.issued id (thins.fewer id member))
        (Nat.le_of_eq (congrArg Arena.identities arena).symm)
  | placed idle other arena replicas =>
    have issued : (trade.take turn).issued = trade.issued + 1 :=
      (congrArg Arena.identities arena).trans (Arena.identities_place _ _)
    refine ⟨replicas ▸ marked.filled, fun id member => ?_⟩
    exact Nat.le_trans (marked.issued id (replicas ▸ member)) (issued ▸ Nat.le_succ _)
  | made made arena asks supplied fresh filled marks has holds =>
    have issued : (trade.take turn).issued = arena.nextIdentity := congrArg Arena.identities filled
    refine ⟨fun replica had => ?_, fun id member => ?_⟩
    · rw [marks]
      rcases (has replica).mp had with rfl | older
      · exact List.mem_cons_self
      · exact List.mem_cons_of_mem _ (marked.filled replica older)
    · rw [issued]
      rw [marks] at member
      rcases List.mem_cons.mp member with rfl | older
      · exact Nat.le_of_eq fresh
      · exact Nat.le_succ_of_le (Nat.le_trans (marked.issued id older) supplied.identities_le)
  | worked memory works arena replicas =>
    refine ⟨replicas ▸ marked.filled, fun id member => ?_⟩
    exact Nat.le_trans (marked.issued id (replicas ▸ member))
      (Nat.le_of_eq (congrArg Arena.identities arena).symm)

/-! ### Fresh blocks -/

/-- Whether a turn needs a fresh block: the place that the heap had ready is used up. -/
def Places (trade : Trade) (turn : Turn) : Prop :=
  (trade.take turn).desk.arena.announced = []

/-- A turn brings one new block at most, and it is the one that the heap has placed. -/
theorem Marked.new_block {trade : Trade} (marked : trade.Marked) (custody : trade.Custody)
    {turn : Turn} {block : Block} (holds : (trade.take turn).Holds block)
    (new : ¬trade.Holds block) (solid : block ≠ Block.empty) :
    trade.Places turn ∧ block.id = trade.issued + 1 ∧ block.address = turn.place ∧
      block.capacity = turn.deed.freshLength := by
  have numbered := (custody.take turn).named.issued block holds
  obtain ⟨later, place, length, -⟩ := ((holds_take holds).resolve_left new).resolve_left solid
  cases impact marked turn with
  | still idle arena thins =>
    have issued : (trade.take turn).issued = trade.issued :=
      (congrArg Arena.identities arena).trans rfl
    omega
  | placed idle other arena replicas =>
    have issued : (trade.take turn).issued = trade.issued + 1 :=
      (congrArg Arena.identities arena).trans (Arena.identities_place _ _)
    exact ⟨congrArg Arena.announced arena, by omega, place, length⟩
  | made replica arena asks supplied fresh filled marks has holds' =>
    obtain rfl := (holds' block holds).resolve_left new
    generalize replica.storage = block at supplied new solid place length
    cases supplied with
    | kept block old room =>
      rcases old with rfl | kept
      · exact absurd rfl solid
      · exact absurd ⟨.kept, kept⟩ new
    | placed positive short =>
      exact ⟨congrArg Arena.announced filled, rfl, place, length⟩
  | worked memory works arena replicas =>
    have issued : (trade.take turn).issued = trade.issued :=
      (congrArg Arena.identities arena).trans rfl
    omega

end Trade

end MemoryLending
