/-
This file reads foreign memory once. Where nobody holds a replica, a range that lies in no loan is
leased, shown and let go of, and then again nobody holds a replica: the reserve has been asked for
one block more, the desks are in order, and nothing else has changed. The first byte that is shown
exists, whatever it is.
-/

import MemoryLending.Proofs.Accounts
import MemoryLending.Proofs.Captures
import MemoryLending.Soak.Worker

namespace MemoryLending

/-! ### What reaching sees of the heap -/

section Level

variable {first second : Arena} (level : first.Level second)

include level

theorem Arena.Level.identify : first.identify.Level second.identify where
  memory := level.memory
  identities := congrArg (· + 1) level.identities

theorem Arena.Level.copy (source target length : Nat) :
    (first.copy source target length).Level (second.copy source target length) where
  memory := congrArg (·.copy source target length) level.memory
  identities := level.identities

end Level

namespace Desk

section Reach

variable (desk : Desk) {arena : Arena} (level : arena.Level desk.arena)

include level

theorem fillReplica_level (replica : Replica) :
    ∃ placed, placed.Level (desk.fillReplica replica).arena ∧
      fillReplica { desk with arena } replica =
        { desk.fillReplica replica with arena := placed } := by
  unfold fillReplica
  split
  · exact ⟨arena, level, rfl⟩
  · exact ⟨_, level.copy replica.address replica.storage.address replica.size, rfl⟩

variable (same : arena.nextAddress = desk.arena.nextAddress) (address size : Nat)

include same

theorem reference_level :
    ∃ placed, placed.Level (desk.reference address size).2.arena ∧
      reference { desk with arena } address size =
        ((desk.reference address size).1,
          { (desk.reference address size).2 with arena := placed }) := by
  unfold reference
  by_cases null : address = 0
  · rw [if_pos null, if_pos null]
    exact ⟨arena, level, rfl⟩
  rw [if_neg null, if_neg null]
  dsimp only
  cases desk.lender.replicas.entry? address with
  | some entry =>
    dsimp only
    by_cases fits : entry.replica.size = size
    · rw [if_pos fits, if_pos fits]
      obtain ⟨placed, level', filled⟩ := fillReplica_level
        (desk.withReplicas (desk.lender.replicas.recount address (entry.references + 1))) level
        entry.replica
      exact ⟨placed, level', congrArg (Prod.mk _) filled⟩
    · rw [if_neg fits, if_neg fits]
      exact ⟨arena, level, rfl⟩
  | none =>
    obtain ⟨placed, level', drawn⟩ := desk.procure_level level same size
    dsimp only
    unfold makeReplica
    rw [drawn]
    generalize desk.procure size = result at level'
    obtain ⟨fault | storage, after⟩ := result
    · exact ⟨placed, level', rfl⟩
    · dsimp only at level' ⊢
      have number : placed.nextIdentity = after.arena.nextIdentity :=
        congrArg (· + 1) level'.identities
      rw [number]
      let replica : Replica := ⟨after.arena.nextIdentity, address, size, storage⟩
      obtain ⟨copied, level'', filled⟩ := fillReplica_level
        ((after.issue.withReplicas (after.lender.replicas.add replica)).log
          (.replicaCreated address size)) level'.identify replica
      exact ⟨copied, level'', congrArg (Prod.mk _) filled⟩

/-- Where the next block goes is all that reaching sees of what the heap has announced. -/
theorem reach_level :
    ∃ placed, placed.Level (desk.reach address size).2.arena ∧
      reach { desk with arena } address size =
        ((desk.reach address size).1, { (desk.reach address size).2 with arena := placed }) := by
  unfold reach openView
  by_cases null : address = 0
  · rw [if_pos null, if_pos null]
    exact ⟨arena, level, rfl⟩
  rw [if_neg null, if_neg null]
  dsimp only
  rcases desk.lender.loans.find? address size with _ | ⟨loan, offset⟩
  · obtain ⟨placed, level', referenced⟩ := desk.reference_level level same address size
    dsimp only
    unfold takeLease
    rw [referenced]
    generalize desk.reference address size = result at level'
    obtain ⟨fault | replica, after⟩ := result <;> exact ⟨placed, level', rfl⟩
  · exact ⟨arena, level, rfl⟩

end Reach

end Desk

/-- A range for which the heap has a place, should it need a block, is reached in good order. -/
theorem Office.Orderly.reached {office : Office} {rented : Nat → List Block}
    (orderly : office.Orderly rented) {index address size : Nat}
    (houses : (office.tradeOf index (rented index) []).Houses
      ⟨.reach address size, office.arena.nextAddress⟩) :
    (office.withDesk index ((office.desk index).reach address size).2).Orderly rented := by
  have level : (office.arena.announce [office.arena.nextAddress]).Level office.arena := ⟨rfl, rfl⟩
  obtain ⟨placed, level', reached⟩ := (office.desk index).reach_level level rfl address size
  exact orderly.levelled houses level' (congrArg Prod.snd reached) rfl

/-! ### A lease from beginning to end -/

/-- Nobody holds a replica, and the reserve has been asked for `asked` blocks. -/
structure Lender.Resting (lender : Lender) (asked : Nat) : Prop where
  entries : lender.replicas.entries = []
  handles : lender.replicas.handles = []
  leases : lender.replicas.leases = []
  balances : ∃ returned, lender.reserve.Balances asked returned 0

theorem Lender.resting_ofPolicy (policy : Policy) : (Lender.ofPolicy policy).Resting 0 :=
  ⟨rfl, rfl, rfl, 0, Reserve.balances_empty policy.budget⟩

namespace Desk

variable {desk after : Desk} {asked asked' most : Nat}

/-- Work that leaves the replicas as they are. -/
theorem resting_of_passes (resting : desk.lender.Resting asked)
    (same : after.lender.replicas = desk.lender.replicas) (passes : Passes asked' most desk after) :
    after.lender.Resting (asked + asked') := by
  obtain ⟨entries, handles, leases, returned, balances⟩ := resting
  obtain ⟨returned', balances'⟩ := passes.balances balances
  exact ⟨same ▸ entries, same ▸ handles, same ▸ leases, returned', balances'⟩

theorem resting_lend (resting : desk.lender.Resting asked) {size : Nat} (solid : size ≠ 0) :
    (desk.lend size).2.lender.Resting (asked + 1) := by
  have passes := desk.passes_lend size
  rw [requestsFor, if_neg solid] at passes
  exact resting_of_passes resting
    ((overlooks_table.lend desk size).trans (desk.replicas_blockFor size)) passes

theorem resting_reclaim (resting : desk.lender.Resting asked) (address : Nat) (token : Token) :
    (desk.reclaim address token).2.lender.Resting asked :=
  resting_of_passes resting (overlooks_table.reclaim desk address token)
    (desk.passes_reclaim address token)

/-- Where nobody holds a replica, a foreign range is leased, and once the lease has ended nobody
holds one again. -/
theorem resting_lease (resting : desk.lender.Resting asked) {address size : Nat}
    (present : address ≠ 0) (missing : desk.lender.loans.find? address size = none)
    (solid : size ≠ 0) (short : size ≤ Word.longestBlock) :
    ∃ replica leased, desk.reach address size = (.ok (.copied replica), leased) ∧
      replica.size = size ∧ (leased.endLease replica).lender.Resting (asked + 1) := by
  obtain ⟨entries, handles, leases, returned, balances⟩ := resting
  have absent : desk.lender.replicas.entry? address = none := by
    unfold ReplicaTable.entry?
    rw [entries]
    rfl
  rcases drawn : desk.procure size with ⟨fault | storage, after⟩
  · exact absurd short (Nat.not_le_of_lt (desk.long_of_procure drawn))
  have asks := desk.passes_procure size
  have table := desk.replicas_procure size
  rw [drawn, requestsFor, if_neg solid] at asks
  rw [drawn] at table
  dsimp only at table
  let replica : Replica := ⟨after.arena.nextIdentity, address, size, storage⟩
  obtain ⟨aside, made⟩ := makeReplica_of_ok drawn address
  obtain ⟨aside', filled⟩ := fillReplica_eq
    ((after.issue.withReplicas (after.lender.replicas.add replica)).amend [] aside) replica
  have referenced : desk.reference address size = (.ok replica,
      ((after.issue.withReplicas (after.lender.replicas.add replica)).amend [] aside).amend
        [] aside') := by
    unfold reference
    rw [if_neg present, absent]
    dsimp only
    rw [made]
    dsimp only
    rw [filled]
  have reached := desk.reach_of_missing present missing
  rw [referenced] at reached
  dsimp only at reached
  refine ⟨replica, _, reached, rfl, ?_⟩
  generalize leasing : withLeases _ _ = leased
  -- the table holds the replica and its lease, and nothing else
  have entered : leased.lender.replicas.entries = [⟨replica, 1⟩] := by
    rw [← leasing]
    show ⟨replica, 1⟩ :: after.lender.replicas.entries = _
    rw [table, entries]
  have unheld : leased.lender.replicas.handles = [] := by
    rw [← leasing]
    show after.lender.replicas.handles = _
    rw [table, handles]
  have leased' : leased.lender.replicas.leases = [replica] := by
    rw [← leasing]
    show replica :: after.lender.replicas.leases = _
    rw [table, leases]
  have passed : Passes 1 1 desk leased := by
    rw [← leasing]
    exact asks
  have found : leased.lender.replicas.entry? replica.address = some ⟨replica, 1⟩ := by
    simp [ReplicaTable.entry?, entered]
  obtain ⟨aside₁, given⟩ := giveBack_of_last found rfl
  have held : replica ∈ leased.lender.replicas.leases := by
    rw [leased']
    exact List.mem_singleton_self replica
  obtain ⟨aside₂, aside₃, ended⟩ := endLease_of_mem held
  obtain ⟨returned', books⟩ :=
    (passed.trans (leased.passes_endLease replica)).balances balances
  rw [given] at ended
  refine ⟨?_, ?_, ?_, returned', books⟩ <;> rw [ended]
  · show leased.lender.replicas.entries.filter (·.replica.address != address) = []
    rw [entered]
    exact List.filter_cons_of_neg (by simp [replica])
  · exact unheld
  · show leased.lender.replicas.leases.erase replica = []
    rw [leased', List.erase_cons_head]

end Desk

/-! ### One byte of foreign memory -/

/-- Bytes that are there have a first one. -/
theorem Bytes.head?_ne_none {bytes : Bytes} (solid : bytes.size ≠ 0) : bytes.head? ≠ none := by
  induction bytes with
  | nil => exact absurd rfl solid
  | cons run rest inductionHypothesis =>
    unfold head?
    split
    · rename_i empty
      refine inductionHypothesis fun none => solid ?_
      rw [size, empty, none]
    · exact Option.some_ne_none _

theorem Arena.size_read (arena : Arena) (address length : Nat) :
    (arena.read address length).size = length := by
  unfold read
  rw [← Bytes.length_toList, Memory.toList_cut, Memory.length_bytes]

namespace Office

theorem desk_withDesk {office : Office} {index : Nat} (inRange : index < office.lenders.size)
    (desk : Desk) : (office.withDesk index desk).desk index = desk := by
  have lender := office.lender_withDesk index index desk
  rw [if_pos ⟨rfl, inRange⟩] at lender
  unfold Office.desk
  rw [lender]
  rfl

end Office

namespace Action

/-- Work with the bytes of a range that has been reached, when the work comes to its end. -/
theorem reading_of_ok {Answer : Type} {office worked : Office} {lender address length : Nat}
    {reach : Reach} {desk : Desk} {work : Reach → Bytes → Action Answer} {answer : Answer}
    (reached : (office.desk lender).reach address length = (.ok reach, desk))
    (ran : work reach (((office.withDesk lender desk).desk lender).reachBytes reach)
      (office.withDesk lender desk) = (.ok answer, worked)) :
    reading lender address length work office =
      (.ok answer, worked.withDesk lender ((worked.desk lender).letGo reach)) := by
  have came : atDesk lender (·.reach address length) office =
      (.ok reach, office.withDesk lender desk) := by
    unfold atDesk
    dsimp only
    rw [reached]
  have shown : readDesk lender (·.reachBytes reach) (office.withDesk lender desk) =
      (.ok (((office.withDesk lender desk).desk lender).reachBytes reach),
        office.withDesk lender desk) := rfl
  unfold reading
  rw [run_bind_of_ok came, run_bind_of_ok shown, run_bind, run_tryCatch, run_bind_of_ok ran]
  rfl

/-- A sensor's own buffer that is leased shows its first byte, and the lease ends. -/
theorem readForeign_of_leased {office : Office} (inRange : 0 < office.lenders.size)
    {sequence : Nat} {buffer : Block} {replica : Replica} {leased : Desk}
    (owned : ownBuffer 0 sequence office = (.ok buffer, office))
    (reached : (office.desk 0).reach buffer.address buffer.capacity =
      (.ok (.copied replica), leased))
    (solid : replica.size ≠ 0) :
    ∃ byte, readForeign 0 0 sequence office =
      (.ok byte, (office.withDesk 0 leased).withDesk 0 (leased.endLease replica)) := by
  have here := Office.desk_withDesk inRange leased
  have size : (leased.replicaBytes replica).size ≠ 0 :=
    (leased.arena.size_read _ _).trans_ne solid
  obtain ⟨byte, first⟩ := Option.ne_none_iff_exists'.mp (Bytes.head?_ne_none size)
  refine ⟨byte.toUInt64, ?_⟩
  unfold readForeign
  rw [run_bind_of_ok owned]
  refine (reading_of_ok reached
    (?ran : _ = (Except.ok byte.toUInt64, office.withDesk 0 leased))).trans ?ended
  case ran =>
    -- The range lies in no loan, so the work comes to its look at the first byte.
    rw [here]
    simp only [Desk.reachBytes, Reach.isInPlace, Bool.false_eq_true, first]
    rfl
  case ended =>
    rw [here]
    rfl

end Action

end MemoryLending
