/-
This file says once what each operation of a desk can do. An operation changes who holds which
block, and besides that three things that nobody holds: it sends traffic to the reserve, and it
leaves another arena and another journal and other marks of the filled replicas behind. The
latter are set aside here, so that an operation is a change of the holders followed by one
amendment. Later files use these forms and look into no operation again.
-/

import MemoryLending.Lender.Reach
import MemoryLending.Proofs.Reserve

namespace MemoryLending

/-- What an operation leaves behind that tells nothing about who holds a block. -/
structure Aside where
  arena : Arena
  filled : List Nat
  journal : Journal

/-- What asking for a block of `size` bytes asks of the reserve. A block of no bytes is had for
nothing. -/
def Traffic.asking (size : Nat) : List Traffic := if size = 0 then [] else [.request size]

namespace Desk

/-! ### Forms -/

/-- The desk after traffic with its reserve, and with other things set aside. The identities
given out stay given out. -/
def amend (desk : Desk) (traffic : List Traffic) (aside : Aside) : Desk :=
  { arena := { aside.arena with identities := desk.arena.identities }
    lender :=
      { desk.lender with
        reserve := desk.lender.reserve.passAll traffic
        replicas := { desk.lender.replicas with filled := aside.filled } }
    journal := aside.journal }

/-- What a desk has set aside. -/
def aside (desk : Desk) : Aside := ⟨desk.arena, desk.lender.replicas.filled, desk.journal⟩

/-- Gives an identity out. -/
def issue (desk : Desk) : Desk := { desk with arena := desk.arena.identify }

/-- Puts another book of loans in place. -/
def withLoans (desk : Desk) (loans : LoanBook) : Desk :=
  { desk with lender := { desk.lender with loans } }

/-- Puts other views in place. -/
def withViews (desk : Desk) (views : List View) : Desk :=
  { desk with lender := { desk.lender with views } }

/-- Puts other handles in place. -/
def withHandles (desk : Desk) (handles : List Replica) : Desk :=
  desk.withReplicas { desk.lender.replicas with handles }

/-- Puts other leases in place. -/
def withLeases (desk : Desk) (leases : List Replica) : Desk :=
  desk.withReplicas { desk.lender.replicas with leases }

/-! ### The reserve -/

theorem log_eq (desk : Desk) (event : Event) : ∃ aside, desk.log event = desk.amend [] aside :=
  ⟨⟨desk.arena, desk.lender.replicas.filled, event :: desk.journal⟩, rfl⟩

theorem restore_eq (desk : Desk) (block : Block) :
    ∃ aside, desk.restore block = desk.amend [.restore block] aside := by
  refine ⟨(desk.restore block).aside, ?_⟩
  unfold restore
  dsimp only
  split <;> rfl

theorem clearReserve_eq (desk : Desk) :
    ∃ aside, desk.clearReserve = desk.amend [.clear] aside :=
  ⟨desk.clearReserve.aside, rfl⟩

theorem retireBlock_eq (desk : Desk) (block : Block) :
    ∃ aside, desk.retireBlock block = desk.amend block.retirement aside := by
  unfold retireBlock Block.retirement
  split
  · exact desk.restore_eq block
  · exact ⟨desk.aside, rfl⟩

/-- What asking for `size` bytes can come to. -/
inductive Procured (desk : Desk) (size : Nat) : Except Fault Block × Desk → Prop where
  | nothing (zero : size = 0) : Procured desk size (.ok Block.empty, desk)
  | kept (block : Block) (rest : List Block) (aside : Aside) (positive : size ≠ 0)
      (taken : Reserve.takeFirst size desk.lender.reserve.kept = some (block, rest)) :
      Procured desk size (.ok block, desk.amend [.request size] aside)
  | beyond (aside : Aside) (positive : size ≠ 0)
      (missing : Reserve.takeFirst size desk.lender.reserve.kept = none)
      (long : Word.longestBlock < size) :
      Procured desk size
        (.error (.panicked .capacityOverflow), desk.amend [.request size] aside)
  | fresh (aside : Aside) (positive : size ≠ 0)
      (missing : Reserve.takeFirst size desk.lender.reserve.kept = none)
      (short : size ≤ Word.longestBlock) :
      Procured desk size
        (.ok (desk.arena.nextBlock size true), desk.issue.amend [.request size] aside)

/-- Placing a block gives one identity out. -/
theorem place_eq (desk : Desk) (length : Nat) :
    ∃ aside, { desk with arena := desk.arena.place length } = desk.issue.amend [] aside := by
  refine ⟨⟨desk.arena.place length, desk.lender.replicas.filled, desk.journal⟩, ?_⟩
  unfold amend
  rw [show desk.issue.arena.identities = (desk.arena.place length).identities from
    (desk.arena.identities_place length).symm]
  rfl

theorem procured (desk : Desk) (size : Nat) : Procured desk size (desk.procure size) := by
  unfold procure
  by_cases zero : size = 0
  · rw [if_pos zero]
    exact .nothing zero
  rw [if_neg zero]
  cases taken : Reserve.takeFirst size desk.lender.reserve.kept with
  | some pair =>
    obtain ⟨block, rest⟩ := pair
    have request : desk.lender.reserve.request size =
        (some block, (desk.lender.reserve.request size).2) :=
      Prod.ext (Reserve.request_of_some taken).1 rfl
    rw [request]
    exact .kept block rest ⟨_, _, _⟩ zero taken
  | none =>
    have request : desk.lender.reserve.request size =
        (none, (desk.lender.reserve.request size).2) :=
      Prod.ext (Reserve.request_of_none taken).1 rfl
    rw [request]
    dsimp only
    by_cases long : Word.longestBlock < size
    · rw [if_pos long]
      exact .beyond ⟨_, _, _⟩ zero taken long
    · rw [if_neg long]
      obtain ⟨aside, placed⟩ := place_eq
        ((desk.withReserve (desk.lender.reserve.request size).2).log (.reserveMiss size)) size
      rw [placed]
      exact .fresh aside zero taken (Nat.le_of_not_lt long)

theorem le_capacity_of_procure {desk after : Desk} {size : Nat} {block : Block}
    (drawn : desk.procure size = (.ok block, after)) : size ≤ block.capacity := by
  have outcome := desk.procured size
  rw [drawn] at outcome
  cases outcome with
  | nothing zero => exact Nat.le_of_eq zero
  | kept block rest aside positive taken => exact Reserve.le_capacity_of_takeFirst taken
  | fresh => exact Nat.le_refl _

theorem entries_procure (desk : Desk) (size : Nat) :
    (desk.procure size).2.lender.replicas.entries = desk.lender.replicas.entries := by
  have outcome := desk.procured size
  generalize desk.procure size = result at outcome
  cases outcome <;> rfl

/-! ### Loans and views -/

/-- What a block that loses a loan or a view sends to the reserve. -/
def unpinning (desk : Desk) (block : Block) : List Traffic :=
  if desk.lender.pins block.id then [] else block.retirement

theorem unpin_eq (desk : Desk) (block : Block) :
    ∃ aside, desk.unpin block = desk.amend (desk.unpinning block) aside := by
  unfold unpin unpinning
  split
  · exact ⟨desk.aside, rfl⟩
  · exact desk.retireBlock_eq block

/-- What asking for a loan can come to. -/
inductive Lending (desk : Desk) (size : Nat) : Except Fault (Nat × Token) × Desk → Prop where
  | failed (fault : Fault) (after : Desk) (drawn : desk.blockFor size = (.error fault, after)) :
      Lending desk size (.error fault, after)
  | refused (fault : Fault) (block : Block) (after : Desk) (aside : Aside)
      (drawn : desk.blockFor size = (.ok block, after))
      (conflict : after.lender.loans.enter ⟨after.lender.nextToken, block, size⟩ =
        .error fault) :
      Lending desk size (.error fault, after.drawToken.amend block.retirement aside)
  | granted (block : Block) (after : Desk) (loans : LoanBook) (aside : Aside)
      (drawn : desk.blockFor size = (.ok block, after))
      (accepted : after.lender.loans.enter ⟨after.lender.nextToken, block, size⟩ = .ok loans) :
      Lending desk size
        (.ok (block.address, after.lender.nextToken),
          (after.drawToken.withLoans loans).amend [] aside)

theorem lending (desk : Desk) (size : Nat) : Lending desk size (desk.lend size) := by
  unfold lend
  rcases drawn : desk.blockFor size with ⟨fault | block, after⟩
  · exact .failed fault after drawn
  dsimp only
  cases entered : after.drawToken.lender.loans.enter ⟨after.lender.nextToken, block, size⟩ with
  | ok loans => exact .granted block after loans ⟨_, _, _⟩ drawn entered
  | error fault =>
    obtain ⟨aside, retired⟩ := after.drawToken.retireBlock_eq block
    dsimp only
    rw [retired]
    exact .refused fault block after aside drawn entered

theorem reclaim_of_match {desk : Desk} {address : Nat} {token : Token} {loan : Loan}
    (found : desk.lender.loans.at? address = some loan) (same : loan.token = token) :
    ∃ aside, desk.reclaim address token =
      (.ok (), (desk.withLoans (desk.lender.loans.strike address)).amend
        ((desk.withLoans (desk.lender.loans.strike address)).unpinning loan.block) aside) := by
  unfold reclaim
  rw [found]
  dsimp only
  rw [if_pos same]
  obtain ⟨aside, unpinned⟩ := unpin_eq
    ((desk.withLoans (desk.lender.loans.strike address)).log
      (.reclaimed address loan.length token)) loan.block
  exact ⟨aside, Prod.ext rfl unpinned⟩

theorem reclaim_of_mismatch {desk : Desk} {address : Nat} {token : Token} {loan : Loan}
    (found : desk.lender.loans.at? address = some loan) (other : loan.token ≠ token) :
    desk.reclaim address token =
      (.error (.wrongToken address loan.token.number token.number), desk) := by
  unfold reclaim
  rw [found]
  exact if_neg other

theorem reclaim_of_absent {desk : Desk} {address : Nat} {token : Token}
    (missing : desk.lender.loans.at? address = none) :
    desk.reclaim address token =
      match desk.lender.policy.unknownReturn with
      | .reject => (.error (.untracked address), desk)
      | .ignore => (.ok (), desk.log (.unknownReturnIgnored address token)) := by
  unfold reclaim
  generalize desk.lender.loans.at? address = found at missing ⊢
  subst missing
  rfl

theorem openView_of_none {desk : Desk} {address size : Nat}
    (missing : (desk.openView address size).1 = none) :
    (desk.openView address size).2 = desk := by
  unfold openView at missing ⊢
  cases found : desk.lender.loans.find? address size with
  | none => rfl
  | some pair =>
    rw [found] at missing
    cases missing

theorem closeView_of_mem {desk : Desk} {view : View} (opened : view ∈ desk.lender.views) :
    ∃ aside, desk.closeView view =
      (desk.withViews (desk.lender.views.erase view)).amend
        ((desk.withViews (desk.lender.views.erase view)).unpinning view.block) aside := by
  unfold closeView
  rw [if_pos opened]
  exact unpin_eq (desk.withViews (desk.lender.views.erase view)) view.block

/-! ### Replicas -/

/-- What a replica that loses a holder sends to the reserve. -/
def unholding (desk : Desk) (replica : Replica) : List Traffic :=
  if desk.lender.replicas.holds replica.id then [] else replica.storage.retirement

theorem unholdReplica_eq (desk : Desk) (replica : Replica) :
    ∃ aside, desk.unholdReplica replica = desk.amend (desk.unholding replica) aside := by
  unfold unholdReplica unholding
  split
  · exact ⟨desk.aside, rfl⟩
  · obtain ⟨aside, retired⟩ := retireBlock_eq
      (desk.withReplicas (desk.lender.replicas.forget replica.id)) replica.storage
    exact ⟨aside, retired⟩

theorem fillReplica_eq (desk : Desk) (replica : Replica) :
    ∃ aside, desk.fillReplica replica = desk.amend [] aside := by
  refine ⟨(desk.fillReplica replica).aside, ?_⟩
  unfold fillReplica
  split <;> rfl

/-- What asking for a reference can come to. -/
inductive Referencing (desk : Desk) (address size : Nat) :
    Except Fault Replica × Desk → Prop where
  | refused (violation : Violation)
      (idle : address = 0 ∨ (desk.lender.replicas.entry? address).isSome) :
      Referencing desk address size (.error (.refused violation), desk)
  | counted (entry : ReplicaEntry) (aside : Aside)
      (found : desk.lender.replicas.entry? address = some entry)
      (same : entry.replica.size = size) :
      Referencing desk address size
        (.ok entry.replica,
          (desk.withReplicas
            (desk.lender.replicas.recount address (entry.references + 1))).amend [] aside)
  | failed (fault : Fault) (after : Desk)
      (missing : desk.lender.replicas.entry? address = none)
      (drawn : desk.procure size = (.error fault, after)) (present : address ≠ 0) :
      Referencing desk address size (.error fault, after)
  | made (storage : Block) (after : Desk) (aside : Aside)
      (missing : desk.lender.replicas.entry? address = none)
      (drawn : desk.procure size = (.ok storage, after)) (present : address ≠ 0) :
      Referencing desk address size
        (.ok ⟨after.arena.nextIdentity, address, size, storage⟩,
          (after.issue.withReplicas
            (after.lender.replicas.add
              ⟨after.arena.nextIdentity, address, size, storage⟩)).amend [] aside)

theorem makeReplica_of_error {desk after : Desk} {address size : Nat} {fault : Fault}
    (drawn : desk.procure size = (.error fault, after)) :
    desk.makeReplica address size = (.error fault, after) := by
  unfold makeReplica
  rw [drawn]

theorem makeReplica_of_ok {desk after : Desk} {size : Nat} {storage : Block}
    (drawn : desk.procure size = (.ok storage, after)) (address : Nat) :
    ∃ aside, desk.makeReplica address size =
      (.ok ⟨after.arena.nextIdentity, address, size, storage⟩,
        (after.issue.withReplicas
          (after.lender.replicas.add
            ⟨after.arena.nextIdentity, address, size, storage⟩)).amend [] aside) := by
  refine ⟨(desk.makeReplica address size).2.aside, ?_⟩
  unfold makeReplica
  rw [drawn]
  rfl

theorem referencing (desk : Desk) (address size : Nat) :
    Referencing desk address size (desk.reference address size) := by
  unfold reference
  by_cases null : address = 0
  · rw [if_pos null]
    exact .refused _ (Or.inl null)
  rw [if_neg null]
  cases found : desk.lender.replicas.entry? address with
  | some entry =>
    dsimp only
    by_cases same : entry.replica.size = size
    · rw [if_pos same]
      obtain ⟨aside, filled⟩ := fillReplica_eq
        (desk.withReplicas (desk.lender.replicas.recount address (entry.references + 1)))
        entry.replica
      rw [filled]
      exact .counted entry aside found same
    · rw [if_neg same]
      exact .refused _ (Or.inr (found ▸ rfl))
  | none =>
    rcases drawn : desk.procure size with ⟨fault | storage, after⟩
    · rw [makeReplica_of_error drawn]
      exact .failed fault after found drawn null
    · obtain ⟨aside, made⟩ := makeReplica_of_ok drawn address
      obtain ⟨aside', filled⟩ := fillReplica_eq ((after.issue.withReplicas
        (after.lender.replicas.add ⟨after.arena.nextIdentity, address, size, storage⟩)).amend
          [] aside) ⟨after.arena.nextIdentity, address, size, storage⟩
      rw [made]
      dsimp only
      rw [filled]
      exact .made storage after aside' found drawn null

theorem giveBack_of_absent {desk : Desk} {address : Nat}
    (missing : desk.lender.replicas.entry? address = none) :
    desk.giveBack address = (.error (.noReplica address), desk) := by
  unfold giveBack
  rw [missing]

theorem giveBack_of_last {desk : Desk} {address : Nat} {entry : ReplicaEntry}
    (found : desk.lender.replicas.entry? address = some entry)
    (last : entry.references - 1 = 0) :
    ∃ aside, desk.giveBack address =
      (.ok (), (desk.withReplicas (desk.lender.replicas.remove address)).amend
        ((desk.withReplicas (desk.lender.replicas.remove address)).unholding entry.replica)
        aside) := by
  unfold giveBack
  rw [found]
  dsimp only
  rw [if_pos last]
  obtain ⟨aside, unheld⟩ := unholdReplica_eq
    ((desk.withReplicas (desk.lender.replicas.remove address)).log (.replicaReleased address))
    entry.replica
  exact ⟨aside, Prod.ext rfl unheld⟩

theorem giveBack_of_more {desk : Desk} {address : Nat} {entry : ReplicaEntry}
    (found : desk.lender.replicas.entry? address = some entry)
    (more : entry.references - 1 ≠ 0) :
    desk.giveBack address =
      (.ok (), desk.withReplicas
        (desk.lender.replicas.recount address (entry.references - 1))) := by
  unfold giveBack
  rw [found]
  exact if_neg more

theorem leases_giveBack (desk : Desk) (address : Nat) :
    (desk.giveBack address).2.lender.replicas.leases = desk.lender.replicas.leases := by
  cases found : desk.lender.replicas.entry? address with
  | none => rw [giveBack_of_absent found]
  | some entry =>
    by_cases last : entry.references - 1 = 0
    · obtain ⟨aside, given⟩ := giveBack_of_last found last
      rw [given]
      rfl
    · rw [giveBack_of_more found last]
      rfl

/-- A lease that ends gives its reference back first, and lets go of the replica then. -/
theorem endLease_of_mem {desk : Desk} {replica : Replica}
    (held : replica ∈ desk.lender.replicas.leases) :
    ∃ aside aside', desk.endLease replica =
      let returned := (desk.giveBack replica.address).2.amend [] aside
      (returned.withLeases (returned.lender.replicas.leases.erase replica)).amend
        ((returned.withLeases (returned.lender.replicas.leases.erase replica)).unholding replica)
        aside' := by
  unfold endLease
  rw [if_pos held]
  rcases desk.giveBack replica.address with ⟨violation | _, returned⟩
  · obtain ⟨aside, logged⟩ := returned.log_eq (.leaseReturnFailed violation)
    refine ⟨aside, ?_⟩
    dsimp only
    rw [← logged]
    exact unholdReplica_eq _ replica
  · exact ⟨returned.aside, unholdReplica_eq _ replica⟩

theorem closeHandle_of_mem {desk : Desk} {replica : Replica}
    (held : replica ∈ desk.lender.replicas.handles) :
    ∃ aside, desk.closeHandle replica =
      (desk.withHandles (desk.lender.replicas.handles.erase replica)).amend
        ((desk.withHandles (desk.lender.replicas.handles.erase replica)).unholding replica)
        aside := by
  unfold closeHandle
  rw [if_pos held]
  exact unholdReplica_eq (desk.withHandles (desk.lender.replicas.handles.erase replica)) replica

/-! ### What the reserve sees -/

/-- What a reference asks of the reserve: storage, if a replica has to be made for it. -/
def askingReference (desk : Desk) (address size : Nat) : List Traffic :=
  if address = 0 ∨ (desk.lender.replicas.entry? address).isSome then []
  else Traffic.asking size

/-- What comes back to the reserve when a loan is asked for: the block of a loan that runs into
another one. -/
def backFromLending (desk : Desk) (size : Nat) : List Traffic :=
  match desk.blockFor size with
  | (.ok block, after) =>
    if (after.lender.loans.enter ⟨after.lender.nextToken, block, size⟩).isOk then []
    else block.retirement
  | (.error _, _) => []

/-- What comes back to the reserve when a loan is taken back. -/
def backFromReclaim (desk : Desk) (address : Nat) (token : Token) : List Traffic :=
  match desk.lender.loans.at? address with
  | some loan =>
    if loan.token = token then
      (desk.withLoans (desk.lender.loans.strike address)).unpinning loan.block
    else []
  | none => []

/-- What comes back to the reserve when a view is closed. -/
def backFromView (desk : Desk) (view : View) : List Traffic :=
  if view ∈ desk.lender.views then
    (desk.withViews (desk.lender.views.erase view)).unpinning view.block
  else []

/-- What comes back to the reserve when a reference is given back. -/
def backFromGiving (desk : Desk) (address : Nat) : List Traffic :=
  match desk.lender.replicas.entry? address with
  | none => []
  | some entry =>
    if entry.references - 1 = 0 then
      (desk.withReplicas (desk.lender.replicas.remove address)).unholding entry.replica
    else []

/-- What comes back to the reserve when a handle is closed. -/
def backFromHandle (desk : Desk) (replica : Replica) : List Traffic :=
  if replica ∈ desk.lender.replicas.handles then
    (desk.withHandles (desk.lender.replicas.handles.erase replica)).unholding replica
  else []

/-- What comes back to the reserve when a lease ends: what its reference brings back, and its own
storage. -/
def backFromLease (desk : Desk) (replica : Replica) : List Traffic :=
  if replica ∈ desk.lender.replicas.leases then
    let returned := (desk.giveBack replica.address).2
    desk.backFromGiving replica.address ++
      (returned.withLeases (returned.lender.replicas.leases.erase replica)).unholding replica
  else []

end Desk

end MemoryLending
