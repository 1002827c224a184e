/-
This file shares copies of foreign memory. The first one who asks for an address makes the
replica, with storage from the reserve, and it takes the foreign contents once; everybody after
that gets the same replica and one more reference to it. References are given back by address.
A replica is not kept equal to the foreign memory: `pull` takes the contents anew and `push`
writes them back.
-/

import MemoryLending.Lender

namespace MemoryLending

namespace Desk

/-- Copies the foreign contents into the storage of a replica. -/
def pull (desk : Desk) (replica : Replica) : Desk :=
  { desk with arena := desk.arena.copy replica.address replica.storage.address replica.size }

/-- Copies the storage of a replica onto the foreign memory. -/
def push (desk : Desk) (replica : Replica) : Desk :=
  { desk with arena := desk.arena.copy replica.storage.address replica.address replica.size }

/-- Takes the foreign contents, unless the replica has taken them already. -/
def fillReplica (desk : Desk) (replica : Replica) : Desk :=
  if desk.lender.replicas.isFilled replica.id then desk
  else
    let desk := desk.pull replica
    (desk.withReplicas (desk.lender.replicas.fill replica.id)).log
      (.replicaFilled replica.address replica.size)

/-- Makes the replica of an address that has none, with one reference. -/
def makeReplica (desk : Desk) (address size : Nat) : Except Fault Replica × Desk :=
  match desk.procure size with
  | (.error fault, desk) => (.error fault, desk)
  | (.ok storage, desk) =>
    let replica : Replica := ⟨desk.arena.nextIdentity, address, size, storage⟩
    let desk := { desk with arena := desk.arena.identify }
    (.ok replica,
      (desk.withReplicas (desk.lender.replicas.add replica)).log (.replicaCreated address size))

/-- Takes a reference to the replica of an address, making the replica if there is none. -/
def reference (desk : Desk) (address size : Nat) : Except Fault Replica × Desk :=
  if address = 0 then (.error (.refused .nullAddress), desk)
  else
    match desk.lender.replicas.entry? address with
    | some entry =>
      if entry.replica.size = size then
        let replicas := desk.lender.replicas.recount address (entry.references + 1)
        (.ok entry.replica, (desk.withReplicas replicas).fillReplica entry.replica)
      else (.error (.refused (.sizeMismatch address entry.replica.size size)), desk)
    | none =>
      match desk.makeReplica address size with
      | (.ok replica, desk) => (.ok replica, desk.fillReplica replica)
      | (.error fault, desk) => (.error fault, desk)

/-- Lets go of a replica that has lost a holder: without any, its storage goes back. -/
def unholdReplica (desk : Desk) (replica : Replica) : Desk :=
  if desk.lender.replicas.holds replica.id then desk
  else
    (desk.withReplicas (desk.lender.replicas.forget replica.id)).retireBlock replica.storage

/-- Gives a reference at an address back. The last one takes the entry out of the table. -/
def giveBack (desk : Desk) (address : Nat) : Except Violation Unit × Desk :=
  match desk.lender.replicas.entry? address with
  | none => (.error (.noReplica address), desk)
  | some entry =>
    if entry.references - 1 = 0 then
      let desk := desk.withReplicas (desk.lender.replicas.remove address)
      (.ok (), (desk.log (.replicaReleased address)).unholdReplica entry.replica)
    else
      (.ok (), desk.withReplicas (desk.lender.replicas.recount address (entry.references - 1)))

/-! ### Handles and leases -/

/-- Takes up one more handle of a replica. -/
def openHandle (desk : Desk) (replica : Replica) : Desk :=
  desk.withReplicas
    { desk.lender.replicas with handles := replica :: desk.lender.replicas.handles }

/-- Lets go of a handle. References are not touched. -/
def closeHandle (desk : Desk) (replica : Replica) : Desk :=
  if replica ∈ desk.lender.replicas.handles then
    (desk.withReplicas
      { desk.lender.replicas with
        handles := desk.lender.replicas.handles.erase replica }).unholdReplica replica
  else desk

/-- Takes a reference and a handle of the replica. The reference has to be given back by
address. -/
def share (desk : Desk) (address size : Nat) : Except Fault Replica × Desk :=
  match desk.reference address size with
  | (.ok replica, desk) => (.ok replica, desk.openHandle replica)
  | (.error fault, desk) => (.error fault, desk)

/-- Takes a lease: a reference that is given back when the lease ends. -/
def takeLease (desk : Desk) (address size : Nat) : Except Fault Replica × Desk :=
  match desk.reference address size with
  | (.ok replica, desk) =>
    (.ok replica,
      desk.withReplicas
        { desk.lender.replicas with leases := replica :: desk.lender.replicas.leases })
  | (.error fault, desk) => (.error fault, desk)

/-- Ends a lease: its reference is given back by address, then the lease lets go of the
replica. -/
def endLease (desk : Desk) (replica : Replica) : Desk :=
  if replica ∈ desk.lender.replicas.leases then
    let desk :=
      match desk.giveBack replica.address with
      | (.ok (), desk) => desk
      | (.error violation, desk) => desk.log (.leaseReturnFailed violation)
    (desk.withReplicas
      { desk.lender.replicas with
        leases := desk.lender.replicas.leases.erase replica }).unholdReplica replica
  else desk

/-! ### Contents -/

/-- The contents of a replica. -/
def replicaBytes (desk : Desk) (replica : Replica) : Bytes :=
  desk.arena.read replica.storage.address replica.size

/-- Writes into a replica from an offset on, if the bytes end inside it. The foreign memory is
not touched. -/
def editReplica? (desk : Desk) (replica : Replica) (offset : Nat) (bytes : Bytes) : Option Desk :=
  if offset + bytes.size ≤ replica.size then
    some { desk with arena := desk.arena.write (replica.storage.address + offset) bytes }
  else none

end Desk

end MemoryLending
