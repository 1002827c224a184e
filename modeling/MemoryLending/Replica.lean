/-
This file keeps account of the copies of foreign memory. Memory that the native layer owns is
read through a replica, and everybody who reads the same address shares one replica. The table
holds an entry with a count of references for each address in use. Besides the table, handles
and leases hold replicas: a handle only keeps the replica itself, a lease also has one of the
counted references. A replica exists as long as an entry, a handle or a lease holds it, and its
storage can be used again when none does.
-/

import MemoryLending.Arena
import MemoryLending.Violation

namespace MemoryLending

/-- A copy of `size` bytes of foreign memory, kept in a block of its own. Two replicas are the
same object when their identities agree. -/
structure Replica where
  id : Nat
  /-- The foreign address. -/
  address : Nat
  size : Nat
  storage : Block
  deriving DecidableEq, Repr, Inhabited

/-- The structural text of a replica. -/
def Replica.outline (replica : Replica) : String :=
  "ShadowBuffer \x7b address: " ++ Word.hex replica.address ++ s!", size: {replica.size} \x7d"

/-- The structural text of a lease of a replica. -/
def Replica.leaseOutline (replica : Replica) : String :=
  "ShadowLease(" ++ replica.outline ++ ")"

/-- A replica in the table with its count of references. -/
structure ReplicaEntry where
  replica : Replica
  references : Nat
  deriving DecidableEq, Repr, Inhabited

/-- The replicas of one lender and everybody who holds one. -/
structure ReplicaTable where
  entries : List ReplicaEntry
  handles : List Replica
  leases : List Replica
  /-- The identities of the replicas that have taken the foreign contents. -/
  filled : List Nat
  deriving Repr, Inhabited

namespace ReplicaTable

/-- The table in which nothing is held. -/
def empty : ReplicaTable := ⟨[], [], [], []⟩

/-- The number of entries. -/
def count (table : ReplicaTable) : Nat := table.entries.length

/-- The entry of an address. -/
def entry? (table : ReplicaTable) (address : Nat) : Option ReplicaEntry :=
  table.entries.find? fun entry => entry.replica.address == address

/-- The count of references at an address in use. -/
def references? (table : ReplicaTable) (address : Nat) : Option Nat :=
  (table.entry? address).map ReplicaEntry.references

/-- Whether an entry, a handle or a lease holds a replica. -/
def holds (table : ReplicaTable) (id : Nat) : Bool :=
  table.entries.any (·.replica.id == id) || table.handles.any (·.id == id) ||
    table.leases.any (·.id == id)

/-- Whether a replica has taken the foreign contents. -/
def isFilled (table : ReplicaTable) (id : Nat) : Bool :=
  table.filled.contains id

/-- Adds the entry of a new replica, with one reference. -/
def add (table : ReplicaTable) (replica : Replica) : ReplicaTable :=
  { table with entries := ⟨replica, 1⟩ :: table.entries }

/-- Sets the count of references at an address. -/
def recount (table : ReplicaTable) (address references : Nat) : ReplicaTable :=
  { table with
    entries := table.entries.map fun entry =>
      if entry.replica.address = address then { entry with references } else entry }

/-- Takes the entry of an address out of the table. -/
def remove (table : ReplicaTable) (address : Nat) : ReplicaTable :=
  { table with entries := table.entries.filter fun entry => entry.replica.address != address }

/-- Notes that a replica has taken the foreign contents. -/
def fill (table : ReplicaTable) (id : Nat) : ReplicaTable :=
  { table with filled := id :: table.filled }

/-- Forgets a replica that nobody holds any more. -/
def forget (table : ReplicaTable) (id : Nat) : ReplicaTable :=
  { table with filled := table.filled.erase id }

end ReplicaTable

end MemoryLending
