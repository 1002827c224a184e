/-
This file says which bytes a turn can change. A turn touches the fresh block that the heap places
for it, the storage of a replica that it makes, takes anew or writes into, the foreign bytes that
it pushes a replica onto, and the bytes that native code writes. Every byte that a turn does not
touch stays as it is, so that what a replica shows and what native code sees are followed by
keeping two ranges apart and by nothing else.
-/

import MemoryLending.Proofs.Contents
import MemoryLending.Proofs.Spacing

namespace MemoryLending

/-! ### Ranges of replicas and of native writes -/

/-- The foreign addresses that a replica is a copy of. -/
def Replica.foreign (replica : Replica) : Set Nat :=
  Set.Ico replica.address (replica.address + replica.size)

/-- Where native code writes, and how many bytes. -/
def Deed.span : Deed → Nat × Nat
  | .write address bytes => (address, bytes.size)
  | _ => (0, 0)

/-- The addresses that native code writes to. -/
def Deed.written (deed : Deed) : Set Nat := Set.Ico deed.span.1 (deed.span.1 + deed.span.2)

instance decidableForeign (block : Block) (replica : Replica) :
    Decidable (Disjoint block.range replica.foreign) :=
  inferInstanceAs (Decidable (Disjoint (Set.Ico _ _) (Set.Ico _ _)))

instance decidableWritten (block : Block) (deed : Deed) :
    Decidable (Disjoint block.range deed.written) :=
  inferInstanceAs (Decidable (Disjoint (Set.Ico _ _) (Set.Ico _ _)))

instance decidableRanges (first second : Block) : Decidable (Disjoint first.range second.range) :=
  inferInstanceAs (Decidable (Disjoint (Set.Ico _ _) (Set.Ico _ _)))

/-! ### Blocks that are supplied -/

namespace Desk

variable {desk : Desk} {size : Nat} {block : Block} {arena : Arena}

theorem Supplied.le_capacity (supplied : desk.Supplied size (.ok block) arena) :
    size ≤ block.capacity := by
  cases supplied with
  | kept _ _ room => exact room
  | placed => exact Nat.le_refl size

/-- A block that is supplied brings nothing but zeros, and those to its own addresses. -/
theorem Supplied.byte_outside (supplied : desk.Supplied size (.ok block) arena) {address : Nat}
    (outside : address ∉ block.range) :
    arena.memory.byte address = desk.arena.memory.byte address := by
  cases supplied with
  | kept => rfl
  | placed =>
    rw [Arena.byte_place]
    exact if_neg outside

end Desk

namespace Trade

/-- The memory of a trade. -/
def memory (trade : Trade) : Memory := trade.desk.arena.memory

/-- Every replica that somebody holds fits into its storage. -/
def Ample (trade : Trade) : Prop :=
  ∀ replica, trade.replicas.Has replica → replica.size ≤ replica.storage.capacity

theorem ample_opened (policy : Policy) (arena : Arena) : (opened policy arena).Ample :=
  fun replica had =>
    absurd ⟨.backing, replica, had, rfl⟩ (not_holds_opened policy arena replica.storage)

theorem Ample.take {trade : Trade} (ample : trade.Ample) (marked : trade.Marked) (turn : Turn) :
    (trade.take turn).Ample := by
  intro replica had
  cases impact marked turn with
  | still idle arena thins => exact ample replica (thins.has replica had)
  | placed idle other arena replicas => exact ample replica (replicas ▸ had)
  | made made arena asks supplied fresh filled marks has holds =>
    rcases (has replica).mp had with rfl | older
    · exact supplied.le_capacity
    · exact ample replica older
  | worked memory works arena replicas => exact ample replica (replicas ▸ had)

/-- What a replica shows is in its storage. -/
theorem Ample.stored {trade : Trade} (ample : trade.Ample) {replica : Replica}
    (had : trade.replicas.Has replica) :
    Set.Ico replica.storage.address (replica.storage.address + replica.size) ⊆
      replica.storage.range :=
  Set.Ico_subset_Ico_right (Nat.add_le_add_left (ample replica had) _)

/-! ### Work on memory -/

section Work

variable {trade : Trade} {place : Nat} {replica : Replica}

theorem memory_whereRead (work : Desk → Desk) (reading : trade.reads replica = true) :
    ((trade.ready place).whereRead replica work).memory =
      (work (trade.ready place).desk).arena.memory := by
  unfold whereRead
  rw [if_pos (show (trade.ready place).reads replica = true from reading)]
  rfl

theorem memory_unread (work : Desk → Desk) (unread : ¬trade.reads replica = true) :
    ((trade.ready place).whereRead replica work).memory = trade.memory := by
  unfold whereRead
  rw [if_neg (show ¬(trade.ready place).reads replica = true from unread)]
  rfl

theorem memory_pull (reading : trade.reads replica = true) :
    (trade.take ⟨.pull replica, place⟩).memory =
      trade.memory.copy replica.address replica.storage.address replica.size :=
  memory_whereRead (·.pull replica) reading

theorem memory_push (reading : trade.reads replica = true) :
    (trade.take ⟨.push replica, place⟩).memory =
      trade.memory.copy replica.storage.address replica.address replica.size :=
  memory_whereRead (·.push replica) reading

theorem memory_edit {offset : Nat} {bytes : Bytes} (reading : trade.reads replica = true)
    (inside : offset + bytes.size ≤ replica.size) :
    (trade.take ⟨.edit replica offset bytes, place⟩).memory =
      trade.memory.put (replica.storage.address + offset) bytes := by
  refine (memory_whereRead (fun desk => (desk.editReplica? replica offset bytes).getD desk)
    reading).trans ?_
  unfold Desk.editReplica?
  rw [if_pos inside]
  rfl

theorem memory_edit_beyond {offset : Nat} {bytes : Bytes}
    (beyond : ¬offset + bytes.size ≤ replica.size) :
    (trade.take ⟨.edit replica offset bytes, place⟩).memory = trade.memory := by
  have work : ∀ desk : Desk, (desk.editReplica? replica offset bytes).getD desk = desk := by
    intro desk
    unfold Desk.editReplica?
    rw [if_neg beyond]
    rfl
  show ((trade.ready place).whereRead replica _).memory = _
  by_cases reading : trade.reads replica = true
  · rw [memory_whereRead _ reading, work]
    rfl
  · exact memory_unread _ reading

end Work

/-! ### What a turn touches -/

/-- The addresses that a turn may change. -/
inductive Touches (trade : Trade) (turn : Turn) (address : Nat) : Prop where
  | placed (idle : turn.deed.works = false) (other : turn.deed.isSharing = false)
      (places : trade.Places turn) (within : address ∈ turn.range)
  | made (replica : Replica) (new : ¬trade.replicas.Has replica)
      (has : (trade.take turn).replicas.Has replica) (within : address ∈ replica.storage.range)
  | pulled (replica : Replica) (deed : turn.deed = .pull replica)
      (reading : trade.reads replica = true) (within : address ∈ replica.storage.range)
  | edited (replica : Replica) (offset : Nat) (bytes : Bytes)
      (deed : turn.deed = .edit replica offset bytes) (reading : trade.reads replica = true)
      (within : address ∈ replica.storage.range)
  | pushed (replica : Replica) (deed : turn.deed = .push replica)
      (reading : trade.reads replica = true) (within : address ∈ replica.foreign)
  | wrote (within : address ∈ turn.deed.written)

section Frame

variable {trade : Trade} {turn : Turn} {address : Nat}

/-- Work on memory changes nothing but what it touches. -/
theorem byte_work (ample : trade.Ample) (works : turn.deed.works = true)
    (untouched : ¬trade.Touches turn address) :
    (trade.take turn).memory.byte address = trade.memory.byte address := by
  obtain ⟨deed, place⟩ := turn
  cases deed with
  | pull replica =>
    by_cases reading : trade.reads replica = true
    · rw [memory_pull reading, Memory.byte_copy, if_neg]
      exact fun inside => untouched
        (.pulled replica rfl reading (ample.stored (trade.has_of_reads reading) inside))
    · exact congrArg (Memory.byte · address) (memory_unread (·.pull replica) reading)
  | push replica =>
    by_cases reading : trade.reads replica = true
    · rw [memory_push reading, Memory.byte_copy, if_neg]
      exact fun inside => untouched (.pushed replica rfl reading inside)
    · exact congrArg (Memory.byte · address) (memory_unread (·.push replica) reading)
  | edit replica offset bytes =>
    by_cases reading : trade.reads replica = true
    · by_cases inside : offset + bytes.size ≤ replica.size
      · rw [memory_edit reading inside, Memory.byte_put, if_neg]
        rintro ⟨low, high⟩
        have fits := ample replica (trade.has_of_reads reading)
        exact untouched (.edited replica offset bytes rfl reading ⟨by omega, by omega⟩)
      · rw [memory_edit_beyond inside]
    · exact congrArg (Memory.byte · address) (memory_unread _ reading)
  | write start bytes =>
    refine (Memory.byte_put _ _ _ _).trans (if_neg fun inside => untouched (.wrote inside))
  | _ => cases works

/-- A turn changes nothing but what it touches. -/
theorem byte_take (custody : trade.Custody) (marked : trade.Marked) (ample : trade.Ample)
    (untouched : ¬trade.Touches turn address) :
    (trade.take turn).memory.byte address = trade.memory.byte address := by
  cases impact marked turn with
  | still idle arena thins => exact congrArg (fun arena => arena.memory.byte address) arena
  | placed idle other arena replicas =>
    have placed := congrArg (fun arena => arena.memory.byte address) arena
    refine placed.trans ((Arena.byte_place _ _ _).trans (if_neg fun inside => ?_))
    exact untouched (.placed idle other (congrArg Arena.announced arena) inside)
  | made replica arena asks supplied fresh filled marks has holds =>
    have later : trade.issued < replica.id := fresh ▸ Nat.lt_succ_of_le supplied.identities_le
    have new : ¬trade.replicas.Has replica := fun had =>
      Nat.not_le_of_lt later (custody.shared.numbered replica had)
    have outside : address ∉ replica.storage.range := fun within =>
      untouched (.made replica new ((has replica).mpr (Or.inl rfl)) within)
    have copied := congrArg (fun arena => arena.memory.byte address) filled
    refine copied.trans ((Memory.byte_copy _ _ _ _ _).trans ?_)
    rw [if_neg]
    · exact supplied.byte_outside outside
    · rintro ⟨low, high⟩
      have fits := supplied.le_capacity
      exact outside ⟨low, by omega⟩
  | worked memory works arena replicas => exact byte_work ample works untouched

/-- What a range shows stays the same while no turn touches it. -/
theorem bytes_take (custody : trade.Custody) (marked : trade.Marked) (ample : trade.Ample)
    {start length : Nat}
    (untouched : ∀ address ∈ Set.Ico start (start + length), ¬trade.Touches turn address) :
    (trade.take turn).memory.bytes start length = trade.memory.bytes start length :=
  Memory.bytes_congr fun index within =>
    byte_take custody marked ample (untouched (start + index) ⟨by omega, by omega⟩)

end Frame

end Trade

end MemoryLending
