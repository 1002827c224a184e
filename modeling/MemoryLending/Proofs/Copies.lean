/-
This file follows the contents of replicas. A replica shows what native code saw when the replica
was made, and from then on its contents are its history: whoever reads it takes the foreign bytes
anew or writes into it, and nothing else that happens changes what it shows, neither native
writes nor other replicas nor the return of its references. On the other side, replicas change
native memory only by a push, which brings the contents of one replica to its foreign range.
-/

import MemoryLending.Proofs.Footprint

namespace MemoryLending

instance decidableHas (table : ReplicaTable) (replica : Replica) : Decidable (table.Has replica) :=
  decidable_of_iff _ ReplicaTable.mem_held

/-- Whether a deed makes replicas, uses them or lets go of them, and writes none back. -/
def Deed.copies : Deed → Bool
  | .pull _ | .edit .. => true
  | deed => deed.isSharing

theorem Deed.copies_of_idle {deed : Deed} (idle : deed.works = false)
    (other : deed.isSharing = false) : deed.copies = false := by
  cases deed with
  | pull replica => cases idle
  | edit replica offset bytes => cases idle
  | _ => exact other

/-- Whether a deed brings a replica and its foreign range into step. -/
def Deed.Syncs (deed : Deed) (replica : Replica) : Prop :=
  deed = .pull replica ∨ deed = .push replica

namespace Trade

/-! ### Two memories -/

/-- What a replica shows. -/
def content (trade : Trade) (replica : Replica) : List UInt8 :=
  (trade.desk.replicaBytes replica).toList

/-- The foreign bytes that a replica is a copy of, as they are now. -/
def native (trade : Trade) (replica : Replica) : List UInt8 :=
  (trade.desk.arena.read replica.address replica.size).toList

theorem content_eq (trade : Trade) (replica : Replica) :
    trade.content replica = trade.memory.bytes replica.storage.address replica.size :=
  trade.memory.toList_cut replica.storage.address replica.size

theorem native_eq (trade : Trade) (replica : Replica) :
    trade.native replica = trade.memory.bytes replica.address replica.size :=
  trade.memory.toList_cut replica.address replica.size

/-- The storage of a replica meets no other storage and no foreign range. -/
structure Detached (trade : Trade) : Prop where
  storage : ∀ first second, trade.replicas.Has first → trade.replicas.Has second →
    first.storage ≠ second.storage → Disjoint first.storage.range second.storage.range
  foreign : ∀ first second, trade.replicas.Has first → trade.replicas.Has second →
    Disjoint first.storage.range second.foreign

/-- The storage of replicas is kept apart: from one another, from the foreign ranges, from fresh
blocks and from the writes of native code. -/
def Sheltered (trade : Trade) (turn : Turn) : Prop :=
  (trade.take turn).Detached ∧
    ∀ replica, trade.replicas.Has replica →
      (trade.Places turn → Disjoint replica.storage.range turn.range) ∧
        Disjoint replica.storage.range turn.deed.written

instance decidableDetached (trade : Trade) : Decidable trade.Detached :=
  decidable_of_iff
    (∀ first ∈ trade.replicas.held, ∀ second ∈ trade.replicas.held,
      (first.storage ≠ second.storage → Disjoint first.storage.range second.storage.range) ∧
        Disjoint first.storage.range second.foreign)
    ⟨fun apart =>
      { storage := fun first second had had' =>
          (apart first (ReplicaTable.mem_held.mpr had) second (ReplicaTable.mem_held.mpr had')).1
        foreign := fun first second had had' =>
          (apart first (ReplicaTable.mem_held.mpr had) second
            (ReplicaTable.mem_held.mpr had')).2 },
    fun detached first member second member' =>
      ⟨detached.storage first second (ReplicaTable.mem_held.mp member)
          (ReplicaTable.mem_held.mp member'),
        detached.foreign first second (ReplicaTable.mem_held.mp member)
          (ReplicaTable.mem_held.mp member')⟩⟩

instance decidableSheltered (trade : Trade) (turn : Turn) : Decidable (trade.Sheltered turn) :=
  decidable_of_iff
    ((trade.take turn).Detached ∧
      ∀ replica ∈ trade.replicas.held,
        (trade.Places turn → Disjoint replica.storage.range turn.range) ∧
          Disjoint replica.storage.range turn.deed.written)
    (and_congr_right fun _ => forall_congr' fun _ => imp_congr_left ReplicaTable.mem_held)

/-- What sheltered turns keep. -/
structure Secure (trade : Trade) : Prop where
  custody : trade.Custody
  marked : trade.Marked
  ample : trade.Ample
  detached : trade.Detached

theorem secure_opened (policy : Policy) (arena : Arena) : (opened policy arena).Secure where
  custody := custody_opened policy arena
  marked := marked_opened policy arena
  ample := ample_opened policy arena
  detached :=
    { storage := fun first _ had =>
        absurd ⟨.backing, first, had, rfl⟩ (not_holds_opened policy arena first.storage)
      foreign := fun first _ had =>
        absurd ⟨.backing, first, had, rfl⟩ (not_holds_opened policy arena first.storage) }

theorem Secure.take {trade : Trade} (secure : trade.Secure) {turn : Turn}
    (sheltered : trade.Sheltered turn) : (trade.take turn).Secure where
  custody := secure.custody.take turn
  marked := secure.marked.take turn
  ample := secure.ample.take secure.marked turn
  detached := sheltered.1

/-- Two replicas have nothing of their storage in common. -/
theorem storages_apart {trade : Trade} (custody : trade.Custody) (detached : trade.Detached)
    {first second : Replica} (had : trade.replicas.Has first) (had' : trade.replicas.Has second)
    (different : first ≠ second) : Disjoint first.storage.range second.storage.range := by
  by_cases same : first.storage = second.storage
  · -- Only the block without bytes is storage of two replicas.
    have none : first.storage.id = 0 := by
      by_contra real
      exact different
        (custody.shared.storage first second had had' (congrArg Block.id same) real)
    have empty := custody.named.empty first.storage ⟨.backing, first, had, rfl⟩ none
    rw [empty, Block.range_empty]
    exact disjoint_bot_left
  · exact detached.storage first second had had' same

/-! ### One turn -/

/-- What a turn makes of the contents of a replica. A replica that is made takes the foreign
bytes, and so does one that somebody pulls; an edit changes the positions it writes. -/
def follow (trade : Trade) (replica : Replica) (turn : Turn) (content : List UInt8) : List UInt8 :=
  if ¬trade.replicas.Has replica ∧ (trade.take turn).replicas.Has replica then
    trade.native replica
  else
    match turn.deed with
    | .pull other =>
      if other = replica ∧ trade.reads replica = true then trade.native replica else content
    | .edit other offset bytes =>
      if other = replica ∧ trade.reads replica = true ∧ offset + bytes.size ≤ replica.size then
        content.take offset ++ bytes.toList ++ content.drop (offset + bytes.size)
      else content
    | _ => content

/-- What a run makes of the contents of a replica. -/
def history (replica : Replica) : Trade → List UInt8 → List Turn → List UInt8
  | _, content, [] => content
  | trade, content, turn :: rest =>
    history replica (trade.take turn) (trade.follow replica turn content) rest

section Turn

variable {trade : Trade} {turn : Turn} {replica : Replica} {place : Nat}
  (secure : trade.Secure) (sheltered : trade.Sheltered turn)

include secure sheltered in
/-- Only those who work on a replica change what it shows. -/
theorem content_kept (had : trade.replicas.Has replica)
    (has : (trade.take turn).replicas.Has replica)
    (pulled : trade.reads replica = true → turn.deed ≠ .pull replica)
    (edited : ∀ offset bytes, turn.deed ≠ .edit replica offset bytes) :
    (trade.take turn).content replica = trade.content replica := by
  rw [content_eq, content_eq]
  refine bytes_take secure.custody secure.marked secure.ample fun address shown touches => ?_
  have stored := secure.ample.stored had shown
  have apart : ∀ other, trade.replicas.Has other → other ≠ replica →
      address ∉ other.storage.range := fun other had' different =>
    Set.disjoint_left.mp
      (storages_apart secure.custody secure.detached had had' different.symm) stored
  cases touches with
  | placed idle other places within =>
    exact Set.disjoint_left.mp ((sheltered.2 replica had).1 places) stored within
  | made other new has' within =>
    have different : replica ≠ other := fun same => new (same ▸ had)
    exact Set.disjoint_left.mp
      (storages_apart (secure.custody.take turn) sheltered.1 has has' different) stored within
  | pulled other deed reading within =>
    refine apart other (trade.has_of_reads reading) (fun same => ?_) within
    exact pulled (same ▸ reading) (same ▸ deed)
  | edited other offset bytes deed reading within =>
    refine apart other (trade.has_of_reads reading) (fun same => ?_) within
    exact edited offset bytes (same ▸ deed)
  | pushed other deed reading within =>
    exact Set.disjoint_left.mp
      (secure.detached.foreign replica other had (trade.has_of_reads reading)) stored within
  | wrote within => exact Set.disjoint_left.mp (sheltered.2 replica had).2 stored within

theorem content_pull (reading : trade.reads replica = true) :
    (trade.take ⟨.pull replica, place⟩).content replica = trade.native replica := by
  rw [content_eq, native_eq, memory_pull reading, Memory.bytes_copy]

theorem native_push (reading : trade.reads replica = true) :
    (trade.take ⟨.push replica, place⟩).native replica = trade.content replica := by
  rw [content_eq, native_eq, memory_push reading, Memory.bytes_copy]

theorem content_edit {offset : Nat} {bytes : Bytes} (reading : trade.reads replica = true)
    (inside : offset + bytes.size ≤ replica.size) :
    (trade.take ⟨.edit replica offset bytes, place⟩).content replica =
      (trade.content replica).take offset ++ bytes.toList ++
        (trade.content replica).drop (offset + bytes.size) := by
  rw [content_eq, content_eq, memory_edit reading inside, Memory.bytes_put_inside _ inside]

include secure sheltered in
/-- A replica that is made shows what native code saw, whatever its storage held before. -/
theorem content_made (new : ¬trade.replicas.Has replica)
    (had : (trade.take turn).replicas.Has replica) :
    (trade.take turn).content replica = trade.native replica := by
  cases impact secure.marked turn with
  | still idle arena thins => exact absurd (thins.has replica had) new
  | placed idle other arena replicas => exact absurd (replicas ▸ had) new
  | worked memory works arena replicas => exact absurd (replicas ▸ had) new
  | made made arena asks supplied fresh filled marks has holds =>
    obtain rfl := ((has replica).mp had).resolve_right new
    have memory : (trade.take turn).memory =
        arena.memory.copy replica.address replica.storage.address replica.size :=
      congrArg Arena.memory filled
    rw [content_eq, native_eq, memory, Memory.bytes_copy]
    refine Memory.bytes_congr fun index within => supplied.byte_outside fun inside => ?_
    exact Set.disjoint_left.mp (sheltered.1.foreign replica replica had had) inside
      ⟨by omega, by omega⟩

include secure sheltered in
/-- The contents of a replica after a turn follow from its contents before. -/
theorem content_take (had : (trade.take turn).replicas.Has replica) :
    (trade.take turn).content replica =
      trade.follow replica turn (trade.content replica) := by
  by_cases old : trade.replicas.Has replica
  · unfold follow
    rw [if_neg fun made => made.1 old]
    obtain ⟨deed, place⟩ := turn
    cases deed with
    | pull other =>
      dsimp only
      split
      · rename_i worked
        obtain ⟨rfl, reading⟩ := worked
        exact content_pull reading
      · rename_i idle
        refine content_kept secure sheltered old had (fun reading same => ?_) nofun
        exact idle ⟨Deed.pull.inj same, reading⟩
    | edit other offset bytes =>
      dsimp only
      split
      · rename_i worked
        obtain ⟨rfl, reading, inside⟩ := worked
        exact content_edit reading inside
      · rename_i idle
        by_cases same : other = replica
        · subst same
          rw [content_eq, content_eq]
          refine congrArg (Memory.bytes · _ _) ?_
          by_cases reading : trade.reads other = true
          · exact memory_edit_beyond fun inside => idle ⟨rfl, reading, inside⟩
          · exact memory_unread _ reading
        · refine content_kept secure sheltered old had nofun fun _ _ deed => ?_
          exact same (Deed.edit.inj deed).1
    | _ => exact content_kept secure sheltered old had nofun nofun
  · unfold follow
    rw [if_pos ⟨old, had⟩]
    exact content_made secure sheltered old had

end Turn

/-- The contents of a replica that somebody holds are its history. -/
theorem content_run {trade : Trade} (secure : trade.Secure) {turns : List Turn}
    (sheltered : trade.Throughout Sheltered turns) {replica : Replica} {content : List UInt8}
    (shown : trade.replicas.Has replica → trade.content replica = content)
    (had : (trade.run turns).replicas.Has replica) :
    (trade.run turns).content replica = history replica trade content turns := by
  induction turns generalizing trade content with
  | nil => exact shown had
  | cons turn rest inductionHypothesis =>
    refine inductionHypothesis (secure.take sheltered.1) sheltered.2 (fun has => ?_) had
    rw [content_take secure sheltered.1 has]
    by_cases old : trade.replicas.Has replica
    · rw [shown old]
    · unfold follow
      rw [if_pos ⟨old, has⟩, if_pos ⟨old, has⟩]

/-! ### Native memory -/

/-- Whether a replica shows the foreign bytes as they are now. -/
def InStep (trade : Trade) (replica : Replica) : Prop :=
  trade.content replica = trade.native replica

/-- A turn that writes nothing to the foreign range of a replica, and nothing into the replica. -/
structure Leaves (trade : Trade) (replica : Replica) (turn : Turn) : Prop where
  written : Disjoint replica.foreign turn.deed.written
  pushed : ∀ other, turn.deed = .push other → Disjoint replica.foreign other.foreign
  placed : trade.Places turn → Disjoint replica.foreign turn.range
  edited : ∀ offset bytes, turn.deed ≠ .edit replica offset bytes

section Native

variable {trade : Trade} {turn : Turn} {replica : Replica} (secure : trade.Secure)

/-- Replicas that are not pushed change their storage and nothing else. -/
theorem byte_copies (custody : trade.Custody) (marked : trade.Marked) (ample : trade.Ample)
    (copies : turn.deed.copies = true) {address : Nat}
    (outside : ∀ replica, (trade.take turn).replicas.Has replica →
      address ∉ replica.storage.range) :
    (trade.take turn).memory.byte address = trade.memory.byte address := by
  have still : ∀ replica, trade.replicas.Has replica → turn.deed.isSharing = false →
      (trade.take turn).replicas.Has replica := fun replica had other =>
    (trade.replicas_take other).symm ▸ had
  refine byte_take custody marked ample fun touches => ?_
  cases touches with
  | placed idle other places within =>
    exact Bool.eq_false_iff.mp (Deed.copies_of_idle idle other) copies
  | made replica new has within => exact outside replica has within
  | pulled replica deed reading within =>
    exact outside replica (still replica (trade.has_of_reads reading) (deed ▸ rfl)) within
  | edited replica offset bytes deed reading within =>
    exact outside replica (still replica (trade.has_of_reads reading) (deed ▸ rfl)) within
  | pushed replica deed reading within =>
    rw [deed] at copies
    cases copies
  | wrote within =>
    obtain ⟨deed, place⟩ := turn
    cases deed with
    | write address bytes => cases copies
    | _ => exact Nat.not_lt_of_le within.1 within.2

/-- A push writes to the foreign range of its replica and nowhere else. -/
theorem byte_push {place address : Nat} (outside : address ∉ replica.foreign) :
    (trade.take ⟨.push replica, place⟩).memory.byte address = trade.memory.byte address := by
  by_cases reading : trade.reads replica = true
  · rw [memory_push reading, Memory.byte_copy]
    exact if_neg outside
  · exact congrArg (Memory.byte · address) (memory_unread (·.push replica) reading)

include secure in
theorem native_kept (sheltered : trade.Sheltered turn) (leaves : trade.Leaves replica turn)
    (had : trade.replicas.Has replica) (has : (trade.take turn).replicas.Has replica) :
    (trade.take turn).native replica = trade.native replica := by
  rw [native_eq, native_eq]
  refine bytes_take secure.custody secure.marked secure.ample fun address seen touches => ?_
  have apart : ∀ other, trade.reads other = true → address ∉ other.storage.range :=
    fun other reading within => Set.disjoint_left.mp
      (secure.detached.foreign other replica (trade.has_of_reads reading) had) within seen
  cases touches with
  | placed idle other places within =>
    exact Set.disjoint_left.mp (leaves.placed places) seen within
  | made other new has' within =>
    exact Set.disjoint_left.mp (sheltered.1.foreign other replica has' has) within seen
  | pulled other deed reading within => exact apart other reading within
  | edited other offset bytes deed reading within => exact apart other reading within
  | pushed other deed reading within =>
    exact Set.disjoint_left.mp (leaves.pushed other deed) seen within
  | wrote within => exact Set.disjoint_left.mp leaves.written seen within

include secure in
theorem Secure.take_of_syncs (syncs : turn.deed.Syncs replica) : (trade.take turn).Secure := by
  have other : turn.deed.isSharing = false := by
    rcases syncs with deed | deed <;> exact deed ▸ rfl
  have same := trade.replicas_take other
  refine ⟨secure.custody.take turn, secure.marked.take turn, secure.ample.take secure.marked turn,
    ⟨?_, ?_⟩⟩
  · exact fun first second had had' =>
      secure.detached.storage first second (same ▸ had) (same ▸ had')
  · exact fun first second had had' =>
      secure.detached.foreign first second (same ▸ had) (same ▸ had')

include secure in
/-- A replica that is pulled or pushed is in step with its foreign range. -/
theorem inStep_of_syncs (syncs : turn.deed.Syncs replica) (reading : trade.reads replica = true) :
    (trade.take turn).InStep replica := by
  have had := trade.has_of_reads reading
  have apart := (secure.detached.foreign replica replica had had).mono_left
    (secure.ample.stored had)
  obtain ⟨deed, place⟩ := turn
  rcases syncs with rfl | rfl
  · have native : (trade.take ⟨.pull replica, place⟩).native replica = trade.native replica := by
      rw [native_eq, native_eq, memory_pull reading, Memory.bytes_copy_apart _ _ _ _ apart.symm]
    exact (content_pull reading).trans native.symm
  · have content : (trade.take ⟨.push replica, place⟩).content replica =
        trade.content replica := by
      rw [content_eq, content_eq, memory_push reading, Memory.bytes_copy_apart _ _ _ _ apart]
    exact content.trans (native_push reading).symm

/-- What is in step needs neither a pull nor a push. -/
theorem byte_of_inStep (syncs : turn.deed.Syncs replica)
    (inStep : trade.reads replica = true → trade.InStep replica) (address : Nat) :
    (trade.take turn).memory.byte address = trade.memory.byte address := by
  obtain ⟨deed, place⟩ := turn
  by_cases reading : trade.reads replica = true
  · have same := inStep reading
    unfold InStep at same
    rw [content_eq, native_eq] at same
    rcases syncs with rfl | rfl
    · rw [memory_pull reading]
      exact Memory.byte_copy_of_same same address
    · rw [memory_push reading]
      exact Memory.byte_copy_of_same same.symm address
  · rcases syncs with rfl | rfl <;>
      exact congrArg (Memory.byte · address) (memory_unread _ reading)

include secure in
theorem InStep.take (inStep : trade.InStep replica) (sheltered : trade.Sheltered turn)
    (leaves : trade.Leaves replica turn) (had : trade.replicas.Has replica)
    (has : (trade.take turn).replicas.Has replica) : (trade.take turn).InStep replica := by
  unfold InStep at inStep ⊢
  rw [content_take secure sheltered has, native_kept secure sheltered leaves had has, inStep]
  unfold follow
  rw [if_neg fun made => made.1 had]
  split
  · exact ite_self _
  · rename_i other offset bytes deed
    rw [if_neg]
    rintro ⟨rfl, -, -⟩
    exact leaves.edited offset bytes deed
  · rfl

end Native

/-- A replica that is held late and was numbered early was held all the time. -/
theorem Marked.has_of_run {trade : Trade} (marked : trade.Marked) {turns : List Turn}
    {replica : Replica} (had : (trade.run turns).replicas.Has replica)
    (old : replica.id ≤ trade.issued) : trade.replicas.Has replica := by
  induction turns generalizing trade with
  | nil => exact had
  | cons turn rest inductionHypothesis =>
    have has := inductionHypothesis (marked.take turn) had
      (Nat.le_trans old (trade.issued_le_take turn))
    exact (marked.has_take has).resolve_right (Nat.not_lt_of_le old)

theorem InStep.run {trade : Trade} {replica : Replica} (inStep : trade.InStep replica)
    (secure : trade.Secure) {turns : List Turn}
    (left : trade.Throughout (fun trade turn => trade.Sheltered turn ∧ trade.Leaves replica turn)
      turns)
    (had : trade.replicas.Has replica) (has : (trade.run turns).replicas.Has replica) :
    (trade.run turns).InStep replica := by
  induction turns generalizing trade with
  | nil => exact inStep
  | cons turn rest inductionHypothesis =>
    obtain ⟨⟨sheltered, leaves⟩, left⟩ := left
    have old := Nat.le_trans (secure.custody.shared.numbered replica had)
      (trade.issued_le_take turn)
    have had' := (secure.marked.take turn).has_of_run has old
    exact inductionHypothesis (inStep.take secure sheltered leaves had had')
      (secure.take sheltered) left had' has

/-! ### Contents are history -/

/-- What holders of replicas, and native code besides them, can rely on. -/
structure Copies (trade : Trade) : Prop where
  /-- A replica shows as many bytes as it was asked for, all out of its own storage. -/
  sized : ∀ replica, trade.replicas.Has replica →
    (trade.content replica).length = replica.size ∧ replica.size ≤ replica.storage.capacity
  /-- Nobody holds a replica that has not taken the foreign bytes yet. -/
  filled : ∀ replica, trade.replicas.Has replica → trade.replicas.isFilled replica.id = true
  /-- All who hold a replica see the same. -/
  shared : ∀ first second, trade.replicas.Has first → trade.replicas.Has second →
    first.id = second.id → trade.content first = trade.content second
  /-- Unless a replica is pushed, no byte changes but in the storage of replicas. -/
  quiet : ∀ turn, turn.deed.copies = true →
    ∀ address, (∀ replica, (trade.take turn).replicas.Has replica →
      address ∉ replica.storage.range) →
      (trade.take turn).memory.byte address = trade.memory.byte address
  /-- A push brings the contents to the foreign range, and changes nothing else. -/
  pushed : ∀ replica place, trade.reads replica = true →
    (trade.take ⟨.push replica, place⟩).native replica = trade.content replica ∧
      ∀ address, address ∉ replica.foreign →
        (trade.take ⟨.push replica, place⟩).memory.byte address = trade.memory.byte address
  /-- After a pull or a push another one changes nothing, as long as the foreign range and the
  replica are not written to. -/
  settled : ∀ replica turn, turn.deed.Syncs replica → trade.reads replica = true →
    ∀ rest, (trade.take turn).Throughout
      (fun trade turn => trade.Sheltered turn ∧ trade.Leaves replica turn) rest →
      ∀ later, later.deed.Syncs replica →
        ∀ address, (((trade.take turn).run rest).take later).memory.byte address =
          ((trade.take turn).run rest).memory.byte address

theorem Secure.copies {trade : Trade} (secure : trade.Secure) : Copies trade where
  sized replica had := by
    rw [content_eq, Memory.length_bytes]
    exact ⟨rfl, secure.ample replica had⟩
  filled replica had := List.contains_iff_mem.mpr (secure.marked.filled replica had)
  shared first second had had' same :=
    congrArg trade.content (secure.custody.shared.replica first second had had' same)
  quiet turn copies address := byte_copies secure.custody secure.marked secure.ample copies
  pushed replica place reading := ⟨native_push reading, fun address => byte_push⟩
  settled replica turn syncs reading rest left later syncs' address := by
    refine byte_of_inStep syncs' (fun reading' => ?_) address
    have inStep := inStep_of_syncs secure syncs reading
    have secure' := secure.take_of_syncs syncs
    have has := has_of_reads _ reading'
    have old := Nat.le_trans
      (secure.custody.shared.numbered replica (trade.has_of_reads reading))
      (trade.issued_le_take turn)
    exact inStep.run secure' left (secure'.marked.has_of_run has old) has

/-- Where the storage of replicas is kept apart, the contents of every replica that somebody
holds are its history, and native memory is written back to by pushes alone. -/
theorem copies_run (policy : Policy) (arena : Arena) (turns : List Turn)
    (sheltered : (opened policy arena).Throughout Sheltered turns) :
    Copies ((opened policy arena).run turns) ∧
      ∀ replica, ((opened policy arena).run turns).replicas.Has replica →
        ((opened policy arena).run turns).content replica =
          history replica (opened policy arena) [] turns := by
  have secure : ((opened policy arena).run turns).Secure :=
    throughout_induction (secure_opened policy arena) sheltered
      fun _ _ sheltered secure => secure.take sheltered
  refine ⟨secure.copies, fun replica had => ?_⟩
  refine content_run (secure_opened policy arena) sheltered (fun had => ?_) had
  exact absurd ⟨.backing, replica, had, rfl⟩ (not_holds_opened policy arena replica.storage)

/-- Storage of sixteen bytes that are all seven becomes that of a replica of four bytes, which
native code overwrites and a reader edits. -/
theorem copies_run_recycled :
    let storage : Block := ⟨1, 4096, 16, true⟩
    let replica : Replica := ⟨2, 64, 4, storage⟩
    let turns : List Turn :=
      [⟨.rent 16, 4096⟩, ⟨.write 4096 [Run.fill 7 16], 0⟩, ⟨.handIn storage, 0⟩,
        ⟨.write 64 [⟨1, 1, 4⟩], 0⟩, ⟨.share 64 4, 0⟩, ⟨.write 64 [Run.fill 9 4], 0⟩,
        ⟨.takeLease 64 4, 0⟩, ⟨.edit replica 1 [Run.fill 5 1], 0⟩, ⟨.giveBack 64, 0⟩]
    let start := opened Policy.standard (Arena.startingAt 0 16 16)
    start.Throughout Sheltered turns ∧ (start.run turns).replicas.Has replica ∧
      (start.run turns).content replica = [1, 5, 3, 4] := by
  intro storage replica turns start
  have sheltered : start.Throughout Sheltered turns := by decide +kernel
  have had : (start.run turns).replicas.Has replica := by decide +kernel
  have history := (copies_run Policy.standard (Arena.startingAt 0 16 16) turns sheltered).2
    replica had
  exact ⟨sheltered, had, history.trans (by decide +kernel)⟩

end Trade

end MemoryLending
