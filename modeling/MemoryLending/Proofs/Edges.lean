/-
This file says which windows of a frame can be summed up. The frame and the book of loans test a
window each in its own way: the frame asks where the window ends, the book also where it begins.
Whatever loans, views and replicas there are, both agree on each window that begins before the end
of the frame and ends at a machine word: if it lies in the frame it is read in place and nothing has
happened, and otherwise there is a complaint and nothing has happened. A window that ends beyond the
machine word panics. And on the empty window at the end of the frame, the only one a frame of no
bytes has, the two differ: the frame admits it, but no range begins at the end of a loan. Unless the
next loan begins there it is read through a replica, through a new one of no bytes or through the
one that the address has, and if that one has bytes the sum is refused.
-/

import MemoryLending.Proofs.Soaking
import MemoryLending.Proofs.Stamps

namespace MemoryLending

/-! ### A copy of nothing -/

theorem Memory.cut_zero (memory : Memory) (start : Nat) : memory.cut start 0 = [] := by
  unfold cut
  cases memory.patches with
  | nil => rfl
  | cons patch older => exact if_pos rfl

theorem Arena.copy_zero (arena : Arena) (source target : Nat) :
    arena.copy source target 0 = arena := by
  unfold copy Memory.copy
  rw [Memory.cut_zero]
  rfl

/-! ### The end of a loan -/

namespace LoanBook

variable {book : LoanBook} (sound : book.Sound) {loan : Loan} (member : loan ∈ book.toList)

include sound member

/-- Two loans are one, or one of them begins after the other has ended. -/
theorem Sound.eq_or_precedes {other : Loan} (member' : other ∈ book.toList) :
    loan = other ∨ loan.Precedes other ∨ other.Precedes loan := by
  have either : Std.Symm fun first second : Loan =>
      first.Precedes second ∨ second.Precedes first := ⟨fun _ _ => Or.symm⟩
  have apart : book.toList.Pairwise fun first second =>
      first.Precedes second ∨ second.Precedes first := sound.apart.imp Or.inl
  exact or_iff_not_imp_left.mpr (apart.forall member member')

/-- The book has a loan at the end of another one if a loan with bytes begins there. -/
theorem Sound.find?_end_eq_none_iff :
    book.find? (loan.base + loan.length) 0 = none ↔
      ∀ other ∈ book.toList, other.base = loan.base + loan.length → other.length = 0 := by
  rw [Option.eq_none_iff_forall_ne_some]
  constructor
  · intro missing other member' begins
    by_contra solid
    exact missing (other, 0) ((find?_eq_some_iff sound).mpr
      ⟨member', begins, Nat.pos_of_ne_zero solid, Nat.zero_le _⟩)
  · rintro empty ⟨other, inset⟩ found
    obtain ⟨member', place, starts, -⟩ := (find?_eq_some_iff sound).mp found
    rcases sound.eq_or_precedes member member' with rfl | ⟨-, before⟩ | ⟨-, before⟩
    · omega
    · have none := empty other member' (by omega)
      omega
    · omega

end LoanBook

/-! ### Windows that are not summed up -/

namespace Action

theorem sum_of_beyond {left right : Nat} (beyond : Word.limit ≤ left + right) (office : Office) :
    sum left right office = (.error (.panicked .addOverflow), office) := by
  unfold sum Word.add?
  rw [if_neg (Nat.not_lt_of_le beyond)]
  rfl

section Held

variable {office : Office} {id : WrapperId} {name : String} {lender sensor holders : Nat}
  {frame : Frame}
  (found : office.wrappers[id]? =
    some ⟨name, lender, .capture sensor (some frame), ⟨false⟩, holders⟩)
  {offset length : Nat}

include found

/-- The end of a window is computed before it is compared, so it has to be a machine word. -/
theorem windowSum_of_beyond (beyond : Word.limit ≤ offset + length) :
    windowSum id offset length office = (.error (.panicked .addOverflow), office) := by
  unfold windowSum
  rw [run_bind_of_ok (heldFrame_of_found found)]
  exact run_bind_of_error (sum_of_beyond beyond office)

theorem windowSum_of_outside (fits : offset + length < Word.limit)
    (outside : frame.length < offset + length) :
    windowSum id offset length office =
      (.error (.complained (.windowOutside offset length frame.length)), office) := by
  unfold windowSum
  rw [run_bind_of_ok (heldFrame_of_found found)]
  dsimp only
  rw [run_bind_of_ok (sum_of_lt fits office), if_pos outside]
  rfl

end Held

end Action

/-! ### A lease of no bytes -/

namespace ReplicaTable

theorem recount_recount (table : ReplicaTable) (address first second : Nat) :
    (table.recount address first).recount address second = table.recount address second := by
  refine congrArg (fun entries => { table with entries }) ?_
  refine List.map_map.trans (List.map_congr_left fun entry _ => ?_)
  rw [Function.comp_apply]
  by_cases here : entry.replica.address = address
  · rw [if_pos here, if_pos here, if_pos here]
  · rw [if_neg here, if_neg here]

/-- An entry that is given the count it has. -/
theorem recount_references {table : ReplicaTable} {address : Nat} {entry : ReplicaEntry}
    (unique : (table.entries.map (·.replica.address)).Nodup)
    (found : table.entry? address = some entry) :
    table.recount address entry.references = table := by
  obtain ⟨member, here⟩ := mem_of_found found
  have same : ∀ other ∈ table.entries,
      (if other.replica.address = address then { other with references := entry.references }
        else other) = other := by
    intro other member'
    by_cases there : other.replica.address = address
    · obtain rfl := List.inj_on_of_nodup_map unique member' member (there.trans here.symm)
      exact if_pos there
    · exact if_neg there
  unfold recount
  rw [List.map_congr_left same, List.map_id']

end ReplicaTable

namespace Desk

/-- The replica of no bytes that is made next. -/
def nothingAt (desk : Desk) (address : Nat) : Replica :=
  ⟨desk.arena.nextIdentity, address, 0, Block.empty⟩

/-- The desk when that replica has been made, and a lease holds it. -/
def glancing (desk : Desk) (address : Nat) : Desk :=
  let replica := desk.nothingAt address
  let table := desk.lender.replicas
  { arena := desk.arena.identify
    lender :=
      { desk.lender with
        replicas := ⟨⟨replica, 1⟩ :: table.entries, table.handles, replica :: table.leases,
          replica.id :: table.filled⟩ }
    journal := .replicaFilled address 0 :: .replicaCreated address 0 :: desk.journal }

/-- The desk when the reference has been given back, and the lease holds the replica yet. -/
def parting (desk : Desk) (address : Nat) (event : Event) : Desk :=
  let replica := desk.nothingAt address
  let table := desk.lender.replicas
  { arena := desk.arena.identify
    lender :=
      { desk.lender with
        replicas := ⟨table.entries, table.handles, replica :: table.leases,
          replica.id :: table.filled⟩ }
    journal := .replicaReleased address :: event :: (desk.glancing address).journal }

/-- The desk when one more lease holds the replica of an entry. -/
def joining (desk : Desk) (entry : ReplicaEntry) : Desk :=
  desk.withReplicas
    { desk.lender.replicas.recount entry.replica.address (entry.references + 1) with
      leases := entry.replica :: desk.lender.replicas.leases }

variable {desk : Desk} {address : Nat}

section Absent

variable (absent : desk.lender.replicas.entry? address = none)

include absent

theorem reach_nothing (present : address ≠ 0)
    (missing : desk.lender.loans.find? address 0 = none)
    (unfilled : desk.arena.nextIdentity ∉ desk.lender.replicas.filled) :
    desk.reach address 0 =
      (.ok (.copied (desk.nothingAt address)), desk.glancing address) := by
  let made := (desk.issue.withReplicas (desk.lender.replicas.add (desk.nothingAt address))).log
    (.replicaCreated address 0)
  have making : desk.makeReplica address 0 = (.ok (desk.nothingAt address), made) := rfl
  have filled : made.fillReplica (desk.nothingAt address) =
      (made.withReplicas (made.lender.replicas.fill desk.arena.nextIdentity)).log
        (.replicaFilled address 0) := by
    have fresh : ¬made.lender.replicas.isFilled desk.arena.nextIdentity = true :=
      fun had => unfilled (List.contains_iff_mem.mp had)
    unfold fillReplica
    rw [show (desk.nothingAt address).id = desk.arena.nextIdentity from rfl, if_neg fresh]
    unfold pull
    dsimp only
    rw [show (desk.nothingAt address).size = 0 from rfl, Arena.copy_zero]
    rfl
  rw [desk.reach_of_missing present missing]
  unfold reference
  rw [if_neg present, absent]
  dsimp only
  rw [making]
  dsimp only
  rw [filled]
  rfl

theorem giveBack_nothing (event : Event) :
    ((desk.glancing address).log event).giveBack address =
      (.ok (), desk.parting address event) := by
  let replica := desk.nothingAt address
  let leased := (desk.glancing address).log event
  have found : leased.lender.replicas.entry? address = some ⟨replica, 1⟩ :=
    List.find?_cons_of_pos (beq_self_eq_true address)
  have others : desk.lender.replicas.entries.filter (·.replica.address != address) =
      desk.lender.replicas.entries := by
    refine List.filter_eq_self.mpr fun entry member => bne_iff_ne.mpr fun here => ?_
    exact List.find?_eq_none.mp absent entry member (beq_iff_eq.mpr here)
  have left : leased.lender.replicas.entries.filter (·.replica.address != address) =
      desk.lender.replicas.entries :=
    (List.filter_cons_of_neg (by simp [nothingAt])).trans others
  have removed : leased.lender.replicas.remove address =
      (desk.parting address event).lender.replicas := by
    unfold ReplicaTable.remove
    rw [left]
    rfl
  have still : (desk.parting address event).lender.replicas.holds replica.id = true := by
    simp [ReplicaTable.holds, parting, replica]
  unfold giveBack
  rw [found]
  dsimp only
  rw [removed, if_pos rfl]
  unfold unholdReplica
  exact congrArg (Prod.mk (Except.ok ())) (if_pos still)

/-- When the lease ends, the replica is gone. -/
theorem endLease_nothing (unheld : desk.lender.replicas.holds desk.arena.nextIdentity = false)
    (event : Event) :
    ((desk.glancing address).log event).endLease (desk.nothingAt address) =
      { arena := desk.arena.identify
        lender := desk.lender
        journal := .replicaReleased address :: event :: (desk.glancing address).journal } := by
  let replica := desk.nothingAt address
  let ended := (desk.parting address event).withLeases desk.lender.replicas.leases
  have held : replica ∈ ((desk.glancing address).log event).lender.replicas.leases :=
    List.mem_cons_self
  -- the reference goes first, while the lease still holds the replica
  have given := giveBack_nothing absent event
  have dropped : (desk.parting address event).lender.replicas.leases.erase replica =
      desk.lender.replicas.leases := List.erase_cons_head _ _
  have forgotten : ended.lender.replicas.forget replica.id = desk.lender.replicas := by
    unfold ReplicaTable.forget
    rw [show ended.lender.replicas.filled.erase replica.id = desk.lender.replicas.filled from
      List.erase_cons_head _ _]
    rfl
  have gone : ¬ended.lender.replicas.holds replica.id = true :=
    Bool.eq_false_iff.mp unheld
  unfold endLease
  rw [if_pos held, show (desk.nothingAt address).address = address from rfl, given]
  dsimp only
  rw [dropped]
  show ended.unholdReplica replica = _
  unfold unholdReplica
  rw [if_neg gone, forgotten]
  rfl

end Absent

section Found

variable {entry : ReplicaEntry} (found : desk.lender.replicas.entry? address = some entry)

include found

/-- A replica of no bytes is there already. -/
theorem reach_of_nothing (present : address ≠ 0)
    (missing : desk.lender.loans.find? address 0 = none) (empty : entry.replica.size = 0)
    (filled : entry.replica.id ∈ desk.lender.replicas.filled) :
    desk.reach address 0 = (.ok (.copied entry.replica), desk.joining entry) := by
  obtain ⟨-, rfl⟩ := ReplicaTable.mem_of_found found
  let counted := desk.withReplicas
    (desk.lender.replicas.recount entry.replica.address (entry.references + 1))
  have full : counted.fillReplica entry.replica = counted := if_pos (List.contains_iff_mem.mpr filled)
  rw [desk.reach_of_missing present missing]
  unfold reference
  rw [if_neg present, found]
  dsimp only
  rw [if_pos empty, full]
  rfl

theorem reach_of_something (present : address ≠ 0)
    (missing : desk.lender.loans.find? address 0 = none) (solid : entry.replica.size ≠ 0) :
    desk.reach address 0 =
      (.error (.refused (.sizeMismatch address entry.replica.size 0)), desk) := by
  rw [desk.reach_of_missing present missing]
  unfold reference
  rw [if_neg present, found]
  dsimp only
  rw [if_neg solid]

/-- When the lease ends, the entry has the count that it had. -/
theorem endLease_joining (unique : (desk.lender.replicas.entries.map (·.replica.address)).Nodup)
    (positive : 0 < entry.references) (event : Event) :
    ((desk.joining entry).log event).endLease entry.replica = desk.log event := by
  obtain ⟨-, rfl⟩ := ReplicaTable.mem_of_found found
  let table := desk.lender.replicas
  let joined := (desk.joining entry).log event
  have held : entry.replica ∈ joined.lender.replicas.leases := List.mem_cons_self
  have counted : joined.lender.replicas.entry? entry.replica.address =
      some { entry with references := entry.references + 1 } := by
    have here := table.entry?_recount entry.replica.address (entry.references + 1)
      entry.replica.address
    rw [if_pos rfl, found] at here
    exact here
  have given := giveBack_of_more counted (Nat.ne_of_gt positive)
  have restored : joined.lender.replicas.recount entry.replica.address (entry.references + 1 - 1) =
      { table with leases := entry.replica :: table.leases } := by
    have again := (table.recount_recount entry.replica.address (entry.references + 1)
      entry.references).trans (ReplicaTable.recount_references unique found)
    exact congrArg (fun table : ReplicaTable =>
      { table with leases := entry.replica :: desk.lender.replicas.leases }) again
  have still : (desk.log event).lender.replicas.holds entry.replica.id = true :=
    ReplicaTable.holds_iff.mpr ⟨entry.replica, ReplicaTable.has_of_found found, rfl⟩
  have dropped : (entry.replica :: table.leases).erase entry.replica = table.leases :=
    List.erase_cons_head _ _
  unfold endLease
  rw [if_pos held, given]
  dsimp only
  rw [restored]
  dsimp only [withReplicas]
  rw [dropped]
  exact if_pos still

end Found

end Desk

/-! ### The end of a frame -/

namespace Action

/-- A range that cannot be reached is not read, and if that changes nothing, nothing has happened. -/
theorem reading_of_refused {Answer : Type} {office : Office} {lender address length : Nat}
    {fault : Fault} {work : Reach → Bytes → Action Answer}
    (refused : (office.desk lender).reach address length = (.error fault, office.desk lender)) :
    reading lender address length work office = (.error fault, office) := by
  have came : atDesk lender (·.reach address length) office = (.error fault, office) := by
    unfold atDesk
    dsimp only
    rw [refused]
    exact congrArg (Prod.mk (Except.error fault)) (office.withDesk_desk lender)
  unfold reading
  rw [run_bind_of_error came]

end Action

namespace Office

/-- The office after the end of a frame has been looked at through a replica: an identity has been
used up, and there are records. -/
def glanced (office : Office) (frame : Frame) : Office :=
  let finish := frame.address + frame.length
  { office with
    arena := office.arena.identify
    journal := .replicaReleased finish :: .frameNotOwned frame.address ::
      .replicaFilled finish 0 :: .replicaCreated finish 0 :: office.journal }

/-- The office after a record that a frame has not been read in place. -/
def noted (office : Office) (frame : Frame) : Office :=
  { office with journal := .frameNotOwned frame.address :: office.journal }

/-- No loan with bytes begins at the end of a frame. -/
def EndsBare (office : Office) (lender : Nat) (frame : Frame) : Prop :=
  ∀ loan ∈ (office.lender lender).loans.toList,
    loan.base = frame.address + frame.length → loan.length = 0

/-- The entry at the end of a frame, if the table has one there. -/
def endEntry? (office : Office) (lender : Nat) (frame : Frame) : Option ReplicaEntry :=
  (office.lender lender).replicas.entry? (frame.address + frame.length)

/-- What comes of every window of the frame of a capture. -/
structure Delimited (office : Office) (lender : Nat) (id : WrapperId) (frame : Frame) : Prop where
  /-- A window that begins before the end of the frame is read in place, also if it is empty. -/
  inside : ∀ offset length, offset < frame.length → offset + length ≤ frame.length →
    Action.windowSum id offset length office =
      (.ok ((office.arena.memory.bytes (frame.address + offset) length).map UInt8.toNat).sum,
        office)
  outside : ∀ offset length, offset + length < Word.limit → frame.length < offset + length →
    Action.windowSum id offset length office =
      (.error (.complained (.windowOutside offset length frame.length)), office)
  /-- The end of a window is computed before it is compared. -/
  beyond : ∀ offset length, Word.limit ≤ offset + length →
    Action.windowSum id offset length office = (.error (.panicked .addOverflow), office)
  /-- The empty window at the end of the frame is read in place where the next loan begins. -/
  touching : ¬office.EndsBare lender frame →
    Action.windowSum id frame.length 0 office = (.ok 0, office)
  /-- Where no loan begins, nobody finds the end of the frame, and a replica is made and dropped. -/
  bare : office.EndsBare lender frame → office.endEntry? lender frame = none →
    Action.windowSum id frame.length 0 office = (.ok 0, office.glanced frame)
  /-- If the address has a replica of no bytes, the sum joins in. -/
  joined : office.EndsBare lender frame → ∀ entry, office.endEntry? lender frame = some entry →
    entry.replica.size = 0 →
      Action.windowSum id frame.length 0 office = (.ok 0, office.noted frame)
  /-- If the address has a replica with bytes, the sum is refused. -/
  refused : office.EndsBare lender frame → ∀ entry, office.endEntry? lender frame = some entry →
    entry.replica.size ≠ 0 →
      Action.windowSum id frame.length 0 office =
        (.error (.refused
          (.sizeMismatch (frame.address + frame.length) entry.replica.size 0)), office)

section Lent

variable {office : Office} {rented : Nat → List Block} (orderly : office.Orderly rented)
  {lender : Nat} {frame : Frame} (lends : office.Lends lender frame)

include lends in
theorem inRange_of_lends : lender < office.lenders.size := by
  obtain ⟨loan, entered, -⟩ := lends
  exact @inRange_of_live office lender loan.base loan.token ⟨loan, entered, rfl, rfl⟩

include orderly lends

/-- The end of a frame lies in no loan if none with bytes begins there. -/
theorem Orderly.find?_end_eq_none_iff :
    (office.lender lender).loans.find? (frame.address + frame.length) 0 = none ↔
      office.EndsBare lender frame := by
  have sound := orderly.sound (inRange_of_lends lends)
  obtain ⟨loan, member, base, -, length⟩ := lends
  have ends := sound.find?_end_eq_none_iff member
  rw [base, length] at ends
  exact ends

variable {id : WrapperId} {name : String} {sensor holders : Nat}
  (found : office.wrappers[id]? =
    some ⟨name, lender, .capture sensor (some frame), ⟨false⟩, holders⟩)

include found

/-- Nothing is read at the end of a frame, through a replica. -/
theorem Orderly.windowSum_of_copied {replica : Replica} {leased : Desk}
    (reached : (office.desk lender).reach (frame.address + frame.length) 0 =
      (.ok (.copied replica), leased)) (empty : replica.size = 0) :
    Action.windowSum id frame.length 0 office =
      (.ok 0, office.withDesk lender ((leased.log (.frameNotOwned frame.address)).endLease
        replica)) := by
  obtain ⟨-, ends⟩ := orderly.frame_bounds lends
  have inRange := inRange_of_lends lends
  have ran : Action.addUp frame (.copied replica)
      (((office.withDesk lender leased).desk lender).reachBytes (.copied replica))
      (office.withDesk lender leased) =
        (.ok 0, office.withDesk lender (leased.log (.frameNotOwned frame.address))) := by
    have nothing : ((office.withDesk lender leased).desk lender).reachBytes
        (.copied replica) = [] := by
      show Memory.cut _ _ replica.size = []
      rw [empty, Memory.cut_zero]
    rw [nothing]
    rfl
  rw [Action.windowSum_eq_reading found (Nat.le_refl _) ends, Action.reading_of_ok reached ran,
    desk_withDesk inRange, withDesk_withDesk]
  rfl

theorem Orderly.windowSum_of_bare (bare : office.EndsBare lender frame)
    (absent : office.endEntry? lender frame = none) :
    Action.windowSum id frame.length 0 office = (.ok 0, office.glanced frame) := by
  obtain ⟨present, -⟩ := orderly.frame_bounds lends
  obtain ⟨record, housed⟩ := orderly lender (inRange_of_lends lends)
  have shared := housed.tended.roomy.custody.shared
  have missing := (orderly.find?_end_eq_none_iff lends).mpr bare
  -- no replica has the identity that is given out next
  have unfilled : office.arena.nextIdentity ∉ (office.lender lender).replicas.filled :=
    fun filled => Nat.not_succ_le_self _ (housed.tended.roomy.marked.issued _ filled)
  have unheld : (office.lender lender).replicas.holds office.arena.nextIdentity = false := by
    refine Bool.eq_false_iff.mpr fun held => ?_
    obtain ⟨replica, has, same⟩ := ReplicaTable.holds_iff.mp held
    have numbered := shared.numbered replica has
    rw [same] at numbered
    exact Nat.not_succ_le_self _ numbered
  have reached := @Desk.reach_nothing (office.desk lender) _ absent (by omega) missing unfilled
  have closed := @Desk.endLease_nothing (office.desk lender) _ absent unheld
    (.frameNotOwned frame.address)
  rw [orderly.windowSum_of_copied lends found reached rfl, closed]
  exact congrArg (fun still : Office => (Except.ok 0, still.glanced frame))
    (office.withDesk_desk lender)

theorem Orderly.windowSum_of_joined (bare : office.EndsBare lender frame) {entry : ReplicaEntry}
    (entered : office.endEntry? lender frame = some entry) (empty : entry.replica.size = 0) :
    Action.windowSum id frame.length 0 office = (.ok 0, office.noted frame) := by
  obtain ⟨present, -⟩ := orderly.frame_bounds lends
  obtain ⟨record, housed⟩ := orderly lender (inRange_of_lends lends)
  have missing := (orderly.find?_end_eq_none_iff lends).mpr bare
  have filled := housed.tended.roomy.marked.filled entry.replica
    (ReplicaTable.has_of_found entered)
  have reached := @Desk.reach_of_nothing (office.desk lender) _ entry entered (by omega) missing
    empty filled
  have closed := @Desk.endLease_joining (office.desk lender) _ entry entered
    housed.tended.roomy.custody.shared.addresses (housed.referred _ entry entered)
    (.frameNotOwned frame.address)
  rw [orderly.windowSum_of_copied lends found reached empty, closed]
  exact congrArg (fun still : Office => (Except.ok 0, still.noted frame))
    (office.withDesk_desk lender)

theorem Orderly.windowSum_of_refused (bare : office.EndsBare lender frame) {entry : ReplicaEntry}
    (entered : office.endEntry? lender frame = some entry) (solid : entry.replica.size ≠ 0) :
    Action.windowSum id frame.length 0 office =
      (.error (.refused (.sizeMismatch (frame.address + frame.length) entry.replica.size 0)),
        office) := by
  obtain ⟨present, ends⟩ := orderly.frame_bounds lends
  have missing := (orderly.find?_end_eq_none_iff lends).mpr bare
  have reached := @Desk.reach_of_something (office.desk lender) _ entry entered (by omega) missing
    solid
  rw [Action.windowSum_eq_reading found (Nat.le_refl _) ends]
  exact Action.reading_of_refused reached

theorem Orderly.delimited : office.Delimited lender id frame where
  inside offset length starts inside := by
    obtain ⟨loan, -, -, contains⟩ := orderly.find?_window lends inside starts
    rw [orderly.windowSum_of_find? lends found inside contains, Bytes.sum_eq]
    exact congrArg (fun bytes => (Except.ok (List.sum (List.map UInt8.toNat bytes)), office))
      (Memory.toList_cut ..)
  outside offset length fits outside := Action.windowSum_of_outside found fits outside
  beyond offset length beyond := Action.windowSum_of_beyond found beyond
  touching solid := by
    have contains := mt (orderly.find?_end_eq_none_iff lends).mp solid
    obtain ⟨⟨loan, inset⟩, contains⟩ := Option.ne_none_iff_exists'.mp contains
    rw [orderly.windowSum_of_find? lends found (Nat.le_refl _) contains]
    exact congrArg (fun bytes => (Except.ok (Bytes.sum bytes), office)) (Memory.cut_zero _ _)
  bare := orderly.windowSum_of_bare lends found
  joined bare _ := orderly.windowSum_of_joined lends found bare
  refused bare _ := orderly.windowSum_of_refused lends found bare

end Lent

/-- A sum leaves no more behind than records and an identity that has been used up. -/
theorem Delimited.left {office : Office} {lender : Nat} {id : WrapperId} {frame : Frame}
    (delimited : office.Delimited lender id frame) (offset length : Nat) :
    let after := (Action.windowSum id offset length office).2
    after = office ∨ after = office.glanced frame ∨ after = office.noted frame := by
  intro after
  by_cases beyond : Word.limit ≤ offset + length
  · exact Or.inl (congrArg Prod.snd (delimited.beyond offset length beyond))
  by_cases outside : frame.length < offset + length
  · exact Or.inl (congrArg Prod.snd
      (delimited.outside offset length (Nat.lt_of_not_le beyond) outside))
  by_cases starts : offset < frame.length
  · exact Or.inl (congrArg Prod.snd
      (delimited.inside offset length starts (Nat.le_of_not_lt outside)))
  obtain ⟨rfl, rfl⟩ : offset = frame.length ∧ length = 0 := by omega
  by_cases bare : office.EndsBare lender frame
  · cases entered : office.endEntry? lender frame with
    | none => exact Or.inr (Or.inl (congrArg Prod.snd (delimited.bare bare entered)))
    | some entry =>
      by_cases empty : entry.replica.size = 0
      · exact Or.inr (Or.inr (congrArg Prod.snd (delimited.joined bare entry entered empty)))
      · exact Or.inl (congrArg Prod.snd (delimited.refused bare entry entered empty))
  · exact Or.inl (congrArg Prod.snd (delimited.touching bare))

end Office

/-! ### Windows in a process -/

/-- One thing that happens in a process in which frames are summed up. -/
inductive Visit where
  | task (task : Task)
  | sum (id : WrapperId) (offset length : Nat)
  deriving DecidableEq, Repr

namespace Process

/-- Lets one thing happen, unless the process has ended. -/
def visit (process : Process) : Visit → Process
  | .task task => process.take task
  | .sum id offset length =>
    if process.ended then process
    else { process with office := (Action.windowSum id offset length process.office).2 }

/-- The heap has places for what a task asks for, and a frame is read while it is on loan. -/
def Admits (process : Process) : Visit → Prop
  | .task task => process.Houses task
  | .sum id _ _ => ∀ held ∈ (Action.heldFrame id process.office).1.toOption,
      process.office.Lends held.1 held.2

instance decidableLends (office : Office) (lender : Nat) (frame : Frame) :
    Decidable (office.Lends lender frame) :=
  inferInstanceAs (Decidable (∃ loan ∈ (office.lender lender).loans.toList, _))

instance decidableAdmits (process : Process) : (visit : Visit) → Decidable (process.Admits visit)
  | .task task => process.decidableHouses task
  | .sum id _ _ => inferInstanceAs
      (Decidable (∀ held ∈ (Action.heldFrame id process.office).1.toOption, _))

theorem Running.delimited {process : Process} (running : process.Running) {lender : Nat}
    {id : WrapperId} {frame : Frame} (holding : process.office.Holding id lender frame)
    (lends : process.office.Lends lender frame) : process.office.Delimited lender id frame := by
  obtain ⟨⟨name, lender, duty, ⟨released⟩, holders⟩, sensor, found, rfl, rfl, rfl⟩ := holding
  exact running.inOrder.orderly.delimited lends found

theorem Running.sum {process : Process} (running : process.Running) {id : WrapperId}
    {offset length : Nat} (admits : process.Admits (.sum id offset length)) :
    (process.visit (.sum id offset length)).Running := by
  have steady {after : Office} (lenders : after.lenders = process.office.lenders)
      (issued : process.office.arena.identities ≤ after.arena.identities)
      (same : after.post = process.office.post) :
      Running { process with office := after } :=
    ⟨running.manned.of_post same, (Office.keeps_of_lenders lenders issued).inOrder running.inOrder⟩
  unfold visit
  dsimp only
  split
  · exact running
  rcases Action.heldFrame_cases id process.office with
    ⟨fault, -, failed⟩ | ⟨lender, frame, holding, held⟩
  · unfold Action.windowSum
    rw [Action.run_bind_of_error failed]
    exact running
  · have lends := admits (lender, frame) (by rw [held]; rfl)
    rcases (running.delimited holding lends).left offset length with same | same | same
    · rw [same]
      exact running
    · rw [same]
      exact steady rfl (Nat.le_succ _) rfl
    · rw [same]
      exact steady rfl (Nat.le_refl _) rfl

/-- In every process over a heap, whatever has been done and summed up in it, this comes of each
window of a frame on loan whose capture has not been released. -/
theorem delimited_run (arena : Arena) (policies : List Policy) (visits : List Visit)
    (admits : Throughout visit Admits (start arena policies) visits)
    (going : (visits.foldl visit (start arena policies)).ended = false) :
    let office := (visits.foldl visit (start arena policies)).office
    ∀ id lender frame, office.Holding id lender frame → office.Lends lender frame →
      office.Delimited lender id frame := by
  intro office id lender frame holding lends
  have running : (visits.foldl visit (start arena policies)).Running := by
    refine @throughout_induction _ _ _ _ (fun later => later.ended = false → later.Running) _
      (fun _ => running_start arena policies) visits admits
      (fun later visit admits running going => ?_) going
    cases visit with
    | task task => exact (running (going_of_take going)).take admits going
    | sum id offset length =>
      refine (running ?_).sum admits
      unfold Process.visit at going
      dsimp only at going
      split at going <;> exact going
  exact running.delimited holding lends

/-- Three frames. The second one begins at the end of the first; at the end of the second somebody
leases four bytes, and at the end of the third somebody shares none. -/
theorem delimited_run_leased :
    let first : Frame := ⟨4096, ⟨1⟩, 16⟩
    let second : Frame := ⟨4112, ⟨2⟩, 16⟩
    let third : Frame := ⟨16384, ⟨3⟩, 16⟩
    let visits : List Visit := [.task (.errand (.makeSensor 16 0) []),
      .task (.errand (.openSession 0 0) []), .task (.errand (.grab 0 7) [4096]),
      .task (.errand (.makeWrapper "" 0 (.capture 0 (some first))) []),
      .task (.errand (.grab 0 8) [4112]),
      .task (.errand (.makeWrapper "" 0 (.capture 0 (some second))) []),
      .task (.errand (.grab 0 9) [16384]),
      .task (.errand (.makeWrapper "" 0 (.capture 0 (some third))) []),
      .sum 3 16 0, .task (.turn 0 ⟨.takeLease 4128 4, 8192⟩),
      .task (.turn 0 ⟨.share 16400 0, 0⟩), .sum 1 7 3]
    let start := start (Arena.startingAt 65536 16 16) [Policy.standard]
    let office := (visits.foldl visit start).office
    Throughout visit Admits start visits ∧ (visits.foldl visit start).ended = false ∧
      (office.Holding 1 0 first ∧ office.Lends 0 first ∧ office.Delimited 0 1 first) ∧
      (office.Holding 2 0 second ∧ office.Lends 0 second ∧ office.Delimited 0 2 second) ∧
      (office.Holding 3 0 third ∧ office.Lends 0 third ∧ office.Delimited 0 3 third) ∧
        (Action.windowSum 1 7 3 office).1 = .ok 14 ∧
          (Action.windowSum 1 16 0 office).2.journal = office.journal ∧
            (Action.windowSum 2 16 0 office).1 = .error (.refused (.sizeMismatch 4128 4 0)) ∧
              (Action.windowSum 3 16 0 office).2.journal =
                .frameNotOwned 16384 :: office.journal := by
  intro first second third visits start office
  have admits : Throughout visit Admits start visits := by decide +kernel
  have going : (visits.foldl visit start).ended = false := by decide +kernel
  have holding : office.Holding 1 0 first :=
    ⟨⟨"", 0, .capture 0 (some first), ⟨false⟩, 1⟩, 0, by decide +kernel, rfl, rfl, rfl⟩
  have holding' : office.Holding 2 0 second :=
    ⟨⟨"", 0, .capture 0 (some second), ⟨false⟩, 1⟩, 0, by decide +kernel, rfl, rfl, rfl⟩
  have holding'' : office.Holding 3 0 third :=
    ⟨⟨"", 0, .capture 0 (some third), ⟨false⟩, 1⟩, 0, by decide +kernel, rfl, rfl, rfl⟩
  have lends : office.Lends 0 first := by decide +kernel
  have lends' : office.Lends 0 second := by decide +kernel
  have lends'' : office.Lends 0 third := by decide +kernel
  have delimited := delimited_run _ _ visits admits going
  refine ⟨admits, going, ⟨holding, lends, delimited 1 0 first holding lends⟩,
    ⟨holding', lends', delimited 2 0 second holding' lends'⟩,
    ⟨holding'', lends'', delimited 3 0 third holding'' lends''⟩, ?_, ?_, ?_, ?_⟩ <;>
    decide +kernel

/-- The end of a window panics when it leaves the machine word. The empty window at the end of a
frame is admitted, but not read in place, also in a frame of no bytes; and it is refused while
somebody leases bytes there. -/
theorem ends_not_in_place :
    let start := start (Arena.startingAt 65536 16 16) [Policy.standard]
    let frame (length : Nat) : Frame := ⟨4096, ⟨1⟩, length⟩
    let visits (length : Nat) : List Visit := [.task (.errand (.makeSensor length 0) []),
      .task (.errand (.openSession 0 0) []), .task (.errand (.grab 0 7) [4096]),
      .task (.errand (.makeWrapper "" 0 (.capture 0 (some (frame length)))) [])]
    let leased := visits 16 ++ [.task (.turn 0 ⟨.takeLease 4112 4, 8192⟩)]
    let office (run : List Visit) := (run.foldl visit start).office
    (∀ run ∈ [visits 16, visits 0, leased], Throughout visit Admits start run ∧
        (run.foldl visit start).ended = false) ∧
      (∀ length ∈ [16, 0], (office (visits length)).Lends 0 (frame length)) ∧
      (office leased).Lends 0 (frame 16) ∧
      (Action.windowSum 1 (Word.limit - 1) 1 (office (visits 16))).1 =
          .error (.panicked .addOverflow) ∧
        (∀ length ∈ [16, 0], (Action.windowSum 1 length 0 (office (visits length))).1 = .ok 0 ∧
          .frameNotOwned 4096 ∈ (Action.windowSum 1 length 0 (office (visits length))).2.journal) ∧
          (Action.windowSum 1 16 0 (office leased)).1 =
            .error (.refused (.sizeMismatch 4112 4 0)) := by
  decide +kernel

end Process

namespace Studio

/-- In a studio the frame of a capture that has not been released is on loan, whatever happens. -/
theorem windows_run (arena : Arena) (policy : Policy) (frameLength count : Nat) {cues : List Cue}
    (houses : Throughout take Houses (opened arena policy frameLength count) cues) :
    let office := ((opened arena policy frameLength count).run cues).office
    ∀ id lender frame, office.Holding id lender frame → office.Delimited lender id frame := by
  intro office id lender frame holding
  have kept := kept_run arena policy frameLength count houses
  have lends : office.Lends lender frame := kept.captured.lends_of_holding holding
  obtain ⟨⟨name, lender, duty, ⟨released⟩, holders⟩, sensor, found, rfl, rfl, rfl⟩ := holding
  exact kept.orderly.delimited lends found

end Studio

end MemoryLending
