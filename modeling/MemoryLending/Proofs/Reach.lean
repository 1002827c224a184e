/-
This file shows that access to memory shows memory. A range that lies in a debt is read where it
is, any other range through a replica, and on either path the bytes are those of the range at the
moment of the access. The path is chosen by the debts alone. Reading in place leaves the reserve
and the table as they are; a copy adds one entry, writes to its own storage and nowhere else, and
is gone from the table when it is let go of. Only where a replica is held already, access joins in
what that replica shows.
-/

import MemoryLending.Proofs.Copies
import MemoryLending.Proofs.References
import MemoryLending.Proofs.Scan

namespace MemoryLending

namespace Desk

/-! ### The two paths -/

theorem reach_of_found (desk : Desk) {address size offset : Nat} {loan : Loan}
    (present : address ≠ 0)
    (found : desk.lender.loans.find? address size = some (loan, offset)) :
    desk.reach address size =
      (.ok (.inPlace (View.ofLoan loan offset size)),
        desk.withViews (View.ofLoan loan offset size :: desk.lender.views)) := by
  unfold reach openView
  rw [if_neg present, found]
  rfl

theorem reach_of_missing (desk : Desk) {address size : Nat} (present : address ≠ 0)
    (missing : desk.lender.loans.find? address size = none) :
    desk.reach address size =
      match desk.reference address size with
      | (.ok replica, after) =>
        (.ok (.copied replica), after.withLeases (replica :: after.lender.replicas.leases))
      | (.error fault, after) => (.error fault, after) := by
  unfold reach openView
  rw [if_neg present, missing]
  dsimp only
  unfold takeLease
  rcases desk.reference address size with ⟨fault | replica, after⟩ <;> rfl

end Desk

namespace Trade

/-! ### What the heap is asked to do -/

/-- The heap places a block where no other one is, and before the last address. -/
def Grounded (trade : Trade) (turn : Turn) : Prop := trade.Spares turn ∧ turn.Fits

instance decidableGrounded (trade : Trade) (turn : Turn) : Decidable (trade.Grounded turn) :=
  inferInstanceAs (Decidable (_ ∧ _))

/-- Nobody but native code has a range that is read: the heap places no block there. -/
def Readable (trade : Trade) (turn : Turn) (address size : Nat) : Prop :=
  trade.Places turn → Disjoint (Set.Ico address (address + size)) turn.range

instance decidableReadable (trade : Trade) (turn : Turn) (address size : Nat) :
    Decidable (trade.Readable turn address size) :=
  inferInstanceAs (Decidable (_ → Disjoint (Set.Ico _ _) (Set.Ico _ _)))

/-- What grounded turns keep. -/
structure Tended (trade : Trade) : Prop where
  roomy : trade.Roomy
  accounted : trade.Accounted

theorem tended_run (policy : Policy) (arena : Arena) {turns : List Turn}
    (grounded : (opened policy arena).Throughout Grounded turns) :
    ((opened policy arena).run turns).Tended :=
  throughout_induction ⟨roomy_opened policy arena, accounted_opened policy arena⟩ grounded
    fun _ _ grounded tended =>
      ⟨tended.roomy.take grounded.1, tended.accounted.take grounded.2⟩

/-- No block that somebody holds meets one that the reserve keeps. -/
theorem Tended.apart_of_kept {trade : Trade} (tended : trade.Tended) {place : Place}
    {kept block : Block} (member : kept ∈ trade.kept) (elsewhere : place ≠ .kept)
    (stored : trade.Stores place block) : Disjoint kept.range block.range := by
  obtain ⟨custody, -, spaced, -⟩ := tended.roomy
  refine spaced.spread kept block ⟨.kept, member⟩ ⟨place, stored⟩ fun same => ?_
  have real : kept.id ≠ 0 := fun none =>
    custody.solid kept member (custody.named.empty kept ⟨.kept, member⟩ none ▸ rfl)
  have stored' : trade.Stores .kept kept := member
  exact elsewhere (custody.place_eq stored' stored real (congrArg Block.id same)).symm

/-! ### What access shows -/

/-- Whether a range lies in what native code was given and has not returned. -/
def Owns (trade : Trade) (address size : Nat) : Prop :=
  ∃ debt ∈ trade.record.debts, debt.contains address size = true

instance decidableOwns (trade : Trade) (address size : Nat) : Decidable (trade.Owns address size) :=
  inferInstanceAs (Decidable (∃ debt ∈ trade.record.debts, _))

theorem Accounted.find?_eq_none_iff {trade : Trade} (accounted : trade.Accounted)
    {address size : Nat} :
    trade.desk.lender.loans.find? address size = none ↔ ¬trade.Owns address size := by
  rw [← Option.map_eq_none_iff, accounted.find?_scan, List.find?_eq_none]
  unfold Owns
  simp only [not_exists, not_and]

/-- What an access shows. -/
def shown (trade : Trade) (reach : Reach) : List UInt8 := (trade.desk.reachBytes reach).toList

/-- A range is read where it is. -/
structure InPlace (trade : Trade) (turn : Turn) (address size : Nat) (view : View) : Prop where
  answer : trade.answer turn = .reach (.inPlace view)
  /-- The view is that of the debt the range lies in. -/
  face : ∃ debt ∈ trade.record.debts, debt.contains address size = true ∧
    view.face = debt.face address size
  shows : (trade.take turn).shown (.inPlace view) = trade.memory.bytes address size
  reserve : (trade.take turn).desk.lender.reserve = trade.desk.lender.reserve
  replicas : (trade.take turn).replicas = trade.replicas
  memory : (trade.take turn).memory = trade.memory

/-- A range is read through a replica that is made for it. -/
structure Copied (trade : Trade) (turn : Turn) (address size : Nat) (replica : Replica) :
    Prop where
  answer : trade.answer turn = .reach (.copied replica)
  asked : replica.address = address ∧ replica.size = size
  shows : (trade.take turn).shown (.copied replica) = trade.memory.bytes address size
  entries : (trade.take turn).replicas.entries = ⟨replica, 1⟩ :: trade.replicas.entries
  /-- No byte changes but in a block that the reserve has kept or the heap places. -/
  quiet : ∀ byte, (∀ block ∈ trade.kept, byte ∉ block.range) →
    (trade.Places turn → byte ∉ turn.range) →
      (trade.take turn).memory.byte byte = trade.memory.byte byte
  /-- Nobody's bytes change. -/
  held : ∀ place block, place ≠ .kept → trade.Stores place block → ∀ byte ∈ block.range,
    (trade.take turn).memory.byte byte = trade.memory.byte byte
  /-- Letting go of it at once leaves the entries that there were. -/
  undone : ∀ place, ((trade.take turn).take ⟨.endLease replica, place⟩).replicas.entries =
    trade.replicas.entries
  /-- Letting go of it later takes its entry away and no other one, unless somebody has taken
  another reference meanwhile. -/
  dropped : ∀ more, (trade.take turn).times (takesAt address) more = 0 → ∀ place other,
    ReplicaTable.entry? (((trade.take turn).run more).take ⟨.endLease replica, place⟩).replicas
        other =
      if other = address then none
      else ReplicaTable.entry? ((trade.take turn).run more).replicas other

/-- A range is read through the replica that is held for its address, if that is as long. -/
structure Joined (trade : Trade) (turn : Turn) (size : Nat) (entry : ReplicaEntry) : Prop where
  same : entry.replica.size = size →
    trade.answer turn = .reach (.copied entry.replica) ∧
      (trade.take turn).shown (.copied entry.replica) = trade.content entry.replica
  other : entry.replica.size ≠ size →
    trade.answer turn =
        .failed (.refused (.sizeMismatch entry.replica.address entry.replica.size size)) ∧
      (trade.take turn).desk.lender = trade.desk.lender

section Reach

variable {trade : Trade} {address size place : Nat} (present : address ≠ 0)

theorem answer_reach (trade : Trade) (address size place : Nat) :
    trade.answer ⟨.reach address size, place⟩ =
      Reply.ofAnswer .reach ((trade.ready place).desk.reach address size).1 := rfl

theorem desk_reach (trade : Trade) (address size place : Nat) :
    (trade.take ⟨.reach address size, place⟩).desk =
      ((trade.ready place).desk.reach address size).2 := rfl

include present in
theorem inPlace_of_owns (accounted : trade.Accounted) (owns : trade.Owns address size) :
    ∃ view, trade.InPlace ⟨.reach address size, place⟩ address size view := by
  obtain ⟨debt, member, inside⟩ := owns
  obtain ⟨loan, inBook, rfl⟩ := accounted.exists_loan member
  have found := LoanBook.find?_of_contains accounted.sound inBook inside
  have reached := (trade.ready place).desk.reach_of_found present found
  have begins : loan.base ≤ address := (Debt.contains_iff.mp inside).1
  refine ⟨View.ofLoan loan (address - loan.base) size, ?_, ?_, ?_, ?_, ?_, ?_⟩
  · rw [answer_reach, reached]
    rfl
  · refine ⟨loan.debt, member, inside, ?_⟩
    unfold View.face
    rw [loan.address?_ofLoan (accounted.sound.bounded loan inBook) inside]
    rfl
  · unfold shown
    rw [desk_reach, reached]
    refine (Memory.toList_cut _ _ _).trans ?_
    show trade.memory.bytes (loan.base + (address - loan.base)) size = _
    rw [Nat.add_sub_cancel' begins]
  · rw [desk_reach, reached]
    rfl
  · unfold replicas
    rw [desk_reach, reached]
    rfl
  · unfold memory
    rw [desk_reach, reached]
    rfl

end Reach

/-! ### A replica that is made for a range -/

/-- A replica has been made for a range that has none, and a lease holds it. -/
structure Fetched (trade : Trade) (turn : Turn) (replica : Replica) : Prop where
  asks : turn.deed.asks = some (replica.address, replica.size)
  answer : trade.answer turn = .reach (.copied replica)
  supplied : ∃ arena,
    (trade.ready turn.place).desk.Supplied replica.size (.ok replica.storage) arena ∧
      (trade.take turn).desk.arena =
        arena.identify.copy replica.address replica.storage.address replica.size
  missing : trade.replicas.entry? replica.address = none
  entries : (trade.take turn).replicas.entries = ⟨replica, 1⟩ :: trade.replicas.entries
  leases : (trade.take turn).replicas.leases = replica :: trade.replicas.leases

theorem exists_fetched (trade : Trade) {address size : Nat} (place : Nat) (present : address ≠ 0)
    (marked : trade.Marked) (short : size ≤ Word.longestBlock)
    (missing : trade.desk.lender.loans.find? address size = none)
    (uncached : trade.replicas.entry? address = none) :
    ∃ replica, replica.address = address ∧ replica.size = size ∧
      trade.Fetched ⟨.reach address size, place⟩ replica := by
  have reached := (trade.ready place).desk.reach_of_missing present missing
  have making := @making_ready trade place marked address size
  have failing := @Desk.reference_eq_error_iff (trade.ready place).desk address size
  generalize (trade.ready place).desk.reference address size = result at reached making failing
  cases making with
  | refused fault reserve journal kept =>
    rcases (failing short).mp rfl with ⟨null, -⟩ | ⟨-, entry, found, -⟩
    · exact absurd null present
    · cases uncached.symm.trans found
  | counted entry found => cases uncached.symm.trans found
  | made storage arena reserve journal uncached' supplied kept =>
    refine ⟨⟨arena.nextIdentity, address, size, storage⟩, rfl, rfl, ?_⟩
    have answer := answer_reach trade address size place
    have desk := desk_reach trade address size place
    rw [reached] at answer desk
    exact
      { asks := rfl
        answer := answer
        supplied := ⟨arena, supplied, congrArg Desk.arena desk⟩
        missing := uncached
        entries := congrArg (·.lender.replicas.entries) desk
        leases := congrArg (·.lender.replicas.leases) desk }

section Fetched

variable {trade : Trade} {turn : Turn} {replica : Replica}
  (fetched : trade.Fetched turn replica)

include fetched

theorem Fetched.freshLength : turn.deed.freshLength = replica.size := by
  obtain ⟨deed, place⟩ := turn
  have asks := fetched.asks
  cases deed <;> cases asks <;> rfl

theorem Fetched.here :
    (trade.take turn).replicas.entry? replica.address = some ⟨replica, 1⟩ := by
  unfold ReplicaTable.entry?
  rw [fetched.entries]
  exact List.find?_cons_of_pos (beq_self_eq_true replica.address)

theorem Fetched.leased : replica ∈ (trade.take turn).replicas.leases :=
  fetched.leases ▸ List.mem_cons_self

/-- A byte outside the storage stays. -/
theorem Fetched.byte_outside {byte : Nat} (outside : byte ∉ replica.storage.range) :
    (trade.take turn).memory.byte byte = trade.memory.byte byte := by
  obtain ⟨arena, supplied, filled⟩ := fetched.supplied
  have memory : (trade.take turn).memory =
      arena.memory.copy replica.address replica.storage.address replica.size :=
    congrArg Arena.memory filled
  have room := supplied.le_capacity
  rw [memory, Memory.byte_copy, if_neg fun inside => outside ⟨inside.1, by omega⟩]
  exact supplied.byte_outside outside

/-- The storage is a block that the reserve has kept, or the one that the heap places. -/
theorem Fetched.storage_cases {byte : Nat} (inside : byte ∈ replica.storage.range) :
    replica.storage ∈ trade.kept ∨ trade.Places turn ∧ byte ∈ turn.range := by
  obtain ⟨arena, supplied, filled⟩ := fetched.supplied
  have length := fetched.freshLength
  unfold Turn.range
  rw [length]
  generalize replica.storage = storage at supplied filled inside ⊢
  cases supplied with
  | kept _ old =>
    rcases old with rfl | member
    · rw [Block.range_empty] at inside
      exact absurd inside (Set.notMem_empty byte)
    · exact Or.inl member
  | placed => exact Or.inr ⟨congrArg Arena.announced filled, inside⟩

theorem Fetched.shows (readable : trade.Readable turn replica.address replica.size) :
    (trade.take turn).shown (.copied replica) =
      trade.memory.bytes replica.address replica.size := by
  obtain ⟨arena, supplied, filled⟩ := fetched.supplied
  have memory : (trade.take turn).memory =
      arena.memory.copy replica.address replica.storage.address replica.size :=
    congrArg Arena.memory filled
  refine (Memory.toList_cut _ _ _).trans ?_
  show (trade.take turn).memory.bytes replica.storage.address replica.size = _
  rw [memory, Memory.bytes_copy]
  refine Memory.bytes_congr fun index within => ?_
  -- A recycled block gets no zeros, so only a fresh one must not meet the range.
  generalize replica.storage = storage at supplied filled
  cases supplied with
  | kept => rfl
  | placed =>
    have places : trade.Places turn := congrArg Arena.announced filled
    have length := fetched.freshLength
    rw [Arena.byte_place, if_neg]
    · rfl
    · intro meets
      have within' : replica.address + index ∈ turn.range := by
        unfold Turn.range
        rw [length]
        exact meets
      exact Set.disjoint_left.mp (readable places) ⟨by omega, by omega⟩ within'

theorem Fetched.quiet {byte : Nat} (apart : ∀ block ∈ trade.kept, byte ∉ block.range)
    (placed : trade.Places turn → byte ∉ turn.range) :
    (trade.take turn).memory.byte byte = trade.memory.byte byte := by
  refine fetched.byte_outside fun inside => ?_
  rcases fetched.storage_cases inside with member | ⟨places, within⟩
  · exact apart replica.storage member inside
  · exact placed places within

theorem Fetched.held (tended : trade.Tended) (clear : trade.Clear turn) {place : Place}
    {block : Block} (elsewhere : place ≠ .kept) (stored : trade.Stores place block) {byte : Nat}
    (inside : byte ∈ block.range) :
    (trade.take turn).memory.byte byte = trade.memory.byte byte := by
  refine fetched.quiet (fun kept member => ?_) fun places => ?_
  · exact Set.disjoint_right.mp (tended.apart_of_kept member elsewhere stored) inside
  · exact Set.disjoint_left.mp (clear places block ⟨place, stored⟩) inside

/-- The last reference takes the entry away, and there is no other one at the address. -/
theorem Fetched.undone (place : Nat) :
    ((trade.take turn).take ⟨.endLease replica, place⟩).replicas.entries =
      trade.replicas.entries := by
  obtain ⟨aside, aside', ended⟩ :=
    @Desk.endLease_of_mem ((trade.take turn).ready place).desk replica fetched.leased
  obtain ⟨aside'', given⟩ :=
    @Desk.giveBack_of_last ((trade.take turn).ready place).desk _ _ fetched.here rfl
  show (((trade.take turn).ready place).desk.endLease replica).lender.replicas.entries = _
  rw [ended, given]
  show (trade.take turn).replicas.entries.filter (fun entry =>
    entry.replica.address != replica.address) = _
  rw [fetched.entries, List.filter_cons_of_neg (by simp)]
  refine List.filter_eq_self.mpr fun entry member => bne_iff_ne.mpr fun same => ?_
  have none := List.find?_eq_none.mp fetched.missing entry member
  exact none (beq_iff_eq.mpr same)

end Fetched

/-! ### The end of a lease that nobody has joined -/

/-- The entry of a lease has no reference but that of the lease, or there is none any more. -/
def Alone (trade : Trade) (lease : Replica) : Prop :=
  trade.replicas.entry? lease.address = none ∨
    lease ∈ trade.replicas.leases ∧ trade.replicas.entry? lease.address = some ⟨lease, 1⟩

theorem Alone.of_discounted {trade : Trade} {lease : Replica} {place : Nat} {entry : ReplicaEntry}
    {after : ReplicaTable} (alone : trade.Alone lease)
    (discounted : trade.replicas.Discounted place entry after)
    (leases : place ≠ lease.address → lease ∈ trade.replicas.leases → lease ∈ after.leases) :
    after.entry? lease.address = none ∨
      lease ∈ after.leases ∧ after.entry? lease.address = some ⟨lease, 1⟩ := by
  by_cases same : place = lease.address
  · subst same
    rcases alone with none | ⟨-, one⟩
    · cases none.symm.trans discounted.found
    · cases one.symm.trans discounted.found
      exact Or.inl discounted.here
  · rw [discounted.others lease.address (Ne.symm same)]
    exact alone.imp_right (And.imp_left (leases same))

/-- A lease stays alone as long as nobody asks for its address. -/
theorem Alone.take {trade : Trade} {lease : Replica} (alone : trade.Alone lease) {turn : Turn}
    (untaken : takesAt lease.address trade turn = false) : (trade.take turn).Alone lease := by
  have elsewhere : ∀ place size replica, trade.Takes turn place size replica →
      lease.address ≠ place := by
    intro place size replica takes same
    rw [takesAt_of_takes takes, same, beq_self_eq_true] at untaken
    cases untaken
  have outcome := trade.turnover turn
  unfold Alone
  generalize (trade.take turn).replicas = after at outcome ⊢
  cases outcome with
  | idle silent noReturn noEnd entries leases =>
    rw [ReplicaTable.entry?_of_entries entries, leases]
    exact alone
  | shared place size replica deed answered counted leases =>
    rw [counted.others _ (elsewhere place size replica ⟨deed ▸ rfl, answered ▸ rfl⟩), leases]
    exact alone
  | leased place size replica deed answered counted leases =>
    have asks : turn.deed.asks = some (place, size) :=
      deed.elim (fun deed => deed ▸ rfl) (fun deed => deed ▸ rfl)
    rw [counted.others _ (elsewhere place size replica ⟨asks, answered⟩), leases]
    exact alone.imp_right (And.imp_left (List.mem_cons_of_mem replica))
  | refused place deed answered missing same => exact same ▸ alone
  | returned place entry deed answered discounted leases =>
    exact alone.of_discounted discounted fun _ => leases ▸ id
  | ended replica entry deed held discounted leases =>
    refine alone.of_discounted discounted fun different member => ?_
    rw [leases]
    exact (List.mem_erase_of_ne fun same => different (congrArg Replica.address same.symm)).mpr
      member
  | dropped replica deed held missing entries leases =>
    rw [ReplicaTable.entry?_of_entries entries, leases]
    by_cases same : replica = lease
    · subst same
      exact Or.inl missing
    · exact alone.imp_right (And.imp_left (List.mem_erase_of_ne (Ne.symm same)).mpr)

theorem Alone.run {trade : Trade} {lease : Replica} (alone : trade.Alone lease)
    {turns : List Turn} (untaken : trade.times (takesAt lease.address) turns = 0) :
    (trade.run turns).Alone lease := by
  induction turns generalizing trade with
  | nil => exact alone
  | cons turn rest inductionHypothesis =>
    obtain ⟨later, now⟩ := Nat.add_eq_zero_iff.mp untaken
    refine inductionHypothesis (alone.take ?_) later
    exact Bool.eq_false_iff.mpr fun takes => by rw [if_pos takes] at now; cases now

/-- The end of a lease that is alone leaves its address without an entry, and nothing else
changes. -/
theorem Alone.entry?_ended {trade : Trade} {lease : Replica} (alone : trade.Alone lease)
    (place other : Nat) :
    ReplicaTable.entry? (trade.take ⟨.endLease lease, place⟩).replicas other =
      if other = lease.address then none else trade.replicas.entry? other := by
  rcases @ended_or_missing trade ⟨.endLease lease, place⟩ lease rfl with
    ⟨entry, discounted, -⟩ | ⟨entries, missing⟩
  · split
    · rename_i same
      subst same
      rcases alone with none | ⟨-, one⟩
      · cases none.symm.trans discounted.found
      · cases one.symm.trans discounted.found
        exact discounted.here
    · rename_i different
      exact discounted.others other different
  · rw [ReplicaTable.entry?_of_entries entries]
    split
    · rename_i same
      subst same
      rcases alone with none | ⟨held, one⟩
      · exact none
      · exact missing held
    · rfl

theorem Fetched.alone {trade : Trade} {turn : Turn} {replica : Replica}
    (fetched : trade.Fetched turn replica) : (trade.take turn).Alone replica :=
  Or.inr ⟨fetched.leased, fetched.here⟩

/-! ### Access to foreign memory -/

section Foreign

variable {trade : Trade} {address size place : Nat} (present : address ≠ 0)
  (short : size ≤ Word.longestBlock) (tended : trade.Tended) (foreign : ¬trade.Owns address size)

include present short tended foreign

theorem copied_of_foreign (clear : trade.Clear ⟨.reach address size, place⟩)
    (uncached : trade.replicas.entry? address = none)
    (readable : trade.Readable ⟨.reach address size, place⟩ address size) :
    ∃ replica, trade.Copied ⟨.reach address size, place⟩ address size replica := by
  have missing := tended.accounted.find?_eq_none_iff.mpr foreign
  obtain ⟨replica, rfl, rfl, fetched⟩ :=
    trade.exists_fetched place present tended.roomy.marked short missing uncached
  exact ⟨replica,
    { answer := fetched.answer
      asked := ⟨rfl, rfl⟩
      shows := fetched.shows readable
      entries := fetched.entries
      quiet := fun byte => fetched.quiet
      held := fun place block elsewhere stored byte => fetched.held tended clear elsewhere stored
      undone := fetched.undone
      dropped := fun more untaken place other =>
        (fetched.alone.run untaken).entry?_ended place other }⟩

theorem joined_of_cached {entry : ReplicaEntry}
    (cached : trade.replicas.entry? address = some entry) :
    trade.Joined ⟨.reach address size, place⟩ size entry := by
  obtain ⟨-, rfl⟩ := ReplicaTable.mem_of_found cached
  have missing := tended.accounted.find?_eq_none_iff.mpr foreign
  have reached := (trade.ready place).desk.reach_of_missing present missing
  have answer := answer_reach trade entry.replica.address size place
  have desk := desk_reach trade entry.replica.address size place
  rw [reached] at answer desk
  constructor
  · intro same
    have making := @making_ready trade place tended.roomy.marked entry.replica.address size
    have failing := @Desk.reference_eq_error_iff (trade.ready place).desk entry.replica.address size
    generalize (trade.ready place).desk.reference entry.replica.address size = result
      at making failing answer desk
    cases making with
    | refused fault reserve journal kept =>
      rcases (failing short).mp rfl with ⟨null, -⟩ | ⟨-, other, found, different, -⟩
      · exact absurd null present
      · cases cached.symm.trans found
        exact absurd same different
    | counted other found =>
      cases cached.symm.trans found
      refine ⟨answer, ?_⟩
      unfold shown content
      rw [desk]
      rfl
    | made storage arena reserve journal uncached supplied kept =>
      cases cached.symm.trans uncached
  · intro different
    have failing := @Desk.reference_eq_error_iff (trade.ready place).desk entry.replica.address size
    have refused := (failing short).mpr (Or.inr ⟨present, entry, cached, different, rfl⟩)
    have unchanged := Desk.reference_of_error short refused
    generalize (trade.ready place).desk.reference entry.replica.address size = result
      at refused unchanged answer desk
    obtain ⟨outcome, after⟩ := result
    dsimp only at refused unchanged
    subst refused unchanged
    exact ⟨answer, (congrArg Desk.lender desk).trans rfl⟩

end Foreign

/-! ### Access in every run -/

/-- Whatever was lent, shared and given back before, access to a range shows its bytes: in place
if a debt contains the range, through a replica that is made for it if nobody shares one at its
address, and otherwise through the one that is shared, if that has the size. -/
theorem reach_run (policy : Policy) (arena : Arena) (turns : List Turn)
    (grounded : (opened policy arena).Throughout Grounded turns) (address size place : Nat)
    (present : address ≠ 0) (short : size ≤ Word.longestBlock)
    (allowed : ((opened policy arena).run turns).Grounded ⟨.reach address size, place⟩) :
    let trade := (opened policy arena).run turns
    let turn : Turn := ⟨.reach address size, place⟩
    ((∃ view, trade.answer turn = .reach (.inPlace view)) ↔ trade.Owns address size) ∧
      (trade.Owns address size → ∃ view, trade.InPlace turn address size view) ∧
      (¬trade.Owns address size → trade.replicas.entry? address = none →
        trade.Readable turn address size → ∃ replica, trade.Copied turn address size replica) ∧
      (¬trade.Owns address size → ∀ entry, trade.replicas.entry? address = some entry →
        trade.Joined turn size entry) := by
  have tended := tended_run policy arena grounded
  generalize (opened policy arena).run turns = trade at tended allowed
  intro trade turn
  have opens : trade.Owns address size → ∃ view, trade.InPlace turn address size view :=
    inPlace_of_owns present tended.accounted
  refine ⟨⟨fun answered => ?_, fun owns => ?_⟩, fun owns => ?_, fun foreign uncached readable => ?_,
    fun foreign entry cached => ?_⟩
  · obtain ⟨view, answered⟩ := answered
    by_contra foreign
    have missing := tended.accounted.find?_eq_none_iff.mpr foreign
    have answer := answer_reach trade address size place
    rw [(trade.ready place).desk.reach_of_missing present missing] at answer
    generalize (trade.ready place).desk.reference address size = result at answer
    obtain ⟨fault | replica, after⟩ := result <;> cases answered.symm.trans answer
  · obtain ⟨view, inPlace⟩ := opens owns
    exact ⟨view, inPlace.answer⟩
  · exact opens owns
  · exact copied_of_foreign present short tended foreign allowed.1.1 uncached readable
  · exact joined_of_cached present short tended foreign cached

/-- Two loans meet at an address. A range in the first one is read in place. One that goes across
is read through a replica, whose storage is a block of other bytes that was given back. -/
theorem reach_run_across :
    let storage : Block := ⟨3, 8192, 64, true⟩
    let turns : List Turn :=
      [⟨.lend 16, 4096⟩, ⟨.lend 16, 4112⟩, ⟨.write 4096 [Run.fill 1 16, Run.fill 2 16], 0⟩,
        ⟨.rent 64, 8192⟩, ⟨.write 8192 [Run.fill 7 64], 0⟩, ⟨.handIn storage, 0⟩]
    let trade := (opened Policy.standard (Arena.startingAt 0 16 16)).run turns
    (opened Policy.standard (Arena.startingAt 0 16 16)).Throughout Grounded turns ∧
      (∃ view, trade.InPlace ⟨.reach 4100 12, 0⟩ 4100 12 view) ∧
        ∃ replica, trade.Copied ⟨.reach 4110 4, 0⟩ 4110 4 replica ∧
          (trade.take ⟨.reach 4110 4, 0⟩).shown (.copied replica) = [1, 1, 2, 2] := by
  intro storage turns trade
  have grounded :
      (opened Policy.standard (Arena.startingAt 0 16 16)).Throughout Grounded turns := by
    decide +kernel
  have inside := reach_run Policy.standard (Arena.startingAt 0 16 16) turns grounded 4100 12 0
    (by decide) (by decide) (by decide +kernel)
  have across := reach_run Policy.standard (Arena.startingAt 0 16 16) turns grounded 4110 4 0
    (by decide) (by decide) (by decide +kernel)
  obtain ⟨replica, copied⟩ :=
    across.2.2.1 (by decide +kernel) (by decide +kernel) (by decide +kernel)
  refine ⟨grounded, inside.2.1 (by decide +kernel), replica, copied, copied.shows.trans ?_⟩
  decide +kernel

end Trade

end MemoryLending
