/-
This file counts references to replicas. The table has an entry for an address as long as more
references have been taken there than given back, and the count of the entry is the difference.
Between two moments at which an address has no entry everybody who asks for it gets one replica,
of the size that was asked for first. What is refused is an address that is zero, another size
than the replica has, and a return where there is no entry; a refusal changes nothing.
-/

import MemoryLending.Proofs.Custody
import MemoryLending.Proofs.Turnover

namespace MemoryLending

namespace Desk

/-! ### Refusals -/

/-- Asking for a replica of a length that a block can have is refused for the address zero and
for another size than the replica has, and for nothing else. -/
theorem reference_eq_error_iff {desk : Desk} {address size : Nat} {fault : Fault}
    (short : size ≤ Word.longestBlock) :
    (desk.reference address size).1 = .error fault ↔
      address = 0 ∧ fault = .refused .nullAddress ∨
        address ≠ 0 ∧ ∃ entry, desk.lender.replicas.entry? address = some entry ∧
          entry.replica.size ≠ size ∧
            fault = .refused (.sizeMismatch address entry.replica.size size) := by
  unfold reference
  by_cases null : address = 0
  · rw [if_pos null]
    simp [null, eq_comm]
  rw [if_neg null]
  cases found : desk.lender.replicas.entry? address with
  | some entry =>
    dsimp only
    by_cases same : entry.replica.size = size
    · rw [if_pos same]
      simp [null, same]
    · rw [if_neg same]
      simp only [null, false_and, false_or, ne_eq, not_false_eq_true, true_and, Option.some.injEq,
        exists_eq_left', same, Except.error.injEq]
      exact eq_comm
  | none =>
    rcases drawn : desk.procure size with ⟨failed | storage, after⟩
    · exact absurd short (Nat.not_le_of_lt (desk.long_of_procure drawn))
    · unfold makeReplica
      rw [drawn]
      simp [null]

theorem reference_of_error {desk : Desk} {address size : Nat} {fault : Fault}
    (short : size ≤ Word.longestBlock) (refused : (desk.reference address size).1 = .error fault) :
    (desk.reference address size).2 = desk := by
  have outcome := desk.referencing address size
  generalize desk.reference address size = result at outcome refused
  cases outcome with
  | refused violation => rfl
  | failed fault after missing drawn =>
    exact absurd short (Nat.not_le_of_lt (desk.long_of_procure drawn))
  | counted => cases refused
  | made => cases refused

/-- Sharing and leasing fail when the reference fails, and as it does. -/
theorem share_eq_error_iff {desk : Desk} {address size : Nat} {fault : Fault} :
    (desk.share address size).1 = .error fault ↔
      (desk.reference address size).1 = .error fault := by
  unfold share
  rcases desk.reference address size with ⟨failed | replica, after⟩
  · exact Iff.rfl
  · exact iff_of_false nofun nofun

theorem share_of_error {desk : Desk} {address size : Nat} {fault : Fault}
    (failed : (desk.reference address size).1 = .error fault) :
    (desk.share address size).2 = (desk.reference address size).2 := by
  unfold share
  generalize desk.reference address size = result at failed ⊢
  obtain ⟨fault' | replica, after⟩ := result
  · rfl
  · cases failed

theorem takeLease_eq_error_iff {desk : Desk} {address size : Nat} {fault : Fault} :
    (desk.takeLease address size).1 = .error fault ↔
      (desk.reference address size).1 = .error fault := by
  unfold takeLease
  rcases desk.reference address size with ⟨failed | replica, after⟩
  · exact Iff.rfl
  · exact iff_of_false nofun nofun

theorem takeLease_of_error {desk : Desk} {address size : Nat} {fault : Fault}
    (failed : (desk.reference address size).1 = .error fault) :
    (desk.takeLease address size).2 = (desk.reference address size).2 := by
  unfold takeLease
  generalize desk.reference address size = result at failed ⊢
  obtain ⟨fault' | replica, after⟩ := result
  · rfl
  · cases failed

end Desk

namespace Trade

/-! ### The balance of references -/

/-- An entry has a reference. -/
def Referred (trade : Trade) : Prop :=
  ∀ address entry, trade.replicas.entry? address = some entry → 0 < entry.references

theorem Referred.weight_of_discounted {trade : Trade} (referred : trade.Referred) {address : Nat}
    {entry : ReplicaEntry} {after : ReplicaTable}
    (discounted : trade.replicas.Discounted address entry after) (other : Nat) :
    after.weight other + (if address = other then 1 else 0) = trade.replicas.weight other := by
  by_cases same : address = other
  · subst same
    have positive := referred address entry discounted.found
    have here := discounted.here
    rw [if_pos rfl, ReplicaTable.weight_of_found discounted.found]
    by_cases last : entry.references - 1 = 0
    · rw [if_pos last] at here
      rw [ReplicaTable.weight_of_missing here]
      omega
    · rw [if_neg last] at here
      rw [ReplicaTable.weight_of_found here]
      exact Nat.sub_add_cancel positive
  · rw [if_neg same]
    exact ReplicaTable.weight_congr (discounted.others other (Ne.symm same))

theorem Referred.of_counted {trade : Trade} (referred : trade.Referred) {address size : Nat}
    {replica : Replica} {after : ReplicaTable}
    (counted : trade.replicas.Counted trade.issued address size replica after) {other : Nat}
    {entry : ReplicaEntry} (found : after.entry? other = some entry) : 0 < entry.references := by
  by_cases same : other = address
  · subst same
    cases counted.here.symm.trans found
    exact Nat.succ_pos _
  · exact referred other entry ((counted.others other same).symm.trans found)

theorem Referred.of_discounted {trade : Trade} (referred : trade.Referred) {address : Nat}
    {entry : ReplicaEntry} {after : ReplicaTable}
    (discounted : trade.replicas.Discounted address entry after) {other : Nat}
    {left : ReplicaEntry} (found : after.entry? other = some left) : 0 < left.references := by
  by_cases same : other = address
  · subst same
    have here := discounted.here.symm.trans found
    by_cases last : entry.references - 1 = 0
    · rw [if_pos last] at here
      cases here
    · rw [if_neg last] at here
      cases here
      exact Nat.pos_of_ne_zero last
  · exact referred other left ((discounted.others other same).symm.trans found)

theorem Referred.take {trade : Trade} (referred : trade.Referred) (turn : Turn) :
    (trade.take turn).Referred := by
  have outcome := trade.turnover turn
  unfold Referred
  generalize (trade.take turn).replicas = after at outcome ⊢
  cases outcome with
  | idle silent noReturn noEnd entries leases =>
    intro address entry found
    rw [ReplicaTable.entry?_of_entries entries] at found
    exact referred address entry found
  | shared place size replica deed answered counted =>
    exact fun _ _ => referred.of_counted counted
  | leased place size replica deed answered counted =>
    exact fun _ _ => referred.of_counted counted
  | refused address deed answered missing same => exact same ▸ referred
  | returned place entry deed answered discounted =>
    exact fun _ _ => referred.of_discounted discounted
  | ended replica entry deed held discounted =>
    exact fun _ _ => referred.of_discounted discounted
  | dropped replica deed held missing entries =>
    intro address entry found
    rw [ReplicaTable.entry?_of_entries entries] at found
    exact referred address entry found

theorem takesAt_of_silent {trade : Trade} {turn : Turn}
    (silent : turn.deed.asks = none ∨ (trade.answer turn).replica? = none) (address : Nat) :
    takesAt address trade turn = false := by
  unfold takesAt
  rcases silent with silent | silent <;> rw [silent]
  · rfl
  · exact Bool.and_false _

theorem takesAt_of_takes {trade : Trade} {turn : Turn} {place size : Nat} {replica : Replica}
    (takes : trade.Takes turn place size replica) (address : Nat) :
    takesAt address trade turn = (place == address) := by
  unfold takesAt
  rw [takes.1, takes.2]
  exact Bool.and_true _

theorem returnsAt_eq_false {trade : Trade} {turn : Turn}
    (noReturn : ∀ address, turn.deed = .giveBack address → trade.answer turn ≠ .done)
    (noEnd : ∀ replica ∈ trade.replicas.leases, turn.deed = .endLease replica →
      trade.replicas.entry? replica.address = none) (address : Nat) :
    returnsAt address trade turn = false := by
  unfold returnsAt
  split
  · rename_i place deed
    rw [beq_eq_false_iff_ne.mpr (noReturn place deed), Bool.and_false]
  · rename_i replica deed
    refine Bool.eq_false_iff.mpr fun returns => ?_
    rw [Bool.and_eq_true, Bool.and_eq_true, beq_iff_eq, List.contains_iff_mem] at returns
    obtain ⟨⟨rfl, held⟩, accepted⟩ := returns
    rw [Desk.giveBack_of_absent (noEnd replica held deed)] at accepted
    cases accepted
  · rfl

theorem returnsAt_of_ended {trade : Trade} {turn : Turn} {replica : Replica}
    {entry : ReplicaEntry} (deed : turn.deed = .endLease replica)
    (held : replica ∈ trade.replicas.leases)
    (found : trade.replicas.entry? replica.address = some entry) (address : Nat) :
    returnsAt address trade turn = (replica.address == address) := by
  have held' : trade.replicas.leases.contains replica = true := List.contains_iff_mem.mpr held
  unfold returnsAt
  rw [deed]
  dsimp only
  rw [held', Bool.and_true]
  by_cases same : replica.address = address
  · subst same
    have outcome := trade.desk.returned replica.address
    generalize trade.desk.giveBack replica.address = result at outcome
    cases outcome with
    | refused missing => cases missing.symm.trans found
    | discounted => exact Bool.and_true _
  · rw [beq_eq_false_iff_ne.mpr same, Bool.false_and]

theorem returnsAt_of_asks {turn : Turn} {asked : Nat × Nat} (asks : turn.deed.asks = some asked)
    (address : Nat) (trade : Trade) : returnsAt address trade turn = false := by
  obtain ⟨deed, place⟩ := turn
  cases deed <;> first | rfl | cases asks

/-- A turn changes a count by what it takes and gives back. -/
theorem Referred.weight_take {trade : Trade} (referred : trade.Referred) (turn : Turn)
    (address : Nat) :
    (trade.take turn).replicas.weight address +
        (if returnsAt address trade turn then 1 else 0) =
      trade.replicas.weight address + if takesAt address trade turn then 1 else 0 := by
  have outcome := trade.turnover turn
  generalize (trade.take turn).replicas = after at outcome ⊢
  cases outcome with
  | idle silent noReturn noEnd entries leases =>
    rw [takesAt_of_silent silent, returnsAt_eq_false
      (fun place deed => absurd deed (noReturn place))
      (fun replica held deed => absurd deed (noEnd replica held)),
      ReplicaTable.weight_congr (ReplicaTable.entry?_of_entries entries address)]
  | shared place size replica deed answered counted leases =>
    have takes : trade.Takes turn place size replica := ⟨deed ▸ rfl, answered ▸ rfl⟩
    rw [takesAt_of_takes takes, returnsAt_of_asks takes.1, counted.weight address]
    simp only [beq_iff_eq, Bool.false_eq_true, if_false, Nat.add_zero]
  | leased place size replica deed answered counted leases =>
    have takes : trade.Takes turn place size replica :=
      ⟨deed.elim (fun deed => deed ▸ rfl) (fun deed => deed ▸ rfl), answered⟩
    rw [takesAt_of_takes takes, returnsAt_of_asks takes.1, counted.weight address]
    simp only [beq_iff_eq, Bool.false_eq_true, if_false, Nat.add_zero]
  | refused place deed answered missing same =>
    rw [takesAt_of_silent (Or.inl (deed ▸ rfl)), returnsAt_eq_false
      (fun _ _ done => nomatch answered.symm.trans done)
      (fun replica held deed' => nomatch deed.symm.trans deed'), same]
  | returned place entry deed answered discounted leases =>
    have returns : returnsAt address trade turn = (place == address) := by
      unfold returnsAt
      rw [deed, answered]
      exact Bool.and_true _
    rw [takesAt_of_silent (Or.inl (deed ▸ rfl)), returns]
    simp only [beq_iff_eq]
    exact referred.weight_of_discounted discounted address
  | ended replica entry deed held discounted leases =>
    rw [takesAt_of_silent (Or.inl (deed ▸ rfl)),
      returnsAt_of_ended deed held discounted.found]
    simp only [beq_iff_eq]
    exact referred.weight_of_discounted discounted address
  | dropped replica deed held missing entries leases =>
    have noEnd : ∀ other ∈ trade.replicas.leases, turn.deed = .endLease other →
        trade.replicas.entry? other.address = none := by
      intro other _ deed'
      cases deed.symm.trans deed'
      exact missing
    rw [takesAt_of_silent (Or.inl (deed ▸ rfl)),
      returnsAt_eq_false (fun place deed' => nomatch deed.symm.trans deed') noEnd,
      ReplicaTable.weight_congr (ReplicaTable.entry?_of_entries entries address)]

/-- Over a run, what has been given back and the count make up what has been taken. -/
theorem Referred.weight_run {trade : Trade} (referred : trade.Referred) (turns : List Turn)
    (address : Nat) :
    (trade.run turns).replicas.weight address + trade.times (returnsAt address) turns =
      trade.replicas.weight address + trade.times (takesAt address) turns := by
  induction turns generalizing trade with
  | nil => rfl
  | cons turn rest inductionHypothesis =>
    have step := referred.weight_take turn address
    have later := inductionHypothesis (referred.take turn)
    show ((trade.take turn).run rest).replicas.weight address +
      ((trade.take turn).times (returnsAt address) rest +
        if returnsAt address trade turn then 1 else 0) =
      trade.replicas.weight address + ((trade.take turn).times (takesAt address) rest +
        if takesAt address trade turn then 1 else 0)
    omega

theorem Referred.run {trade : Trade} (referred : trade.Referred) (turns : List Turn) :
    (trade.run turns).Referred := by
  induction turns generalizing trade with
  | nil => exact referred
  | cons turn rest inductionHypothesis => exact inductionHypothesis (referred.take turn)

theorem referred_opened (policy : Policy) (arena : Arena) : (opened policy arena).Referred :=
  nofun

theorem Referred.weight_pos {trade : Trade} (referred : trade.Referred) {address : Nat} :
    0 < trade.replicas.weight address ↔ (trade.replicas.entry? address).isSome := by
  cases found : trade.replicas.entry? address with
  | none =>
    rw [ReplicaTable.weight_of_missing found]
    exact iff_of_false (Nat.lt_irrefl 0) Bool.false_ne_true
  | some entry =>
    rw [ReplicaTable.weight_of_found found]
    exact iff_of_true (referred address entry found) rfl

/-! ### One replica between two moments without an entry -/

/-- Whether an address has an entry in every trade of a run. -/
def InUse (trade : Trade) (address : Nat) (turns : List Turn) : Prop :=
  ∀ front, front <+: turns → (ReplicaTable.entry? (trade.run front).replicas address).isSome

theorem replica_run {trade : Trade} {turns : List Turn} {address references : Nat}
    {replica : Replica} (found : trade.replicas.entry? address = some ⟨replica, references⟩)
    (inUse : trade.InUse address turns) :
    ∃ references,
      ReplicaTable.entry? (trade.run turns).replicas address = some ⟨replica, references⟩ := by
  induction turns generalizing trade references with
  | nil => exact ⟨references, found⟩
  | cons turn rest inductionHypothesis =>
    obtain ⟨references', found'⟩ :=
      replica_take found (inUse [turn] (List.prefix_append [turn] rest))
    refine inductionHypothesis found' fun front before => inUse (turn :: front) ?_
    exact (List.prefix_cons_inj turn).mpr before

/-! ### The rules of references -/

/-- What is asked of a replica is refused for the address zero, and for another size than the
replica of the address has. -/
def Refuses (trade : Trade) (address size : Nat) (fault : Fault) : Prop :=
  address = 0 ∧ fault = .refused .nullAddress ∨
    address ≠ 0 ∧ ∃ entry, trade.replicas.entry? address = some entry ∧
      entry.replica.size ≠ size ∧
        fault = .refused (.sizeMismatch address entry.replica.size size)

/-- What callers can rely on about references after the turns of a run. -/
structure References (start : Trade) (turns : List Turn) (trade : Trade) : Prop where
  /-- An address has an entry as long as more has been taken there than given back, and the
  difference is its count. -/
  entry : ∀ address, (trade.replicas.entry? address).isSome ↔
    start.times (returnsAt address) turns < start.times (takesAt address) turns
  count : ∀ address references, trade.replicas.references? address = some references →
    0 < references ∧ references =
      start.times (takesAt address) turns - start.times (returnsAt address) turns
  /-- The first one to ask for an address gets a new replica of the size asked for, and everybody
  who asks after that gets the same, until the address has no entry any more. -/
  one : ∀ turn address size first, trade.replicas.entry? address = none →
    trade.Takes turn address size first →
      first.address = address ∧ first.size = size ∧
        (∀ replica, trade.replicas.Has replica → replica.id ≠ first.id) ∧
        ∀ more, (trade.take turn).InUse address more →
          ∀ later size' replica, ((trade.take turn).run more).Takes later address size' replica →
            replica = first ∧ size' = size
  /-- Asking fails for the stated reasons only, and then nothing has changed. -/
  asking : ∀ turn address size fault, size ≤ Word.longestBlock →
    turn.deed = .share address size ∨ turn.deed = .takeLease address size →
      (trade.answer turn = .failed fault ↔ trade.Refuses address size fault) ∧
        (trade.answer turn = .failed fault →
          (trade.take turn).desk.lender = trade.desk.lender)
  /-- Giving back fails where there is no entry, and then nothing has changed. -/
  returning : ∀ turn address fault, turn.deed = .giveBack address →
    (trade.answer turn = .failed fault ↔
        trade.replicas.entry? address = none ∧ fault = .refused (.noReplica address)) ∧
      (trade.answer turn = .failed fault →
        (trade.take turn).desk.lender = trade.desk.lender)
  /-- A lease whose reference is gone takes no other one with it. -/
  ending : ∀ turn replica, turn.deed = .endLease replica →
    trade.replicas.entry? replica.address = none →
      (trade.take turn).replicas.entries = trade.replicas.entries

/-- An answer that is carried is no failure. -/
theorem ofAnswer_replica_eq_failed_iff {outcome : Except Fault Replica} {fault : Fault} :
    Reply.ofAnswer .replica outcome = .failed fault ↔ outcome = .error fault := by
  cases outcome <;> simp [Reply.ofAnswer]

theorem asking (trade : Trade) {turn : Turn} {address size : Nat} (fault : Fault)
    (short : size ≤ Word.longestBlock)
    (deed : turn.deed = .share address size ∨ turn.deed = .takeLease address size) :
    (trade.answer turn = .failed fault ↔ trade.Refuses address size fault) ∧
      (trade.answer turn = .failed fault →
        (trade.take turn).desk.lender = trade.desk.lender) := by
  obtain ⟨deed', place⟩ := turn
  have refuses : ((trade.ready place).desk.reference address size).1 = .error fault ↔
      trade.Refuses address size fault := Desk.reference_eq_error_iff short
  have unchanged : ((trade.ready place).desk.reference address size).1 = .error fault →
      ((trade.ready place).desk.reference address size).2.lender = trade.desk.lender := by
    intro failed
    rw [Desk.reference_of_error short failed]
    rfl
  rcases deed with rfl | rfl
  · have failing := ofAnswer_replica_eq_failed_iff.trans
      (@Desk.share_eq_error_iff (trade.ready place).desk address size fault)
    refine ⟨failing.trans refuses, fun failed => ?_⟩
    have refused := failing.mp failed
    exact (congrArg Desk.lender (Desk.share_of_error refused)).trans (unchanged refused)
  · have failing := ofAnswer_replica_eq_failed_iff.trans
      (@Desk.takeLease_eq_error_iff (trade.ready place).desk address size fault)
    refine ⟨failing.trans refuses, fun failed => ?_⟩
    have refused := failing.mp failed
    exact (congrArg Desk.lender (Desk.takeLease_of_error refused)).trans (unchanged refused)

theorem returning (trade : Trade) {turn : Turn} {address : Nat} (fault : Fault)
    (deed : turn.deed = .giveBack address) :
    (trade.answer turn = .failed fault ↔
        trade.replicas.entry? address = none ∧ fault = .refused (.noReplica address)) ∧
      (trade.answer turn = .failed fault →
        (trade.take turn).desk.lender = trade.desk.lender) := by
  obtain ⟨deed', place⟩ := turn
  obtain rfl : deed' = .giveBack address := deed
  show (Reply.ofAnswer (fun _ => .done)
      (((trade.ready place).desk.giveBack address).1.mapError Fault.refused) = .failed fault ↔ _) ∧
    (Reply.ofAnswer (fun _ => .done)
      (((trade.ready place).desk.giveBack address).1.mapError Fault.refused) = .failed fault →
        ((trade.ready place).desk.giveBack address).2.lender = _)
  have outcome := (trade.ready place).desk.returned address
  generalize (trade.ready place).desk.giveBack address = result at outcome ⊢
  cases outcome with
  | refused missing =>
    refine ⟨⟨fun failed => ⟨missing, ?_⟩, fun refused => congrArg Reply.failed refused.2.symm⟩,
      fun _ => rfl⟩
    exact (Reply.failed.inj failed).symm
  | discounted entry after discounted leases =>
    refine ⟨iff_of_false nofun fun refused => ?_, nofun⟩
    cases discounted.found.symm.trans refused.1

theorem ending (trade : Trade) {turn : Turn} {replica : Replica}
    (deed : turn.deed = .endLease replica)
    (missing : trade.replicas.entry? replica.address = none) :
    (trade.take turn).replicas.entries = trade.replicas.entries := by
  rcases trade.ended_or_missing deed with ⟨entry, discounted, -⟩ | ⟨entries, -⟩
  · cases missing.symm.trans discounted.found
  · exact entries

/-- Whoever asks for an address while it is in use gets the replica of its entry. -/
theorem eq_of_takes_inUse {trade : Trade} {turns : List Turn} {address size references : Nat}
    {first replica : Replica} {later : Turn}
    (found : trade.replicas.entry? address = some ⟨first, references⟩)
    (inUse : trade.InUse address turns)
    (takes : (trade.run turns).Takes later address size replica) :
    replica = first ∧ size = first.size := by
  obtain ⟨references', found'⟩ := replica_run found inUse
  have counted := counted_of_takes takes
  rcases counted.origin with ⟨references'', found''⟩ | ⟨missing, -⟩
  · cases found'.symm.trans found''
    exact ⟨rfl, counted.asked.2.symm⟩
  · cases found'.symm.trans missing

/-- Whatever is asked for in whatever order, references are counted exactly and shared by
address. -/
theorem references_run (policy : Policy) (arena : Arena) (turns : List Turn) :
    References (opened policy arena) turns ((opened policy arena).run turns) := by
  have referred := (referred_opened policy arena).run turns
  have custody := (custody_opened policy arena).run turns
  have balance : ∀ address, ((opened policy arena).run turns).replicas.weight address +
      (opened policy arena).times (returnsAt address) turns =
        (opened policy arena).times (takesAt address) turns := fun address =>
    ((referred_opened policy arena).weight_run turns address).trans (Nat.zero_add _)
  generalize (opened policy arena).run turns = trade at referred custody balance
  refine
    { entry := fun address => ?_
      count := fun address references counted => ?_
      one := fun turn address size first missing takes => ?_
      asking := fun turn address size fault => trade.asking fault
      returning := fun turn address fault => trade.returning fault
      ending := fun turn replica => trade.ending }
  · rw [← referred.weight_pos]
    have sum := balance address
    omega
  · obtain ⟨entry, found, rfl⟩ := Option.map_eq_some_iff.mp counted
    have sum := balance address
    rw [ReplicaTable.weight_of_found found] at sum
    exact ⟨referred address entry found, by omega⟩
  · have counted := counted_of_takes takes
    refine ⟨counted.asked.1, counted.asked.2, fun replica had => ?_,
      fun more inUse later size' replica takes' => ?_⟩
    · rcases counted.origin with ⟨references, found⟩ | ⟨-, new⟩
      · cases missing.symm.trans found
      · exact Nat.ne_of_lt (Nat.lt_of_le_of_lt (custody.shared.numbered replica had) new)
    · obtain ⟨same, long⟩ := eq_of_takes_inUse counted.here inUse takes'
      exact ⟨same, long.trans counted.asked.2⟩

end Trade

end MemoryLending