/-
This file says what a turn does to the entries and the leases of the table. Entries are looked up
by address, and each operation of the table is described by what a lookup finds afterwards. At a
desk a reference is taken or given back; a turn takes one reference, gives one back, or leaves the
entries as they are. An entry that outlasts a turn keeps its replica.
-/

import MemoryLending.Proofs.Ground

namespace MemoryLending

/-! ### Entries by address -/

namespace ReplicaTable

theorem entry?_add (table : ReplicaTable) (replica : Replica) (address : Nat) :
    entry? (table.add replica) address =
      if replica.address = address then some ⟨replica, 1⟩ else table.entry? address := by
  unfold entry? add
  rw [List.find?_cons]
  by_cases here : replica.address = address
  · rw [if_pos here, beq_iff_eq.mpr here]
  · rw [if_neg here, beq_eq_false_iff_ne.mpr here]

theorem entry?_recount (table : ReplicaTable) (address references other : Nat) :
    entry? (table.recount address references) other =
      if address = other then (table.entry? other).map fun entry => { entry with references }
      else table.entry? other := by
  unfold entry? recount
  rw [List.find?_map]
  have same : (fun entry : ReplicaEntry => entry.replica.address == other) ∘
      (fun entry => if entry.replica.address = address then { entry with references } else entry) =
        fun entry => entry.replica.address == other := by
    funext entry
    exact congrArg (·.address == other) (replica_recounted entry address references)
  rw [same]
  cases found : table.entries.find? fun entry => entry.replica.address == other with
  | none => split <;> rfl
  | some entry =>
    have here := (mem_of_found found).2
    subst here
    by_cases same : address = entry.replica.address
    · rw [if_pos same, Option.map_some, Option.map_some, if_pos same.symm]
    · rw [if_neg same, Option.map_some, if_neg (Ne.symm same)]

theorem entry?_remove (table : ReplicaTable) (address other : Nat) :
    entry? (table.remove address) other =
      if address = other then none else table.entry? other := by
  unfold entry? remove
  rw [List.find?_filter]
  by_cases same : address = other
  · rw [if_pos same, List.find?_eq_none]
    rintro entry -
    simp [same]
  · rw [if_neg same]
    congr 1
    funext entry
    by_cases here : entry.replica.address = other
    · simp [here, Ne.symm same]
    · simp [here]

theorem entry?_of_entries {first second : ReplicaTable} (same : first.entries = second.entries)
    (address : Nat) : first.entry? address = second.entry? address := by
  unfold entry?
  rw [same]

/-- The count of references at an address, zero if it has no entry. -/
def weight (table : ReplicaTable) (address : Nat) : Nat := (table.references? address).getD 0

theorem weight_of_found {table : ReplicaTable} {address : Nat} {entry : ReplicaEntry}
    (found : table.entry? address = some entry) : table.weight address = entry.references := by
  unfold weight references?
  rw [found]
  rfl

theorem weight_of_missing {table : ReplicaTable} {address : Nat}
    (missing : table.entry? address = none) : table.weight address = 0 := by
  unfold weight references?
  rw [missing]
  rfl

theorem weight_congr {first second : ReplicaTable} {address : Nat}
    (same : first.entry? address = second.entry? address) :
    first.weight address = second.weight address := by
  unfold weight references?
  rw [same]

/-- A reference to a replica has been taken. Either the replica had an entry already, or its
address had none and the replica has a new number. -/
structure Counted (before : ReplicaTable) (issued address size : Nat) (replica : Replica)
    (after : ReplicaTable) : Prop where
  asked : replica.address = address ∧ replica.size = size
  here : after.entry? address = some ⟨replica, before.weight address + 1⟩
  others : ∀ other, other ≠ address → after.entry? other = before.entry? other
  origin : (∃ references, before.entry? address = some ⟨replica, references⟩) ∨
    before.entry? address = none ∧ issued < replica.id

/-- A reference has been given back. The last one takes the entry away. -/
structure Discounted (before : ReplicaTable) (address : Nat) (entry : ReplicaEntry)
    (after : ReplicaTable) : Prop where
  found : before.entry? address = some entry
  here : after.entry? address =
    if entry.references - 1 = 0 then none
    else some { entry with references := entry.references - 1 }
  others : ∀ other, other ≠ address → after.entry? other = before.entry? other

theorem Counted.weight {before after : ReplicaTable} {issued address size : Nat}
    {replica : Replica} (counted : before.Counted issued address size replica after)
    (other : Nat) :
    after.weight other = before.weight other + if address = other then 1 else 0 := by
  by_cases same : address = other
  · subst same
    rw [if_pos rfl, weight_of_found counted.here]
  · rw [if_neg same]
    exact weight_congr (counted.others other (Ne.symm same))

/-- Taking a reference replaces no replica by another one. -/
theorem Counted.found {before after : ReplicaTable} {issued place size : Nat} {other : Replica}
    (counted : before.Counted issued place size other after) {address references : Nat}
    {replica : Replica} (found : before.entry? address = some ⟨replica, references⟩) :
    ∃ references, after.entry? address = some ⟨replica, references⟩ := by
  by_cases same : address = place
  · subst same
    rcases counted.origin with ⟨references', found'⟩ | ⟨missing, -⟩
    · cases found.symm.trans found'
      exact ⟨_, counted.here⟩
    · cases found.symm.trans missing
  · exact ⟨references, (counted.others address same).trans found⟩

/-- Giving a reference back leaves the replica in the entry, or takes the entry away. -/
theorem Discounted.left {before after : ReplicaTable} {place : Nat} {entry : ReplicaEntry}
    (discounted : before.Discounted place entry after) {address references : Nat}
    {replica : Replica} (found : before.entry? address = some ⟨replica, references⟩)
    (still : (after.entry? address).isSome) :
    ∃ references, after.entry? address = some ⟨replica, references⟩ := by
  by_cases same : address = place
  · subst same
    cases found.symm.trans discounted.found
    have here := discounted.here
    split at here
    · rw [here] at still
      cases still
    · exact ⟨_, here⟩
  · exact ⟨references, (discounted.others address same).trans found⟩

end ReplicaTable

namespace Desk

/-! ### Taking and giving back at a desk -/

/-- What asking for a reference does to the table: nothing, or one reference is taken. -/
inductive Referenced (desk : Desk) (address size : Nat) : Except Fault Replica × Desk → Prop where
  | refused (fault : Fault) (after : Desk)
      (entries : after.lender.replicas.entries = desk.lender.replicas.entries)
      (leases : after.lender.replicas.leases = desk.lender.replicas.leases) :
      Referenced desk address size (.error fault, after)
  | counted (replica : Replica) (after : Desk)
      (counted : desk.lender.replicas.Counted desk.arena.identities address size replica
        after.lender.replicas)
      (leases : after.lender.replicas.leases = desk.lender.replicas.leases) :
      Referenced desk address size (.ok replica, after)

theorem referenced (desk : Desk) (address size : Nat) :
    Referenced desk address size (desk.reference address size) := by
  have replicas := desk.replicas_procure size
  have supplied := desk.supplied size
  have outcome := desk.referencing address size
  generalize desk.reference address size = result at outcome
  cases outcome with
  | refused violation => exact .refused _ desk rfl rfl
  | counted entry aside found same =>
    obtain ⟨-, here⟩ := ReplicaTable.mem_of_found found
    refine .counted entry.replica _ ⟨⟨here, same⟩, ?_, fun other different => ?_,
      Or.inl ⟨entry.references, found⟩⟩ rfl
    · have recounted :=
        desk.lender.replicas.entry?_recount address (entry.references + 1) address
      rw [if_pos rfl, found] at recounted
      rw [ReplicaTable.weight_of_found found]
      exact recounted
    · have recounted := desk.lender.replicas.entry?_recount address (entry.references + 1) other
      rw [if_neg (Ne.symm different)] at recounted
      exact recounted
  | failed fault after missing drawn =>
    rw [drawn] at replicas
    exact .refused fault after (congrArg ReplicaTable.entries replicas)
      (congrArg ReplicaTable.leases replicas)
  | made storage after aside missing drawn =>
    rw [drawn] at replicas supplied
    have issued : desk.arena.identities ≤ after.arena.identities := by
      generalize after.arena = arena at supplied
      cases supplied with
      | kept => exact Nat.le_refl _
      | placed => exact Nat.le_of_lt (Nat.lt_of_lt_of_eq (Nat.lt_succ_self _)
          (Arena.identities_place _ _).symm)
    have added := after.lender.replicas.entry?_add
      ⟨after.arena.nextIdentity, address, size, storage⟩
    have leases : after.lender.replicas.leases = desk.lender.replicas.leases :=
      congrArg ReplicaTable.leases replicas
    refine .counted _ _ ⟨⟨rfl, rfl⟩, ?_, fun other different => ?_,
      Or.inr ⟨missing, Nat.lt_succ_of_le issued⟩⟩ leases
    · rw [ReplicaTable.weight_of_missing missing]
      exact (added address).trans (if_pos rfl)
    · rw [← show after.lender.replicas = desk.lender.replicas from replicas]
      exact (added other).trans (if_neg (Ne.symm different))

/-- What asking for a lease does to the table. -/
inductive Leased (desk : Desk) (address size : Nat) : Except Fault Replica × Desk → Prop where
  | refused (fault : Fault) (after : Desk)
      (entries : after.lender.replicas.entries = desk.lender.replicas.entries)
      (leases : after.lender.replicas.leases = desk.lender.replicas.leases) :
      Leased desk address size (.error fault, after)
  | counted (replica : Replica) (after : Desk)
      (counted : desk.lender.replicas.Counted desk.arena.identities address size replica
        after.lender.replicas)
      (leases : after.lender.replicas.leases = replica :: desk.lender.replicas.leases) :
      Leased desk address size (.ok replica, after)

theorem leased (desk : Desk) (address size : Nat) :
    Leased desk address size (desk.takeLease address size) := by
  have outcome := desk.referenced address size
  unfold takeLease
  generalize desk.reference address size = result at outcome
  cases outcome with
  | refused fault after entries leases => exact .refused fault after entries leases
  | counted replica after counted leases =>
    obtain ⟨asked, here, others, origin⟩ := counted
    exact .counted replica _ ⟨asked, here, others, origin⟩ (congrArg (replica :: ·) leases)

/-- What giving a reference back does to the table. -/
inductive Returned (desk : Desk) (address : Nat) : Except Violation Unit × Desk → Prop where
  | refused (missing : desk.lender.replicas.entry? address = none) :
      Returned desk address (.error (.noReplica address), desk)
  | discounted (entry : ReplicaEntry) (after : Desk)
      (discounted : desk.lender.replicas.Discounted address entry after.lender.replicas)
      (leases : after.lender.replicas.leases = desk.lender.replicas.leases) :
      Returned desk address (.ok (), after)

theorem returned (desk : Desk) (address : Nat) :
    Returned desk address (desk.giveBack address) := by
  cases found : desk.lender.replicas.entry? address with
  | none =>
    rw [giveBack_of_absent found]
    exact .refused found
  | some entry =>
    by_cases last : entry.references - 1 = 0
    · obtain ⟨aside, given⟩ := giveBack_of_last found last
      have removed := desk.lender.replicas.entry?_remove address
      rw [given]
      refine .discounted entry _ ⟨found, ?_, fun other different => ?_⟩ rfl
      · rw [if_pos last]
        exact (removed address).trans (if_pos rfl)
      · exact (removed other).trans (if_neg (Ne.symm different))
    · have recounted := desk.lender.replicas.entry?_recount address (entry.references - 1)
      rw [giveBack_of_more found last]
      refine .discounted entry _ ⟨found, ?_, fun other different => ?_⟩ rfl
      · rw [if_neg last]
        refine (recounted address).trans ?_
        rw [if_pos rfl, found]
        rfl
      · exact (recounted other).trans (if_neg (Ne.symm different))

end Desk

/-! ### What a turn does to the table -/

/-- The address and the size for which a deed asks for a replica. -/
def Deed.asks : Deed → Option (Nat × Nat)
  | .share address size | .takeLease address size | .reach address size => some (address, size)
  | _ => none

/-- The replica that is answered. A range that is read in place has none. -/
def Reply.replica? : Reply → Option Replica
  | .replica shared | .reach (.copied shared) => some shared
  | _ => none

namespace Trade

/-- A turn asks for `size` bytes at an address and gets a replica. -/
def Takes (trade : Trade) (turn : Turn) (address size : Nat) (replica : Replica) : Prop :=
  turn.deed.asks = some (address, size) ∧ (trade.answer turn).replica? = some replica

/-- Whether a turn takes a reference at an address. -/
def takesAt (address : Nat) (trade : Trade) (turn : Turn) : Bool :=
  turn.deed.asks.any (·.1 == address) && (trade.answer turn).replica?.isSome

/-- Whether a turn gives a reference at an address back: by a return that is accepted, or by the
end of a lease whose return is accepted. -/
def returnsAt (address : Nat) (trade : Trade) (turn : Turn) : Bool :=
  match turn.deed with
  | .giveBack place => place == address && trade.answer turn == .done
  | .endLease replica =>
    replica.address == address && trade.replicas.leases.contains replica &&
      (trade.desk.giveBack address).1.isOk
  | _ => false

/-- What a turn can do to the entries and the leases. -/
inductive Turnover (trade : Trade) (turn : Turn) (after : ReplicaTable) : Prop where
  | idle (silent : turn.deed.asks = none ∨ (trade.answer turn).replica? = none)
      (noReturn : ∀ address, turn.deed ≠ .giveBack address)
      (noEnd : ∀ replica ∈ trade.replicas.leases, turn.deed ≠ .endLease replica)
      (entries : after.entries = trade.replicas.entries)
      (leases : after.leases = trade.replicas.leases)
  | shared (address size : Nat) (replica : Replica) (deed : turn.deed = .share address size)
      (answered : trade.answer turn = .replica replica)
      (counted : trade.replicas.Counted trade.issued address size replica after)
      (leases : after.leases = trade.replicas.leases)
  | leased (address size : Nat) (replica : Replica)
      (deed : turn.deed = .takeLease address size ∨ turn.deed = .reach address size)
      (answered : (trade.answer turn).replica? = some replica)
      (counted : trade.replicas.Counted trade.issued address size replica after)
      (leases : after.leases = replica :: trade.replicas.leases)
  | refused (address : Nat) (deed : turn.deed = .giveBack address)
      (answered : trade.answer turn = .failed (.refused (.noReplica address)))
      (missing : trade.replicas.entry? address = none) (same : after = trade.replicas)
  | returned (address : Nat) (entry : ReplicaEntry) (deed : turn.deed = .giveBack address)
      (answered : trade.answer turn = .done)
      (discounted : trade.replicas.Discounted address entry after)
      (leases : after.leases = trade.replicas.leases)
  | ended (replica : Replica) (entry : ReplicaEntry) (deed : turn.deed = .endLease replica)
      (held : replica ∈ trade.replicas.leases)
      (discounted : trade.replicas.Discounted replica.address entry after)
      (leases : after.leases = trade.replicas.leases.erase replica)
  | dropped (replica : Replica) (deed : turn.deed = .endLease replica)
      (held : replica ∈ trade.replicas.leases)
      (missing : trade.replicas.entry? replica.address = none)
      (entries : after.entries = trade.replicas.entries)
      (leases : after.leases = trade.replicas.leases.erase replica)

section Turnover

variable (trade : Trade) (place : Nat)

theorem turnover_share (address size : Nat) :
    Turnover trade ⟨.share address size, place⟩
      (trade.take ⟨.share address size, place⟩).replicas := by
  have answered : trade.answer ⟨.share address size, place⟩ =
      Reply.ofAnswer .replica ((trade.ready place).desk.share address size).1 := rfl
  show Turnover trade _ ((trade.ready place).desk.share address size).2.lender.replicas
  have outcome := (trade.ready place).desk.referenced address size
  unfold Desk.share at answered ⊢
  generalize (trade.ready place).desk.reference address size = result at outcome answered ⊢
  cases outcome with
  | refused fault after entries leases =>
    exact .idle (Or.inr (congrArg Reply.replica? answered)) nofun nofun entries leases
  | counted replica after counted leases =>
    obtain ⟨asked, here, others, origin⟩ := counted
    exact .shared address size replica rfl answered ⟨asked, here, others, origin⟩ leases

theorem turnover_takeLease (address size : Nat) :
    Turnover trade ⟨.takeLease address size, place⟩
      (trade.take ⟨.takeLease address size, place⟩).replicas := by
  have answered : trade.answer ⟨.takeLease address size, place⟩ =
      Reply.ofAnswer .replica ((trade.ready place).desk.takeLease address size).1 := rfl
  show Turnover trade _ ((trade.ready place).desk.takeLease address size).2.lender.replicas
  have outcome := (trade.ready place).desk.leased address size
  generalize (trade.ready place).desk.takeLease address size = result at outcome answered ⊢
  cases outcome with
  | refused fault after entries leases =>
    exact .idle (Or.inr (congrArg Reply.replica? answered)) nofun nofun entries leases
  | counted replica after counted leases =>
    exact .leased address size replica (Or.inl rfl) (congrArg Reply.replica? answered) counted
      leases

theorem turnover_reach (address size : Nat) :
    Turnover trade ⟨.reach address size, place⟩
      (trade.take ⟨.reach address size, place⟩).replicas := by
  have answered : trade.answer ⟨.reach address size, place⟩ =
      Reply.ofAnswer .reach ((trade.ready place).desk.reach address size).1 := rfl
  show Turnover trade _ ((trade.ready place).desk.reach address size).2.lender.replicas
  unfold Desk.reach at answered ⊢
  by_cases null : address = 0
  · rw [if_pos null] at answered ⊢
    exact .idle (Or.inr (congrArg Reply.replica? answered)) nofun nofun rfl rfl
  rw [if_neg null] at answered ⊢
  cases viewed : ((trade.ready place).desk.openView address size).1 with
  | some view =>
    have table := Desk.overlooks_table.openView (trade.ready place).desk address size
    rw [← Prod.eta ((trade.ready place).desk.openView address size), viewed] at answered ⊢
    exact .idle (Or.inr (congrArg Reply.replica? answered)) nofun nofun
      (congrArg ReplicaTable.entries table) (congrArg ReplicaTable.leases table)
  | none =>
    have outcome := (trade.ready place).desk.leased address size
    rw [← Prod.eta ((trade.ready place).desk.openView address size), viewed,
      Desk.openView_of_none viewed] at answered ⊢
    dsimp only at answered ⊢
    generalize (trade.ready place).desk.takeLease address size = result at outcome answered ⊢
    cases outcome with
    | refused fault after entries leases =>
      exact .idle (Or.inr (congrArg Reply.replica? answered)) nofun nofun entries leases
    | counted replica after counted leases =>
      exact .leased address size replica (Or.inr rfl) (congrArg Reply.replica? answered) counted
        leases

theorem turnover_giveBack (address : Nat) :
    Turnover trade ⟨.giveBack address, place⟩
      (trade.take ⟨.giveBack address, place⟩).replicas := by
  have answered : trade.answer ⟨.giveBack address, place⟩ =
      Reply.ofAnswer (fun _ => .done)
        (((trade.ready place).desk.giveBack address).1.mapError Fault.refused) := rfl
  show Turnover trade _ ((trade.ready place).desk.giveBack address).2.lender.replicas
  have outcome := (trade.ready place).desk.returned address
  generalize (trade.ready place).desk.giveBack address = result at outcome answered ⊢
  cases outcome with
  | refused missing => exact .refused address rfl answered missing rfl
  | discounted entry after discounted leases =>
    exact .returned address entry rfl answered discounted leases

theorem turnover_endLease (replica : Replica) :
    Turnover trade ⟨.endLease replica, place⟩
      (trade.take ⟨.endLease replica, place⟩).replicas := by
  show Turnover trade _ ((trade.ready place).desk.endLease replica).lender.replicas
  by_cases held : replica ∈ (trade.ready place).desk.lender.replicas.leases
  · obtain ⟨aside, aside', ended⟩ := Desk.endLease_of_mem held
    rw [ended]
    have outcome := (trade.ready place).desk.returned replica.address
    generalize (trade.ready place).desk.giveBack replica.address = result at outcome
    cases outcome with
    | refused missing => exact .dropped replica rfl held missing rfl rfl
    | discounted entry after discounted leases =>
      obtain ⟨found, here, others⟩ := discounted
      exact .ended replica entry rfl held ⟨found, here, others⟩ (congrArg (·.erase replica) leases)
  · unfold Desk.endLease
    rw [if_neg held]
    refine .idle (Or.inl rfl) nofun (fun other lent same => ?_) rfl rfl
    cases same
    exact held lent

theorem turnover_closeHandle (replica : Replica) :
    Turnover trade ⟨.closeHandle replica, place⟩
      (trade.take ⟨.closeHandle replica, place⟩).replicas := by
  show Turnover trade _ ((trade.ready place).desk.closeHandle replica).lender.replicas
  by_cases held : replica ∈ (trade.ready place).desk.lender.replicas.handles
  · obtain ⟨aside, closed⟩ := Desk.closeHandle_of_mem held
    rw [closed]
    exact .idle (Or.inl rfl) nofun nofun rfl rfl
  · unfold Desk.closeHandle
    rw [if_neg held]
    exact .idle (Or.inl rfl) nofun nofun rfl rfl

theorem turnover_copyHandle (replica : Replica) :
    Turnover trade ⟨.copyHandle replica, place⟩
      (trade.take ⟨.copyHandle replica, place⟩).replicas := by
  show Turnover trade _ ((trade.ready place).whereRead replica (·.openHandle replica)).replicas
  unfold whereRead
  split <;> exact .idle (Or.inl rfl) nofun nofun rfl rfl

end Turnover

theorem turnover_of_other (trade : Trade) {turn : Turn} (other : turn.deed.isSharing = false) :
    Turnover trade turn (trade.take turn).replicas := by
  rw [trade.replicas_take other]
  refine .idle (Or.inl ?_) (fun address deed => ?_) (fun replica _ deed => ?_) rfl rfl
  · obtain ⟨deed, place⟩ := turn
    cases deed <;> first | rfl | cases other
  · rw [deed] at other
    cases other
  · rw [deed] at other
    cases other

theorem turnover (trade : Trade) (turn : Turn) :
    Turnover trade turn (trade.take turn).replicas := by
  obtain ⟨deed, place⟩ := turn
  cases deed with
  | share address size => exact trade.turnover_share place address size
  | giveBack address => exact trade.turnover_giveBack place address
  | takeLease address size => exact trade.turnover_takeLease place address size
  | endLease replica => exact trade.turnover_endLease place replica
  | copyHandle replica => exact trade.turnover_copyHandle place replica
  | closeHandle replica => exact trade.turnover_closeHandle place replica
  | reach address size => exact trade.turnover_reach place address size
  | _ => exact trade.turnover_of_other rfl

theorem counted_of_takes {trade : Trade} {turn : Turn} {address size : Nat} {replica : Replica}
    (takes : trade.Takes turn address size replica) :
    trade.replicas.Counted trade.issued address size replica (trade.take turn).replicas := by
  obtain ⟨asked, answered⟩ := takes
  have outcome := trade.turnover turn
  generalize (trade.take turn).replicas = after at outcome ⊢
  cases outcome with
  | idle silent =>
    rcases silent with silent | silent
    · cases silent.symm.trans asked
    · cases silent.symm.trans answered
  | shared place length other deed answered' counted =>
    rw [deed] at asked
    rw [answered'] at answered
    cases asked
    cases answered
    exact counted
  | leased place length other deed answered' counted =>
    have asked' : turn.deed.asks = some (place, length) :=
      deed.elim (fun deed => deed ▸ rfl) (fun deed => deed ▸ rfl)
    cases asked'.symm.trans asked
    cases answered'.symm.trans answered
    exact counted
  | refused place deed => cases (deed ▸ asked : (Deed.giveBack place).asks = _)
  | returned place entry deed => cases (deed ▸ asked : (Deed.giveBack place).asks = _)
  | ended other entry deed => cases (deed ▸ asked : (Deed.endLease other).asks = _)
  | dropped other deed => cases (deed ▸ asked : (Deed.endLease other).asks = _)

/-- A lease that ends gives its reference back, or there is none at its address. -/
theorem ended_or_missing (trade : Trade) {turn : Turn} {lease : Replica}
    (deed : turn.deed = .endLease lease) :
    (∃ entry, trade.replicas.Discounted lease.address entry (trade.take turn).replicas ∧
        (trade.take turn).replicas.leases = trade.replicas.leases.erase lease) ∨
      (trade.take turn).replicas.entries = trade.replicas.entries ∧
        (lease ∈ trade.replicas.leases → trade.replicas.entry? lease.address = none) := by
  have outcome := trade.turnover turn
  generalize (trade.take turn).replicas = after at outcome ⊢
  cases outcome with
  | ended other entry deed' held discounted leases =>
    cases deed.symm.trans deed'
    exact Or.inl ⟨entry, discounted, leases⟩
  | dropped other deed' held missing entries leases =>
    cases deed.symm.trans deed'
    exact Or.inr ⟨entries, fun _ => missing⟩
  | idle silent noReturn noEnd entries leases =>
    exact Or.inr ⟨entries, fun held => absurd deed (noEnd lease held)⟩
  | shared _ _ _ deed' => cases deed.symm.trans deed'
  | leased _ _ _ deed' => rcases deed' with deed' | deed' <;> cases deed.symm.trans deed'
  | refused _ deed' => cases deed.symm.trans deed'
  | returned _ _ deed' => cases deed.symm.trans deed'

/-- As long as an address has an entry, the entry has the same replica. -/
theorem replica_take {trade : Trade} {turn : Turn} {address references : Nat} {replica : Replica}
    (found : trade.replicas.entry? address = some ⟨replica, references⟩)
    (still : (ReplicaTable.entry? (trade.take turn).replicas address).isSome) :
    ∃ references,
      ReplicaTable.entry? (trade.take turn).replicas address = some ⟨replica, references⟩ := by
  have outcome := trade.turnover turn
  generalize (trade.take turn).replicas = after at outcome still ⊢
  cases outcome with
  | idle silent noReturn noEnd entries =>
    exact ⟨references, (ReplicaTable.entry?_of_entries entries address).trans found⟩
  | shared place size other deed answered counted => exact counted.found found
  | leased place size other deed answered counted => exact counted.found found
  | refused place deed answered missing same => exact ⟨references, same ▸ found⟩
  | returned place entry deed answered discounted => exact discounted.left found still
  | ended other entry deed held discounted => exact discounted.left found still
  | dropped other deed held missing entries =>
    exact ⟨references, (ReplicaTable.entry?_of_entries entries address).trans found⟩

end Trade

end MemoryLending
