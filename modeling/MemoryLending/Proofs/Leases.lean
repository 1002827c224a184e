/-
This file accounts for every reference by its holder. A lease gives its reference back by the
address alone, so a caller who returns what it never took could take the reference of a lease
away, and the lease would end at an entry that is not its own. As long as the returns at an
address never outnumber what was taken there to be returned, this does not happen: every lease
has the replica of the entry, the count of an entry is the leases and the other references of its
address together, and no lease ever ends without giving its own reference back.
-/

import Mathlib.Data.List.Induction
import Mathlib.Data.List.Infix
import MemoryLending.Proofs.References

namespace MemoryLending

/-! ### Leases that end without a reference -/

namespace Desk

/-- The records of leases that had no reference left to give back. -/
def lostReturns (desk : Desk) : List Event := desk.journal.filter Event.isLostReturn

theorem overlooksLoans_lostReturns : OverlooksLoans lostReturns where
  reserve _ _ := rfl
  views _ _ := rfl
  record _ _ quiet _ := List.filter_cons_of_neg (Bool.eq_false_iff.mp quiet)
  deals _ _ deal := List.filter_cons_of_neg (Bool.eq_false_iff.mp (Event.isLostReturn_of_deal deal))
  loans _ _ := rfl
  token _ := rfl

theorem overlooks_lostReturns : OverlooksArena lostReturns where
  toOverlooks := overlooksLoans_lostReturns.toOverlooks
  replicas _ _ := rfl
  arena _ _ := rfl

end Desk

/-- Only the end of a lease whose address has no entry loses a return. -/
theorem Trade.lostReturns_perform (trade : Trade) {deed : Deed}
    (found : ∀ replica ∈ trade.replicas.leases, deed = .endLease replica →
      (trade.replicas.entry? replica.address).isSome) :
    (trade.perform deed).2.desk.lostReturns = trade.desk.lostReturns := by
  refine trade.read_perform Desk.overlooks_lostReturns (fun size _ => ?_)
    (fun address token _ => ?_) fun replica deed => ?_
  · exact (Desk.overlooksLoans_lostReturns.lend trade.desk size).trans
      (Desk.overlooks_lostReturns.blockFor trade.desk size)
  · exact Desk.overlooksLoans_lostReturns.reclaim trade.desk address token
  · refine Desk.overlooks_lostReturns.endLease trade.desk fun held missing => ?_
    have found := found replica held deed
    rw [show trade.replicas.entry? replica.address = none from missing] at found
    cases found

/-! ### References by holder -/

namespace ReplicaTable

/-- How many leases there are at an address. -/
def leaseCount (table : ReplicaTable) (address : Nat) : Nat :=
  table.leases.countP (·.address == address)

variable {before after : ReplicaTable} {replica : Replica}

theorem leaseCount_of_same (leases : after.leases = before.leases) (address : Nat) :
    after.leaseCount address = before.leaseCount address :=
  congrArg (List.countP _) leases

theorem leaseCount_of_cons (leases : after.leases = replica :: before.leases) (address : Nat) :
    after.leaseCount address =
      before.leaseCount address + if replica.address = address then 1 else 0 := by
  unfold leaseCount
  rw [leases, List.countP_cons]
  simp only [beq_iff_eq]

theorem leaseCount_of_erase (held : replica ∈ before.leases)
    (leases : after.leases = before.leases.erase replica) (address : Nat) :
    after.leaseCount address + (if replica.address = address then 1 else 0) =
      before.leaseCount address := by
  have perm := (List.perm_cons_erase held).symm.countP_eq (·.address == address)
  rw [List.countP_cons, ← leases] at perm
  simp only [beq_iff_eq] at perm
  exact perm

theorem leaseCount_pos (held : replica ∈ before.leases) : 0 < before.leaseCount replica.address :=
  List.countP_pos_iff.mpr ⟨replica, held, beq_self_eq_true _⟩

end ReplicaTable

namespace Trade

/-- Whether a turn takes a reference that has to be given back by address. -/
def sharesAt (address : Nat) (trade : Trade) (turn : Turn) : Bool :=
  match turn.deed with
  | .share place _ => place == address && (trade.answer turn).replica?.isSome
  | _ => false

/-- Whether a turn gives a reference back by address, or tries to. -/
def callsBackAt (address : Nat) (_ : Trade) (turn : Turn) : Bool :=
  turn.deed == .giveBack address

/-- At no moment of a run have there been more returns at an address than references taken there
that have to be given back. -/
def Covered (trade : Trade) (turns : List Turn) : Prop :=
  ∀ front, front <+: turns → ∀ address,
    trade.times (callsBackAt address) front ≤ trade.times (sharesAt address) front

/-- Every lease has the replica of the entry at its address. -/
def Current (trade : Trade) : Prop :=
  ∀ lease ∈ trade.replicas.leases,
    ∃ references, trade.replicas.entry? lease.address = some ⟨lease, references⟩

/-- The count of an entry is made up of the leases and of the references that were taken to be
given back and are not given back yet. -/
def Shares (trade : Trade) (taken back : Nat → Nat) : Prop :=
  ∀ address, trade.replicas.weight address + back address =
    trade.replicas.leaseCount address + taken address

theorem sharesAt_eq_false {trade : Trade} {turn : Turn}
    (other : ∀ address size, turn.deed ≠ .share address size) (address : Nat) :
    sharesAt address trade turn = false := by
  unfold sharesAt
  split
  · rename_i place size deed
    exact absurd deed (other place size)
  · rfl

theorem sharesAt_of_silent {trade : Trade} {turn : Turn}
    (silent : turn.deed.asks = none ∨ (trade.answer turn).replica? = none) (address : Nat) :
    sharesAt address trade turn = false := by
  unfold sharesAt
  split
  · rename_i place size deed
    rw [deed] at silent
    rw [silent.resolve_left nofun]
    exact Bool.and_false _
  · rfl

theorem callsBackAt_eq_false {trade : Trade} {turn : Turn} (address : Nat)
    (other : turn.deed ≠ .giveBack address) : callsBackAt address trade turn = false :=
  beq_eq_false_iff_ne.mpr other

/-- A turn keeps the shares, if it returns no more than was taken. -/
theorem Shares.take {trade : Trade} {taken back : Nat → Nat} (shares : trade.Shares taken back)
    (referred : trade.Referred) (current : trade.Current) (turn : Turn)
    (covered : ∀ address, back address + (if callsBackAt address trade turn then 1 else 0) ≤
      taken address + if sharesAt address trade turn then 1 else 0) :
    (trade.take turn).Shares
      (fun address => taken address + if sharesAt address trade turn then 1 else 0)
      (fun address => back address + if callsBackAt address trade turn then 1 else 0) := by
  intro address
  have shares := shares address
  have covered := covered address
  have outcome := trade.turnover turn
  generalize (trade.take turn).replicas = after at outcome ⊢
  dsimp only
  cases outcome with
  | idle silent noReturn noEnd entries leases =>
    rw [sharesAt_of_silent silent, callsBackAt_eq_false address (noReturn address),
      ReplicaTable.weight_congr (ReplicaTable.entry?_of_entries entries address),
      ReplicaTable.leaseCount_of_same leases]
    exact shares
  | shared place size replica deed answered counted leases =>
    have taking : sharesAt address trade turn = (place == address) := by
      unfold sharesAt
      rw [deed, answered]
      exact Bool.and_true _
    rw [taking, callsBackAt_eq_false address (deed ▸ nofun), counted.weight,
      ReplicaTable.leaseCount_of_same leases]
    simp only [beq_iff_eq, Bool.false_eq_true, if_false]
    omega
  | leased place size replica deed answered counted leases =>
    have noShare : ∀ address size, turn.deed ≠ .share address size := by
      rcases deed with deed | deed <;> exact deed ▸ nofun
    have noReturn : turn.deed ≠ .giveBack address := by
      rcases deed with deed | deed <;> exact deed ▸ nofun
    rw [sharesAt_eq_false noShare, callsBackAt_eq_false address noReturn, counted.weight,
      ReplicaTable.leaseCount_of_cons leases, counted.asked.1]
    simp only [Bool.false_eq_true, if_false]
    omega
  | refused place deed answered missing same =>
    rw [sharesAt_eq_false (deed ▸ nofun)] at covered ⊢
    by_cases here : place = address
    · -- Nothing is there to be given back: all that was taken has been returned before.
      subst here
      rw [ReplicaTable.weight_of_missing missing] at shares
      rw [show callsBackAt place trade turn = true from beq_iff_eq.mpr deed] at covered
      simp only [if_true, Bool.false_eq_true, if_false] at covered
      omega
    · rw [callsBackAt_eq_false address (deed ▸ fun same => here (Deed.giveBack.inj same)), same]
      exact shares
  | returned place entry deed answered discounted leases =>
    have returning : callsBackAt address trade turn = (place == address) := by
      unfold callsBackAt
      rw [deed]
      exact beq_eq_beq.mpr ⟨fun same => Deed.giveBack.inj same, congrArg Deed.giveBack⟩
    have fewer := referred.weight_of_discounted discounted address
    rw [sharesAt_eq_false (deed ▸ nofun), returning, ReplicaTable.leaseCount_of_same leases]
    simp only [beq_iff_eq, Bool.false_eq_true, if_false]
    omega
  | ended lease entry deed held discounted leases =>
    have fewer := referred.weight_of_discounted discounted address
    have ended := ReplicaTable.leaseCount_of_erase held leases address
    rw [sharesAt_eq_false (deed ▸ nofun), callsBackAt_eq_false address (deed ▸ nofun)]
    simp only [Bool.false_eq_true, if_false]
    omega
  | dropped lease deed held missing entries leases =>
    obtain ⟨references, found⟩ := current lease held
    cases found.symm.trans missing

/-- A lease is older than the turn, or the turn has taken it for the replica of the entry. -/
theorem lease_take {trade : Trade} {turn : Turn} {lease : Replica}
    (held : lease ∈ (trade.take turn).replicas.leases) :
    lease ∈ trade.replicas.leases ∨ ∃ references,
      ReplicaTable.entry? (trade.take turn).replicas lease.address = some ⟨lease, references⟩ := by
  have outcome := trade.turnover turn
  generalize (trade.take turn).replicas = after at outcome held ⊢
  cases outcome with
  | idle silent noReturn noEnd entries leases => exact Or.inl (leases ▸ held)
  | shared place size replica deed answered counted leases => exact Or.inl (leases ▸ held)
  | leased place size replica deed answered counted leases =>
    rw [leases] at held
    rcases List.mem_cons.mp held with rfl | older
    · exact Or.inr ⟨_, counted.asked.1 ▸ counted.here⟩
    · exact Or.inl older
  | refused place deed answered missing same => exact Or.inl (same ▸ held)
  | returned place entry deed answered discounted leases => exact Or.inl (leases ▸ held)
  | ended replica entry deed older discounted leases =>
    exact Or.inl (List.mem_of_mem_erase (leases ▸ held))
  | dropped replica deed older missing entries leases =>
    exact Or.inl (List.mem_of_mem_erase (leases ▸ held))

/-- An address with leases has an entry, as long as no more is returned than was taken. -/
theorem Current.take {trade : Trade} {turn : Turn} {taken back : Nat → Nat}
    (current : trade.Current) (referred : (trade.take turn).Referred)
    (shares : (trade.take turn).Shares taken back)
    (covered : ∀ address, back address ≤ taken address) : (trade.take turn).Current := by
  intro lease held
  have still : (ReplicaTable.entry? (trade.take turn).replicas lease.address).isSome := by
    rw [← referred.weight_pos]
    have shares := shares lease.address
    have covered := covered lease.address
    have held := ReplicaTable.leaseCount_pos held
    omega
  rcases lease_take held with older | new
  · obtain ⟨references, found⟩ := current lease older
    exact replica_take found still
  · exact new

theorem lostReturns_take {trade : Trade} (current : trade.Current) (turn : Turn) :
    (trade.take turn).desk.lostReturns = trade.desk.lostReturns := by
  refine (trade.ready turn.place).lostReturns_perform fun lease held _ => ?_
  obtain ⟨references, found⟩ := current lease held
  exact Option.isSome_of_eq_some found

/-- Every reference of a trade is traced to its holder, and no return has been lost. -/
structure Traced (trade : Trade) (taken back : Nat → Nat) : Prop where
  referred : trade.Referred
  current : trade.Current
  shares : trade.Shares taken back
  quiet : trade.desk.lostReturns = []

theorem traced_run (policy : Policy) (arena : Arena) {turns : List Turn}
    (covered : (opened policy arena).Covered turns) :
    ((opened policy arena).run turns).Traced
      (fun address => (opened policy arena).times (sharesAt address) turns)
      (fun address => (opened policy arena).times (callsBackAt address) turns) := by
  induction turns using List.reverseRecOn with
  | nil => exact ⟨referred_opened policy arena, nofun, fun _ => rfl, rfl⟩
  | append_singleton front turn inductionHypothesis =>
    have before := inductionHypothesis fun earlier part =>
      covered earlier (part.trans (List.prefix_append front [turn]))
    have now := covered (front ++ [turn]) (List.prefix_refl _)
    simp only [run_concat, times_concat] at now ⊢
    have referred := before.referred.take turn
    have shares := before.shares.take before.referred before.current turn now
    exact ⟨referred, before.current.take referred shares now, shares,
      (lostReturns_take before.current turn).trans before.quiet⟩

/-! ### The rules of leases -/

/-- The references that somebody has at an address: one for each lease, and those that were taken
to be given back and are not given back yet. -/
def owing (start : Trade) (turns : List Turn) (trade : Trade) (address : Nat) : Nat :=
  trade.replicas.leaseCount address +
    (start.times (sharesAt address) turns - start.times (callsBackAt address) turns)

/-- A lease that ends gives back its own reference and no other one. -/
structure EndsAlone (trade : Trade) (turn : Turn) (lease : Replica) : Prop where
  returned : (trade.desk.giveBack lease.address).1 = .ok ()
  leases : (trade.take turn).replicas.leases = trade.replicas.leases.erase lease
  count : ∀ address, (trade.take turn).replicas.weight address +
    (if lease.address = address then 1 else 0) = trade.replicas.weight address
  current : (trade.take turn).Current

/-- What a holder of a lease can rely on after the turns of a run. -/
structure Leases (start : Trade) (turns : List Turn) (trade : Trade) : Prop where
  /-- Every lease has the replica of the entry at its address. -/
  current : trade.Current
  /-- The count of an entry is the number of references that somebody has. -/
  count : ∀ address, trade.replicas.references? address =
    if owing start turns trade address = 0 then none else some (owing start turns trade address)
  ending : ∀ turn lease, lease ∈ trade.replicas.leases → turn.deed = .endLease lease →
    trade.EndsAlone turn lease
  /-- No lease has ever ended without a reference to give back. -/
  quiet : ∀ violation, .leaseReturnFailed violation ∉ trade.desk.journal
  /-- When every lease has ended and everything else has been given back, nothing is left. -/
  settled : trade.replicas.leases = [] →
    (∀ address, start.times (sharesAt address) turns = start.times (callsBackAt address) turns) →
      trade.replicas.entries = []

theorem Traced.endsAlone {trade : Trade} {taken back : Nat → Nat} {turn : Turn}
    {lease : Replica} (traced : trade.Traced taken back)
    (covered : ∀ address, back address ≤ taken address) (held : lease ∈ trade.replicas.leases)
    (deed : turn.deed = .endLease lease) : trade.EndsAlone turn lease := by
  have noShare : ∀ address, sharesAt address trade turn = false :=
    sharesAt_eq_false (deed ▸ nofun)
  have noReturn : ∀ address, callsBackAt address trade turn = false := fun address =>
    callsBackAt_eq_false address (deed ▸ nofun)
  have shares := traced.shares.take traced.referred traced.current turn
  simp only [noShare, noReturn, Bool.false_eq_true, if_false, Nat.add_zero] at shares
  have current := traced.current.take (traced.referred.take turn) (shares covered) covered
  obtain ⟨references, found⟩ := traced.current lease held
  have returned : (trade.desk.giveBack lease.address).1 = .ok () := by
    have outcome := trade.desk.returned lease.address
    generalize trade.desk.giveBack lease.address = result at outcome
    cases outcome with
    | refused missing => cases found.symm.trans missing
    | discounted => rfl
  rcases trade.ended_or_missing deed with ⟨entry, discounted, leases⟩ | ⟨-, missing⟩
  · exact ⟨returned, leases, traced.referred.weight_of_discounted discounted, current⟩
  · cases found.symm.trans (missing held)

/-- As long as nobody returns at an address more than was taken there to be returned, every lease
has the replica of the entry and every reference has its holder. -/
theorem leases_run (policy : Policy) (arena : Arena) (turns : List Turn)
    (covered : (opened policy arena).Covered turns) :
    Leases (opened policy arena) turns ((opened policy arena).run turns) := by
  have traced := traced_run policy arena covered
  have covered := covered turns (List.prefix_refl _)
  have count : ∀ address, ((opened policy arena).run turns).replicas.weight address =
      owing (opened policy arena) turns ((opened policy arena).run turns) address := by
    intro address
    have shares := traced.shares address
    have covered := covered address
    unfold owing
    omega
  generalize (opened policy arena).run turns = trade at traced count ⊢
  refine
    { current := traced.current
      count := fun address => ?_
      ending := fun turn lease => traced.endsAlone covered
      quiet := fun violation lost => ?_
      settled := fun noLease balanced => ?_ }
  · rw [← count]
    unfold ReplicaTable.references?
    cases found : trade.replicas.entry? address with
    | none => rw [ReplicaTable.weight_of_missing found, if_pos rfl, Option.map_none]
    | some entry =>
      rw [ReplicaTable.weight_of_found found, Option.map_some,
        if_neg (Nat.ne_of_gt (traced.referred address entry found))]
  · have listed : Event.leaseReturnFailed violation ∈ trade.desk.lostReturns :=
      List.mem_filter.mpr ⟨lost, rfl⟩
    rw [traced.quiet] at listed
    cases listed
  · refine List.eq_nil_iff_forall_not_mem.mpr fun entry member => ?_
    have some : (trade.replicas.entry? entry.replica.address).isSome :=
      List.find?_isSome.mpr ⟨entry, member, beq_self_eq_true _⟩
    rw [← traced.referred.weight_pos, count, owing, balanced, Nat.sub_self] at some
    unfold ReplicaTable.leaseCount at some
    rw [noLease] at some
    cases some

/-- Two callers read the same address, one of them by a lease. The other one gives its reference
back, and the lease still has its own. -/
theorem leases_run_shared :
    let start := opened Policy.standard (Arena.startingAt 0 16 16)
    let turns : List Turn := [⟨.share 64 4, 4096⟩, ⟨.takeLease 64 4, 0⟩, ⟨.giveBack 64, 0⟩]
    let lease : Replica := ⟨2, 64, 4, ⟨1, 4096, 4, true⟩⟩
    start.Covered turns ∧ (start.run turns).replicas.leases = [lease] ∧
      (start.run turns).replicas.references? 64 = some 1 ∧
        (start.run turns).EndsAlone ⟨.endLease lease, 0⟩ lease := by
  intro start turns lease
  have covered : start.Covered turns := by
    intro front part address
    replace part : front ∈ turns.inits := (List.mem_inits front turns).mpr part
    by_cases here : 64 = address
    · subst here
      revert front
      decide +kernel
    · have none : start.times (callsBackAt address) front = 0 := by
        simp only [turns, List.inits, List.map_cons, List.map_nil, List.mem_cons,
          List.not_mem_nil, or_false] at part
        rcases part with rfl | rfl | rfl | rfl <;> simp [times, callsBackAt, here]
      exact none ▸ Nat.zero_le _
  have leases : (start.run turns).replicas.leases = [lease] := by decide +kernel
  have rules := leases_run Policy.standard (Arena.startingAt 0 16 16) turns covered
  refine ⟨covered, leases, (rules.count 64).trans ?_, rules.ending _ lease ?_ rfl⟩
  · decide +kernel
  · rw [leases]
    exact List.mem_cons_self

end Trade

end MemoryLending
