/-
This file takes every deed apart into moves of single blocks. A deed first draws at most one
block out of the reserve or from the heap into somebody's hands, and then shifts blocks from one
holder to another: from hands into a loan or a replica, from a loan to a view, and from the last
holder back to the reserve. What a holder has is written down with the traffic that the reserve
sees, so that whatever is to be proved about who holds which block is proved for one shift at a
time.
-/

import Mathlib.Logic.Basic
import MemoryLending.Proofs.Desk
import MemoryLending.Proofs.LoanBook
import MemoryLending.Proofs.Trade

namespace MemoryLending

/-! ### Who holds what -/

/-- Whether an entry, a handle or a lease holds a replica. -/
def ReplicaTable.Has (table : ReplicaTable) (replica : Replica) : Prop :=
  (∃ entry ∈ table.entries, entry.replica = replica) ∨ replica ∈ table.handles ∨
    replica ∈ table.leases

namespace ReplicaTable

theorem mem_of_found {table : ReplicaTable} {address : Nat} {entry : ReplicaEntry}
    (found : table.entry? address = some entry) :
    entry ∈ table.entries ∧ entry.replica.address = address := by
  have here := List.find?_some found
  exact ⟨List.mem_of_find?_eq_some found, of_decide_eq_true here⟩

theorem has_of_found {table : ReplicaTable} {address : Nat} {entry : ReplicaEntry}
    (found : table.entry? address = some entry) : table.Has entry.replica :=
  Or.inl ⟨entry, (mem_of_found found).1, rfl⟩

theorem has_add {table : ReplicaTable} {added replica : Replica} :
    (table.add added).Has replica ↔ replica = added ∨ table.Has replica := by
  unfold Has add
  simp only [List.mem_cons, exists_eq_or_imp, or_assoc, eq_comm]

theorem replica_recounted (entry : ReplicaEntry) (address references : Nat) :
    (if entry.replica.address = address then { entry with references } else entry).replica =
      entry.replica := by
  split <;> rfl

theorem has_recount {table : ReplicaTable} {address references : Nat} {replica : Replica} :
    (table.recount address references).Has replica ↔ table.Has replica := by
  unfold Has recount
  simp only [List.mem_map, exists_exists_and_eq_and, replica_recounted]

theorem addresses_recount (table : ReplicaTable) (address references : Nat) :
    (table.recount address references).entries.map (·.replica.address) =
      table.entries.map (·.replica.address) := by
  unfold recount
  rw [List.map_map]
  refine List.map_congr_left fun entry _ => ?_
  exact congrArg Replica.address (replica_recounted entry address references)

theorem has_cons_handle {table : ReplicaTable} {replica : Replica} (has : table.Has replica)
    (other : Replica) :
    Has { table with handles := replica :: table.handles } other ↔ table.Has other := by
  constructor
  · rintro (entry | handle | lease)
    · exact Or.inl entry
    · rcases List.mem_cons.mp handle with rfl | older
      · exact has
      · exact Or.inr (Or.inl older)
    · exact Or.inr (Or.inr lease)
  · exact Or.imp_right (Or.imp_left (List.mem_cons_of_mem _))

theorem has_cons_lease {table : ReplicaTable} {replica : Replica} (has : table.Has replica)
    (other : Replica) :
    Has { table with leases := replica :: table.leases } other ↔ table.Has other := by
  constructor
  · rintro (entry | handle | lease)
    · exact Or.inl entry
    · exact Or.inr (Or.inl handle)
    · rcases List.mem_cons.mp lease with rfl | older
      · exact has
      · exact Or.inr (Or.inr older)
  · exact Or.imp_right (Or.imp_right (List.mem_cons_of_mem _))

theorem has_of_remove {table : ReplicaTable} {address : Nat} {replica : Replica}
    (had : (table.remove address).Has replica) : table.Has replica := by
  rcases had with ⟨entry, member, same⟩ | others
  · exact Or.inl ⟨entry, List.mem_of_mem_filter member, same⟩
  · exact Or.inr others

end ReplicaTable

namespace Trade

def kept (trade : Trade) : List Block := trade.desk.lender.reserve.kept

def loans (trade : Trade) : List Loan := trade.desk.lender.loans.toList

def views (trade : Trade) : List View := trade.desk.lender.views

def replicas (trade : Trade) : ReplicaTable := trade.desk.lender.replicas

/-- The number of identities given out. -/
def issued (trade : Trade) : Nat := trade.desk.arena.identities

/-- Takes a block into hands. -/
def hold (trade : Trade) (block : Block) : Trade :=
  { trade with rented := block :: trade.rented }

/-- Lets a block out of hands. -/
def part (trade : Trade) (block : Block) : Trade :=
  { trade with rented := trade.rented.erase block }

/-- The trade after traffic with the reserve, and with other things set aside. -/
def amend (trade : Trade) (traffic : List Traffic) (aside : Aside) : Trade :=
  trade.withDesk (trade.desk.amend traffic aside)

/-- What a turn asks of the reserve, before anything is brought back. -/
def asked (trade : Trade) (turn : Turn) : List Traffic :=
  let desk := (trade.ready turn.place).desk
  match turn.deed with
  | .rent size | .lend size => Traffic.asking size
  | .clear => [.clear]
  | .share address size | .takeLease address size => desk.askingReference address size
  | .reach address size =>
    if (desk.openView address size).1.isSome then [] else desk.askingReference address size
  | _ => []

/-- What a turn brings back to the reserve. -/
def back (trade : Trade) (turn : Turn) : List Traffic :=
  let desk := (trade.ready turn.place).desk
  match turn.deed with
  | .handIn block => if block ∈ trade.rented then [.restore block] else []
  | .donate size =>
    if size = 0 then [.restore Block.empty]
    else if Word.longestBlock < size then []
    else [.restore (desk.arena.nextBlock size true)]
  | .lend size => desk.backFromLending size
  | .reclaim address token => desk.backFromReclaim address token
  | .closeView view => desk.backFromView view
  | .giveBack address => desk.backFromGiving address
  | .endLease replica => desk.backFromLease replica
  | .closeHandle replica => desk.backFromHandle replica
  | _ => []

/-- The block the heap has ready for a turn. -/
def freshBlock (trade : Trade) (turn : Turn) (length : Nat) (pooled : Bool) : Block :=
  ⟨trade.issued + 1, turn.place, length, pooled⟩

end Trade

/-! ### Moves -/

/-- How a turn gets a block into hands, with what it asks of the reserve. -/
inductive Draw (turn : Turn) (trade : Trade) : List Traffic → Option Block → Trade → Prop where
  | idle : Draw turn trade [] none trade
  | empty : Draw turn trade [] (some Block.empty) (trade.hold Block.empty)
  | miss (length : Nat) : Draw turn trade [.request length] none trade
  | kept (length : Nat) (block : Block) (rest : List Block)
      (taken : Reserve.takeFirst length trade.kept = some (block, rest)) :
      Draw turn trade [.request length] (some block) (trade.hold block)
  | fresh (length : Nat) (asked : List Traffic) (positive : length ≠ 0)
      (short : length ≤ Word.longestBlock) (offered : turn.deed.freshLength = length)
      (requests : ∀ action ∈ asked, action = .request length) :
      Draw turn trade asked (some (trade.freshBlock turn length true))
        ((trade.withDesk trade.desk.issue).hold (trade.freshBlock turn length true))

/-- How a block gets a new loan or a new replica for its holder. Only the drawn block does, or
the byte for a loan of no bytes, which passes through nobody's hands. -/
inductive Entry (turn : Turn) (drawn : Option Block) (trade : Trade) : Trade → Prop where
  | loan (loan : Loan) (loans : LoanBook) (source : drawn = some loan.block)
      (held : loan.block ∈ trade.rented) (positive : loan.length ≠ 0)
      (long : loan.length ≤ loan.block.capacity)
      (accepted : trade.desk.lender.loans.enter loan = .ok loans) :
      Entry turn drawn trade ((trade.part loan.block).withDesk (trade.desk.withLoans loans))
  | byte (loan : Loan) (loans : LoanBook) (offered : turn.deed.freshLength = 1)
      (source : loan.block = trade.freshBlock turn 1 false) (zero : loan.length = 0)
      (accepted : trade.desk.lender.loans.enter loan = .ok loans) :
      Entry turn drawn trade (trade.withDesk (trade.desk.issue.withLoans loans))
  | replica (replica : Replica) (source : drawn = some replica.storage)
      (held : replica.storage ∈ trade.rented) (fresh : replica.id = trade.issued + 1)
      (missing : trade.replicas.entry? replica.address = none) :
      Entry turn drawn trade ((trade.part replica.storage).withDesk
        (trade.desk.issue.withReplicas (trade.replicas.add replica)))

/-- How holders change, with what the reserve sees of it. -/
inductive Shift (turn : Turn) (drawn : Option Block) (trade : Trade) :
    List Traffic → Trade → Prop where
  | gain (after : Trade) (entry : Entry turn drawn trade after) : Shift turn drawn trade [] after
  | rest : Shift turn drawn trade [] trade
  | burn : Shift turn drawn trade [] (trade.withDesk trade.desk.drawToken)
  | issue : Shift turn drawn trade [] (trade.withDesk trade.desk.issue)
  | clear : Shift turn drawn trade [.clear] trade
  | handIn (block : Block) (held : block ∈ trade.rented) :
      Shift turn drawn trade [.restore block] (trade.part block)
  | discard (block : Block) : Shift turn drawn trade [] (trade.part block)
  | strike (base : Nat) (loan : Loan) (found : trade.desk.lender.loans.at? base = some loan) :
      Shift turn drawn trade
        ((trade.desk.withLoans (trade.desk.lender.loans.strike base)).unpinning loan.block)
        (trade.withDesk (trade.desk.withLoans (trade.desk.lender.loans.strike base)))
  | look (loan : Loan) (view : View) (member : loan ∈ trade.loans) (positive : loan.length ≠ 0)
      (same : view.block = loan.block) :
      Shift turn drawn trade [] (trade.withDesk (trade.desk.withViews (view :: trade.views)))
  | unlook (view : View) (opened : view ∈ trade.views) :
      Shift turn drawn trade
        ((trade.desk.withViews (trade.views.erase view)).unpinning view.block)
        (trade.withDesk (trade.desk.withViews (trade.views.erase view)))
  | recount (address references : Nat) :
      Shift turn drawn trade []
        (trade.withDesk (trade.desk.withReplicas (trade.replicas.recount address references)))
  | handle (replica : Replica) (has : trade.replicas.Has replica) :
      Shift turn drawn trade []
        (trade.withDesk (trade.desk.withHandles (replica :: trade.replicas.handles)))
  | lease (replica : Replica) (has : trade.replicas.Has replica) :
      Shift turn drawn trade []
        (trade.withDesk (trade.desk.withLeases (replica :: trade.replicas.leases)))
  | remove (address : Nat) (entry : ReplicaEntry)
      (found : trade.replicas.entry? address = some entry) :
      Shift turn drawn trade
        ((trade.desk.withReplicas (trade.replicas.remove address)).unholding entry.replica)
        (trade.withDesk (trade.desk.withReplicas (trade.replicas.remove address)))
  | unhandle (replica : Replica) (held : replica ∈ trade.replicas.handles) :
      Shift turn drawn trade
        ((trade.desk.withHandles (trade.replicas.handles.erase replica)).unholding replica)
        (trade.withDesk (trade.desk.withHandles (trade.replicas.handles.erase replica)))
  | unlease (replica : Replica) (held : replica ∈ trade.replicas.leases) :
      Shift turn drawn trade
        ((trade.desk.withLeases (trade.replicas.leases.erase replica)).unholding replica)
        (trade.withDesk (trade.desk.withLeases (trade.replicas.leases.erase replica)))

/-- One shift after another, each followed by its traffic. -/
inductive Shifts (turn : Turn) (drawn : Option Block) :
    Trade → List Traffic → Trade → Prop where
  | done (trade : Trade) : Shifts turn drawn trade [] trade
  | more {trade shifted after : Trade} {traffic rest : List Traffic} (aside : Aside)
      (first : Shift turn drawn trade traffic shifted)
      (others : Shifts turn drawn (shifted.amend traffic aside) rest after) :
      Shifts turn drawn trade (traffic ++ rest) after

/-- A draw and the shifts after it. -/
inductive Moves (turn : Turn) (trade : Trade) : List Traffic → Trade → Prop where
  | intro {asked traffic : List Traffic} {drawn : Option Block} {mid after : Trade}
      (aside : Aside) (draw : Draw turn trade asked drawn mid)
      (shifts : Shifts turn drawn (mid.amend asked aside) traffic after) :
      Moves turn trade (asked ++ traffic) after

namespace Shifts

variable {turn : Turn} {drawn : Option Block} {trade shifted after : Trade}
  {traffic rest : List Traffic}

theorem one (aside : Aside) (first : Shift turn drawn trade traffic shifted) :
    Shifts turn drawn trade traffic (shifted.amend traffic aside) := by
  have shifts := Shifts.more aside first (.done _)
  rwa [List.append_nil] at shifts

theorem trans {mid : Trade} (first : Shifts turn drawn trade traffic mid)
    (second : Shifts turn drawn mid rest after) :
    Shifts turn drawn trade (traffic ++ rest) after := by
  induction first with
  | done => exact second
  | more aside shift others inductionHypothesis =>
    rw [List.append_assoc]
    exact .more aside shift (inductionHypothesis second)

end Shifts

theorem Moves.of_shifts {turn : Turn} {trade after : Trade} {traffic : List Traffic}
    (shifts : Shifts turn none trade traffic after) : Moves turn trade traffic after :=
  .intro trade.desk.aside .idle shifts

theorem Moves.of_draw {turn : Turn} {trade mid : Trade} {asked : List Traffic}
    {drawn : Option Block} (draw : Draw turn trade asked drawn mid) (aside : Aside) :
    Moves turn trade asked (mid.amend asked aside) := by
  have moves := Moves.intro aside draw (.done _)
  rwa [List.append_nil] at moves

/-! ### The moves of a deed -/

namespace Trade

/-! ### A block that passes through hands -/

section Passing

variable {turn : Turn} {drawn : Option Block} {trade : Trade} {block : Block}

theorem part_hold (trade : Trade) (block : Block) : (trade.hold block).part block = trade := by
  unfold part hold
  rw [List.erase_cons_head]

theorem handIn_hold : Shift turn drawn (trade.hold block) [.restore block] trade := by
  have shift : Shift turn drawn (trade.hold block) [.restore block]
      ((trade.hold block).part block) := .handIn block List.mem_cons_self
  rwa [part_hold] at shift

theorem retire_hold : Shift turn drawn (trade.hold block) block.retirement trade := by
  unfold Block.retirement
  split
  · exact handIn_hold
  · have shift : Shift turn drawn (trade.hold block) [] ((trade.hold block).part block) :=
      .discard block
    rwa [part_hold] at shift

theorem enter_hold {loan : Loan} {loans : LoanBook} (positive : loan.length ≠ 0)
    (long : loan.length ≤ loan.block.capacity)
    (accepted : trade.desk.lender.loans.enter loan = .ok loans) :
    Shift turn (some loan.block) (trade.hold loan.block) []
      (trade.withDesk (trade.desk.withLoans loans)) := by
  have entry : Entry turn (some loan.block) (trade.hold loan.block)
      (((trade.hold loan.block).part loan.block).withDesk (trade.desk.withLoans loans)) :=
    .loan loan loans rfl List.mem_cons_self positive long accepted
  rw [part_hold] at entry
  exact .gain _ entry

theorem adopt_hold {replica : Replica} (fresh : replica.id = trade.issued + 1)
    (missing : trade.replicas.entry? replica.address = none) :
    Shift turn (some replica.storage) (trade.hold replica.storage) []
      (trade.withDesk (trade.desk.issue.withReplicas (trade.replicas.add replica))) := by
  have entry : Entry turn (some replica.storage) (trade.hold replica.storage)
      (((trade.hold replica.storage).part replica.storage).withDesk
        (trade.desk.issue.withReplicas (trade.replicas.add replica))) :=
    .replica replica rfl List.mem_cons_self fresh missing
  rw [part_hold] at entry
  exact .gain _ entry

end Passing

/-! ### Deeds that draw nothing -/

section Plain

variable {turn : Turn} {drawn : Option Block} (trade : Trade)

theorem shifts_aside (aside : Aside) : Shifts turn drawn trade [] (trade.amend [] aside) :=
  .one aside .rest

theorem shifts_handIn (block : Block) :
    Shifts turn drawn trade (if block ∈ trade.rented then [.restore block] else [])
      (trade.perform (.handIn block)).2 := by
  unfold perform
  dsimp only
  by_cases held : block ∈ trade.rented
  · obtain ⟨aside, restored⟩ := trade.desk.restore_eq block
    rw [if_pos held, if_pos held, restored]
    exact .one aside (.handIn block held)
  · rw [if_neg held, if_neg held]
    exact .done trade

theorem shifts_clear :
    Shifts turn drawn trade [.clear] (trade.withDesk trade.desk.clearReserve) := by
  obtain ⟨aside, cleared⟩ := trade.desk.clearReserve_eq
  rw [cleared]
  exact .one aside .clear

theorem has_of_reads {replica : Replica} (reading : trade.reads replica = true) :
    trade.replicas.Has replica := by
  rcases Bool.or_eq_true_iff.mp reading with handle | lease
  · exact Or.inr (Or.inl (of_decide_eq_true handle))
  · exact Or.inr (Or.inr (of_decide_eq_true lease))

theorem shifts_whereRead (replica : Replica) (work : Desk → Desk)
    (shifts : trade.replicas.Has replica →
      Shifts turn drawn trade [] (trade.withDesk (work trade.desk))) :
    Shifts turn drawn trade [] (trade.whereRead replica work) := by
  unfold whereRead
  split
  · rename_i reading
    exact shifts (trade.has_of_reads reading)
  · exact .done trade

theorem shifts_edit (replica : Replica) (offset : Nat) (bytes : Bytes) :
    Shifts turn drawn trade []
      (trade.withDesk ((trade.desk.editReplica? replica offset bytes).getD trade.desk)) := by
  unfold Desk.editReplica?
  split
  · exact trade.shifts_aside
      ⟨trade.desk.arena.write (replica.storage.address + offset) bytes, _, _⟩
  · exact .done trade

theorem shifts_reclaim (address : Nat) (token : Token) :
    Shifts turn drawn trade (trade.desk.backFromReclaim address token)
      (trade.withDesk (trade.desk.reclaim address token).2) := by
  unfold Desk.backFromReclaim
  cases found : trade.desk.lender.loans.at? address with
  | some loan =>
    dsimp only
    by_cases same : loan.token = token
    · obtain ⟨aside, reclaimed⟩ := Desk.reclaim_of_match found same
      rw [if_pos same, reclaimed]
      exact .one aside (.strike address loan found)
    · rw [if_neg same, Desk.reclaim_of_mismatch found same]
      exact .done trade
  | none =>
    rw [Desk.reclaim_of_absent found]
    cases trade.desk.lender.policy.unknownReturn with
    | reject => exact .done trade
    | ignore => exact trade.shifts_aside ⟨_, _, _⟩

theorem shifts_openView (address size : Nat) :
    Shifts turn drawn trade [] (trade.withDesk (trade.desk.openView address size).2) := by
  unfold Desk.openView
  cases found : trade.desk.lender.loans.find? address size with
  | some pair =>
    obtain ⟨loan, offset⟩ := pair
    obtain ⟨member, inside⟩ := trade.desk.lender.loans.mem_of_find? found
    exact .one trade.desk.aside (.look loan (View.ofLoan loan offset size) member
      (Loan.positive_of_inside inside) rfl)
  | none => exact .done trade

theorem shifts_closeView (view : View) :
    Shifts turn drawn trade (trade.desk.backFromView view)
      (trade.withDesk (trade.desk.closeView view)) := by
  unfold Desk.backFromView
  by_cases opened : view ∈ trade.desk.lender.views
  · obtain ⟨aside, closed⟩ := Desk.closeView_of_mem opened
    rw [if_pos opened, closed]
    exact .one aside (.unlook view opened)
  · unfold Desk.closeView
    rw [if_neg opened, if_neg opened]
    exact .done trade

theorem shifts_giveBack (address : Nat) :
    Shifts turn drawn trade (trade.desk.backFromGiving address)
      (trade.withDesk (trade.desk.giveBack address).2) := by
  unfold Desk.backFromGiving
  cases found : trade.desk.lender.replicas.entry? address with
  | none =>
    rw [Desk.giveBack_of_absent found]
    exact .done trade
  | some entry =>
    dsimp only
    by_cases last : entry.references - 1 = 0
    · obtain ⟨aside, given⟩ := Desk.giveBack_of_last found last
      rw [if_pos last, given]
      exact .one aside (.remove address entry found)
    · rw [if_neg last, Desk.giveBack_of_more found last]
      exact .one trade.desk.aside (.recount address (entry.references - 1))

theorem shifts_closeHandle (replica : Replica) :
    Shifts turn drawn trade (trade.desk.backFromHandle replica)
      (trade.withDesk (trade.desk.closeHandle replica)) := by
  unfold Desk.backFromHandle
  by_cases held : replica ∈ trade.desk.lender.replicas.handles
  · obtain ⟨aside, closed⟩ := Desk.closeHandle_of_mem held
    rw [if_pos held, closed]
    exact .one aside (.unhandle replica held)
  · unfold Desk.closeHandle
    rw [if_neg held, if_neg held]
    exact .done trade

theorem shifts_endLease (replica : Replica) :
    Shifts turn drawn trade (trade.desk.backFromLease replica)
      (trade.withDesk (trade.desk.endLease replica)) := by
  unfold Desk.backFromLease
  by_cases held : replica ∈ trade.desk.lender.replicas.leases
  · obtain ⟨aside, aside', ended⟩ := Desk.endLease_of_mem held
    have given : Shifts turn drawn trade (trade.desk.backFromGiving replica.address)
        (trade.withDesk (trade.desk.giveBack replica.address).2) :=
      trade.shifts_giveBack replica.address
    have noted := given.trans (shifts_aside _ aside)
    rw [List.append_nil] at noted
    rw [if_pos held, ended]
    refine noted.trans (.one aside' (.unlease replica ?_))
    show replica ∈ (trade.desk.giveBack replica.address).2.lender.replicas.leases
    rw [Desk.leases_giveBack]
    exact held
  · unfold Desk.endLease
    rw [if_neg held, if_neg held]
    exact .done trade

end Plain

section Deeds

variable {turn : Turn} {trade : Trade} (ready : trade.desk.arena.nextAddress = turn.place)

include ready

theorem freshBlock_eq (length : Nat) (pooled : Bool) :
    trade.desk.arena.nextBlock length pooled = trade.freshBlock turn length pooled := by
  unfold Arena.nextBlock freshBlock
  rw [ready]
  rfl

theorem draw_of_procure {size : Nat} {answer : Except Fault Block} {after : Desk}
    (offered : turn.deed.freshLength = size) (drawn : trade.desk.procure size = (answer, after)) :
    ∃ mid aside, Draw turn trade (Traffic.asking size) answer.toOption mid ∧
      mid.amend (Traffic.asking size) aside =
        { trade with desk := after, rented := trade.rentedWith answer } := by
  have outcome := trade.desk.procured size
  rw [drawn] at outcome
  unfold Traffic.asking
  cases outcome with
  | nothing zero =>
    rw [if_pos zero]
    exact ⟨_, trade.desk.aside, .empty, rfl⟩
  | kept block rest aside positive taken =>
    rw [if_neg positive]
    exact ⟨_, aside, .kept size block rest taken, rfl⟩
  | beyond aside positive missing long =>
    rw [if_neg positive]
    exact ⟨_, aside, .miss size, rfl⟩
  | fresh aside positive missing short =>
    rw [if_neg positive, freshBlock_eq ready]
    refine ⟨_, aside, .fresh size [.request size] positive short offered ?_, rfl⟩
    intro action member
    exact List.mem_singleton.mp member

theorem moves_of_failed {size : Nat} {fault : Fault} {after : Desk}
    (offered : turn.deed.freshLength = size)
    (drawn : trade.desk.procure size = (.error fault, after)) :
    Moves turn trade (Traffic.asking size) (trade.withDesk after) := by
  obtain ⟨mid, aside, draw, same⟩ := draw_of_procure ready offered drawn
  have moves := Moves.of_draw draw aside
  rwa [same] at moves

theorem moves_of_drawn {size : Nat} {block : Block} {after : Desk} {final : Trade}
    {traffic : List Traffic} (offered : turn.deed.freshLength = size)
    (drawn : trade.desk.procure size = (.ok block, after))
    (shifts : Shifts turn (some block) ((trade.withDesk after).hold block) traffic final) :
    Moves turn trade (Traffic.asking size ++ traffic) final := by
  obtain ⟨mid, aside, draw, same⟩ := draw_of_procure ready offered drawn
  refine .intro aside draw ?_
  rw [same]
  exact shifts

theorem moves_donate {size : Nat} (offered : turn.deed.freshLength = size) :
    Moves turn trade
      (if size = 0 then [.restore Block.empty]
        else if Word.longestBlock < size then []
        else [.restore (trade.desk.arena.nextBlock size true)])
      (trade.donate size) := by
  unfold donate
  by_cases zero : size = 0
  · rw [if_pos zero, if_pos zero]
    obtain ⟨aside, restored⟩ := trade.desk.restore_eq Block.empty
    rw [restored]
    exact .intro trade.desk.aside .empty (.one aside handIn_hold)
  rw [if_neg zero, if_neg zero]
  by_cases long : Word.longestBlock < size
  · rw [if_pos long, if_pos long]
    exact .of_shifts (.done trade)
  · rw [if_neg long, if_neg long]
    obtain ⟨aside, placed⟩ := trade.desk.place_eq size
    obtain ⟨aside', restored⟩ :=
      (trade.desk.issue.amend [] aside).restore_eq (trade.freshBlock turn size true)
    rw [placed, freshBlock_eq ready]
    dsimp only
    rw [restored]
    exact .intro aside
      (.fresh size [] zero (Nat.le_of_not_lt long) offered (fun _ member => by cases member))
      (.one aside' (@handIn_hold _ _ (trade.withDesk (trade.desk.issue.amend [] aside)) _))

theorem blockFor_zero :
    ∃ aside, trade.desk.blockFor 0 =
      (.ok (trade.freshBlock turn 1 false), trade.desk.issue.amend [] aside) := by
  obtain ⟨aside, placed⟩ := trade.desk.place_eq 1
  refine ⟨aside, ?_⟩
  rw [← placed, ← freshBlock_eq ready]
  rfl

theorem moves_lend_zero (offered : turn.deed.freshLength = 1) :
    Moves turn trade (trade.desk.backFromLending 0) (trade.withDesk (trade.desk.lend 0).2) := by
  obtain ⟨aside, byte⟩ := trade.blockFor_zero ready
  unfold Desk.backFromLending
  rw [byte]
  dsimp only
  have outcome := trade.desk.lending 0
  generalize trade.desk.lend 0 = result at outcome
  cases outcome with
  | failed fault after drawn =>
    rw [byte] at drawn
    cases drawn
  | refused fault block after aside' drawn conflict =>
    rw [byte] at drawn
    cases drawn
    rw [conflict]
    exact .of_shifts (.more aside .issue (.one aside' .burn))
  | granted block after loans aside' drawn accepted =>
    rw [byte] at drawn
    cases drawn
    rw [accepted]
    exact .of_shifts (.more aside (.gain _ (.byte _ loans offered rfl rfl accepted))
      (.one aside' .burn))

theorem moves_lend {size : Nat} (positive : size ≠ 0) (offered : turn.deed.freshLength = size) :
    Moves turn trade (Traffic.asking size ++ trade.desk.backFromLending size)
      (trade.withDesk (trade.desk.lend size).2) := by
  have procured : trade.desk.blockFor size = trade.desk.procure size := if_neg positive
  unfold Desk.backFromLending
  have outcome := trade.desk.lending size
  generalize trade.desk.lend size = result at outcome
  cases outcome with
  | failed fault after drawn =>
    rw [drawn, List.append_nil]
    exact moves_of_failed ready offered (procured.symm.trans drawn)
  | refused fault block after aside drawn conflict =>
    rw [drawn]
    dsimp only
    rw [conflict]
    exact moves_of_drawn ready offered (procured.symm.trans drawn)
      (.more after.drawToken.aside .burn (.one aside
        (@retire_hold _ _ (trade.withDesk after.drawToken) _)))
  | granted block after loans aside drawn accepted =>
    have long := trade.desk.le_capacity_of_procure (procured.symm.trans drawn)
    rw [drawn]
    dsimp only
    rw [accepted]
    exact moves_of_drawn ready offered (procured.symm.trans drawn)
      (.more after.drawToken.aside .burn (.one aside
        (@enter_hold _ (trade.withDesk after.drawToken) _ _ positive long accepted)))

theorem moves_reference (address : Nat) {size : Nat} (offered : turn.deed.freshLength = size) :
    Moves turn trade (trade.desk.askingReference address size)
        (trade.withDesk (trade.desk.reference address size).2) ∧
      ∀ replica, (trade.desk.reference address size).1 = .ok replica →
        (trade.desk.reference address size).2.lender.replicas.Has replica := by
  have outcome := trade.desk.referencing address size
  generalize trade.desk.reference address size = result at outcome
  unfold Desk.askingReference
  cases outcome with
  | refused violation idle =>
    rw [if_pos idle]
    exact ⟨.of_shifts (.done trade), fun _ answer => by cases answer⟩
  | counted entry aside found same =>
    rw [if_pos (Or.inr (found ▸ rfl))]
    refine ⟨.of_shifts (.one aside (.recount address (entry.references + 1))), ?_⟩
    intro replica answer
    cases answer
    exact ReplicaTable.has_recount.mpr (ReplicaTable.has_of_found found)
  | failed fault after missing drawn present =>
    rw [if_neg (not_or.mpr ⟨present, by rw [missing]; exact Bool.false_ne_true⟩)]
    exact ⟨moves_of_failed ready offered drawn, fun _ answer => by cases answer⟩
  | made storage after aside missing drawn present =>
    have entries := trade.desk.entries_procure size
    rw [drawn] at entries
    have made := moves_of_drawn ready offered drawn (.one aside
      (@adopt_hold turn (trade.withDesk after) ⟨after.arena.nextIdentity, address, size, storage⟩
        rfl ?_))
    · rw [if_neg (not_or.mpr ⟨present, by rw [missing]; exact Bool.false_ne_true⟩)]
      rw [List.append_nil] at made
      refine ⟨made, ?_⟩
      intro replica answer
      cases answer
      exact ReplicaTable.has_add.mpr (Or.inl rfl)
    · show after.lender.replicas.entry? address = none
      unfold ReplicaTable.entry?
      rw [show after.lender.replicas.entries = _ from entries]
      exact missing

/-- A reference whose holder is noted afterwards. -/
theorem moves_reference_then (address : Nat) {size : Nat}
    (offered : turn.deed.freshLength = size) (note : Replica → Desk → Desk)
    (shift : ∀ (drawn : Option Block) (trade : Trade) (replica : Replica),
      trade.replicas.Has replica →
        Shifts turn drawn trade [] (trade.withDesk (note replica trade.desk))) :
    Moves turn trade (trade.desk.askingReference address size) (trade.withDesk
      (match trade.desk.reference address size with
        | (.ok replica, after) => note replica after
        | (.error _, after) => after)) := by
  obtain ⟨moves, has⟩ := moves_reference ready address offered
  rcases answer : trade.desk.reference address size with ⟨fault | replica, after⟩
  · rw [answer] at moves
    exact moves
  · rw [answer] at moves has
    generalize trade.desk.askingReference address size = asked at moves
    cases moves with
    | intro aside draw shifts =>
      have noted := shifts.trans (shift _ (trade.withDesk after) replica (has replica rfl))
      rw [List.append_nil] at noted
      exact .intro aside draw noted

theorem moves_share (address : Nat) {size : Nat} (offered : turn.deed.freshLength = size) :
    Moves turn trade (trade.desk.askingReference address size)
      (trade.withDesk (trade.desk.share address size).2) := by
  have moves := moves_reference_then ready address offered
    (fun replica desk => desk.openHandle replica)
    fun drawn trade replica has => .one trade.desk.aside (.handle replica has)
  unfold Desk.share
  generalize trade.desk.reference address size = result at moves
  obtain ⟨fault | replica, after⟩ := result <;> exact moves

theorem moves_takeLease (address : Nat) {size : Nat} (offered : turn.deed.freshLength = size) :
    Moves turn trade (trade.desk.askingReference address size)
      (trade.withDesk (trade.desk.takeLease address size).2) := by
  have moves := moves_reference_then ready address offered
    (fun replica desk => desk.withLeases (replica :: desk.lender.replicas.leases))
    fun drawn trade replica has => .one trade.desk.aside (.lease replica has)
  unfold Desk.takeLease
  generalize trade.desk.reference address size = result at moves
  obtain ⟨fault | replica, after⟩ := result <;> exact moves

theorem moves_reach (address : Nat) {size : Nat} (offered : turn.deed.freshLength = size) :
    Moves turn trade
      (if (trade.desk.openView address size).1.isSome then []
        else trade.desk.askingReference address size)
      (trade.withDesk (trade.desk.reach address size).2) := by
  unfold Desk.reach
  by_cases null : address = 0
  · have idle : trade.desk.askingReference address size = [] := if_pos (Or.inl null)
    rw [if_pos null, idle, ite_self]
    exact .of_shifts (.done trade)
  rw [if_neg null]
  have opened : Shifts turn none trade []
      (trade.withDesk (trade.desk.openView address size).2) :=
    trade.shifts_openView address size
  cases view : (trade.desk.openView address size).1 with
  | some view' =>
    rw [← Prod.eta (trade.desk.openView address size), view]
    exact .of_shifts opened
  | none =>
    rw [← Prod.eta (trade.desk.openView address size), view,
      Desk.openView_of_none view]
    have leased := moves_takeLease ready address offered
    dsimp only
    generalize trade.desk.takeLease address size = result at leased
    obtain ⟨fault | replica, after⟩ := result <;> exact leased

theorem moves_rent (size : Nat) (offered : turn.deed.freshLength = size) :
    Moves turn trade (Traffic.asking size) (trade.perform (.rent size)).2 := by
  obtain ⟨mid, aside, draw, same⟩ :=
    draw_of_procure ready offered (Prod.eta (trade.desk.procure size)).symm
  have moves := Moves.of_draw draw aside
  rw [same] at moves
  exact moves

end Deeds

/-- Every turn is a draw of at most one block and shifts after it, and the reserve sees what the
turn asks of it and brings back. -/
theorem moves_take (trade : Trade) (turn : Turn) :
    Moves turn (trade.ready turn.place) (trade.asked turn ++ trade.back turn)
      ((trade.ready turn.place).perform turn.deed).2 := by
  have asked : ∀ {traffic : List Traffic} {after : Trade},
      Moves turn (trade.ready turn.place) traffic after →
        Moves turn (trade.ready turn.place) (traffic ++ []) after := fun moves =>
    (List.append_nil _).symm ▸ moves
  have ready : (trade.ready turn.place).desk.arena.nextAddress = turn.place := rfl
  let trade' := trade.ready turn.place
  obtain ⟨deed, place⟩ := turn
  cases deed with
  | rent size => exact asked (moves_rent ready size rfl)
  | handIn block => exact .of_shifts (trade'.shifts_handIn block)
  | discard block => exact .of_shifts (.one trade'.desk.aside (.discard block))
  | donate size => exact moves_donate ready rfl
  | clear => exact asked (.of_shifts trade'.shifts_clear)
  | lend size =>
    by_cases zero : size = 0
    · subst zero
      exact moves_lend_zero ready rfl
    · exact moves_lend ready zero (if_neg zero)
  | reclaim address token => exact .of_shifts (trade'.shifts_reclaim address token)
  | openView address size => exact .of_shifts (trade'.shifts_openView address size)
  | closeView view => exact .of_shifts (trade'.shifts_closeView view)
  | share address size => exact asked (moves_share ready address rfl)
  | giveBack address => exact .of_shifts (trade'.shifts_giveBack address)
  | takeLease address size => exact asked (moves_takeLease ready address rfl)
  | endLease replica => exact .of_shifts (trade'.shifts_endLease replica)
  | copyHandle replica =>
    exact .of_shifts (trade'.shifts_whereRead replica (·.openHandle replica)
      fun has => .one trade'.desk.aside (.handle replica has))
  | closeHandle replica => exact .of_shifts (trade'.shifts_closeHandle replica)
  | reach address size => exact asked (moves_reach ready address rfl)
  | pull replica =>
    exact .of_shifts (trade'.shifts_whereRead replica (·.pull replica)
      fun _ => trade'.shifts_aside (trade'.desk.pull replica).aside)
  | push replica =>
    exact .of_shifts (trade'.shifts_whereRead replica (·.push replica)
      fun _ => trade'.shifts_aside (trade'.desk.push replica).aside)
  | edit replica offset bytes =>
    exact .of_shifts (trade'.shifts_whereRead replica _
      fun _ => trade'.shifts_edit replica offset bytes)
  | write address bytes =>
    exact .of_shifts (trade'.shifts_aside ⟨trade'.desk.arena.write address bytes, _, _⟩)

end Trade

end MemoryLending
