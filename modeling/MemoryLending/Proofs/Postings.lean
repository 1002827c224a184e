/-
This file says what each operation of a desk writes into the journal, and that it is what happens.
A loan that goes out or comes back and a replica that is made or released are posted, each by one
record, and an operation that comes to nothing posts nothing. Fresh blocks and blocks given up for
the budget are counted: the counters of the reserve are the counts of the journal, apart from the
blocks that the reserve turns away outright, which leave no record. So an operation is described by
what it posts and by what comes back to the reserve with it.
-/

import MemoryLending.Proofs.Accounts
import MemoryLending.Proofs.Retention
import MemoryLending.Proofs.Turnover

namespace MemoryLending

/-! ### Kinds of records -/

namespace Event

/-- Whether a record says that a loan went out or came back, or that a replica was made or
released. -/
def isPosting : Event → Bool
  | lent .. | reclaimed .. | replicaCreated .. | replicaReleased _ => true
  | _ => false

/-- Whether a record says that a replica was made at an address. -/
def creates (address : Nat) : Event → Bool
  | replicaCreated place _ => place == address
  | _ => false

/-- Whether a record says that the replica of an address was released. -/
def releases (address : Nat) : Event → Bool
  | replicaReleased place => place == address
  | _ => false

/-- Whether a record says that a request needs a fresh block. -/
def isMiss : Event → Bool
  | reserveMiss _ => true
  | _ => false

/-- How many blocks a record says were given up for the budget. -/
def evicted : Event → Nat
  | reserveEvicted count => count
  | _ => 0

/-- A record of a loan makes a debt; a record of its return settles the debts with that base and
token. -/
def settle : Event → List Debt → List Debt
  | lent address size token, debts => ⟨address, size, token⟩ :: debts
  | reclaimed address _ token, debts =>
    debts.filter fun debt => !(debt.base == address && debt.token == token)
  | _, debts => debts

/-- Whether a record says nothing of fresh blocks, of blocks given up for the budget, and of
replicas that are made or released. -/
def isIncidental : Event → Bool
  | reserveMiss _ | reserveEvicted _ | replicaCreated .. | replicaReleased _ => false
  | _ => true

theorem incidental_tells_nothing {event : Event} (incidental : event.isIncidental = true) :
    event.isMiss = false ∧ event.evicted = 0 ∧
      ∀ address, event.creates address = false ∧ event.releases address = false := by
  cases event with
  | reserveMiss length | reserveEvicted count | replicaCreated address size
  | replicaReleased address => cases incidental
  | _ => exact ⟨rfl, rfl, fun _ => ⟨rfl, rfl⟩⟩

end Event

/-! ### What a journal tells -/

namespace Journal

/-- The records of loans and replicas, the latest first. -/
def postings (journal : Journal) : List Event := journal.filter Event.isPosting

/-- The debts that a journal leaves open. -/
def debts (journal : Journal) : List Debt := journal.foldr Event.settle []

/-- How often a replica was made at an address. -/
def created (journal : Journal) (address : Nat) : Nat := journal.countP (Event.creates address)

/-- How often the replica of an address was released. -/
def released (journal : Journal) (address : Nat) : Nat := journal.countP (Event.releases address)

/-- How many requests needed a fresh block. -/
def misses (journal : Journal) : Nat := journal.countP Event.isMiss

/-- How many blocks were given up for the budget, all records together. -/
def evicted (journal : Journal) : Nat := (journal.map Event.evicted).sum

theorem debts_cons (event : Event) (journal : Journal) :
    debts (event :: journal) = event.settle journal.debts := rfl

theorem evicted_cons (event : Event) (journal : Journal) :
    evicted (event :: journal) = event.evicted + journal.evicted := rfl

theorem created_cons (event : Event) (journal : Journal) (address : Nat) :
    created (event :: journal) address =
      journal.created address + if event.creates address = true then 1 else 0 :=
  List.countP_cons

theorem released_cons (event : Event) (journal : Journal) (address : Nat) :
    released (event :: journal) address =
      journal.released address + if event.releases address = true then 1 else 0 :=
  List.countP_cons

/-- A loan is open if and only if it has been posted and its return has not been posted since. -/
def Open (journal : Journal) (debt : Debt) : Prop :=
  ∃ later earlier, journal = later ++ .lent debt.base debt.length debt.token :: earlier ∧
    ∀ size, .reclaimed debt.base size debt.token ∉ later

theorem open_cons {event : Event} {journal : Journal} {debt : Debt} :
    Open (event :: journal) debt ↔
      event = .lent debt.base debt.length debt.token ∨
        (∀ size, event ≠ .reclaimed debt.base size debt.token) ∧ journal.Open debt := by
  constructor
  · rintro ⟨later, earlier, parts, untouched⟩
    cases later with
    | nil => exact Or.inl (List.cons.inj parts).1
    | cons head rest =>
      obtain ⟨rfl, rfl⟩ := List.cons.inj parts
      refine Or.inr ⟨fun size same => untouched size (same ▸ List.mem_cons_self), rest, earlier,
        rfl, fun size member => untouched size (List.mem_cons_of_mem _ member)⟩
  · rintro (rfl | ⟨other, later, earlier, rfl, untouched⟩)
    · exact ⟨[], journal, rfl, fun _ => List.not_mem_nil⟩
    · refine ⟨event :: later, earlier, rfl, fun size member => ?_⟩
      rcases List.mem_cons.mp member with same | member
      · exact other size same.symm
      · exact untouched size member

theorem mem_settle_iff {event : Event} {debts : List Debt} {debt : Debt} :
    debt ∈ event.settle debts ↔
      event = .lent debt.base debt.length debt.token ∨
        (∀ size, event ≠ .reclaimed debt.base size debt.token) ∧ debt ∈ debts := by
  obtain ⟨base, length, token⟩ := debt
  cases event with
  | lent address size other =>
    show _ ∈ _ :: debts ↔ _
    rw [List.mem_cons]
    refine or_congr ⟨fun same => ?_, fun same => ?_⟩ ⟨fun older => ⟨nofun, older⟩, And.right⟩
    · cases same
      rfl
    · cases same
      rfl
  | reclaimed address size other =>
    show _ ∈ debts.filter _ ↔ _
    rw [List.mem_filter, Bool.not_eq_true', Bool.and_eq_false_iff, beq_eq_false_iff_ne,
      beq_eq_false_iff_ne]
    constructor
    · rintro ⟨older, different⟩
      refine Or.inr ⟨fun length same => ?_, older⟩
      cases same
      exact different.elim (· rfl) (· rfl)
    · rintro (same | ⟨different, older⟩)
      · cases same
      · refine ⟨older, ?_⟩
        by_cases here : base = address
        · exact Or.inr fun there => different size (here ▸ there ▸ rfl)
        · exact Or.inl here
  | _ => exact ⟨fun older => Or.inr ⟨nofun, older⟩, fun outcome => (outcome.resolve_left nofun).2⟩

/-- The debts of a journal are the loans it leaves open. -/
theorem mem_debts_iff_open {journal : Journal} {debt : Debt} :
    debt ∈ journal.debts ↔ journal.Open debt := by
  induction journal with
  | nil =>
    refine ⟨nofun, ?_⟩
    rintro ⟨later, earlier, parts, -⟩
    exact absurd parts.symm (List.append_ne_nil_of_right_ne_nil _ (List.cons_ne_nil _ _))
  | cons event rest inductionHypothesis =>
    rw [debts_cons, mem_settle_iff, open_cons, inductionHypothesis]

/-- Only postings make and settle debts. -/
theorem debts_postings (journal : Journal) : debts journal.postings = journal.debts := by
  induction journal with
  | nil => rfl
  | cons event rest inductionHypothesis =>
    by_cases posting : event.isPosting = true
    · rw [postings, List.filter_cons_of_pos posting]
      exact congrArg event.settle inductionHypothesis
    · rw [postings, List.filter_cons_of_neg posting]
      refine Eq.trans inductionHypothesis ?_
      cases event with
      | lent address size token | reclaimed address size token => exact absurd rfl posting
      | _ => rfl

/-- Journals with the same postings, and the same ones after them, have the same debts. -/
theorem debts_of_postings {first second : Journal} {posted : List Event}
    (same : first.postings = posted ++ second.postings) :
    first.debts = posted.foldr Event.settle second.debts := by
  rw [← first.debts_postings, same, ← second.debts_postings]
  exact List.foldr_append

end Journal

/-! ### What comes back to the reserve -/

/-- Whether a block comes back that the reserve turns away outright: it is longer than the whole
budget of bytes, or the budget has no blocks. -/
def Traffic.isTurnedAway (budget : Budget) : Traffic → Bool
  | .restore block =>
    block.capacity != 0 && (budget.bytes < block.capacity || budget.blocks == 0)
  | _ => false

namespace Reserve

/-- A block that comes back is counted as a return, unless it has no bytes, and as an eviction if
it is turned away; and so are the blocks that have to go for it. -/
theorem tally_restore (reserve : Reserve) (block : Block) :
    (reserve.restore block).2.tally.misses = reserve.tally.misses ∧
      (reserve.restore block).2.tally.returns =
        reserve.tally.returns + .ofNat ([.restore block].countP Traffic.isReturn) ∧
      (reserve.restore block).2.tally.evictions =
        reserve.tally.evictions + .ofNat ((reserve.restore block).1 +
          [.restore block].countP (Traffic.isTurnedAway reserve.budget)) := by
  have counted : Traffic.isReturn (.restore block) = (block.capacity != 0) := rfl
  have turned : Traffic.isTurnedAway reserve.budget (.restore block) =
      (block.capacity != 0 && reserve.rejects block) := rfl
  rw [List.countP_singleton, List.countP_singleton, counted, turned]
  unfold restore
  by_cases empty : block.capacity = 0
  · have nothing : (block.capacity != 0) = false := by rw [empty]; rfl
    rw [if_pos empty, nothing, Bool.false_and, if_neg Bool.false_ne_true]
    exact ⟨rfl, (UInt64.add_zero _).symm, (UInt64.add_zero _).symm⟩
  · rw [if_neg empty, bne_iff_ne.mpr empty, Bool.true_and, if_pos rfl]
    dsimp only
    by_cases away : reserve.rejects block = true
    · rw [if_pos away, if_pos away]
      exact ⟨rfl, rfl, rfl⟩
    · rw [if_neg away, if_neg away]
      exact ⟨rfl, rfl, rfl⟩

end Reserve

/-- Counting the references of an entry anew adds no address and takes none away. -/
theorem ReplicaTable.isSome_recount (table : ReplicaTable) (address references other : Nat) :
    (ReplicaTable.entry? (table.recount address references) other).isSome =
      (table.entry? other).isSome := by
  rw [entry?_recount]
  split
  · exact Option.isSome_map
  · rfl

namespace Desk

/-- The counters of the reserve are the counts of the journal, where `returned` is what has come
back to the reserve. -/
structure Reported (budget : Budget) (returned : List Traffic) (desk : Desk) : Prop where
  limits : desk.lender.reserve.budget = budget
  misses : desk.lender.reserve.tally.misses = .ofNat desk.journal.misses
  returns : desk.lender.reserve.tally.returns = .ofNat (returned.countP Traffic.isReturn)
  evictions : desk.lender.reserve.tally.evictions =
    .ofNat (desk.journal.evicted + returned.countP (Traffic.isTurnedAway budget))

/-- A record of neither a fresh block nor of blocks given up changes no count. -/
theorem Reported.log {budget : Budget} {returned : List Traffic} {desk : Desk}
    (reported : desk.Reported budget returned) (event : Event) (miss : event.isMiss = false)
    (evicted : event.evicted = 0) : (desk.log event).Reported budget returned := by
  have sameMisses : Journal.misses (event :: desk.journal) = desk.journal.misses :=
    List.countP_cons_of_neg (Bool.eq_false_iff.mp miss)
  have sameEvicted : Journal.evicted (event :: desk.journal) = desk.journal.evicted := by
    rw [Journal.evicted_cons, evicted, Nat.zero_add]
  exact
    { limits := reported.limits
      misses := reported.misses.trans (congrArg _ sameMisses.symm)
      returns := reported.returns
      evictions := reported.evictions.trans
        (congrArg (fun count => UInt64.ofNat (count + _)) sameEvicted.symm) }

/-- At every address, one more replica has been made than released if the table has an entry, and
as many otherwise. -/
def Matched (desk : Desk) : Prop :=
  ∀ address, desk.journal.created address =
    desk.journal.released address + if (desk.lender.replicas.entry? address).isSome then 1 else 0

/-- An operation posts `posted`, hands `returned` to the reserve, and what the journal tells of the
reserve and the table stays true. -/
structure Noted (returned : List Traffic) (posted : List Event) (before after : Desk) : Prop where
  postings : after.journal.postings = posted ++ before.journal.postings
  reported : ∀ {budget earlier}, before.Reported budget earlier →
    after.Reported budget (earlier ++ returned)
  matched : before.Matched → after.Matched

theorem Noted.trans {first second third : Desk} {returned returned' : List Traffic}
    {posted posted' : List Event} (before : Noted returned posted first second)
    (later : Noted returned' posted' second third) :
    Noted (returned ++ returned') (posted' ++ posted) first third where
  postings := by rw [later.postings, before.postings, List.append_assoc]
  reported := fun reported => List.append_assoc _ returned returned' ▸
    later.reported (before.reported reported)
  matched := fun matched => later.matched (before.matched matched)

/-- An operation that leaves the reserve and the journal alone, and the addresses of the table. -/
theorem noted_of_still {before after : Desk}
    (reserve : after.lender.reserve = before.lender.reserve)
    (journal : after.journal = before.journal)
    (entries : ∀ address, (after.lender.replicas.entry? address).isSome =
      (before.lender.replicas.entry? address).isSome) : Noted [] [] before after where
  postings := by rw [journal, List.nil_append]
  reported := fun reported => by
    obtain ⟨limits, misses, returns, evictions⟩ := reported
    rw [List.append_nil]
    exact ⟨reserve ▸ limits, reserve ▸ journal ▸ misses, reserve ▸ returns,
      reserve ▸ journal ▸ evictions⟩
  matched := fun matched address => by rw [journal, entries, matched address]

theorem noted_same (desk : Desk) : Noted [] [] desk desk := noted_of_still rfl rfl fun _ => rfl

theorem noted_withArena (desk : Desk) (arena : Arena) : Noted [] [] desk { desk with arena } :=
  noted_of_still rfl rfl fun _ => rfl

/-- A record of neither a fresh block nor of blocks given up, which says of each address what
happens to its entry: it was made, or released, or there is nothing to be said. -/
theorem noted_of_told (desk : Desk) (replicas : ReplicaTable) (event : Event)
    (miss : event.isMiss = false) (evicted : event.evicted = 0)
    (told : ∀ address,
      ((if event.creates address = true then 1 else 0) +
          if (desk.lender.replicas.entry? address).isSome then 1 else 0) =
        (if event.releases address = true then 1 else 0) +
          if (replicas.entry? address).isSome then 1 else 0) :
    Noted [] ([event].filter Event.isPosting) desk ((desk.withReplicas replicas).log event) := by
  refine ⟨List.filter_append [event] desk.journal, fun reported => ?_, fun matched address => ?_⟩
  · have logged := reported.log event miss evicted
    rw [List.append_nil]
    exact ⟨logged.limits, logged.misses, logged.returns, logged.evictions⟩
  · have before := matched address
    have change := told address
    show Journal.created (event :: desk.journal) address =
      Journal.released (event :: desk.journal) address +
        if (replicas.entry? address).isSome then 1 else 0
    rw [Journal.created_cons, Journal.released_cons]
    omega

/-- A record that tells nothing of the reserve and the table. -/
theorem noted_log (desk : Desk) (event : Event) (incidental : event.isIncidental = true) :
    Noted [] ([event].filter Event.isPosting) desk (desk.log event) := by
  obtain ⟨miss, evicted, replicas⟩ := Event.incidental_tells_nothing incidental
  refine desk.noted_of_told desk.lender.replicas event miss evicted fun address => ?_
  obtain ⟨creates, releases⟩ := replicas address
  rw [creates, releases]

/-! ### Blocks and views -/

/-- A block that comes back leaves a record of the blocks that had to go for it, if any had to. -/
theorem restore_written (desk : Desk) (block : Block) :
    (desk.restore block).lender.replicas = desk.lender.replicas ∧
      (desk.restore block).lender.reserve = (desk.lender.reserve.restore block).2 ∧
      ((desk.lender.reserve.restore block).1 = 0 ∧ (desk.restore block).journal = desk.journal ∨
        (desk.restore block).journal =
          .reserveEvicted (desk.lender.reserve.restore block).1 :: desk.journal) := by
  unfold Desk.restore
  dsimp only
  split
  · rename_i none
    exact ⟨rfl, rfl, Or.inl ⟨none, rfl⟩⟩
  · exact ⟨rfl, rfl, Or.inr rfl⟩

theorem noted_restore (desk : Desk) (block : Block) :
    Noted [.restore block] [] desk (desk.restore block) := by
  obtain ⟨table, reserve, written⟩ := desk.restore_written block
  have postings : (desk.restore block).journal.postings = desk.journal.postings ∧
      (desk.restore block).journal.misses = desk.journal.misses ∧
      (desk.restore block).journal.evicted =
        desk.journal.evicted + (desk.lender.reserve.restore block).1 ∧
      ∀ address, (desk.restore block).journal.created address = desk.journal.created address ∧
        (desk.restore block).journal.released address = desk.journal.released address := by
    rcases written with ⟨none, journal⟩ | journal
    · rw [journal, none]
      exact ⟨rfl, rfl, rfl, fun _ => ⟨rfl, rfl⟩⟩
    · rw [journal, Journal.evicted_cons, Nat.add_comm]
      exact ⟨rfl, rfl, rfl, fun _ => ⟨rfl, rfl⟩⟩
  obtain ⟨postings, misses, evicted, replicas⟩ := postings
  refine ⟨postings, fun reported => ?_, fun matched address => ?_⟩
  · obtain ⟨fresh, back, given⟩ := desk.lender.reserve.tally_restore block
    refine ⟨?_, ?_, ?_, ?_⟩
    · rw [reserve, Reserve.budget_restore, reported.limits]
    · rw [reserve, fresh, misses, reported.misses]
    · rw [reserve, back, List.countP_append, UInt64.ofNat_add, reported.returns]
    · rw [reserve, given, evicted, List.countP_append, Nat.add_add_add_comm, reported.evictions,
        reported.limits, ← UInt64.ofNat_add]
  · rw [(replicas address).1, (replicas address).2, table]
    exact matched address

theorem noted_clearReserve (desk : Desk) : Noted [] [] desk desk.clearReserve := by
  refine ⟨rfl, fun reported => ?_, fun matched => matched⟩
  have cleared := reported.log (.reserveCleared desk.lender.reserve.kept.length) rfl rfl
  rw [List.append_nil]
  exact ⟨cleared.limits, cleared.misses, cleared.returns, cleared.evictions⟩

theorem noted_retireBlock (desk : Desk) (block : Block) :
    Noted block.retirement [] desk (desk.retireBlock block) := by
  unfold retireBlock Block.retirement
  split
  · exact desk.noted_restore block
  · exact desk.noted_same

theorem noted_unpin (desk : Desk) (block : Block) :
    Noted (desk.unpinning block) [] desk (desk.unpin block) := by
  unfold unpin unpinning
  split
  · exact desk.noted_same
  · exact desk.noted_retireBlock block

theorem noted_openView (desk : Desk) (address size : Nat) :
    Noted [] [] desk (desk.openView address size).2 := by
  unfold openView
  split
  · exact noted_of_still rfl rfl fun _ => rfl
  · exact desk.noted_same

theorem noted_closeView (desk : Desk) (view : View) :
    Noted (desk.backFromView view) [] desk (desk.closeView view) := by
  unfold closeView backFromView
  split
  · have closed : Noted [] [] desk (desk.withViews (desk.lender.views.erase view)) :=
      noted_of_still rfl rfl fun _ => rfl
    exact closed.trans (noted_unpin _ view.block)
  · exact desk.noted_same

/-! ### Asking for blocks -/

theorem noted_of_hit (desk : Desk) {size : Nat} {block : Block} {rest : List Block}
    (taken : Reserve.takeFirst size desk.lender.reserve.kept = some (block, rest)) :
    Noted [] [] desk ((desk.withReserve (desk.lender.reserve.request size).2).log
      (.reserveHit size block.capacity)) := by
  have asked : Noted [] [] desk (desk.withReserve (desk.lender.reserve.request size).2) := by
    refine ⟨rfl, fun reported => ?_, fun matched => matched⟩
    obtain ⟨limits, misses, returns, evictions⟩ := reported
    rw [List.append_nil]
    unfold Reserve.request
    rw [taken]
    exact ⟨limits, misses, returns, evictions⟩
  exact asked.trans (noted_log _ (.reserveHit size block.capacity) rfl)

theorem noted_of_miss (desk : Desk) {size : Nat}
    (missing : Reserve.takeFirst size desk.lender.reserve.kept = none) :
    Noted [] [] desk ((desk.withReserve (desk.lender.reserve.request size).2).log
      (.reserveMiss size)) := by
  refine ⟨rfl, fun reported => ?_, fun matched => matched⟩
  obtain ⟨limits, misses, returns, evictions⟩ := reported
  rw [List.append_nil]
  unfold Reserve.request
  rw [missing]
  refine ⟨limits, ?_, returns, evictions.trans ?_⟩
  · have counted : Journal.misses (.reserveMiss size :: desk.journal) = desk.journal.misses + 1 :=
      List.countP_cons_of_pos rfl
    show desk.lender.reserve.tally.misses + 1 =
      .ofNat (Journal.misses (.reserveMiss size :: desk.journal))
    rw [counted, misses, UInt64.ofNat_add, UInt64.ofNat_one]
  · show _ = UInt64.ofNat (0 + desk.journal.evicted + _)
    rw [Nat.zero_add]

theorem noted_procure (desk : Desk) (size : Nat) : Noted [] [] desk (desk.procure size).2 := by
  unfold procure
  split
  · exact desk.noted_same
  cases taken : Reserve.takeFirst size desk.lender.reserve.kept with
  | some pair =>
    obtain ⟨block, rest⟩ := pair
    have hit := desk.noted_of_hit taken
    rw [← Prod.eta (desk.lender.reserve.request size), (Reserve.request_of_some taken).1]
    exact hit
  | none =>
    have missed := desk.noted_of_miss taken
    rw [← Prod.eta (desk.lender.reserve.request size), (Reserve.request_of_none taken).1]
    dsimp only
    split
    · exact missed
    · exact missed.trans (noted_withArena _ _)

theorem noted_blockFor (desk : Desk) (size : Nat) : Noted [] [] desk (desk.blockFor size).2 := by
  unfold blockFor
  split
  · exact desk.noted_withArena _
  · exact desk.noted_procure size

/-! ### Loans -/

/-- A loan is posted if and only if it comes about. -/
theorem noted_lend (desk : Desk) (size : Nat) :
    Noted (desk.backFromLending size)
      (match (desk.lend size).1 with
        | .ok (address, token) => [.lent address size token]
        | .error _ => [])
      desk (desk.lend size).2 := by
  have drawn := desk.noted_blockFor size
  unfold lend backFromLending
  generalize desk.blockFor size = result at drawn ⊢
  obtain ⟨fault | block, ready⟩ := result
  · exact drawn
  have draw : Noted [] [] ready ready.drawToken := noted_of_still rfl rfl fun _ => rfl
  dsimp only
  rw [show ready.drawToken.lender.loans = ready.lender.loans from rfl]
  cases ready.lender.loans.enter ⟨ready.lender.nextToken, block, size⟩ with
  | ok loans =>
    have entered : Noted [] [] ready.drawToken (ready.drawToken.withLoans loans) :=
      noted_of_still rfl rfl fun _ => rfl
    exact drawn.trans (draw.trans (entered.trans
      (noted_log _ (.lent block.address size ready.lender.nextToken) rfl)))
  | error fault => exact drawn.trans (draw.trans (ready.drawToken.noted_retireBlock block))

/-- A return is posted if and only if it settles a loan. -/
theorem noted_reclaim (desk : Desk) (address : Nat) (token : Token) :
    Noted (desk.backFromReclaim address token)
      (match desk.lender.loans.at? address with
        | some loan => if loan.token = token then [.reclaimed address loan.length token] else []
        | none => [])
      desk (desk.reclaim address token).2 := by
  unfold reclaim backFromReclaim
  cases desk.lender.loans.at? address with
  | some loan =>
    dsimp only
    split
    · have struck : Noted [] [] desk (desk.withLoans (desk.lender.loans.strike address)) :=
        noted_of_still rfl rfl fun _ => rfl
      exact struck.trans ((noted_log _ (.reclaimed address loan.length token) rfl).trans
        (noted_unpin _ loan.block))
    · exact desk.noted_same
  | none =>
    dsimp only
    split
    · exact desk.noted_same
    · exact desk.noted_log (.unknownReturnIgnored address token) rfl

/-! ### Replicas -/

theorem noted_fillReplica (desk : Desk) (replica : Replica) :
    Noted [] [] desk (desk.fillReplica replica) := by
  unfold fillReplica
  split
  · exact desk.noted_same
  · have pulled : Noted [] [] desk
        ((desk.pull replica).withReplicas ((desk.pull replica).lender.replicas.fill replica.id)) :=
      noted_of_still rfl rfl fun _ => rfl
    exact pulled.trans (noted_log _ (.replicaFilled replica.address replica.size) rfl)

/-- The replica of an address that has none is posted, and now the address has one. -/
theorem noted_add (desk : Desk) (replica : Replica)
    (missing : desk.lender.replicas.entry? replica.address = none) :
    Noted [] [.replicaCreated replica.address replica.size] desk
      ((desk.withReplicas (desk.lender.replicas.add replica)).log
        (.replicaCreated replica.address replica.size)) := by
  refine desk.noted_of_told _ (.replicaCreated replica.address replica.size) rfl rfl
    fun address => ?_
  rw [ReplicaTable.entry?_add]
  by_cases here : replica.address = address
  · subst here
    simp [Event.creates, Event.releases, missing]
  · simp [Event.creates, Event.releases, here]

/-- The release of a replica is posted, and then the address has none. -/
theorem noted_remove (desk : Desk) {address : Nat} {entry : ReplicaEntry}
    (found : desk.lender.replicas.entry? address = some entry) :
    Noted [] [.replicaReleased address] desk
      ((desk.withReplicas (desk.lender.replicas.remove address)).log
        (.replicaReleased address)) := by
  refine desk.noted_of_told _ (.replicaReleased address) rfl rfl fun other => ?_
  rw [ReplicaTable.entry?_remove]
  by_cases here : address = other
  · subst here
    simp [Event.creates, Event.releases, found]
  · simp [Event.creates, Event.releases, here]

/-- An operation hands `returned` to the reserve, and posts something only if it is not refused. -/
def PostsIfDone {Refusal Answer : Type} (returned : List Traffic) (before : Desk)
    (result : Except Refusal Answer × Desk) : Prop :=
  ∃ posted, Noted returned posted before result.2 ∧
    ∀ refusal, result.1 = .error refusal → posted = []

/-- An operation that was not refused, and what comes after it without a posting. -/
theorem PostsIfDone.andThen {Refusal Answer Later : Type} {returned : List Traffic}
    {before middle after : Desk} {answer : Answer}
    (posts : PostsIfDone returned before ((.ok answer : Except Refusal Answer), middle))
    (next : Noted [] [] middle after) (later : Later) :
    PostsIfDone returned before ((.ok later : Except Refusal Later), after) := by
  obtain ⟨posted, noted, -⟩ := posts
  have both := noted.trans next
  rw [List.append_nil] at both
  exact ⟨posted, both, nofun⟩

/-- A refusal by another name. -/
theorem PostsIfDone.mapError {Refusal Other Answer : Type} {returned : List Traffic}
    {before : Desk} {result : Except Refusal Answer × Desk}
    (posts : PostsIfDone returned before result) (wrap : Refusal → Other) :
    PostsIfDone returned before (result.1.mapError wrap, result.2) := by
  obtain ⟨posted, noted, silent⟩ := posts
  refine ⟨posted, noted, fun other refused => ?_⟩
  obtain ⟨refusal | answer, after⟩ := result
  · exact silent refusal rfl
  · cases refused

theorem Noted.postsIfDone {Refusal Answer : Type} {returned : List Traffic} {before after : Desk}
    (noted : Noted returned [] before after) (answer : Except Refusal Answer) :
    PostsIfDone returned before (answer, after) :=
  ⟨[], noted, fun _ _ => rfl⟩

/-- A reference posts something if and only if a replica has to be made for it. -/
theorem postsIfDone_reference (desk : Desk) (address size : Nat) :
    PostsIfDone [] desk (desk.reference address size) := by
  unfold reference
  split
  · exact desk.noted_same.postsIfDone _
  cases found : desk.lender.replicas.entry? address with
  | some entry =>
    dsimp only
    split
    · have counted : Noted [] [] desk (desk.withReplicas
          (desk.lender.replicas.recount address (entry.references + 1))) :=
        noted_of_still rfl rfl fun other =>
          desk.lender.replicas.isSome_recount address (entry.references + 1) other
      exact (counted.trans (noted_fillReplica _ entry.replica)).postsIfDone _
    · exact desk.noted_same.postsIfDone _
  | none =>
    have drawn := desk.noted_procure size
    have table := desk.replicas_procure size
    unfold makeReplica
    generalize desk.procure size = result at drawn table
    obtain ⟨fault | storage, after⟩ := result
    · exact drawn.postsIfDone _
    · have identified := after.noted_withArena after.arena.identify
      have missing : after.lender.replicas.entry? address = none := table ▸ found
      have added := noted_add { after with arena := after.arena.identify }
        ⟨after.arena.nextIdentity, address, size, storage⟩ missing
      exact ⟨_, drawn.trans (identified.trans (added.trans (noted_fillReplica _ _))), nofun⟩

theorem postsIfDone_share (desk : Desk) (address size : Nat) :
    PostsIfDone [] desk (desk.share address size) := by
  have referenced := desk.postsIfDone_reference address size
  unfold share
  generalize desk.reference address size = result at referenced
  obtain ⟨fault | replica, after⟩ := result
  · exact referenced
  · have opened : Noted [] [] after (after.openHandle replica) :=
      noted_of_still rfl rfl fun _ => rfl
    exact referenced.andThen opened replica

theorem postsIfDone_takeLease (desk : Desk) (address size : Nat) :
    PostsIfDone [] desk (desk.takeLease address size) := by
  have referenced := desk.postsIfDone_reference address size
  unfold takeLease
  generalize desk.reference address size = result at referenced
  obtain ⟨fault | replica, after⟩ := result
  · exact referenced
  · have leased : Noted [] [] after (after.withLeases (replica :: after.lender.replicas.leases)) :=
      noted_of_still rfl rfl fun _ => rfl
    exact referenced.andThen leased replica

theorem postsIfDone_reach (desk : Desk) (address size : Nat) :
    PostsIfDone [] desk (desk.reach address size) := by
  have viewed := desk.noted_openView address size
  unfold reach
  split
  · exact desk.noted_same.postsIfDone _
  generalize desk.openView address size = result at viewed
  obtain ⟨_ | view, opened⟩ := result
  · obtain ⟨posted, leased, silent⟩ := opened.postsIfDone_takeLease address size
    have reached := viewed.trans leased
    rw [List.append_nil posted] at reached
    dsimp only
    generalize opened.takeLease address size = result at reached silent
    obtain ⟨fault | replica, after⟩ := result
    · exact ⟨posted, reached, fun _ _ => silent fault rfl⟩
    · exact ⟨posted, reached, nofun⟩
  · exact viewed.postsIfDone _

/-! ### Letting go of replicas -/

theorem noted_unholdReplica (desk : Desk) (replica : Replica) :
    Noted (desk.unholding replica) [] desk (desk.unholdReplica replica) := by
  unfold unholdReplica unholding
  split
  · exact desk.noted_same
  · have forgotten : Noted [] [] desk
        (desk.withReplicas (desk.lender.replicas.forget replica.id)) :=
      noted_of_still rfl rfl fun _ => rfl
    exact forgotten.trans (noted_retireBlock _ replica.storage)

theorem postsIfDone_giveBack (desk : Desk) (address : Nat) :
    PostsIfDone (desk.backFromGiving address) desk (desk.giveBack address) := by
  unfold giveBack backFromGiving
  cases found : desk.lender.replicas.entry? address with
  | none => exact desk.noted_same.postsIfDone _
  | some entry =>
    dsimp only
    split
    · have back := noted_unholdReplica ((desk.withReplicas
        (desk.lender.replicas.remove address)).log (.replicaReleased address)) entry.replica
      exact ⟨_, (desk.noted_remove found).trans back, nofun⟩
    · have counted : Noted [] [] desk (desk.withReplicas
          (desk.lender.replicas.recount address (entry.references - 1))) :=
        noted_of_still rfl rfl fun other =>
          desk.lender.replicas.isSome_recount address (entry.references - 1) other
      exact counted.postsIfDone _

theorem noted_closeHandle (desk : Desk) (replica : Replica) :
    Noted (desk.backFromHandle replica) [] desk (desk.closeHandle replica) := by
  unfold closeHandle backFromHandle
  split
  · have closed : Noted [] [] desk
        (desk.withHandles (desk.lender.replicas.handles.erase replica)) :=
      noted_of_still rfl rfl fun _ => rfl
    exact closed.trans (noted_unholdReplica _ replica)
  · exact desk.noted_same

theorem noted_endLease (desk : Desk) (replica : Replica) :
    ∃ posted, Noted (desk.backFromLease replica) posted desk (desk.endLease replica) ∧
      (desk.lender.replicas.entry? replica.address = none → posted = []) := by
  unfold endLease backFromLease
  split
  · obtain ⟨posted, given, silent⟩ := desk.postsIfDone_giveBack replica.address
    have absent : desk.lender.replicas.entry? replica.address = none → posted = [] :=
      fun missing => silent _ (congrArg Prod.fst (giveBack_of_absent missing))
    generalize desk.giveBack replica.address = result at given ⊢
    obtain ⟨violation | _, returned⟩ := result
    · have logged := given.trans (noted_log returned (.leaseReturnFailed violation) rfl)
      have ended : Noted [] [] (returned.log (.leaseReturnFailed violation))
          ((returned.log (.leaseReturnFailed violation)).withLeases
            (returned.lender.replicas.leases.erase replica)) :=
        noted_of_still rfl rfl fun _ => rfl
      have back := noted_unholdReplica ((returned.log (.leaseReturnFailed violation)).withLeases
        (returned.lender.replicas.leases.erase replica)) replica
      rw [List.append_nil] at logged
      exact ⟨_, logged.trans (ended.trans back), absent⟩
    · have ended : Noted [] [] returned
          (returned.withLeases (returned.lender.replicas.leases.erase replica)) :=
        noted_of_still rfl rfl fun _ => rfl
      exact ⟨_, given.trans (ended.trans (noted_unholdReplica _ replica)), absent⟩
  · exact ⟨[], desk.noted_same, fun _ => rfl⟩

end Desk

end MemoryLending
