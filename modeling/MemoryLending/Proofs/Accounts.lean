/-
This file keeps the books of a reserve. Its five counters and its list of blocks are written at
different points, and still every request is a hit or a miss, and every block that came back is
used again, given up, cleared away or still there. The books are kept in natural numbers, and the
counters show them as far as machine words go: so no step needs to ask whether a counter wraps, and
a run that counts fewer events than there are machine words is shown exactly as it was. How many
events a turn counts is read off the counters themselves, which is sound because no turn passes more
than two things to the reserve.
-/

import MemoryLending.Proofs.Moves

namespace MemoryLending

namespace Traffic

/-- Whether a block is asked for. -/
def isRequest : Traffic → Bool
  | request _ => true
  | _ => false

/-- Whether a block comes back. A block without bytes counts for nothing. -/
def isReturn : Traffic → Bool
  | restore block => block.capacity != 0
  | _ => false

end Traffic

namespace Reserve

/-! ### The books of a reserve -/

/-- Every block that is tried is left or given up. -/
theorem length_shed (budget : Budget) (kept : List Block) (bytes : Nat) :
    (shed budget kept bytes).1.length + (shed budget kept bytes).2.2 = kept.length := by
  induction kept generalizing bytes with
  | nil => rfl
  | cons oldest later inductionHypothesis =>
    unfold shed
    split
    · exact congrArg (· + 1) (inductionHypothesis (bytes - oldest.capacity))
    · rfl

/-- The reserve was asked `asked` times, `returned` blocks came back and `cleared` blocks were
cleared away; the counters show this modulo the machine words. -/
def Balances (reserve : Reserve) (asked returned cleared : Nat) : Prop :=
  ∃ hits misses evictions : Nat,
    reserve.tally =
      ⟨.ofNat asked, .ofNat hits, .ofNat misses, .ofNat returned, .ofNat evictions⟩ ∧
      asked = hits + misses ∧ returned = hits + evictions + reserve.kept.length + cleared

theorem balances_empty (budget : Budget) : (empty budget).Balances 0 0 0 :=
  ⟨0, 0, 0, rfl, rfl, rfl⟩

section Balances

variable {reserve : Reserve} {asked returned cleared : Nat}
  (balances : reserve.Balances asked returned cleared)

include balances

theorem Balances.request (length : Nat) :
    (reserve.request length).2.Balances (asked + 1) returned cleared := by
  obtain ⟨hits, misses, evictions, tally, requests, returns⟩ := balances
  unfold Reserve.request
  cases taken : takeFirst length reserve.kept with
  | some pair =>
    obtain ⟨block, rest⟩ := pair
    have fewer : reserve.kept.length = rest.length + 1 := (perm_of_takeFirst taken).length_eq
    refine ⟨hits + 1, misses, evictions, ?_, by omega, ?_⟩
    · simp only [tally, UInt64.ofNat_add, UInt64.ofNat_one]
    · show returned = hits + 1 + evictions + rest.length + cleared
      omega
  | none =>
    refine ⟨hits, misses + 1, evictions, ?_, by omega, returns⟩
    simp only [tally, UInt64.ofNat_add, UInt64.ofNat_one]

theorem Balances.restore {block : Block} (solid : block.capacity ≠ 0) :
    (reserve.restore block).2.Balances asked (returned + 1) cleared := by
  obtain ⟨hits, misses, evictions, tally, requests, returns⟩ := balances
  unfold Reserve.restore
  rw [if_neg solid]
  dsimp only
  split
  · refine ⟨hits, misses, evictions + 1, ?_, requests, ?_⟩
    · simp only [tally, UInt64.ofNat_add, UInt64.ofNat_one]
    · show returned + 1 = hits + (evictions + 1) + reserve.kept.length + cleared
      omega
  · have tried := length_shed reserve.budget (reserve.kept ++ [block])
      (reserve.bytes + block.capacity)
    rw [List.length_append, List.length_singleton] at tried
    generalize shed reserve.budget (reserve.kept ++ [block]) (reserve.bytes + block.capacity) =
      result at tried ⊢
    obtain ⟨left, total, count⟩ := result
    refine ⟨hits, misses, evictions + count, ?_, requests, ?_⟩
    · simp only [tally, UInt64.ofNat_add, UInt64.ofNat_one]
    · show returned + 1 = hits + (evictions + count) + left.length + cleared
      dsimp only at tried
      omega

theorem Balances.clear :
    reserve.clear.2.Balances asked returned (cleared + reserve.kept.length) := by
  obtain ⟨hits, misses, evictions, tally, requests, returns⟩ := balances
  refine ⟨hits, misses, evictions, tally, requests, ?_⟩
  show returned = hits + evictions + 0 + (cleared + reserve.kept.length)
  omega

/-- The books after traffic that clears nothing away. -/
theorem Balances.passAll {traffic : List Traffic} (noClear : .clear ∉ traffic) :
    (reserve.passAll traffic).Balances (asked + traffic.countP Traffic.isRequest)
      (returned + traffic.countP Traffic.isReturn) cleared := by
  induction traffic generalizing reserve asked returned with
  | nil => exact balances
  | cons action rest inductionHypothesis =>
    have noClear' : .clear ∉ rest := fun member => noClear (List.mem_cons_of_mem _ member)
    rw [List.countP_cons, List.countP_cons, Nat.add_comm (rest.countP Traffic.isRequest),
      Nat.add_comm (rest.countP Traffic.isReturn), ← Nat.add_assoc, ← Nat.add_assoc]
    cases action with
    | request length => exact inductionHypothesis (balances.request length) noClear'
    | restore block =>
      by_cases empty : block.capacity = 0
      · have counts : Traffic.isReturn (.restore block) = false := by
          simp [Traffic.isReturn, empty]
        have same : (reserve.restore block).2.Balances asked returned cleared := by
          rw [reserve.restore_of_empty empty]
          exact balances
        rw [counts]
        exact inductionHypothesis same noClear'
      · have counts : Traffic.isReturn (.restore block) = true := by
          simp [Traffic.isReturn, empty]
        rw [counts]
        exact inductionHypothesis (balances.restore empty) noClear'
    | clear => exact absurd List.mem_cons_self noClear

end Balances

/-- Fewer requests than machine words are shown exactly. -/
theorem Balances.exact_requests {reserve : Reserve} {asked returned cleared : Nat}
    (balances : reserve.Balances asked returned cleared) (few : asked < UInt64.size) :
    reserve.tally.requests.toNat = asked ∧
      reserve.tally.hits.toNat + reserve.tally.misses.toNat = asked := by
  obtain ⟨hits, misses, evictions, tally, requests, -⟩ := balances
  rw [tally]
  dsimp only
  rw [UInt64.toNat_ofNat_of_lt' few,
    UInt64.toNat_ofNat_of_lt' (show hits < UInt64.size by omega),
    UInt64.toNat_ofNat_of_lt' (show misses < UInt64.size by omega)]
  exact ⟨rfl, requests.symm⟩

/-- Fewer events than machine words are shown exactly. -/
theorem Balances.exact {reserve : Reserve} {asked returned cleared : Nat}
    (balances : reserve.Balances asked returned cleared) (few : asked < UInt64.size)
    (few' : returned < UInt64.size) :
    reserve.tally.requests.toNat = reserve.tally.hits.toNat + reserve.tally.misses.toNat ∧
      reserve.tally.returns.toNat =
        reserve.tally.hits.toNat + reserve.tally.evictions.toNat + reserve.kept.length +
          cleared := by
  obtain ⟨shown, sum⟩ := balances.exact_requests few
  refine ⟨shown.trans sum.symm, ?_⟩
  obtain ⟨hits, misses, evictions, tally, requests, returns⟩ := balances
  rw [tally]
  dsimp only
  rw [UInt64.toNat_ofNat_of_lt' few',
    UInt64.toNat_ofNat_of_lt' (show hits < UInt64.size by omega),
    UInt64.toNat_ofNat_of_lt' (show evictions < UInt64.size by omega)]
  exact returns

end Reserve

/-! ### How much an operation passes -/

/-- A counter that has moved a little tells how far, also when it has wrapped meanwhile. -/
theorem Tally.toNat_moved (before : Nat) {count : Nat} (few : count ≤ 2) :
    (UInt64.ofNat (before + count) - UInt64.ofNat before).toNat = count := by
  have difference : UInt64.ofNat (before + count) - UInt64.ofNat before = UInt64.ofNat count := by
    rw [UInt64.ofNat_add, UInt64.add_comm, UInt64.add_sub_cancel]
  rw [difference, UInt64.toNat_ofNat_of_lt' (Nat.lt_of_le_of_lt few (by decide))]

/-- At most one block that comes back. -/
structure Traffic.Returning (traffic : List Traffic) : Prop where
  length : traffic.length ≤ 1
  noRequest : traffic.countP Traffic.isRequest = 0
  noClear : .clear ∉ traffic

theorem Traffic.returning_restore (block : Block) : Traffic.Returning [.restore block] :=
  ⟨Nat.le_refl 1, rfl, fun member => by cases List.mem_singleton.mp member⟩

theorem Traffic.returning_nil : Traffic.Returning [] :=
  ⟨Nat.zero_le 1, rfl, List.not_mem_nil⟩

theorem Block.returning_retirement (block : Block) : Traffic.Returning block.retirement := by
  unfold retirement
  split
  · exact Traffic.returning_restore block
  · exact Traffic.returning_nil

namespace Desk

theorem returning_unpinning (desk : Desk) (block : Block) :
    Traffic.Returning (desk.unpinning block) := by
  unfold unpinning
  split
  · exact Traffic.returning_nil
  · exact block.returning_retirement

theorem returning_unholding (desk : Desk) (replica : Replica) :
    Traffic.Returning (desk.unholding replica) := by
  unfold unholding
  split
  · exact Traffic.returning_nil
  · exact replica.storage.returning_retirement

/-- From one desk to another at most `most` things are passed to the reserve, `asked` of them
requests, and it is not cleared. -/
def Passes (asked most : Nat) (before after : Desk) : Prop :=
  ∃ traffic, traffic.countP Traffic.isRequest = asked ∧ traffic.length ≤ most ∧
    .clear ∉ traffic ∧ after.lender.reserve = before.lender.reserve.passAll traffic

/-- The requests that come of asking for `size` bytes: no bytes are not asked for. -/
def requestsFor (size : Nat) : Nat := if size = 0 then 0 else 1

section Passes

variable {asked most : Nat} {before after : Desk}

theorem passes_of_same (same : after.lender.reserve = before.lender.reserve) :
    Passes 0 most before after :=
  ⟨[], rfl, Nat.zero_le most, List.not_mem_nil, same⟩

theorem passes_of_returning {traffic : List Traffic} (returning : Traffic.Returning traffic)
    (passed : after.lender.reserve = before.lender.reserve.passAll traffic) :
    Passes 0 1 before after :=
  ⟨traffic, returning.noRequest, returning.length, returning.noClear, passed⟩

theorem Passes.trans {asked' most' : Nat} {final : Desk} (first : Passes asked most before after)
    (second : Passes asked' most' after final) :
    Passes (asked + asked') (most + most') before final := by
  obtain ⟨traffic, requests, length, noClear, passed⟩ := first
  obtain ⟨traffic', requests', length', noClear', passed'⟩ := second
  refine ⟨traffic ++ traffic', ?_, ?_, fun member => ?_, ?_⟩
  · rw [List.countP_append, requests, requests']
  · rw [List.length_append]
    exact Nat.add_le_add length length'
  · exact (List.mem_append.mp member).elim noClear noClear'
  · rw [passed', passed, Reserve.passAll_append]

theorem Passes.mono {most' : Nat} (passes : Passes asked most before after)
    (more : most ≤ most') : Passes asked most' before after := by
  obtain ⟨traffic, requests, length, noClear, passed⟩ := passes
  exact ⟨traffic, requests, Nat.le_trans length more, noClear, passed⟩

/-- The books of the reserve after an operation that does not clear it. -/
theorem Passes.balances {asked' returned cleared : Nat} (passes : Passes asked most before after)
    (balances : before.lender.reserve.Balances asked' returned cleared) :
    ∃ returned', after.lender.reserve.Balances (asked' + asked) returned' cleared := by
  obtain ⟨traffic, rfl, -, noClear, passed⟩ := passes
  exact ⟨_, passed ▸ balances.passAll noClear⟩

end Passes

theorem passes_procure (desk : Desk) (size : Nat) :
    Passes (requestsFor size) 1 desk (desk.procure size).2 := by
  have noClear : .clear ∉ [Traffic.request size] := fun member => by
    cases List.mem_singleton.mp member
  have outcome := desk.procured size
  generalize desk.procure size = result at outcome
  unfold requestsFor
  cases outcome with
  | nothing zero =>
    rw [if_pos zero]
    exact passes_of_same rfl
  | kept _ _ _ positive | beyond _ positive | fresh _ positive =>
    rw [if_neg positive]
    exact ⟨[.request size], rfl, Nat.le_refl 1, noClear, rfl⟩

theorem passes_restore (desk : Desk) (block : Block) : Passes 0 1 desk (desk.restore block) := by
  obtain ⟨aside, restored⟩ := desk.restore_eq block
  rw [restored]
  exact passes_of_returning (Traffic.returning_restore block) rfl

theorem passes_blockFor (desk : Desk) (size : Nat) :
    Passes (requestsFor size) 1 desk (desk.blockFor size).2 := by
  unfold blockFor
  by_cases zero : size = 0
  · rw [if_pos zero, requestsFor, if_pos zero]
    exact passes_of_same rfl
  · rw [if_neg zero]
    exact desk.passes_procure size

/-- A loan that does not come about asks for a block and gives it back. -/
theorem passes_lend (desk : Desk) (size : Nat) :
    Passes (requestsFor size) 2 desk (desk.lend size).2 := by
  have asked := desk.passes_blockFor size
  have outcome := desk.lending size
  generalize desk.lend size = result at outcome
  cases outcome with
  | failed fault after drawn =>
    rw [drawn] at asked
    exact asked.mono (by decide)
  | refused fault block after aside drawn =>
    rw [drawn] at asked
    exact asked.trans (passes_of_returning block.returning_retirement rfl)
  | granted block after loans aside drawn =>
    rw [drawn] at asked
    exact asked.mono (by decide)

theorem passes_reclaim (desk : Desk) (address : Nat) (token : Token) :
    Passes 0 1 desk (desk.reclaim address token).2 := by
  cases found : desk.lender.loans.at? address with
  | some loan =>
    by_cases same : loan.token = token
    · obtain ⟨aside, reclaimed⟩ := reclaim_of_match found same
      rw [reclaimed]
      exact passes_of_returning (returning_unpinning _ _) rfl
    · rw [reclaim_of_mismatch found same]
      exact passes_of_same rfl
  | none =>
    rw [reclaim_of_absent found]
    cases desk.lender.policy.unknownReturn <;> exact passes_of_same rfl

theorem reserve_openView (desk : Desk) (address size : Nat) :
    (desk.openView address size).2.lender.reserve = desk.lender.reserve := by
  unfold openView
  split <;> rfl

theorem passes_closeView (desk : Desk) (view : View) : Passes 0 1 desk (desk.closeView view) := by
  by_cases opened : view ∈ desk.lender.views
  · obtain ⟨aside, closed⟩ := closeView_of_mem opened
    rw [closed]
    exact passes_of_returning (returning_unpinning _ _) rfl
  · unfold closeView
    rw [if_neg opened]
    exact passes_of_same rfl

theorem passes_reference (desk : Desk) (address size : Nat) :
    ∃ asked, Passes asked 1 desk (desk.reference address size).2 := by
  have asked := desk.passes_procure size
  have outcome := desk.referencing address size
  generalize desk.reference address size = result at outcome
  cases outcome with
  | refused | counted => exact ⟨0, passes_of_same rfl⟩
  | failed fault after missing drawn =>
    rw [drawn] at asked
    exact ⟨_, asked⟩
  | made storage after aside missing drawn =>
    rw [drawn] at asked
    exact ⟨_, asked⟩

theorem passes_share (desk : Desk) (address size : Nat) :
    ∃ asked, Passes asked 1 desk (desk.share address size).2 := by
  have referenced := desk.passes_reference address size
  unfold share
  generalize desk.reference address size = result at referenced
  obtain ⟨fault | replica, after⟩ := result <;> exact referenced

theorem passes_takeLease (desk : Desk) (address size : Nat) :
    ∃ asked, Passes asked 1 desk (desk.takeLease address size).2 := by
  have referenced := desk.passes_reference address size
  unfold takeLease
  generalize desk.reference address size = result at referenced
  obtain ⟨fault | replica, after⟩ := result <;> exact referenced

theorem passes_giveBack (desk : Desk) (address : Nat) :
    Passes 0 1 desk (desk.giveBack address).2 := by
  cases found : desk.lender.replicas.entry? address with
  | none =>
    rw [giveBack_of_absent found]
    exact passes_of_same rfl
  | some entry =>
    by_cases last : entry.references - 1 = 0
    · obtain ⟨aside, given⟩ := giveBack_of_last found last
      rw [given]
      exact passes_of_returning (returning_unholding _ _) rfl
    · rw [giveBack_of_more found last]
      exact passes_of_same rfl

/-- A lease that ends can bring two blocks back: the one its reference held, and its own. -/
theorem passes_endLease (desk : Desk) (replica : Replica) :
    Passes 0 2 desk (desk.endLease replica) := by
  by_cases held : replica ∈ desk.lender.replicas.leases
  · obtain ⟨aside, aside', ended⟩ := endLease_of_mem held
    rw [ended]
    exact (desk.passes_giveBack replica.address).trans
      (passes_of_returning (returning_unholding _ replica) rfl)
  · unfold endLease
    rw [if_neg held]
    exact passes_of_same rfl

theorem passes_closeHandle (desk : Desk) (replica : Replica) :
    Passes 0 1 desk (desk.closeHandle replica) := by
  by_cases held : replica ∈ desk.lender.replicas.handles
  · obtain ⟨aside, closed⟩ := closeHandle_of_mem held
    rw [closed]
    exact passes_of_returning (returning_unholding _ _) rfl
  · unfold closeHandle
    rw [if_neg held]
    exact passes_of_same rfl

theorem passes_reach (desk : Desk) (address size : Nat) :
    ∃ asked, Passes asked 1 desk (desk.reach address size).2 := by
  have same := desk.reserve_openView address size
  unfold reach
  split
  · exact ⟨0, passes_of_same rfl⟩
  generalize desk.openView address size = result at same
  obtain ⟨_ | view, opened⟩ := result
  · have looked : Passes 0 0 desk opened := passes_of_same same
    obtain ⟨asked, leased⟩ := opened.passes_takeLease address size
    have leased := looked.trans leased
    dsimp only
    generalize opened.takeLease address size = result at leased
    obtain ⟨fault | replica, after⟩ := result <;> exact ⟨_, leased⟩
  · exact ⟨0, passes_of_same same⟩

end Desk

namespace Trade

/-! ### How much a turn counts -/

def counters (trade : Trade) : Tally := trade.desk.lender.reserve.tally

/-- How many events a counter counts in a run, turn by turn. -/
def counted (counter : Tally → UInt64) : Trade → List Turn → Nat
  | _, [] => 0
  | trade, turn :: rest =>
    (counter (trade.take turn).counters - counter trade.counters).toNat +
      counted counter (trade.take turn) rest

/-- How many blocks a run clears away. -/
def cleared : Trade → List Turn → Nat
  | _, [] => 0
  | trade, turn :: rest =>
    (if turn.deed = .clear then trade.kept.length else 0) + cleared (trade.take turn) rest

theorem passes_whereRead (trade : Trade) (replica : Replica) (work : Desk → Desk)
    (same : (work trade.desk).lender.reserve = trade.desk.lender.reserve) :
    Desk.Passes 0 1 trade.desk (trade.whereRead replica work).desk := by
  unfold whereRead
  split
  · exact Desk.passes_of_same same
  · exact Desk.passes_of_same rfl

theorem passes_donate (trade : Trade) (size : Nat) :
    Desk.Passes 0 1 trade.desk (trade.donate size).desk := by
  unfold donate
  split
  · exact trade.desk.passes_restore Block.empty
  · split
    · exact Desk.passes_of_same rfl
    · exact Desk.passes_restore { trade.desk with arena := trade.desk.arena.place size } _

/-- No turn passes more than two things to the reserve. -/
theorem passes_take (trade : Trade) {turn : Turn} (other : turn.deed ≠ .clear) :
    ∃ asked, Desk.Passes asked 2 trade.desk (trade.take turn).desk := by
  obtain ⟨deed, place⟩ := turn
  have one : ∀ {asked},
      Desk.Passes asked 1 (trade.ready place).desk (trade.take ⟨deed, place⟩).desk →
        ∃ asked, Desk.Passes asked 2 trade.desk (trade.take ⟨deed, place⟩).desk := fun passes =>
    ⟨_, Desk.Passes.mono passes (by decide)⟩
  let desk := (trade.ready place).desk
  cases deed with
  | rent size => exact one (desk.passes_procure size)
  | handIn block =>
    refine @one 0 ?_
    show Desk.Passes 0 1 _ ((trade.ready place).perform (.handIn block)).2.desk
    unfold perform
    dsimp only
    split
    · exact desk.passes_restore block
    · exact Desk.passes_of_same rfl
  | donate size => exact one ((trade.ready place).passes_donate size)
  | clear => exact absurd rfl other
  | lend size => exact ⟨_, desk.passes_lend size⟩
  | reclaim address token => exact one (desk.passes_reclaim address token)
  | openView address size => exact one (Desk.passes_of_same (desk.reserve_openView address size))
  | closeView view => exact one (desk.passes_closeView view)
  | share address size => exact (desk.passes_share address size).elim fun _ => one
  | giveBack address => exact one (desk.passes_giveBack address)
  | takeLease address size => exact (desk.passes_takeLease address size).elim fun _ => one
  | endLease replica => exact ⟨_, desk.passes_endLease replica⟩
  | closeHandle replica => exact one (desk.passes_closeHandle replica)
  | reach address size => exact (desk.passes_reach address size).elim fun _ => one
  | copyHandle replica | pull replica | push replica =>
    exact one ((trade.ready place).passes_whereRead replica _ rfl)
  | edit replica offset bytes =>
    refine one ((trade.ready place).passes_whereRead replica _ ?_)
    unfold Desk.editReplica?
    split <;> rfl
  | discard | write => exact one (Desk.passes_of_same rfl)

/-- The books of the reserve of a trade. -/
def Balances (trade : Trade) (asked returned cleared : Nat) : Prop :=
  trade.desk.lender.reserve.Balances asked returned cleared

theorem Balances.take {trade : Trade} {asked returned cleared : Nat}
    (balances : trade.Balances asked returned cleared) (turn : Turn) :
    (trade.take turn).Balances
      (asked + ((trade.take turn).counters.requests - trade.counters.requests).toNat)
      (returned + ((trade.take turn).counters.returns - trade.counters.returns).toNat)
      (cleared + if turn.deed = .clear then trade.kept.length else 0) := by
  by_cases clears : turn.deed = .clear
  · obtain ⟨deed, place⟩ := turn
    obtain rfl : deed = .clear := clears
    have after : (trade.take ⟨.clear, place⟩).desk.lender.reserve =
        trade.desk.lender.reserve.clear.2 := rfl
    have same : (trade.take ⟨.clear, place⟩).counters = trade.counters := rfl
    rw [same, UInt64.sub_self, UInt64.sub_self, if_pos rfl]
    show Reserve.Balances _ _ _ _
    rw [after]
    exact Reserve.Balances.clear balances
  · obtain ⟨_, traffic, -, length, noClear, passed⟩ := trade.passes_take clears
    have passes := Reserve.Balances.passAll balances noClear
    rw [← passed] at passes
    have before := balances
    have after := passes
    obtain ⟨hits, misses, evictions, tally, -⟩ := before
    obtain ⟨hits', misses', evictions', tally', -⟩ := after
    have requests := Tally.toNat_moved asked
      (Nat.le_trans (List.countP_le_length (p := Traffic.isRequest)) length)
    have returns := Tally.toNat_moved returned
      (Nat.le_trans (List.countP_le_length (p := Traffic.isReturn)) length)
    unfold Trade.counters
    rw [tally, tally', requests, returns, if_neg clears]
    exact passes

theorem Balances.run {trade : Trade} {asked returned cleared : Nat}
    (balances : trade.Balances asked returned cleared) (turns : List Turn) :
    (trade.run turns).Balances (asked + trade.counted Tally.requests turns)
      (returned + trade.counted Tally.returns turns) (cleared + trade.cleared turns) := by
  induction turns generalizing trade asked returned cleared with
  | nil => exact balances
  | cons turn rest inductionHypothesis =>
    have books := inductionHypothesis (balances.take turn)
    rw [Nat.add_assoc, Nat.add_assoc, Nat.add_assoc] at books
    exact books

/-! ### The books of a run -/

/-- What the counters say of a run in which `cleared` blocks were cleared away. -/
structure Accounts (trade : Trade) (cleared : Nat) : Prop where
  /-- Every request was a hit or a miss. -/
  requests : trade.counters.requests.toNat = trade.counters.hits.toNat + trade.counters.misses.toNat
  /-- Every block that came back was used again, given up or cleared away, or is still there. -/
  returns : trade.counters.returns.toNat =
    trade.counters.hits.toNat + trade.counters.evictions.toNat + trade.kept.length + cleared
  /-- Only what came back is used again. -/
  hits : trade.counters.hits.toNat ≤ trade.counters.returns.toNat

/-- Whatever has been asked of a lender, its counters add up, as long as they have counted fewer
requests and fewer returns than there are machine words. -/
theorem accounts_run (policy : Policy) (arena : Arena) (turns : List Turn)
    (fewRequests : (opened policy arena).counted Tally.requests turns < UInt64.size)
    (fewReturns : (opened policy arena).counted Tally.returns turns < UInt64.size) :
    ((opened policy arena).run turns).Accounts ((opened policy arena).cleared turns) := by
  have start : (opened policy arena).Balances 0 0 0 := Reserve.balances_empty policy.budget
  have books := start.run turns
  rw [Nat.zero_add, Nat.zero_add, Nat.zero_add] at books
  obtain ⟨requests, returns⟩ := Reserve.Balances.exact books fewRequests fewReturns
  have returns' : ((opened policy arena).run turns).counters.returns.toNat = _ := returns
  refine ⟨requests, returns, ?_⟩
  rw [returns', Nat.add_assoc, Nat.add_assoc]
  exact Nat.le_add_right _ _

/-- A block is missed, comes back, is used again for a replica and comes back once more; a loan is
refused, and its block comes back; a request is beyond every block; empty, small and too large
blocks come in from outside, one of them in place of two; and what is kept is cleared away before
another block comes in. -/
theorem accounts_run_cleared :
    let block : Block := ⟨1, 4096, 16, true⟩
    let turns : List Turn :=
      [⟨.rent 16, 4096⟩, ⟨.handIn block, 0⟩, ⟨.share 64 8, 0⟩, ⟨.lend 32, 8192⟩,
        ⟨.lend 48, 8192⟩, ⟨.giveBack 64, 0⟩, ⟨.closeHandle ⟨2, 64, 8, block⟩, 0⟩,
        ⟨.rent (2 ^ 63), 0⟩, ⟨.donate 0, 0⟩, ⟨.donate 65, 16384⟩, ⟨.donate 16, 20480⟩,
        ⟨.donate 60, 24576⟩, ⟨.clear, 0⟩, ⟨.donate 8, 28672⟩]
    let start := opened ⟨⟨64, 4⟩, .reject⟩ (Arena.startingAt 0 16 16)
    start.counted Tally.requests turns = 5 ∧ start.counted Tally.returns turns = 7 ∧
      start.cleared turns = 1 ∧ (start.run turns).counters = ⟨5, 1, 4, 7, 4⟩ ∧
        (start.run turns).Accounts 1 := by
  intro block turns start
  have requests : start.counted Tally.requests turns = 5 := by decide +kernel
  have returns : start.counted Tally.returns turns = 7 := by decide +kernel
  have cleared : start.cleared turns = 1 := by decide +kernel
  have accounts := accounts_run ⟨⟨64, 4⟩, .reject⟩ (Arena.startingAt 0 16 16) turns
    (requests ▸ by decide) (returns ▸ by decide)
  exact ⟨requests, returns, cleared, by decide +kernel, cleared ▸ accounts⟩

end Trade

end MemoryLending
