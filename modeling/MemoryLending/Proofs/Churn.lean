/-
This file follows a reserve through churn: callers rent blocks of one length, hand them in again
and do nothing else. As long as the budget has room for as many blocks as are ever out together,
nothing is given up, so every block that was made is either out or kept. A block is made only
when none is kept, which is when more are out than ever before. The number of blocks made is
therefore the largest number that have been out together, however many rentals there were.
-/

import Mathlib.Data.List.Induction
import MemoryLending.Proofs.Peak
import MemoryLending.Proofs.Retention

namespace MemoryLending

namespace Reserve

/-! ### Room for everything -/

theorem shed_of_admitted {budget : Budget} {kept : List Block} (admitted : budget.Admits kept) :
    shed budget kept (Block.total kept) = (kept, Block.total kept, 0) := by
  cases kept with
  | nil => rfl
  | cons oldest later =>
    have bytes := admitted.bytes
    have blocks := admitted.blocks
    unfold shed
    rw [if_neg]
    omega

/-- A block that fits with all others is kept behind them, and nothing is given up. -/
theorem Balanced.restore_of_room {reserve : Reserve} (balanced : reserve.Balanced) {block : Block}
    (solid : block.capacity ≠ 0) (room : reserve.budget.Admits (reserve.kept ++ [block])) :
    (reserve.restore block).2.kept = reserve.kept ++ [block] ∧
      (reserve.restore block).2.tally.misses = reserve.tally.misses ∧
        (reserve.restore block).2.tally.evictions = reserve.tally.evictions := by
  have bytes := room.bytes
  have blocks := room.blocks
  rw [Block.total_concat] at bytes
  rw [List.length_append] at blocks
  have accepted : reserve.rejects block = false := by
    refine Bool.eq_false_iff.mpr fun rejected => ?_
    rcases rejects_iff.mp rejected with long | none
    · omega
    · exact absurd blocks (by rw [none]; exact Nat.not_succ_le_zero _)
  unfold Reserve.restore
  rw [if_neg solid, accepted, if_neg Bool.false_ne_true, balanced.bytes, ← Block.total_concat,
    shed_of_admitted room]
  exact ⟨rfl, rfl, UInt64.add_zero _⟩

/-! ### Blocks of one length -/

/-- All kept blocks have one length, so many requests found none, and none was given up. -/
structure Uniform (reserve : Reserve) (size missed : Nat) : Prop where
  balanced : reserve.Balanced
  exact : ∀ block ∈ reserve.kept, block.capacity = size
  misses : reserve.tally.misses = .ofNat missed
  evictions : reserve.tally.evictions = 0

theorem uniform_empty (budget : Budget) (size : Nat) : (empty budget).Uniform size 0 :=
  ⟨balanced_empty budget, nofun, rfl, rfl⟩

theorem total_of_exact {blocks : List Block} {size : Nat}
    (exact : ∀ block ∈ blocks, block.capacity = size) :
    Block.total blocks = blocks.length * size := by
  induction blocks with
  | nil => exact (Nat.zero_mul size).symm
  | cons block rest inductionHypothesis =>
    rw [Block.total_cons, exact block List.mem_cons_self, List.length_cons, Nat.succ_mul,
      Nat.add_comm, inductionHypothesis fun other member => exact other (List.mem_cons_of_mem _ member)]

section Uniform

variable {reserve : Reserve} {size missed : Nat} (uniform : reserve.Uniform size missed)

include uniform

/-- A request of the length is met whenever something is kept. -/
theorem Uniform.kept_of_missing (missing : takeFirst size reserve.kept = none) :
    reserve.kept = [] := by
  rw [takeFirst_eq, Option.map_eq_none_iff, List.find?_eq_none] at missing
  refine List.eq_nil_iff_forall_not_mem.mpr fun block member => missing block member ?_
  exact decide_eq_true (Nat.le_of_eq (uniform.exact block member).symm)

theorem Uniform.missing (missing : takeFirst size reserve.kept = none) :
    (reserve.request size).2.Uniform size (missed + 1) := by
  have balanced := uniform.balanced.request size
  have kept := (request_of_none missing).2
  refine ⟨balanced, fun block member => uniform.exact block (kept ▸ member), ?_, ?_⟩
  · unfold request
    rw [missing, UInt64.ofNat_add, ← uniform.misses]
    rfl
  · unfold request
    rw [missing]
    exact uniform.evictions

theorem Uniform.found {block : Block} {rest : List Block}
    (taken : takeFirst size reserve.kept = some (block, rest)) :
    (reserve.request size).2.Uniform size missed := by
  have balanced := uniform.balanced.request size
  have fewer := kept_request_sublist reserve size
  refine ⟨balanced, fun block member => uniform.exact block (fewer.subset member), ?_, ?_⟩
  · unfold request
    rw [taken]
    exact uniform.misses
  · unfold request
    rw [taken]
    exact uniform.evictions

theorem Uniform.restore {block : Block} (exact : block.capacity = size) (positive : size ≠ 0)
    (blocks : reserve.kept.length + 1 ≤ reserve.budget.blocks)
    (bytes : (reserve.kept.length + 1) * size ≤ reserve.budget.bytes) :
    (reserve.restore block).2.Uniform size missed ∧
      (reserve.restore block).2.kept.length = reserve.kept.length + 1 := by
  have exactAll : ∀ other ∈ reserve.kept ++ [block], other.capacity = size := fun other member =>
    (List.mem_append.mp member).elim (uniform.exact other) fun last =>
      List.mem_singleton.mp last ▸ exact
  have length : (reserve.kept ++ [block]).length = reserve.kept.length + 1 := List.length_append
  have room : reserve.budget.Admits (reserve.kept ++ [block]) :=
    ⟨by rw [total_of_exact exactAll, length]; exact bytes, length ▸ blocks⟩
  obtain ⟨kept, misses, evictions⟩ :=
    uniform.balanced.restore_of_room (exact ▸ positive) room
  refine ⟨⟨uniform.balanced.restore block, fun other member => exactAll other (kept ▸ member),
    misses.trans uniform.misses, evictions.trans uniform.evictions⟩, ?_⟩
  rw [kept, length]

end Uniform

end Reserve

/-! ### Churn -/

/-- Whether a deed rents a block of one length or hands one in. -/
def Deed.churns (size : Nat) : Deed → Bool
  | rent other => other == size
  | handIn _ => true
  | _ => false

namespace Trade

/-- Whether a turn is answered with a block that did not exist before. -/
def makes (trade : Trade) (turn : Turn) : Bool :=
  match trade.answer turn with
  | .block block => trade.issued < block.id
  | _ => false

/-- Whether a turn fails. -/
def fails (trade : Trade) (turn : Turn) : Bool :=
  match trade.answer turn with
  | .failed _ => true
  | _ => false

/-- The most blocks that have been rented at once in a run. -/
def mostOut (trade : Trade) (turns : List Turn) : Nat :=
  peak take (fun trade => trade.rented.length) trade turns

/-- In a trade that churns blocks of one length, `made` blocks exist: they are kept or rented. So
many requests for a block failed. -/
structure Churning (trade : Trade) (size made failed : Nat) : Prop where
  uniform : trade.desk.lender.reserve.Uniform size (made + failed)
  rented : ∀ block ∈ trade.rented, block.capacity = size
  everywhere : trade.kept.length + trade.rented.length = made

theorem churning_opened (policy : Policy) (arena : Arena) (size : Nat) :
    (opened policy arena).Churning size 0 0 :=
  ⟨Reserve.uniform_empty policy.budget size, nofun, rfl⟩

theorem take_rent (trade : Trade) (size place : Nat) :
    trade.take ⟨.rent size, place⟩ =
      ⟨((trade.ready place).desk.procure size).2,
        trade.rentedWith ((trade.ready place).desk.procure size).1,
        (.rent size, trade.answer ⟨.rent size, place⟩) :: trade.record⟩ :=
  rfl

theorem reply_rent (trade : Trade) (size place : Nat) :
    trade.answer ⟨.rent size, place⟩ =
      Reply.ofAnswer Reply.block ((trade.ready place).desk.procure size).1 :=
  rfl

theorem take_handIn (trade : Trade) {block : Block} (held : block ∈ trade.rented) (place : Nat) :
    trade.answer ⟨.handIn block, place⟩ = .done ∧
      trade.take ⟨.handIn block, place⟩ =
        ⟨(trade.ready place).desk.restore block, trade.rented.erase block,
          (.handIn block, .done) :: trade.record⟩ := by
  have performed : (trade.ready place).perform (.handIn block) =
      (.done, ⟨(trade.ready place).desk.restore block, trade.rented.erase block, trade.record⟩) :=
    if_pos held
  unfold answer take
  rw [performed]
  exact ⟨rfl, rfl⟩

/-- A block that is not rented cannot be handed in. -/
theorem take_handIn_absent (trade : Trade) {block : Block} (absent : block ∉ trade.rented)
    (place : Nat) :
    trade.answer ⟨.handIn block, place⟩ = .done ∧
      trade.take ⟨.handIn block, place⟩ =
        ⟨(trade.ready place).desk, trade.rented, (.handIn block, .done) :: trade.record⟩ := by
  have performed : (trade.ready place).perform (.handIn block) = (.done, trade.ready place) :=
    if_neg absent
  unfold answer take
  rw [performed]
  exact ⟨rfl, rfl⟩

/-- What one turn does to a churning trade: it makes a block just when more blocks are out than
there were blocks. -/
structure Churned (trade : Trade) (turn : Turn) (size made failed : Nat) : Prop where
  churning : (trade.take turn).Churning size (made + if trade.makes turn then 1 else 0)
    (failed + if trade.fails turn then 1 else 0)
  most : made + (if trade.makes turn then 1 else 0) = max made (trade.take turn).rented.length

theorem makes_of_block {trade : Trade} {turn : Turn} {block : Block}
    (answered : trade.answer turn = .block block) :
    trade.makes turn = decide (trade.issued < block.id) ∧ trade.fails turn = false := by
  unfold makes fails
  rw [answered]
  exact ⟨rfl, rfl⟩

theorem makes_of_failed {trade : Trade} {turn : Turn} {fault : Fault}
    (answered : trade.answer turn = .failed fault) :
    trade.makes turn = false ∧ trade.fails turn = true := by
  unfold makes fails
  rw [answered]
  exact ⟨rfl, rfl⟩

theorem makes_of_done {trade : Trade} {turn : Turn} (answered : trade.answer turn = .done) :
    trade.makes turn = false ∧ trade.fails turn = false := by
  unfold makes fails
  rw [answered]
  exact ⟨rfl, rfl⟩

section Churning

variable {trade : Trade} {size made failed : Nat} (churning : trade.Churning size made failed)

include churning

theorem Churning.rent (custody : trade.Custody) (positive : size ≠ 0) (place : Nat) :
    Churned trade ⟨.rent size, place⟩ size made failed := by
  have everywhere := churning.everywhere
  have outcome := (trade.ready place).desk.procured size
  generalize drawn : (trade.ready place).desk.procure size = result at outcome
  have answered := trade.reply_rent size place
  have after := trade.take_rent size place
  rw [drawn] at answered after
  cases outcome with
  | nothing zero => exact absurd zero positive
  | kept block rest aside _ taken =>
    -- A kept block goes out: the sum of both lists stays as it is.
    have fewer : trade.kept.length = rest.length + 1 :=
      (Reserve.perm_of_takeFirst taken).length_eq
    have member : block ∈ trade.kept := Reserve.mem_of_takeFirst taken
    have kept : (trade.desk.lender.reserve.request size).2.kept = rest :=
      (Reserve.request_of_some taken).2
    obtain ⟨old, succeeds⟩ := makes_of_block answered
    rw [decide_eq_false (Nat.not_lt.mpr (custody.named.issued block ⟨.kept, member⟩))] at old
    refine ⟨?_, ?_⟩ <;> rw [old, after]
    · rw [succeeds]
      refine ⟨churning.uniform.found taken, ?_, ?_⟩
      · exact List.forall_mem_cons.mpr ⟨churning.uniform.exact block member, churning.rented⟩
      · show ((trade.desk.lender.reserve.request size).2.kept).length +
          (trade.rented.length + 1) = made
        rw [kept]
        omega
    · show made + 0 = max made (trade.rented.length + 1)
      omega
  | beyond aside _ missing =>
    have none := churning.uniform.kept_of_missing missing
    have kept : (trade.desk.lender.reserve.request size).2.kept = trade.kept :=
      (Reserve.request_of_none missing).2
    obtain ⟨old, fails⟩ := makes_of_failed answered
    refine ⟨?_, ?_⟩ <;> rw [old, after]
    · rw [fails]
      refine ⟨churning.uniform.missing missing, churning.rented, ?_⟩
      show ((trade.desk.lender.reserve.request size).2.kept).length + trade.rented.length = made
      rw [kept]
      exact everywhere
    · show made + 0 = max made trade.rented.length
      omega
  | fresh aside _ missing short =>
    -- Nothing is kept, so all blocks there are were out already.
    have none : trade.kept = [] := churning.uniform.kept_of_missing missing
    have kept : (trade.desk.lender.reserve.request size).2.kept = trade.kept :=
      (Reserve.request_of_none missing).2
    have length : trade.kept.length = 0 := congrArg List.length none
    obtain ⟨new, succeeds⟩ := makes_of_block answered
    have new := new.trans (decide_eq_true (Nat.lt_succ_self trade.issued))
    refine ⟨?_, ?_⟩ <;> rw [new, after]
    · rw [succeeds]
      have uniform := churning.uniform.missing missing
      rw [Nat.add_right_comm] at uniform
      refine ⟨uniform, ?_, ?_⟩
      · exact List.forall_mem_cons.mpr ⟨rfl, churning.rented⟩
      · show ((trade.desk.lender.reserve.request size).2.kept).length +
          (trade.rented.length + 1) = made + 1
        rw [kept]
        exact congrArg (· + 1) everywhere
    · show made + 1 = max made (trade.rented.length + 1)
      omega

theorem Churning.handIn (positive : size ≠ 0) (block : Block) (place : Nat)
    (blocks : made ≤ trade.desk.lender.reserve.budget.blocks)
    (bytes : made * size ≤ trade.desk.lender.reserve.budget.bytes) :
    Churned trade ⟨.handIn block, place⟩ size made failed := by
  have everywhere := churning.everywhere
  by_cases held : block ∈ trade.rented
  · obtain ⟨answered, after⟩ := trade.take_handIn held place
    obtain ⟨old, succeeds⟩ := makes_of_done answered
    obtain ⟨aside, restored⟩ := (trade.ready place).desk.restore_eq block
    have erased : (trade.rented.erase block).length = trade.rented.length - 1 :=
      List.length_erase_of_mem held
    have some : 0 < trade.rented.length := List.length_pos_of_mem held
    have fewer : trade.kept.length + 1 ≤ made := by omega
    obtain ⟨uniform, length⟩ := churning.uniform.restore (churning.rented block held) positive
      (Nat.le_trans fewer blocks) (Nat.le_trans (Nat.mul_le_mul_right size fewer) bytes)
    have length : (trade.desk.lender.reserve.restore block).2.kept.length =
      trade.kept.length + 1 := length
    refine ⟨?_, ?_⟩ <;> rw [old, after]
    · rw [succeeds, restored]
      refine ⟨uniform, fun other member => churning.rented other (List.mem_of_mem_erase member), ?_⟩
      show (trade.desk.lender.reserve.restore block).2.kept.length +
        (trade.rented.erase block).length = made
      omega
    · show made + 0 = max made (trade.rented.erase block).length
      omega
  · obtain ⟨answered, after⟩ := trade.take_handIn_absent held place
    obtain ⟨old, succeeds⟩ := makes_of_done answered
    refine ⟨?_, ?_⟩ <;> rw [old, after]
    · rw [succeeds]
      exact ⟨churning.uniform, churning.rented, everywhere⟩
    · show made + 0 = max made trade.rented.length
      omega

/-- A request is met by a block of exactly the length, if a block can be so long. -/
theorem Churning.rents (positive : size ≠ 0) (short : size ≤ Word.longestBlock) (place : Nat) :
    ∃ block, trade.answer ⟨.rent size, place⟩ = .block block ∧ block.capacity = size := by
  have outcome := (trade.ready place).desk.procured size
  have answered := trade.reply_rent size place
  generalize (trade.ready place).desk.procure size = result at outcome answered
  cases outcome with
  | nothing zero => exact absurd zero positive
  | kept block _ _ _ taken =>
    exact ⟨block, answered, churning.uniform.exact block (Reserve.mem_of_takeFirst taken)⟩
  | beyond _ _ _ long => exact absurd short (Nat.not_le.mpr long)
  | fresh => exact ⟨_, answered, rfl⟩

theorem Churning.churned (custody : trade.Custody) (positive : size ≠ 0)
    (blocks : made ≤ trade.desk.lender.reserve.budget.blocks)
    (bytes : made * size ≤ trade.desk.lender.reserve.budget.bytes) {turn : Turn}
    (churns : turn.deed.churns size = true) : Churned trade turn size made failed := by
  obtain ⟨deed, place⟩ := turn
  cases deed with
  | rent other => exact beq_iff_eq.mp churns ▸ churning.rent custody positive place
  | handIn block => exact churning.handIn positive block place blocks bytes
  | _ => cases churns

theorem Churning.succeeds (positive : size ≠ 0) (short : size ≤ Word.longestBlock) {turn : Turn}
    (churns : turn.deed.churns size = true) : trade.fails turn = false := by
  obtain ⟨deed, place⟩ := turn
  cases deed with
  | rent other =>
    obtain ⟨block, answered, -⟩ := churning.rents positive short place
    exact (makes_of_block (beq_iff_eq.mp churns ▸ answered)).2
  | handIn block =>
    by_cases held : block ∈ trade.rented
    · exact (makes_of_done (trade.take_handIn held place).1).2
    · exact (makes_of_done (trade.take_handIn_absent held place).1).2
  | _ => cases churns

end Churning

/-! ### Runs of churn -/

/-- A run of churn, and a budget with room for all blocks that are out together at any time. -/
structure Spacious (policy : Policy) (arena : Arena) (size : Nat) (turns : List Turn) : Prop where
  churns : ∀ turn ∈ turns, turn.deed.churns size = true
  blocks : (opened policy arena).mostOut turns ≤ policy.budget.blocks
  bytes : (opened policy arena).mostOut turns * size ≤ policy.budget.bytes

theorem Spacious.of_prefix {policy : Policy} {arena : Arena} {size : Nat} {front turns : List Turn}
    (spacious : Spacious policy arena size turns) (shorter : front <+: turns) :
    Spacious policy arena size front := by
  have less : (opened policy arena).mostOut front ≤ (opened policy arena).mostOut turns :=
    peak_le_of_prefix take _ _ shorter
  exact ⟨fun turn member => spacious.churns turn (shorter.subset member),
    Nat.le_trans less spacious.blocks,
    Nat.le_trans (Nat.mul_le_mul_right size less) spacious.bytes⟩

/-- A block is made just when more blocks are out than ever before. -/
theorem churning_run {policy : Policy} {arena : Arena} {size : Nat} {turns : List Turn}
    (positive : size ≠ 0) (spacious : Spacious policy arena size turns) :
    ((opened policy arena).run turns).Churning size ((opened policy arena).mostOut turns)
        ((opened policy arena).times fails turns) ∧
      (opened policy arena).times makes turns = (opened policy arena).mostOut turns := by
  induction turns using List.reverseRecOn with
  | nil => exact ⟨churning_opened policy arena size, rfl⟩
  | append_singleton front last inductionHypothesis =>
    have earlier := spacious.of_prefix (List.prefix_append front [last])
    obtain ⟨churning, made⟩ := inductionHypothesis earlier
    have custody := (custody_opened policy arena).run front
    have budget := (opened policy arena).budget_run front
    have churned := churning.churned custody positive
      (Nat.le_trans earlier.blocks (Nat.le_of_eq (congrArg Budget.blocks budget).symm))
      (Nat.le_trans earlier.bytes (Nat.le_of_eq (congrArg Budget.bytes budget).symm))
      (spacious.churns last (List.mem_append_right front List.mem_cons_self))
    have most : (opened policy arena).mostOut (front ++ [last]) =
        (opened policy arena).mostOut front +
          if ((opened policy arena).run front).makes last then 1 else 0 :=
      (peak_concat take _ _ front last).trans churned.most.symm
    rw [most, run_concat, times_concat, times_concat, made]
    exact ⟨churned.churning, rfl⟩

theorem fails_run {policy : Policy} {arena : Arena} {size : Nat} {turns : List Turn}
    (positive : size ≠ 0) (short : size ≤ Word.longestBlock)
    (spacious : Spacious policy arena size turns) : (opened policy arena).times fails turns = 0 := by
  induction turns using List.reverseRecOn with
  | nil => rfl
  | append_singleton front last inductionHypothesis =>
    have earlier := spacious.of_prefix (List.prefix_append front [last])
    obtain ⟨churning, -⟩ := churning_run positive earlier
    rw [times_concat, inductionHypothesis earlier, churning.succeeds positive short
      (spacious.churns last (List.mem_append_right front List.mem_cons_self))]
    rfl

/-- How a run of churn has gone. -/
structure Absorbed (policy : Policy) (arena : Arena) (size : Nat) (turns : List Turn) : Prop where
  /-- As many blocks were made as have been out together. -/
  made : (opened policy arena).times makes turns = (opened policy arena).mostOut turns
  /-- All of them are still there. -/
  everywhere : ((opened policy arena).run turns).kept.length +
    ((opened policy arena).run turns).rented.length = (opened policy arena).mostOut turns
  evictions : ((opened policy arena).run turns).desk.lender.reserve.tally.evictions = 0
  /-- The counter of misses shows the blocks that were made and the requests that failed. -/
  misses : ((opened policy arena).run turns).desk.lender.reserve.tally.misses =
    .ofNat ((opened policy arena).mostOut turns + (opened policy arena).times fails turns)
  exact : ∀ block ∈ ((opened policy arena).run turns).kept ++
    ((opened policy arena).run turns).rented, block.capacity = size
  /-- A block of exactly the length is there for whoever asks, and nobody has asked in vain. -/
  served : size ≤ Word.longestBlock →
    (opened policy arena).times fails turns = 0 ∧
      ∀ place, ∃ block, ((opened policy arena).run turns).answer ⟨.rent size, place⟩ =
        .block block ∧ block.capacity = size

/-- Churn is absorbed: at every point of a run of rents and returns, no block has been given up,
and no more blocks have been made than were out together at some time before. -/
theorem absorbed_run {policy : Policy} {arena : Arena} {size : Nat} {turns : List Turn}
    (positive : size ≠ 0) (spacious : Spacious policy arena size turns) :
    ∀ front, front <+: turns → Absorbed policy arena size front := by
  intro front shorter
  have earlier := spacious.of_prefix shorter
  obtain ⟨churning, made⟩ := churning_run positive earlier
  exact {
    made
    everywhere := churning.everywhere
    evictions := churning.uniform.evictions
    misses := churning.uniform.misses
    exact := fun block member =>
      (List.mem_append.mp member).elim (churning.uniform.exact block) (churning.rented block)
    served := fun short =>
      ⟨fails_run positive short earlier, churning.rents positive short⟩ }

/-- Seven turns with two blocks: never are more than two out, and no third one is made. -/
theorem absorbed_two :
    let policy : Policy := ⟨⟨32, 2⟩, .reject⟩
    let arena := Arena.startingAt 4096 16 16
    let first : Block := ⟨1, 4096, 16, true⟩
    let second : Block := ⟨2, 8192, 16, true⟩
    let turns : List Turn := [⟨.rent 16, 4096⟩, ⟨.rent 16, 8192⟩, ⟨.handIn first, 0⟩,
      ⟨.rent 16, 4096⟩, ⟨.handIn second, 0⟩, ⟨.handIn first, 0⟩, ⟨.rent 16, 0⟩]
    Spacious policy arena 16 turns ∧ (opened policy arena).mostOut turns = 2 ∧
      ∀ front, front <+: turns → Absorbed policy arena 16 front := by
  intro policy arena first second turns
  have spacious : Spacious policy arena 16 turns :=
    ⟨by decide, by decide +kernel, by decide +kernel⟩
  exact ⟨spacious, by decide +kernel, absorbed_run (by decide) spacious⟩

end Trade

end MemoryLending
