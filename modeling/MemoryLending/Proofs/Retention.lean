/-
This file compares a reserve with the list of its blocks. The reserve keeps a count of bytes of
its own, takes blocks out of the middle of the list and gives the oldest ones up in a loop. The
list model knows none of that: a request takes the first block that is long enough, and a block
that comes back leaves the longest end of the list that is within the budget. In every trade the
two agree, the count is the exact total, and its machine arithmetic never leaves the machine word,
since a block that no budget has room for is turned away before the loop.
-/

import MemoryLending.Proofs.Safekeeping

namespace MemoryLending

/-- The difference, if the second number is not greater. -/
def Word.sub? (left right : Nat) : Option Nat :=
  if right ≤ left then some (left - right) else none

theorem Word.sub?_of_le {left right : Nat} (fits : right ≤ left) :
    Word.sub? left right = some (left - right) :=
  if_pos fits

namespace Block

/-- The total length of blocks. -/
def total (blocks : List Block) : Nat := (blocks.map Block.capacity).sum

theorem total_nil : total [] = 0 := rfl

theorem total_cons (block : Block) (blocks : List Block) :
    total (block :: blocks) = block.capacity + total blocks :=
  List.sum_cons

theorem total_concat (blocks : List Block) (block : Block) :
    total (blocks ++ [block]) = total blocks + block.capacity := by
  simp [total]

theorem total_of_perm {first second : List Block} (perm : first.Perm second) :
    total first = total second :=
  (perm.map Block.capacity).sum_nat

end Block

/-! ### The longest end of a list -/

namespace Budget

/-- Whether blocks are within a budget. -/
structure Admits (budget : Budget) (blocks : List Block) : Prop where
  bytes : Block.total blocks ≤ budget.bytes
  blocks : blocks.length ≤ budget.blocks

/-- A list is the longest end of another one that is within the budget. -/
structure LongestEnd (budget : Budget) (blocks chosen : List Block) : Prop where
  suffix : chosen <:+ blocks
  admitted : budget.Admits chosen
  longest : ∀ other, other <:+ blocks → budget.Admits other → other.length ≤ chosen.length

variable {budget : Budget}

theorem LongestEnd.refl {blocks : List Block} (admitted : budget.Admits blocks) :
    budget.LongestEnd blocks blocks :=
  ⟨List.suffix_refl _, admitted, fun _ suffix _ => suffix.length_le⟩

theorem LongestEnd.cons {oldest : Block} {later chosen : List Block}
    (beyond : ¬budget.Admits (oldest :: later)) (chooses : budget.LongestEnd later chosen) :
    budget.LongestEnd (oldest :: later) chosen where
  suffix := chooses.suffix.trans (List.suffix_cons oldest later)
  admitted := chooses.admitted
  longest other suffix admitted := by
    rcases List.suffix_cons_iff.mp suffix with rfl | shorter
    · exact absurd admitted beyond
    · exact chooses.longest other shorter admitted

/-- A last block that is within the budget by itself is in the longest end. -/
theorem LongestEnd.mem {kept chosen : List Block} {block : Block}
    (chooses : budget.LongestEnd (kept ++ [block]) chosen) (alone : budget.Admits [block]) :
    block ∈ chosen := by
  have long := chooses.longest [block] (List.suffix_append kept [block]) alone
  rcases List.suffix_concat_iff.mp chooses.suffix with rfl | ⟨front, rfl, -⟩
  · cases long
  · exact List.mem_append_right front List.mem_cons_self

end Budget

namespace Reserve

/-- Giving up the oldest blocks leaves the longest end that is within the budget. -/
theorem longestEnd_shed (budget : Budget) (kept : List Block) :
    budget.LongestEnd kept (shed budget kept (Block.total kept)).1 ∧
      (shed budget kept (Block.total kept)).2.1 =
        Block.total (shed budget kept (Block.total kept)).1 := by
  induction kept with
  | nil => exact ⟨.refl ⟨Nat.zero_le _, Nat.zero_le _⟩, rfl⟩
  | cons oldest later inductionHypothesis =>
    unfold shed
    split
    · rename_i beyond
      rw [Block.total_cons, Nat.add_sub_cancel_left]
      refine ⟨inductionHypothesis.1.cons fun admitted => ?_, inductionHypothesis.2⟩
      have bytes := admitted.bytes
      have blocks := admitted.blocks
      omega
    · rename_i within
      refine ⟨.refl ⟨?_, ?_⟩, rfl⟩ <;> omega

/-- What a reserve says of its blocks is true: it counts their bytes, they are within the budget,
and none of them is without bytes. -/
structure Balanced (reserve : Reserve) : Prop where
  bytes : reserve.bytes = Block.total reserve.kept
  admitted : reserve.budget.Admits reserve.kept
  solid : ∀ block ∈ reserve.kept, block.capacity ≠ 0

theorem balanced_empty (budget : Budget) : (empty budget).Balanced :=
  ⟨rfl, ⟨Nat.zero_le _, Nat.zero_le _⟩, nofun⟩

/-- The first block that is long enough is taken out, and the others stay in their order. -/
theorem takeFirst_eq (length : Nat) (blocks : List Block) :
    takeFirst length blocks =
      (blocks.find? (length ≤ ·.capacity)).map fun block =>
        (block, blocks.eraseP (length ≤ ·.capacity)) := by
  induction blocks with
  | nil => rfl
  | cons block later inductionHypothesis =>
    unfold takeFirst
    by_cases long : length ≤ block.capacity
    · simp [long]
    · simp [long, inductionHypothesis]
      rfl

/-! ### What comes back -/

/-- What becomes of the list of blocks when a block comes back. -/
structure Comeback (budget : Budget) (kept : List Block) (block : Block) (after : List Block) :
    Prop where
  empty : block.capacity = 0 → after = kept
  rejected : budget.bytes < block.capacity ∨ budget.blocks = 0 → after = kept
  accepted : block.capacity ≠ 0 → block.capacity ≤ budget.bytes → budget.blocks ≠ 0 →
    budget.LongestEnd (kept ++ [block]) after ∧ block ∈ after

theorem rejects_iff {reserve : Reserve} {block : Block} :
    reserve.rejects block = true ↔
      reserve.budget.bytes < block.capacity ∨ reserve.budget.blocks = 0 := by
  simp [rejects]

variable {reserve : Reserve} (balanced : reserve.Balanced)

theorem restore_of_rejected {block : Block} (rejected : reserve.rejects block = true) :
    (reserve.restore block).2.kept = reserve.kept ∧
      (reserve.restore block).2.bytes = reserve.bytes := by
  unfold restore
  split
  · exact ⟨rfl, rfl⟩
  · exact ⟨rfl, rfl⟩

theorem budget_restore (reserve : Reserve) (block : Block) :
    (reserve.restore block).2.budget = reserve.budget := by
  unfold restore
  split
  · rfl
  · split <;> rfl

theorem budget_request (reserve : Reserve) (length : Nat) :
    (reserve.request length).2.budget = reserve.budget := by
  unfold request
  dsimp only
  split <;> rfl

theorem budget_passAll (reserve : Reserve) (traffic : List Traffic) :
    (reserve.passAll traffic).budget = reserve.budget := by
  induction traffic generalizing reserve with
  | nil => rfl
  | cons action rest inductionHypothesis =>
    refine (inductionHypothesis (reserve.pass action)).trans ?_
    cases action with
    | request length => exact reserve.budget_request length
    | restore block => exact reserve.budget_restore block
    | clear => rfl

include balanced

/-- An accepted block leaves the longest end of the list that the budget admits. -/
theorem Balanced.restore_of_accepted {block : Block} (solid : block.capacity ≠ 0)
    (accepted : reserve.rejects block = false) :
    reserve.budget.LongestEnd (reserve.kept ++ [block]) (reserve.restore block).2.kept ∧
      (reserve.restore block).2.bytes = Block.total (reserve.restore block).2.kept := by
  have chosen := longestEnd_shed reserve.budget (reserve.kept ++ [block])
  rw [Block.total_concat, ← balanced.bytes] at chosen
  unfold restore
  rw [if_neg solid, accepted, if_neg Bool.false_ne_true]
  exact chosen

theorem Balanced.comeback (block : Block) :
    Comeback reserve.budget reserve.kept block (reserve.restore block).2.kept where
  empty none := congrArg kept (reserve.restore_of_empty none)
  rejected beyond := (restore_of_rejected (rejects_iff.mpr beyond)).1
  accepted solid short some := by
    have accepted : reserve.rejects block = false := by
      refine Bool.eq_false_iff.mpr fun rejected => ?_
      rcases rejects_iff.mp rejected with long | none
      · omega
      · exact some none
    have chooses := (balanced.restore_of_accepted solid accepted).1
    refine ⟨chooses, chooses.mem ⟨?_, ?_⟩⟩
    · rw [Block.total_cons, Block.total_nil]
      exact short
    · exact Nat.pos_of_ne_zero some

theorem Balanced.restore (block : Block) : (reserve.restore block).2.Balanced := by
  by_cases solid : block.capacity = 0
  · rw [reserve.restore_of_empty solid]
    exact balanced
  by_cases rejected : reserve.rejects block = true
  · obtain ⟨kept, bytes⟩ := restore_of_rejected rejected
    refine ⟨?_, ?_, ?_⟩
    · rw [kept, bytes]
      exact balanced.bytes
    · rw [kept, budget_restore]
      exact balanced.admitted
    · rw [kept]
      exact balanced.solid
  · obtain ⟨chooses, bytes⟩ :=
      balanced.restore_of_accepted solid (Bool.eq_false_iff.mpr rejected)
    refine ⟨bytes, ?_, fun other member => ?_⟩
    · rw [budget_restore]
      exact chooses.admitted
    · rcases List.mem_append.mp (chooses.suffix.subset member) with older | last
      · exact balanced.solid other older
      · exact List.mem_singleton.mp last ▸ solid

theorem Balanced.request (length : Nat) : (reserve.request length).2.Balanced := by
  cases taken : takeFirst length reserve.kept with
  | none =>
    unfold Reserve.request
    rw [taken]
    exact ⟨balanced.bytes, balanced.admitted, balanced.solid⟩
  | some pair =>
    obtain ⟨block, rest⟩ := pair
    have total := Block.total_of_perm (perm_of_takeFirst taken)
    have fewer := sublist_of_takeFirst taken
    rw [Block.total_cons] at total
    have bytes := balanced.bytes
    have admitted := balanced.admitted.bytes
    unfold Reserve.request
    rw [taken]
    refine ⟨?_, ⟨?_, ?_⟩, fun other member => balanced.solid other (fewer.subset member)⟩
    · show reserve.bytes - block.capacity = Block.total rest
      omega
    · show Block.total rest ≤ reserve.budget.bytes
      omega
    · exact Nat.le_trans fewer.length_le balanced.admitted.blocks

theorem Balanced.passAll (traffic : List Traffic) : (reserve.passAll traffic).Balanced := by
  induction traffic generalizing reserve with
  | nil => exact balanced
  | cons action rest inductionHypothesis =>
    refine inductionHypothesis ?_
    cases action with
    | request length => exact balanced.request length
    | restore block => exact balanced.restore block
    | clear => exact ⟨rfl, ⟨Nat.zero_le _, Nat.zero_le _⟩, nofun⟩

/-! ### The arithmetic of the machine -/

omit balanced

/-- As `request`, on a machine that stops at a difference below zero. -/
def request? (reserve : Reserve) (length : Nat) : Option (Option Block × Reserve) :=
  let tally := { reserve.tally with requests := reserve.tally.requests + 1 }
  match takeFirst length reserve.kept with
  | some (block, kept) => do
    let bytes ← Word.sub? reserve.bytes block.capacity
    return (some block,
      { reserve with kept, bytes, tally := { tally with hits := tally.hits + 1 } })
  | none =>
    some (none, { reserve with tally := { tally with misses := tally.misses + 1 } })

/-- As `shed`, on a machine that stops at a difference below zero and at the removal of a block
where there is none. -/
def shed? (budget : Budget) : (kept : List Block) → (bytes : Nat) →
    Option (List Block × Nat × Nat)
  | [], bytes => if budget.bytes < bytes then none else some ([], bytes, 0)
  | oldest :: later, bytes =>
    if budget.bytes < bytes ∨ budget.blocks < (oldest :: later).length then do
      let rest ← Word.sub? bytes oldest.capacity
      let (left, total, count) ← shed? budget later rest
      return (left, total, count + 1)
    else some (oldest :: later, bytes, 0)

/-- As `restore`, on a machine that stops at a sum that is no machine word, too. -/
def restore? (reserve : Reserve) (block : Block) : Option (Nat × Reserve) :=
  if block.capacity = 0 then some (0, reserve)
  else
    let tally := { reserve.tally with returns := reserve.tally.returns + 1 }
    if reserve.rejects block then
      some (0, { reserve with tally := { tally with evictions := tally.evictions + 1 } })
    else do
      let bytes ← Word.add? reserve.bytes block.capacity
      let (kept, bytes, count) ← shed? reserve.budget (reserve.kept ++ [block]) bytes
      return (count,
        { reserve with
          kept
          bytes
          tally := { tally with evictions := tally.evictions + UInt64.ofNat count } })

theorem shed?_eq (budget : Budget) (kept : List Block) :
    shed? budget kept (Block.total kept) = some (shed budget kept (Block.total kept)) := by
  induction kept with
  | nil => exact if_neg (Nat.not_lt_zero _)
  | cons oldest later inductionHypothesis =>
    have fits : oldest.capacity ≤ Block.total (oldest :: later) :=
      Block.total_cons oldest later ▸ Nat.le_add_right _ _
    unfold shed? shed
    split
    · rw [Word.sub?_of_le fits, Block.total_cons, Nat.add_sub_cancel_left]
      dsimp only [bind, Option.bind]
      rw [inductionHypothesis]
      rfl
    · rfl

include balanced

/-- No difference of a request is below zero. -/
theorem Balanced.request?_eq (length : Nat) :
    reserve.request? length = some (reserve.request length) := by
  unfold request? Reserve.request
  cases taken : takeFirst length reserve.kept with
  | none => rfl
  | some pair =>
    obtain ⟨block, rest⟩ := pair
    have total := Block.total_of_perm (perm_of_takeFirst taken)
    rw [Block.total_cons] at total
    have fits : block.capacity ≤ reserve.bytes := by
      have := balanced.bytes
      omega
    dsimp only
    rw [Word.sub?_of_le fits]
    rfl

/-- As long as the block that comes back and the kept ones are no longer than the machine word
together, no sum is too great, no difference below zero, and no block missing. -/
theorem Balanced.restore?_eq {block : Block}
    (bounded : Block.total reserve.kept + block.capacity < Word.limit) :
    reserve.restore? block = some (reserve.restore block) := by
  unfold restore? Reserve.restore
  split
  · rfl
  split
  · rfl
  · rw [balanced.bytes, Word.add?_of_lt bounded]
    dsimp only [bind, Option.bind]
    rw [← Block.total_concat, shed?_eq]
    rfl

end Reserve

namespace Desk

/-! ### Requests -/

variable {desk : Desk} {size : Nat}

theorem procure_of_found {block : Block} (positive : size ≠ 0)
    (found : desk.lender.reserve.kept.find? (size ≤ ·.capacity) = some block) :
    (desk.procure size).1 = .ok block ∧
      (desk.procure size).2.lender.reserve.kept =
        desk.lender.reserve.kept.eraseP (size ≤ ·.capacity) := by
  have taken := Reserve.takeFirst_eq size desk.lender.reserve.kept
  rw [found] at taken
  have outcome := desk.procured size
  generalize desk.procure size = result at outcome
  cases outcome with
  | nothing zero => exact absurd zero positive
  | kept _ _ aside _ taken' =>
    cases taken'.symm.trans taken
    exact ⟨rfl, (Reserve.request_of_some taken).2⟩
  | beyond aside _ missing => cases missing.symm.trans taken
  | fresh aside _ missing => cases missing.symm.trans taken

theorem procure_of_missing (positive : size ≠ 0)
    (missing : desk.lender.reserve.kept.find? (size ≤ ·.capacity) = none) :
    (desk.procure size).1 =
        (if Word.longestBlock < size then .error (.panicked .capacityOverflow)
        else .ok (desk.arena.nextBlock size true)) ∧
      (desk.procure size).2.lender.reserve.kept = desk.lender.reserve.kept := by
  have taken := Reserve.takeFirst_eq size desk.lender.reserve.kept
  rw [missing] at taken
  have kept := (Reserve.request_of_none taken).2
  have outcome := desk.procured size
  generalize desk.procure size = result at outcome
  cases outcome with
  | nothing zero => exact absurd zero positive
  | kept _ _ aside _ taken' => cases taken'.symm.trans taken
  | beyond aside _ _ long => exact ⟨(if_pos long).symm, kept⟩
  | fresh aside _ _ short => exact ⟨(if_neg (Nat.not_lt.mpr short)).symm, kept⟩

theorem kept_restore (desk : Desk) (block : Block) :
    (desk.restore block).lender.reserve.kept = (desk.lender.reserve.restore block).2.kept := by
  unfold restore
  dsimp only
  split <;> rfl

end Desk

namespace Trade

/-! ### Trades -/

/-- How the reserve of a trade answers, against the list of its blocks. -/
structure Shelved (trade : Trade) (budget : Budget) : Prop where
  limits : trade.desk.lender.reserve.budget = budget
  balanced : trade.desk.lender.reserve.Balanced
  /-- A request for no bytes gets the block without bytes and changes nothing. -/
  nothing : ∀ place,
    trade.answer ⟨.rent 0, place⟩ = .block Block.empty ∧
      (trade.take ⟨.rent 0, place⟩).desk.lender = trade.desk.lender
  /-- The block that came back first among those that are long enough is taken out. -/
  found : ∀ size place block, size ≠ 0 →
    trade.kept.find? (size ≤ ·.capacity) = some block →
      trade.answer ⟨.rent size, place⟩ = .block block ∧
        (trade.take ⟨.rent size, place⟩).kept = trade.kept.eraseP (size ≤ ·.capacity)
  /-- If there is none, a block of exactly the length is made. -/
  fresh : ∀ size place, size ≠ 0 → size ≤ Word.longestBlock →
    trade.kept.find? (size ≤ ·.capacity) = none →
      ∃ block, trade.answer ⟨.rent size, place⟩ = .block block ∧ block.capacity = size ∧
        (∀ other, trade.Holds other → other.id ≠ block.id) ∧
          (trade.take ⟨.rent size, place⟩).kept = trade.kept
  /-- If no block can be so long, the request fails, and the list stays as it is. -/
  beyond : ∀ size place, Word.longestBlock < size →
    trade.kept.find? (size ≤ ·.capacity) = none →
      trade.answer ⟨.rent size, place⟩ = .failed (.panicked .capacityOverflow) ∧
        (trade.take ⟨.rent size, place⟩).kept = trade.kept
  /-- A rented block comes back. -/
  handedIn : ∀ block place, block ∈ trade.rented →
    Reserve.Comeback budget trade.kept block
      (trade.take ⟨.handIn block, place⟩).kept
  /-- A block comes back that was never rented. -/
  donated : ∀ size place, size ≤ Word.longestBlock →
    ∃ block, block.capacity = size ∧
      Reserve.Comeback budget trade.kept block
        (trade.take ⟨.donate size, place⟩).kept
  cleared : ∀ place, (trade.take ⟨.clear, place⟩).kept = []
  /-- No difference is below zero when a block is taken out. -/
  taken : ∀ size, trade.desk.lender.reserve.request? size =
    some (trade.desk.lender.reserve.request size)
  /-- No sum leaves the machine word, no difference is below zero and no block is missing when a
  block comes back, as long as it and the kept ones are no longer than the machine word. -/
  restored : ∀ block, Block.total trade.kept + block.capacity < Word.limit →
    trade.desk.lender.reserve.restore? block =
      some (trade.desk.lender.reserve.restore block)

/-- What a reserve says of its blocks is true in every trade. -/
theorem balanced_run {trade : Trade} (balanced : trade.desk.lender.reserve.Balanced)
    (turns : List Turn) : (trade.run turns).desk.lender.reserve.Balanced := by
  induction turns generalizing trade with
  | nil => exact balanced
  | cons turn rest inductionHypothesis =>
    have passed := balanced.passAll (trade.asked turn ++ trade.back turn)
    exact inductionHypothesis (trade.reserve_take turn ▸ passed)

theorem budget_run (trade : Trade) (turns : List Turn) :
    (trade.run turns).desk.lender.reserve.budget = trade.desk.lender.reserve.budget := by
  induction turns generalizing trade with
  | nil => rfl
  | cons turn rest inductionHypothesis =>
    refine (inductionHypothesis (trade.take turn)).trans ?_
    rw [trade.reserve_take turn, Reserve.budget_passAll]

theorem shelved {trade : Trade} (custody : trade.Custody)
    (balanced : trade.desk.lender.reserve.Balanced) :
    trade.Shelved trade.desk.lender.reserve.budget where
  limits := rfl
  balanced := balanced
  nothing place := ⟨rfl, rfl⟩
  found size place block positive found := by
    have procured := @Desk.procure_of_found (trade.ready place).desk size block positive found
    exact ⟨congrArg (Reply.ofAnswer Reply.block) procured.1, procured.2⟩
  fresh size place positive short missing := by
    have procured := @Desk.procure_of_missing (trade.ready place).desk size positive missing
    rw [if_neg (Nat.not_lt.mpr short)] at procured
    refine ⟨_, congrArg (Reply.ofAnswer Reply.block) procured.1, rfl, fun other holds same => ?_,
      procured.2⟩
    have issued : other.id ≤ trade.issued := custody.named.issued other holds
    rw [same] at issued
    exact Nat.not_succ_le_self _ issued
  beyond size place long missing := by
    have positive : size ≠ 0 := Nat.ne_of_gt (Nat.zero_lt_of_lt long)
    have procured := @Desk.procure_of_missing (trade.ready place).desk size positive missing
    rw [if_pos long] at procured
    exact ⟨congrArg (Reply.ofAnswer Reply.block) procured.1, procured.2⟩
  handedIn block place held := by
    have kept : (trade.take ⟨.handIn block, place⟩).kept =
        (trade.desk.lender.reserve.restore block).2.kept := by
      have done : ((trade.ready place).perform (.handIn block)).2.kept =
          ((trade.ready place).desk.restore block).lender.reserve.kept := by
        unfold perform
        dsimp only
        rw [if_pos (show block ∈ (trade.ready place).rented from held)]
        rfl
      exact done.trans (Desk.kept_restore _ block)
    exact kept ▸ balanced.comeback block
  donated size place short := by
    by_cases none : size = 0
    · subst none
      refine ⟨Block.empty, rfl, ?_⟩
      have kept : (trade.take ⟨.donate 0, place⟩).kept =
          (trade.desk.lender.reserve.restore Block.empty).2.kept :=
        Desk.kept_restore (trade.ready place).desk Block.empty
      exact kept ▸ balanced.comeback Block.empty
    · refine ⟨(trade.ready place).desk.arena.nextBlock size true, rfl, ?_⟩
      have kept : (trade.take ⟨.donate size, place⟩).kept =
          (trade.desk.lender.reserve.restore
            ((trade.ready place).desk.arena.nextBlock size true)).2.kept := by
        have done : ((trade.ready place).donate size).kept = (Desk.restore
            { (trade.ready place).desk with
              arena := (trade.ready place).desk.arena.place size }
            ((trade.ready place).desk.arena.nextBlock size true)).lender.reserve.kept := by
          unfold donate
          rw [if_neg none, if_neg (Nat.not_lt.mpr short)]
          rfl
        exact done.trans (Desk.kept_restore _ _)
      exact kept ▸ balanced.comeback _
  cleared place := rfl
  taken size := balanced.request?_eq size
  restored block bounded := balanced.restore?_eq bounded

/-- In every trade the reserve answers as the list of its blocks says, whatever the budget. -/
theorem shelved_run (policy : Policy) (arena : Arena) (turns : List Turn) :
    ((opened policy arena).run turns).Shelved policy.budget := by
  have balanced := @balanced_run (opened policy arena) (Reserve.balanced_empty policy.budget) turns
  have custody := (custody_opened policy arena).run turns
  have shelved := shelved custody balanced
  rw [budget_run] at shelved
  exact shelved

/-- A request for more bytes than a block can have is not met by a fresh block, although all
blocks there are, and the one asked for, would be no longer than the machine word together. -/
theorem rent_beyond :
    let trade := opened Policy.standard (Arena.startingAt 4096 16 16)
    let size := 2 ^ 63
    size < Word.limit ∧ trade.kept ++ trade.rented = [] ∧
      trade.kept.find? (size ≤ ·.capacity) = none ∧
        ¬∃ block, trade.answer ⟨.rent size, 4096⟩ = .block block ∧ block.capacity = size := by
  intro trade size
  have answer : trade.answer ⟨.rent size, 4096⟩ = .failed (.panicked .capacityOverflow) := by
    decide +kernel
  refine ⟨by decide, rfl, rfl, ?_⟩
  rintro ⟨block, answered, -⟩
  cases answer.symm.trans answered

end Trade

end MemoryLending
