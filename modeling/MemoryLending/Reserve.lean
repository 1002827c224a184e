/-
This file keeps blocks between two uses. Large blocks are costly to allocate and to clear, so a
block that comes back is kept for the next request it is long enough for. The reserve keeps
only what it is given, oldest first, and within a budget of bytes and of blocks: when a block
comes back, the oldest ones are given up until the rest fits. A block that is longer than the
whole budget of bytes is given up at once. Five counters say how well the reserve does.
-/

import MemoryLending.Arena

namespace MemoryLending

/-- The most a reserve keeps. -/
structure Budget where
  bytes : Nat
  blocks : Nat
  deriving DecidableEq, Repr

/-- The counters of a reserve; they count in machine words. -/
structure Tally where
  /-- Requests for at least one byte. -/
  requests : UInt64
  /-- Requests met by a kept block. -/
  hits : UInt64
  /-- Requests that needed a fresh block. -/
  misses : UInt64
  /-- Blocks that came back. -/
  returns : UInt64
  /-- Blocks given up to stay within the budget. -/
  evictions : UInt64
  deriving DecidableEq, Repr

/-- All counters at zero. -/
def Tally.zero : Tally := ⟨0, 0, 0, 0, 0⟩

/-- The kept blocks, the oldest first, with their total length. -/
structure Reserve where
  budget : Budget
  kept : List Block
  bytes : Nat
  tally : Tally
  deriving Repr

namespace Reserve

/-- A reserve that keeps nothing yet. -/
def empty (budget : Budget) : Reserve := ⟨budget, [], 0, Tally.zero⟩

/-- Takes the first block of at least `length` bytes out of a list. -/
def takeFirst (length : Nat) : List Block → Option (Block × List Block)
  | [] => none
  | block :: later =>
    if length ≤ block.capacity then some (block, later)
    else (takeFirst length later).map fun (found, rest) => (found, block :: rest)

/-- Asks for a block of at least `length` bytes, where `length` is not zero. Without an answer
the request has to be met by a fresh block. -/
def request (reserve : Reserve) (length : Nat) : Option Block × Reserve :=
  let tally := { reserve.tally with requests := reserve.tally.requests + 1 }
  match takeFirst length reserve.kept with
  | some (block, kept) =>
    (some block,
      { reserve with
        kept
        bytes := reserve.bytes - block.capacity
        tally := { tally with hits := tally.hits + 1 } })
  | none => (none, { reserve with tally := { tally with misses := tally.misses + 1 } })

/-- Gives up the oldest blocks until the rest is within the budget: what is left, its length,
and the number of blocks given up. -/
def shed (budget : Budget) : (kept : List Block) → (bytes : Nat) → List Block × Nat × Nat
  | [], bytes => ([], bytes, 0)
  | oldest :: later, bytes =>
    if budget.bytes < bytes ∨ budget.blocks < (oldest :: later).length then
      let (left, total, count) := shed budget later (bytes - oldest.capacity)
      (left, total, count + 1)
    else (oldest :: later, bytes, 0)

/-- Whether a block is given up at once, because no budget has room for it. -/
def rejects (reserve : Reserve) (block : Block) : Bool :=
  reserve.budget.bytes < block.capacity || reserve.budget.blocks == 0

/-- Gives a block back. The answer is the number of kept blocks that had to go for it. A block
without bytes counts for nothing. -/
def restore (reserve : Reserve) (block : Block) : Nat × Reserve :=
  if block.capacity = 0 then (0, reserve)
  else
    let tally := { reserve.tally with returns := reserve.tally.returns + 1 }
    if reserve.rejects block then
      (0, { reserve with tally := { tally with evictions := tally.evictions + 1 } })
    else
      let (kept, bytes, count) :=
        shed reserve.budget (reserve.kept ++ [block]) (reserve.bytes + block.capacity)
      (count,
        { reserve with
          kept
          bytes
          tally := { tally with evictions := tally.evictions + UInt64.ofNat count } })

/-- Gives up every kept block. The answer is their number. -/
def clear (reserve : Reserve) : Nat × Reserve :=
  (reserve.kept.length, { reserve with kept := [], bytes := 0 })

/-- The number of kept blocks. -/
def count (reserve : Reserve) : Nat := reserve.kept.length

theorem le_capacity_of_takeFirst {length : Nat} {blocks rest : List Block} {found : Block}
    (taken : takeFirst length blocks = some (found, rest)) : length ≤ found.capacity := by
  induction blocks generalizing rest with
  | nil => simp [takeFirst] at taken
  | cons block later inductionHypothesis =>
    unfold takeFirst at taken
    split at taken
    case isTrue fits =>
      simp only [Option.some.injEq, Prod.mk.injEq] at taken
      exact taken.1 ▸ fits
    case isFalse =>
      simp only [Option.map_eq_some_iff, Prod.exists, Prod.mk.injEq] at taken
      obtain ⟨block', rest', taken', rfl, -⟩ := taken
      exact inductionHypothesis taken'

end Reserve

end MemoryLending
