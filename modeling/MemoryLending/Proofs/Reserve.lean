/-
This file says what the reserve does to the list of its blocks. A request takes one block out
and keeps the order of the others; a block that comes back is appended, and what is given up for
it are the oldest blocks. It also names the three things that can happen to a reserve, so that
what an operation does to it is a list of them.
-/

import MemoryLending.Reserve

namespace MemoryLending

namespace Reserve

/-! ### The kept blocks -/

theorem perm_of_takeFirst {length : Nat} {blocks rest : List Block} {found : Block}
    (taken : takeFirst length blocks = some (found, rest)) : blocks.Perm (found :: rest) := by
  induction blocks generalizing rest with
  | nil => cases taken
  | cons block later inductionHypothesis =>
    unfold takeFirst at taken
    split at taken
    · cases taken
      exact List.Perm.refl _
    · obtain ⟨⟨found', rest'⟩, taken', same⟩ := Option.map_eq_some_iff.mp taken
      cases same
      exact ((inductionHypothesis taken').cons block).trans (List.Perm.swap found block rest')

theorem mem_of_takeFirst {length : Nat} {blocks rest : List Block} {found : Block}
    (taken : takeFirst length blocks = some (found, rest)) : found ∈ blocks :=
  (perm_of_takeFirst taken).mem_iff.mpr List.mem_cons_self

theorem sublist_of_takeFirst {length : Nat} {blocks rest : List Block} {found : Block}
    (taken : takeFirst length blocks = some (found, rest)) : rest.Sublist blocks := by
  induction blocks generalizing rest with
  | nil => cases taken
  | cons block later inductionHypothesis =>
    unfold takeFirst at taken
    split at taken
    · cases taken
      exact List.sublist_cons_self _ _
    · obtain ⟨⟨found', rest'⟩, taken', same⟩ := Option.map_eq_some_iff.mp taken
      cases same
      exact (inductionHypothesis taken').cons_cons block

theorem request_of_some {reserve : Reserve} {length : Nat} {found : Block} {rest : List Block}
    (taken : takeFirst length reserve.kept = some (found, rest)) :
    (reserve.request length).1 = some found ∧ (reserve.request length).2.kept = rest := by
  unfold request
  rw [taken]
  exact ⟨rfl, rfl⟩

theorem request_of_none {reserve : Reserve} {length : Nat}
    (missing : takeFirst length reserve.kept = none) :
    (reserve.request length).1 = none ∧
      (reserve.request length).2.kept = reserve.kept := by
  unfold request
  rw [missing]
  exact ⟨rfl, rfl⟩

theorem kept_request_sublist (reserve : Reserve) (length : Nat) :
    (reserve.request length).2.kept.Sublist reserve.kept := by
  cases taken : takeFirst length reserve.kept with
  | none => exact (request_of_none taken).2 ▸ List.Sublist.refl _
  | some pair => exact (request_of_some taken).2 ▸ sublist_of_takeFirst taken

/-- What is given up are the oldest blocks. -/
theorem shed_suffix (budget : Budget) (kept : List Block) (bytes : Nat) :
    (shed budget kept bytes).1 <:+ kept := by
  induction kept generalizing bytes with
  | nil => exact List.suffix_refl []
  | cons oldest later inductionHypothesis =>
    unfold shed
    split
    · exact (inductionHypothesis _).trans (List.suffix_cons oldest later)
    · exact List.suffix_refl _

theorem restore_of_empty (reserve : Reserve) {block : Block} (empty : block.capacity = 0) :
    (reserve.restore block).2 = reserve := by
  simp [restore, empty]

theorem kept_restore_sublist (reserve : Reserve) (block : Block) :
    (reserve.restore block).2.kept.Sublist (reserve.kept ++ [block]) := by
  unfold restore
  split
  · exact List.sublist_append_left _ _
  · split
    · exact List.sublist_append_left _ _
    · exact (shed_suffix reserve.budget _ _).sublist

end Reserve

/-! ### The traffic with a reserve -/

/-- What can happen to a reserve. -/
inductive Traffic where
  | request (length : Nat)
  | restore (block : Block)
  | clear
  deriving DecidableEq, Repr

/-- The reserve after one thing has happened to it. -/
def Reserve.pass (reserve : Reserve) : Traffic → Reserve
  | .request length => (reserve.request length).2
  | .restore block => (reserve.restore block).2
  | .clear => reserve.clear.2

/-- The reserve after one thing after another has happened to it. -/
def Reserve.passAll (reserve : Reserve) (traffic : List Traffic) : Reserve :=
  traffic.foldl Reserve.pass reserve

theorem Reserve.passAll_append (reserve : Reserve) (first second : List Traffic) :
    reserve.passAll (first ++ second) = (reserve.passAll first).passAll second :=
  List.foldl_append

/-- What letting go of a block for good does to a reserve. -/
def Block.retirement (block : Block) : List Traffic :=
  if block.pooled then [.restore block] else []

end MemoryLending
