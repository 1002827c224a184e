/-
This file shows that looking at two neighbours is looking at the whole book. A new loan is in
conflict with a live one if both begin at one address or if one of them begins strictly inside the
other. An entry examines the loan below the new one and the loan above it and no others, and still,
in every book that has come about by entries and strikes, it goes through exactly if there is no
conflict anywhere, and what it reports otherwise is a conflict that is really there.
-/

import MemoryLending.Proofs.LoanBook

namespace MemoryLending

namespace Loan

/-- A live loan is in the way of a new one. Loans that only touch are not in conflict, and a loan
of no bytes is in conflict with one that it stands strictly inside. -/
def Conflicts (live new : Loan) : Prop :=
  live.base = new.base ∨ (live.base < new.base ∧ new.base < live.base + live.length) ∨
    (new.base < live.base ∧ live.base < new.base + new.length)

theorem not_conflicts_iff {live new : Loan} :
    ¬live.Conflicts new ↔ live.Precedes new ∨ new.Precedes live := by
  unfold Conflicts Precedes
  omega

end Loan

namespace LoanBook

/-! ### Books that come about -/

/-- One thing that happens to a book. -/
inductive Change where
  | enter (loan : Loan)
  | strike (base : Nat)
  deriving DecidableEq, Repr

/-- The book after one thing has happened to it. A loan that is refused is not entered. -/
def change (book : LoanBook) : Change → LoanBook
  | .enter loan =>
    match book.enter loan with
    | .ok entered => entered
    | .error _ => book
  | .strike base => book.strike base

/-- The book after one thing after another has happened to an empty one. -/
def history (changes : List Change) : LoanBook := changes.foldl change empty

theorem change_of_ok {book entered : LoanBook} {loan : Loan}
    (accepted : book.enter loan = .ok entered) : book.change (.enter loan) = entered := by
  unfold change
  dsimp only
  rw [accepted]

theorem change_of_error {book : LoanBook} {loan : Loan} {fault : Fault}
    (failed : book.enter loan = .error fault) : book.change (.enter loan) = book := by
  unfold change
  dsimp only
  rw [failed]

theorem Sound.change {book : LoanBook} (sound : book.Sound) {change : Change}
    (fits : ∀ loan, change = .enter loan → loan.base + loan.length < Word.limit) :
    (book.change change).Sound := by
  cases change with
  | enter loan =>
    rcases entered : book.enter loan with fault | after
    · rw [change_of_error entered]
      exact sound
    · rw [change_of_ok entered]
      exact sound.enter (fits loan rfl) entered
  | strike base => exact sound.strike base

theorem sound_history {changes : List Change}
    (fits : ∀ loan, Change.enter loan ∈ changes → loan.base + loan.length < Word.limit) :
    (history changes).Sound := by
  have sound := sound_empty
  unfold history
  generalize empty = book at sound ⊢
  induction changes generalizing book with
  | nil => exact sound
  | cons first rest inductionHypothesis =>
    refine inductionHypothesis (fun loan member => fits loan (List.mem_cons_of_mem _ member))
      _ (sound.change fun loan same => fits loan ?_)
    exact same ▸ List.mem_cons_self

/-! ### What a refusal reports -/

/-- A loan that ends at a machine word is only ever refused for running past a bound. -/
theorem refused_of_checkEnd {loan : Loan} {bound : Nat} {violation : Violation} {fault : Fault}
    (fits : loan.base + loan.length < Word.limit)
    (failed : checkEnd loan bound violation = .error fault) :
    fault = .refused violation ∧ bound < loan.base + loan.length := by
  unfold checkEnd at failed
  rw [Word.add?_of_lt fits] at failed
  dsimp only at failed
  split at failed
  · rename_i past
    cases failed
    exact ⟨rfl, past⟩
  · cases failed

/-! ### Neighbours stand for all -/

/-- What entering a loan comes to, said of the whole book. -/
structure Entering (book : LoanBook) (loan : Loan) : Prop where
  /-- A loan is entered exactly if no live one is in its way. -/
  admitted : (∃ entered, book.enter loan = .ok entered) ↔
    ∀ live ∈ book.toList, ¬live.Conflicts loan
  /-- Then the book has gained that loan, and is in the order of the bases. -/
  gained : ∀ entered, book.enter loan = .ok entered →
    book.change (.enter loan) = entered ∧ entered.toList.Perm (loan :: book.toList) ∧
      entered.Ordered
  /-- Otherwise the book is what it was. -/
  kept : ∀ fault, book.enter loan = .error fault → book.change (.enter loan) = book
  /-- A duplicate is reported exactly if a live loan has the base. -/
  duplicate : book.enter loan = .error (.refused (.duplicate loan.base)) ↔
    ∃ live ∈ book.toList, live.base = loan.base
  /-- Any other report names a live loan that is in the way. -/
  overlap : ∀ fault, book.enter loan = .error fault →
    fault ≠ .refused (.duplicate loan.base) →
      ∃ live ∈ book.toList, live.Conflicts loan ∧
        fault = .refused (.overlap loan.base loan.length live.base)

variable {book : LoanBook} {loan : Loan}

theorem enter_eq_ok_iff : (∃ entered, book.enter loan = .ok entered) ↔
    book.checkRoom loan = .ok () :=
  ⟨fun ⟨_, accepted⟩ => checkRoom_of_enter accepted, exists_enter⟩

theorem enter_of_at? {live : Loan} (found : book.at? loan.base = some live) :
    book.enter loan = .error (.refused (.duplicate loan.base)) := by
  unfold enter checkRoom
  rw [found]
  rfl

variable (sound : book.Sound) (fits : loan.base + loan.length < Word.limit)

include sound fits

theorem Sound.conflict_of_denied {fault : Fault} (denied : book.Denied loan fault) :
    (fault = .refused (.duplicate loan.base) ∧ ∃ live ∈ book.toList, live.base = loan.base) ∨
      ∃ live ∈ book.toList, live.Conflicts loan ∧
        fault = .refused (.overlap loan.base loan.length live.base) := by
  obtain ⟨lower, upper, parts, place, below, above⟩ := book.exists_split sound.ordered loan.base
  cases denied with
  | duplicate live found =>
    exact Or.inl ⟨rfl, live, (at?_eq_some_iff sound.ordered).mp found⟩
  | below neighbour fault vacant found failed =>
    rw [below?_of_split parts place] at found
    have inLower := List.mem_of_getLast? found
    have member : neighbour ∈ book.toList := parts ▸ List.mem_append_left upper inLower
    obtain ⟨rfl, past⟩ := refused_of_checkEnd (sound.bounded neighbour member) failed
    exact Or.inr ⟨neighbour, member, Or.inr (Or.inl ⟨below neighbour inLower, past⟩), rfl⟩
  | above neighbour fault vacant found failed =>
    rw [above?_of_split parts place] at found
    have inUpper := List.mem_of_head? found
    have member : neighbour ∈ book.toList := parts ▸ List.mem_append_right lower inUpper
    obtain ⟨rfl, past⟩ := refused_of_checkEnd fits failed
    have different := (at?_eq_none_iff sound.ordered).mp vacant neighbour member
    have later := Nat.lt_of_le_of_ne (above neighbour inUpper) (Ne.symm different)
    exact Or.inr ⟨neighbour, member, Or.inr (Or.inr ⟨later, past⟩), rfl⟩

theorem Sound.entering : book.Entering loan where
  admitted := by
    rw [enter_eq_ok_iff, checkRoom_eq_ok_iff_apart sound fits]
    exact forall₂_congr fun live _ => Loan.not_conflicts_iff.symm
  gained entered accepted :=
    ⟨change_of_ok accepted, perm_of_enter accepted, (sound.enter fits accepted).ordered⟩
  kept fault failed := change_of_error failed
  duplicate := by
    constructor
    · intro failed
      have denied := denied_of_checkRoom (checkRoom_of_enter_error failed)
      rcases sound.conflict_of_denied fits denied with ⟨-, live⟩ | ⟨_, _, _, other⟩
      · exact live
      · cases other
    · rintro ⟨live, member, same⟩
      exact enter_of_at? ((at?_eq_some_iff sound.ordered).mpr ⟨member, same⟩)
  overlap fault failed other := by
    have denied := denied_of_checkRoom (checkRoom_of_enter_error failed)
    exact (sound.conflict_of_denied fits denied).resolve_left fun duplicate =>
      other duplicate.1

omit sound

/-- In every book that has come about by entries and strikes, entering a loan comes to what the
conflicts with all live loans say. -/
theorem entering_history {changes : List Change}
    (bounded : ∀ loan, Change.enter loan ∈ changes → loan.base + loan.length < Word.limit) :
    (history changes).Entering loan :=
  (sound_history bounded).entering fits

omit fits

/-- A loan of no bytes stands behind a long one, and the new one begins where the long one ends:
the long loan below it is not in the way, the one of no bytes strictly inside it is. -/
theorem entering_history_between :
    let live (token : UInt64) (address length : Nat) : Loan :=
      ⟨⟨token⟩, ⟨token.toNat, address, 64, true⟩, length⟩
    let changes : List Change :=
      [.enter (live 1 4096 64), .enter (live 2 4164 0), .enter (live 3 4128 8),
        .enter (live 4 4352 16), .strike 4352]
    let new := live 5 4160 16
    (∀ loan, Change.enter loan ∈ changes → loan.base + loan.length < Word.limit) ∧
      new.base + new.length < Word.limit ∧ (history changes).Entering new ∧
        (history changes).toList = [live 1 4096 64, live 2 4164 0] ∧
          (history changes).enter new = .error (.refused (.overlap 4160 16 4164)) := by
  intro live changes new
  have bounded : ∀ loan, Change.enter loan ∈ changes →
      loan.base + loan.length < Word.limit := by
    intro loan member
    simp only [changes, List.mem_cons, Change.enter.injEq, reduceCtorEq, List.not_mem_nil,
      or_false] at member
    rcases member with rfl | rfl | rfl | rfl <;> decide
  have fits : new.base + new.length < Word.limit := by decide
  refine ⟨bounded, fits, entering_history fits bounded, by decide +kernel, ?_⟩
  have answer : (history changes).checkRoom new = .error (.refused (.overlap 4160 16 4164)) := by
    decide +kernel
  unfold enter
  rw [answer]

end LoanBook

end MemoryLending
