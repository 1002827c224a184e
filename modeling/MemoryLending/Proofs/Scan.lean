/-
This file shows that looking up a range in the book is a scan of the debts. A range lies in a
debt when it begins inside it and ends at its end at the latest, both reckoned without bounds.
In every run at most one debt contains a range, and a view is opened exactly if there is one:
then it is the view of that debt, although bisection has looked at one loan only.
-/

import MemoryLending.Proofs.Ledger

namespace MemoryLending

/-- Whether a range lies in what native code was given. -/
def Debt.contains (debt : Debt) (address size : Nat) : Bool :=
  debt.base ≤ address && address < debt.base + debt.length &&
    address - debt.base + size ≤ debt.length

theorem Debt.contains_iff {debt : Debt} {address size : Nat} :
    debt.contains address size = true ↔
      debt.base ≤ address ∧ address < debt.base + debt.length ∧
        address - debt.base + size ≤ debt.length := by
  simp [contains, and_assoc]

/-- What a reader sees of a view: the token, the base, the offset, the length, and the address
of the first byte. -/
def View.face (view : View) : Token × Nat × Nat × Nat × Option Nat :=
  (view.token, view.base, view.offset, view.length, view.address?)

/-- The view of a range in a debt, as a reader sees it. -/
def Debt.face (debt : Debt) (address size : Nat) : Token × Nat × Nat × Nat × Option Nat :=
  (debt.token, debt.base, address - debt.base, size, some address)

theorem Loan.address?_ofLoan (loan : Loan) {address size : Nat}
    (fits : loan.base + loan.length < Word.limit)
    (inside : loan.debt.contains address size = true) :
    (View.ofLoan loan (address - loan.base) size).address? = some address := by
  obtain ⟨begins, ends, -⟩ := Debt.contains_iff.mp inside
  have here : loan.base + (address - loan.base) = address := Nat.add_sub_cancel' begins
  refine (Word.add?_of_lt ?_).trans (congrArg some here)
  exact here.symm ▸ Nat.lt_trans ends fits

namespace LoanBook

theorem contains_of_find? {book : LoanBook} (sound : book.Sound) {address size offset : Nat}
    {loan : Loan} (found : book.find? address size = some (loan, offset)) :
    loan ∈ book.toList ∧ loan.debt.contains address size = true ∧
      offset = address - loan.base := by
  obtain ⟨member, rfl, inside, fits⟩ := (find?_eq_some_iff sound).mp found
  refine ⟨member, Debt.contains_iff.mpr ⟨Nat.le_add_right _ _, ?_, ?_⟩, ?_⟩
  · exact Nat.add_lt_add_left inside _
  · show loan.base + offset - loan.base + size ≤ loan.length
    rwa [Nat.add_sub_cancel_left]
  · rw [Nat.add_sub_cancel_left]

theorem find?_of_contains {book : LoanBook} (sound : book.Sound) {address size : Nat}
    {loan : Loan} (member : loan ∈ book.toList)
    (inside : loan.debt.contains address size = true) :
    book.find? address size = some (loan, address - loan.base) := by
  obtain ⟨begins, ends, fits⟩ := Debt.contains_iff.mp inside
  refine (find?_eq_some_iff sound).mpr ⟨member, Nat.add_sub_cancel' begins, ?_, fits⟩
  exact Nat.sub_lt_left_of_lt_add begins ends

theorem eq_of_contains {book : LoanBook} (sound : book.Sound) {address size : Nat}
    {first second : Loan} (memberFirst : first ∈ book.toList)
    (memberSecond : second ∈ book.toList)
    (insideFirst : first.debt.contains address size = true)
    (insideSecond : second.debt.contains address size = true) : first = second := by
  have found := find?_of_contains sound memberFirst insideFirst
  rw [find?_of_contains sound memberSecond insideSecond] at found
  exact (congrArg Prod.fst (Option.some.inj found)).symm

end LoanBook

namespace Trade

/-- At most one debt contains a range. -/
theorem Accounted.eq_of_contains {trade : Trade} (accounted : trade.Accounted)
    {address size : Nat} {first second : Debt} (memberFirst : first ∈ trade.record.debts)
    (memberSecond : second ∈ trade.record.debts)
    (insideFirst : first.contains address size = true)
    (insideSecond : second.contains address size = true) : first = second := by
  obtain ⟨loan, inBook, rfl⟩ := accounted.exists_loan memberFirst
  obtain ⟨other, otherInBook, rfl⟩ := accounted.exists_loan memberSecond
  rw [LoanBook.eq_of_contains accounted.sound inBook otherInBook insideFirst insideSecond]

/-- The lookup in the book is the scan of the debts. -/
theorem Accounted.find?_scan {trade : Trade} (accounted : trade.Accounted) (address size : Nat) :
    (trade.desk.lender.loans.find? address size).map (fun found => found.1.debt) =
      trade.record.debts.find? (·.contains address size) := by
  cases scanned : trade.record.debts.find? (·.contains address size) with
  | some debt =>
    have inside := List.find?_some scanned
    obtain ⟨loan, inBook, rfl⟩ := accounted.exists_loan (List.mem_of_find?_eq_some scanned)
    rw [LoanBook.find?_of_contains accounted.sound inBook inside]
    rfl
  | none =>
    rw [Option.map_eq_none_iff, Option.eq_none_iff_forall_ne_some]
    rintro ⟨loan, offset⟩ found
    obtain ⟨inBook, inside, -⟩ := LoanBook.contains_of_find? accounted.sound found
    have member := accounted.balanced.mem_iff.mp (List.mem_map_of_mem inBook)
    exact List.find?_eq_none.mp scanned loan.debt member inside

/-- In every run a view of a range is what a scan of the debts says: there is one exactly if
some debt contains the range, and then it is the view of the only one that does. -/
theorem openView_scans (policy : Policy) (arena : Arena) (turns : List Turn)
    (fits : ∀ turn ∈ turns, turn.Fits) (address size : Nat) :
    let trade := (opened policy arena).run turns
    (trade.desk.openView address size).1.map View.face =
        (trade.record.debts.find? (·.contains address size)).map (·.face address size) ∧
      (∀ first ∈ trade.record.debts, ∀ second ∈ trade.record.debts,
        first.contains address size = true → second.contains address size = true →
          first = second) ∧
      trade.desk.lender.owns address size = trade.record.debts.any (·.contains address size) := by
  have accounted := accounted_run policy arena turns fits
  generalize (opened policy arena).run turns = trade at accounted
  have scan := accounted.find?_scan address size
  refine ⟨?_, fun first memberFirst second memberSecond =>
    accounted.eq_of_contains memberFirst memberSecond, ?_⟩
  · rw [← scan]
    unfold Desk.openView
    cases found : trade.desk.lender.loans.find? address size with
    | none => rfl
    | some pair =>
      obtain ⟨loan, offset⟩ := pair
      obtain ⟨inBook, inside, rfl⟩ := LoanBook.contains_of_find? accounted.sound found
      have place := loan.address?_ofLoan (accounted.sound.bounded loan inBook) inside
      show some (loan.token, loan.base, address - loan.base, size, _) = some (loan.debt.face _ _)
      rw [place]
      rfl
  · have owned := congrArg Option.isSome scan
    rw [Option.isSome_map, List.isSome_find?] at owned
    exact owned

/-- Two loans meet at an address. A range across it lies in neither, and a range before it lies
in the first one. -/
theorem openView_scans_neighbours :
    let turns : List Turn := [⟨.lend 16, 4096⟩, ⟨.lend 16, 4112⟩]
    let trade := (opened Policy.standard (Arena.startingAt 0 16 16)).run turns
    (∀ turn ∈ turns, turn.Fits) ∧ (trade.desk.openView 4104 16).1 = none ∧
      (trade.desk.openView 4104 8).1.map View.face = some (⟨1⟩, 4096, 8, 8, some 4104) := by
  intro turns trade
  have fits : ∀ turn ∈ turns, turn.Fits := by decide
  have across := (openView_scans Policy.standard (Arena.startingAt 0 16 16) turns fits 4104 16).1
  have before := (openView_scans Policy.standard (Arena.startingAt 0 16 16) turns fits 4104 8).1
  refine ⟨fits, Option.map_eq_none_iff.mp (across.trans ?_), before.trans ?_⟩
  · decide +kernel
  · decide +kernel

end Trade

end MemoryLending
