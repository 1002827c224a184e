/-
This file adds addresses up. Four sums are taken on trust when memory is lent and read: the end of
a loan in the book, the end of a new one, the address of a view, and the bytes of all loans
together. Each of them is a machine word as soon as every block ends before the last address, which
is all that is asked of the heap. The bytes of the loans need more than that, since there may be
any number of them: the loans stand one before the other, so together they are no longer than the
range from the first base to the end of the last one.
-/

import MemoryLending.Proofs.Bounds
import MemoryLending.Proofs.Neighbours
import MemoryLending.Proofs.Refusals
import MemoryLending.Proofs.Sweeping

namespace MemoryLending

namespace LoanBook

/-! ### The bytes on loan -/

theorem Sound.base_le {book : LoanBook} (sound : book.Sound) {first loan : Loan}
    (head : book.toList.head? = some first) (member : loan ∈ book.toList) :
    first.base ≤ loan.base := by
  have apart := sound.apart
  obtain ⟨rest, here⟩ := List.head?_eq_some_iff.mp head
  rw [here] at apart member
  rcases List.mem_cons.mp member with rfl | later
  · exact Nat.le_refl _
  · exact Nat.le_of_lt ((List.pairwise_cons.mp apart).1 loan later).1

theorem Sound.end_le {book : LoanBook} (sound : book.Sound) {loan last : Loan}
    (final : book.toList.getLast? = some last) (member : loan ∈ book.toList) :
    loan.base + loan.length ≤ last.base + last.length := by
  have apart := sound.apart
  obtain ⟨front, here⟩ := List.getLast?_eq_some_iff.mp final
  rw [here] at apart member
  rcases List.mem_append.mp member with earlier | isLast
  · have before := (List.pairwise_append.mp apart).2.2 loan earlier last List.mem_cons_self
    exact Nat.le_trans before.2 (Nat.le_add_right _ _)
  · exact List.mem_singleton.mp isLast ▸ Nat.le_refl _

/-- From the first base to the end of the last loan there is room for all loans together. -/
theorem Sound.span {book : LoanBook} (sound : book.Sound) {first last : Loan}
    (head : book.toList.head? = some first) (final : book.toList.getLast? = some last) :
    first.base + (book.toList.map Loan.length).sum ≤ last.base + last.length := by
  have range := sound.base_le head (List.mem_of_getLast? final)
  exact sum_length_le sound.apart _ _ (fun _ member => sound.base_le head member)
    (fun _ member => sound.end_le final member) (Nat.le_trans range (Nat.le_add_right _ _))

/-- A loan that ends at a machine word is refused, if it is, for a conflict. -/
theorem Sound.refused_of_enter {book : LoanBook} (sound : book.Sound) {loan : Loan} {fault : Fault}
    (failed : book.enter loan = .error fault) (fits : loan.base + loan.length < Word.limit) :
    ∃ violation, fault = .refused violation := by
  have denied := denied_of_checkRoom (checkRoom_of_enter_error failed)
  rcases sound.conflict_of_denied fits denied with ⟨rfl, -⟩ | ⟨live, -, -, rfl⟩
  · exact ⟨_, rfl⟩
  · exact ⟨_, rfl⟩

end LoanBook

namespace Action

/-! ### The report of a sweep -/

/-- A sweep that has come to the loans reports their number and their bytes. -/
theorem requireNoLoans_of_sound {lender : Nat} {office : Office}
    (sound : (office.lender lender).loans.Sound) (left : (office.lender lender).loans.count ≠ 0) :
    requireNoLoans lender office =
      (.error (.refused (.outstanding (office.lender lender).loans.count)),
        { office with
          journal := .loansOutlived (office.lender lender).loans.count
            ((office.lender lender).loans.toList.map Loan.length).sum :: office.journal }) := by
  have read : readDesk lender (·.lender.loans) office =
      (.ok (office.lender lender).loans, office) := rfl
  unfold requireNoLoans
  rw [run_bind_of_ok read, if_pos left, LoanBook.bytes?_eq sound]
  rfl

/-- How a sweep ends: as the wrappers end it, or with what the book of the lender has left. -/
structure Totals (lender : Nat) (office : Office) : Prop where
  /-- Nothing is added up when the wrappers do not let the sweep come to the loans. -/
  stopped : ∀ fault mid, retiring lender office = (.error fault, mid) →
    sweep lender office = (.error fault, mid)
  cleared : ∀ counts mid, retiring lender office = (.ok counts, mid) →
    (mid.lender lender).loans.toList = [] →
      (sweep lender office).1 = .ok ⟨counts.1, counts.2⟩
  /-- The loans that are left are reported with their number and their bytes. -/
  reported : ∀ counts mid, retiring lender office = (.ok counts, mid) →
    (mid.lender lender).loans.toList ≠ [] →
      sweep lender office =
        (.error (.refused (.outstanding (mid.lender lender).loans.count)),
          { mid with
            journal := .loansOutlived (mid.lender lender).loans.count
              ((mid.lender lender).loans.toList.map Loan.length).sum :: mid.journal })

theorem totals {lender : Nat} {office : Office} (sound : (office.lender lender).loans.Sound) :
    Totals lender office where
  stopped fault mid stopped := by rw [sweep_eq, run_bind_of_error stopped]
  cleared counts mid done clear := by
    have outcome := swept done
    generalize sweep lender office = result at outcome
    cases outcome with
    | cleared => rfl
    | outstanding _ left | beyond left => exact absurd clear left
  reported counts mid done left := by
    have fewer : (mid.lender lender).loans.toList.Sublist (office.lender lender).loans.toList := by
      have returns := retiring_returns lender office
      rw [done] at returns
      exact returns lender
    have sound' : (mid.lender lender).loans.Sound :=
      ⟨sound.apart.sublist fewer, fun loan member => sound.bounded loan (fewer.subset member)⟩
    have some : (mid.lender lender).loans.count ≠ 0 := mt List.length_eq_zero_iff.mp left
    rw [sweep_eq, run_bind_of_ok done, run_bind_of_error (requireNoLoans_of_sound sound' some)]

end Action

theorem Reply.error_of_failed {Answer : Type} {carry : Answer → Reply}
    {outcome : Except Fault Answer} {fault : Fault}
    (failed : Reply.ofAnswer carry outcome = .failed fault)
    (carries : ∀ answer, carry answer ≠ .failed fault) : outcome = .error fault := by
  cases outcome with
  | ok answer => exact absurd failed (carries answer)
  | error other =>
    cases failed
    rfl

theorem refused_of_mapError {Answer : Type} {outcome : Except Violation Answer} {fault : Fault}
    (failed : outcome.mapError Fault.refused = .error fault) :
    ∃ violation, fault = .refused violation := by
  cases outcome with
  | ok answer => cases failed
  | error violation =>
    cases failed
    exact ⟨violation, rfl⟩

namespace Trade

/-! ### The sums of a trade -/

/-- The block for a new loan ends before the last address, be it a kept or a fresh one. -/
theorem Accounted.end_of_blockFor {trade : Trade} (accounted : trade.Accounted)
    {size place : Nat} (fits : Turn.Fits ⟨.lend size, place⟩) {block : Block} {after : Desk}
    (drawn : (trade.ready place).desk.blockFor size = (.ok block, after)) :
    block.address + size < Word.limit := by
  unfold Desk.blockFor at drawn
  by_cases zero : size = 0
  · subst zero
    rw [if_pos rfl] at drawn
    cases drawn
    exact Nat.lt_of_le_of_lt (Nat.le_succ _) (fits (show 1 ≤ Word.longestBlock by decide))
  · rw [if_neg zero] at drawn
    have outcome := (trade.ready place).desk.procured size
    rw [drawn] at outcome
    cases outcome with
    | nothing none => exact absurd none zero
    | kept block rest aside _ taken =>
      have held : trade.Holds block := ⟨.kept, Reserve.mem_of_takeFirst taken⟩
      have long := Reserve.le_capacity_of_takeFirst taken
      exact Nat.lt_of_le_of_lt (Nat.add_le_add_left long _) (accounted.fits block held)
    | fresh aside _ _ short =>
      have fresh : (Deed.lend size).freshLength = size := if_neg zero
      rw [Turn.Fits, fresh] at fits
      exact fits short

theorem Accounted.fault_of_lend {trade : Trade} (accounted : trade.Accounted) {size place : Nat}
    (fits : Turn.Fits ⟨.lend size, place⟩) {fault : Fault}
    (failed : ((trade.ready place).desk.lend size).1 = .error fault) :
    (∃ violation, fault = .refused violation) ∨ fault = .panicked .capacityOverflow := by
  have books := Desk.overlooks_books.blockFor (trade.ready place).desk size
  have outcome := (trade.ready place).desk.lending size
  generalize (trade.ready place).desk.lend size = result at outcome failed
  cases outcome with
  | failed fault' after drawn =>
    cases failed
    refine Or.inr ?_
    unfold Desk.blockFor at drawn
    split at drawn
    · cases drawn
    · exact (Desk.missed_of_procure drawn).1
  | refused fault' block after aside drawn conflict =>
    cases failed
    rw [drawn] at books
    have same : after.lender.loans = trade.desk.lender.loans := (Desk.of_books books).1
    rw [same] at conflict
    exact Or.inl (accounted.sound.refused_of_enter conflict (accounted.end_of_blockFor fits drawn))
  | granted => cases failed

/-- A deed is refused or wants more bytes than a block can have: none ever fails because a sum
leaves the machine word. -/
theorem Accounted.fault_of_answer {trade : Trade} (accounted : trade.Accounted) {turn : Turn}
    (fits : turn.Fits) {fault : Fault} (failed : trade.answer turn = .failed fault) :
    (∃ violation, fault = .refused violation) ∨ fault = .panicked .capacityOverflow := by
  obtain ⟨deed, place⟩ := turn
  have foiled : ∀ {size : Nat} {after : Desk},
      Desk.Foiled (trade.ready place).desk size fault after →
        (∃ violation, fault = .refused violation) ∨ fault = .panicked .capacityOverflow := by
    rintro size after (⟨violation⟩ | _)
    · exact Or.inl ⟨violation, rfl⟩
    · exact Or.inr rfl
  cases deed with
  | rent size =>
    have error := Reply.error_of_failed failed nofun
    exact Or.inr (Desk.missed_of_procure (Prod.ext error rfl)).1
  | lend size => exact accounted.fault_of_lend fits (Reply.error_of_failed failed nofun)
  | reclaim address token | giveBack address =>
    exact Or.inl (refused_of_mapError (Reply.error_of_failed failed nofun))
  | share address size =>
    exact foiled (Desk.foiled_share (Prod.ext (Reply.error_of_failed failed nofun) rfl))
  | takeLease address size =>
    exact foiled (Desk.foiled_takeLease (Prod.ext (Reply.error_of_failed failed nofun) rfl))
  | reach address size =>
    exact foiled (Desk.foiled_reach (Prod.ext (Reply.error_of_failed failed nofun) rfl))
  | handIn block =>
    have done : trade.answer ⟨.handIn block, place⟩ = .done := by
      unfold answer perform
      dsimp only
      split <;> rfl
    cases done.symm.trans failed
  | _ => cases failed

/-- A view begins and ends inside its block. -/
theorem address_of_view {trade : Trade} (bounds : trade.Bounds) (accounted : trade.Accounted)
    {view : View} (opened : view ∈ trade.views) :
    view.address? = some (view.base + view.offset) := by
  obtain ⟨debt, -, part⟩ := bounds.views view opened
  have within := accounted.fits view.block ⟨.pinned, Or.inr ⟨view, opened, rfl⟩⟩
  have inside := Nat.le_trans (Nat.le_add_right _ _) part.le_capacity
  exact Word.add?_of_lt (Nat.lt_of_le_of_lt (Nat.add_le_add_left inside _) within)

/-- A range in a loan is seen at the address that was asked for. -/
theorem Accounted.address_of_opened {trade : Trade} (accounted : trade.Accounted)
    {address size place : Nat} {view : View}
    (seen : trade.answer ⟨.openView address size, place⟩ = .view (some view)) :
    view.address? = some address := by
  have opened : ((trade.ready place).desk.openView address size).1 = some view :=
    Reply.view.inj seen
  unfold Desk.openView at opened
  split at opened
  · rename_i loan offset found
    cases opened
    obtain ⟨member, rfl, inside, -⟩ := (LoanBook.find?_eq_some_iff accounted.sound).mp found
    have ends := accounted.sound.bounded loan member
    exact Word.add?_of_lt (Nat.lt_trans (Nat.add_lt_add_left inside loan.base) ends)
  · cases opened

/-- The sums over addresses in a trade, and in whatever is asked of it next. -/
structure Sums (trade : Trade) : Prop where
  ends : ∀ loan ∈ trade.loans, Word.add? loan.base loan.length = some (loan.base + loan.length)
  /-- The end of a block that is about to be entered into the book. -/
  lends : ∀ size place, Turn.Fits ⟨.lend size, place⟩ →
    ∀ block, ((trade.ready place).desk.blockFor size).1 = .ok block →
      Word.add? block.address size = some (block.address + size)
  failures : ∀ turn, turn.Fits → ∀ fault, trade.answer turn = .failed fault →
    (∃ violation, fault = .refused violation) ∨ fault = .panicked .capacityOverflow
  views : ∀ view ∈ trade.views, view.address? = some (view.base + view.offset)
  opened : ∀ address size place view,
    trade.answer ⟨.openView address size, place⟩ = .view (some view) →
      view.address? = some address
  total : trade.desk.lender.loans.bytes? = some (trade.loans.map Loan.length).sum
  /-- These are the bytes that native code has to return. -/
  owed : (trade.loans.map Loan.length).sum = (trade.record.debts.map Debt.length).sum
  span : ∀ first last, trade.loans.head? = some first → trade.loans.getLast? = some last →
    first.base + (trade.loans.map Loan.length).sum ≤ last.base + last.length
  /-- A sweep reports the exact total, whatever else there is in the office of the lender. -/
  swept : ∀ (office : Office) (lender : Nat),
    (office.lender lender).loans = trade.desk.lender.loans → Action.Totals lender office

/-- In every run over a heap that places no block past the last address, no sum over addresses
leaves the machine word. -/
theorem sums_run (policy : Policy) (arena : Arena) (turns : List Turn)
    (fits : ∀ turn ∈ turns, turn.Fits) : ((opened policy arena).run turns).Sums := by
  have accounted := accounted_run policy arena turns fits
  have bounds := bounds_run policy arena turns
  generalize (opened policy arena).run turns = trade at accounted bounds
  have sound := accounted.sound
  exact {
    ends := fun loan member => Word.add?_of_lt (sound.bounded loan member)
    lends := fun size place allowed block answered =>
      Word.add?_of_lt (accounted.end_of_blockFor allowed (Prod.ext answered rfl))
    failures := fun turn allowed fault => accounted.fault_of_answer allowed
    views := fun view => address_of_view bounds accounted
    opened := fun address size place view => accounted.address_of_opened
    total := LoanBook.bytes?_eq sound
    owed := by
      rw [← (accounted.balanced.map Debt.length).sum_nat, List.map_map]
      rfl
    span := fun first last => sound.span
    swept := fun office lender same => Action.totals (same ▸ sound) }

/-- Four loans, the first at address zero and the last up to the greatest address; one that ran into
another was refused, and a view has outlived its loan. -/
theorem sums_of_four :
    let turns : List Turn := [⟨.lend 8, 4096⟩, ⟨.lend 0, 4104⟩, ⟨.lend 16, 4112⟩, ⟨.lend 4, 4100⟩,
      ⟨.openView 4100 4, 0⟩, ⟨.reclaim 4096 ⟨1⟩, 0⟩, ⟨.lend 5, 0⟩, ⟨.lend 7, Word.limit - 8⟩]
    let trade := (opened Policy.standard (Arena.startingAt 0 16 16)).run turns
    (∀ turn ∈ turns, turn.Fits) ∧ trade.Sums ∧ trade.loans.map Loan.length = [5, 0, 16, 7] ∧
      trade.views.map View.address? = [some 4100] ∧ trade.desk.lender.loans.bytes? = some 28 := by
  intro turns trade
  have fits : ∀ turn ∈ turns, turn.Fits := by decide
  have sums : trade.Sums := sums_run Policy.standard (Arena.startingAt 0 16 16) turns fits
  have lengths : trade.loans.map Loan.length = [5, 0, 16, 7] := by decide +kernel
  refine ⟨fits, sums, lengths, by decide +kernel, ?_⟩
  rw [sums.total, lengths]
  rfl

end Trade

end MemoryLending
