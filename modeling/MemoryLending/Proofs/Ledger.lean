/-
This file shows that the book of loans is what the record says it should be. Only lending and
taking back touch the book, and in every run the loans are the debts that the record has not
settled: none is lost, none is doubled, and a failed deed leaves none behind. Tokens count the
loans asked for, so no token goes out twice, and what is returned with a stale pair is refused
even if its address has been lent again.
-/

import MemoryLending.Proofs.Places
import MemoryLending.Proofs.Readings

namespace MemoryLending

theorem Deed.lend_or_reclaim_or_other (deed : Deed) :
    (∃ size, deed = .lend size) ∨ (∃ address token, deed = .reclaim address token) ∨
      deed.isLend = false ∧ ∀ address token, deed ≠ .reclaim address token := by
  cases deed with
  | lend size => exact Or.inl ⟨size, rfl⟩
  | reclaim address token => exact Or.inr (Or.inl ⟨address, token, rfl⟩)
  | _ => exact Or.inr (Or.inr ⟨rfl, nofun⟩)

/-! ### The record -/

namespace Record

/-- A deed that neither lends nor takes back settles nothing. -/
theorem settle_of_other {deed : Deed} (noLend : deed.isLend = false)
    (noReclaim : ∀ address token, deed ≠ .reclaim address token) (reply : Reply)
    (debts : List Debt) : settle (deed, reply) debts = debts := by
  cases deed with
  | lend size => cases noLend
  | reclaim address token => exact absurd rfl (noReclaim address token)
  | _ => rfl

theorem debts_cons (entry : Deed × Reply) (record : Record) :
    debts (entry :: record) = settle entry record.debts := rfl

/-- How often a loan was asked for. -/
def lends (record : Record) : Nat := record.countP (·.1.isLend)

theorem granted_append (later earlier : Record) :
    granted (later ++ earlier) = later.granted ++ earlier.granted :=
  List.filterMap_append

theorem granted_cons (entry : Deed × Reply) (record : Record) :
    granted (entry :: record) = granted [entry] ++ record.granted :=
  granted_append [entry] record

theorem granted_of_other {deed : Deed} (noLend : deed.isLend = false) (reply : Reply)
    (record : Record) : granted ((deed, reply) :: record) = record.granted := by
  rw [granted_cons]
  cases deed with
  | lend size => cases noLend
  | _ => rfl

theorem settle_sublist (entry : Deed × Reply) (debts : List Debt) :
    (settle entry debts).Sublist (granted [entry] ++ debts) := by
  unfold settle
  split
  · exact List.Sublist.refl _
  · exact List.filter_sublist
  · exact List.sublist_append_right _ _

theorem debts_sublist_granted (record : Record) : record.debts.Sublist record.granted := by
  induction record with
  | nil => exact List.Sublist.refl _
  | cons entry rest inductionHypothesis =>
    rw [debts_cons, granted_cons]
    exact (settle_sublist entry (debts rest)).trans (inductionHypothesis.append_left _)

theorem owed_cons {entry : Deed × Reply} {record : Record} {address : Nat} {token : Token} :
    Owed (entry :: record) address token ↔
      (∃ size, entry = (.lend size, .loan address token)) ∨
        entry ≠ (.reclaim address token, .done) ∧ record.Owed address token := by
  constructor
  · rintro ⟨later, size, earlier, parts, untouched⟩
    cases later with
    | nil => exact Or.inl ⟨size, (List.cons.inj parts).1⟩
    | cons head rest =>
      obtain ⟨rfl, rfl⟩ := List.cons.inj parts
      refine Or.inr
        ⟨fun same => untouched (same ▸ List.mem_cons_self), rest, size, earlier, rfl, ?_⟩
      exact fun member => untouched (List.mem_cons_of_mem _ member)
  · rintro (⟨size, rfl⟩ | ⟨other, later, size, earlier, rfl, untouched⟩)
    · exact ⟨[], size, record, rfl, List.not_mem_nil⟩
    · refine ⟨entry :: later, size, earlier, rfl, fun member => ?_⟩
      rcases List.mem_cons.mp member with same | inLater
      · exact other same.symm
      · exact untouched inLater

theorem mem_settle_iff {entry : Deed × Reply} {debts : List Debt} {debt : Debt} :
    debt ∈ settle entry debts ↔
      entry = (.lend debt.length, .loan debt.base debt.token) ∨
        entry ≠ (.reclaim debt.base debt.token, .done) ∧ debt ∈ debts := by
  obtain ⟨base, length, token⟩ := debt
  unfold settle
  split
  · rw [List.mem_cons]
    refine or_congr ⟨fun same => ?_, fun same => ?_⟩ ⟨fun older => ⟨nofun, older⟩, And.right⟩
    · cases same
      rfl
    · cases same
      rfl
  · rw [List.mem_filter]
    constructor
    · rintro ⟨older, kept⟩
      refine Or.inr ⟨fun same => ?_, older⟩
      cases same
      simp at kept
    · rintro (same | ⟨different, older⟩)
      · cases same
      · refine ⟨older, ?_⟩
        rw [Bool.not_eq_true', ← Bool.not_eq_true, Bool.and_eq_true, beq_iff_eq, beq_iff_eq]
        rintro ⟨rfl, rfl⟩
        exact different rfl
  · rename_i noLoan noReturn
    constructor
    · exact fun older => Or.inr ⟨noReturn base token, older⟩
    · exact fun outcome => (outcome.resolve_left (noLoan length base token)).2

/-- The debts are what is owed. -/
theorem mem_debts_iff_owed {record : Record} {address : Nat} {token : Token} :
    (∃ length, ⟨address, length, token⟩ ∈ record.debts) ↔ record.Owed address token := by
  induction record with
  | nil =>
    constructor
    · rintro ⟨length, member⟩
      cases member
    · rintro ⟨later, size, earlier, parts, -⟩
      exact absurd parts.symm (List.append_ne_nil_of_right_ne_nil _ (List.cons_ne_nil _ _))
  | cons entry rest inductionHypothesis =>
    rw [owed_cons, ← inductionHypothesis, debts_cons]
    simp only [mem_settle_iff, exists_or, exists_and_left]

theorem token_mem_of_owed {record : Record} {address : Nat} {token : Token}
    (owed : record.Owed address token) : token ∈ record.granted.map Debt.token := by
  obtain ⟨length, member⟩ := mem_debts_iff_owed.mpr owed
  exact List.mem_map.mpr ⟨_, record.debts_sublist_granted.subset member, rfl⟩

/-- With every token granted once, what is settled is owed no more. -/
theorem not_owed_of_settled {earlier : Record} {address : Nat} {token : Token}
    (owed : Owed earlier address token) (later : Record)
    (distinct : ((granted (later ++ (.reclaim address token, .done) :: earlier)).map
      Debt.token).Nodup) :
    ¬Owed (later ++ (.reclaim address token, .done) :: earlier) address token := by
  induction later with
  | nil =>
    rintro again
    rcases owed_cons.mp again with ⟨size, same⟩ | ⟨different, -⟩
    · cases same
    · exact different rfl
  | cons entry rest inductionHypothesis =>
    rw [List.cons_append, granted_cons, List.map_append, List.nodup_append] at distinct
    rintro again
    rcases owed_cons.mp again with ⟨size, rfl⟩ | ⟨-, again⟩
    · refine distinct.2.2 token List.mem_cons_self token ?_ rfl
      rw [granted_append, granted_of_other rfl, List.map_append]
      exact List.mem_append_right _ (token_mem_of_owed owed)
    · exact inductionHypothesis distinct.2.1 again

end Record

/-! ### What touches the book -/

namespace Desk

/-- The book of loans, the token of the next loan, and the policy. -/
def books (desk : Desk) : LoanBook × Token × Policy :=
  (desk.lender.loans, desk.lender.nextToken, desk.lender.policy)

theorem overlooks_books : OverlooksArena books where
  reserve _ _ := rfl
  views _ _ := rfl
  record _ _ _ _ := rfl
  replicas _ _ := rfl
  arena _ _ := rfl

end Desk

namespace Trade

/-- Only lending and taking back touch the book. -/
theorem books_perform (trade : Trade) {deed : Deed} (noLend : deed.isLend = false)
    (noReclaim : ∀ address token, deed ≠ .reclaim address token) :
    (trade.perform deed).2.desk.books = trade.desk.books := by
  refine trade.read_perform Desk.overlooks_books (fun size lends => ?_)
    (fun address token reclaims => absurd reclaims (noReclaim address token))
    fun replica _ => Desk.overlooks_books.endLease trade.desk fun _ _ _ => rfl
  rw [lends] at noLend
  cases noLend

end Trade

theorem Desk.of_books {first second : Desk} (same : first.books = second.books) :
    first.lender.loans = second.lender.loans ∧
      first.lender.nextToken = second.lender.nextToken ∧
        first.lender.policy = second.lender.policy :=
  ⟨congrArg (·.1) same, congrArg (·.2.1) same, congrArg (·.2.2) same⟩

/-- What asking for a loan does to the books. -/
inductive Desk.Lent (desk : Desk) (size : Nat) : Except Fault (Nat × Token) × Desk → Prop where
  | refused (fault : Fault) (after : Desk) (loans : after.lender.loans = desk.lender.loans)
      (policy : after.lender.policy = desk.lender.policy)
      (token : after.lender.nextToken = desk.lender.nextToken ∨
        after.lender.nextToken = desk.lender.nextToken.next) :
      Lent desk size (.error fault, after)
  | granted (block : Block) (after : Desk) (long : size ≤ block.capacity)
      (accepted : desk.lender.loans.enter ⟨desk.lender.nextToken, block, size⟩ =
        .ok after.lender.loans)
      (policy : after.lender.policy = desk.lender.policy)
      (token : after.lender.nextToken = desk.lender.nextToken.next) :
      Lent desk size (.ok (block.address, desk.lender.nextToken), after)

theorem Desk.lent (desk : Desk) (size : Nat) : desk.Lent size (desk.lend size) := by
  have same := overlooks_books.blockFor desk size
  have long : ∀ block, (desk.blockFor size).1 = .ok block → size ≤ block.capacity := by
    intro block answer
    unfold blockFor at answer
    split at answer
    · rename_i zero
      exact zero ▸ Nat.zero_le _
    · exact desk.le_capacity_of_procure (Prod.ext answer rfl)
  have outcome := desk.lending size
  generalize desk.lend size = result at outcome
  cases outcome with
  | failed fault after drawn =>
    rw [drawn] at same
    obtain ⟨loans, token, policy⟩ := of_books same
    exact .refused fault after loans policy (Or.inl token)
  | refused fault block after aside drawn conflict =>
    rw [drawn] at same
    obtain ⟨loans, token, policy⟩ := of_books same
    exact .refused fault _ loans policy (Or.inr (congrArg Token.next token))
  | granted block after loans aside drawn accepted =>
    rw [drawn] at same long
    obtain ⟨sameLoans, token, policy⟩ := of_books same
    dsimp only at sameLoans token
    rw [sameLoans, token] at accepted
    rw [token]
    exact .granted block _ (long block rfl) accepted policy (congrArg Token.next token)

theorem Desk.reclaim_keeps (desk : Desk) (address : Nat) (token : Token) :
    (desk.reclaim address token).2.lender.nextToken = desk.lender.nextToken ∧
      (desk.reclaim address token).2.lender.policy = desk.lender.policy := by
  cases found : desk.lender.loans.at? address with
  | some loan =>
    by_cases same : loan.token = token
    · obtain ⟨aside, reclaimed⟩ := reclaim_of_match found same
      rw [reclaimed]
      exact ⟨rfl, rfl⟩
    · rw [reclaim_of_mismatch found same]
      exact ⟨rfl, rfl⟩
  | none =>
    rw [reclaim_of_absent found]
    cases desk.lender.policy.unknownReturn <;> exact ⟨rfl, rfl⟩

/-- Striking a loan settles its debt and no other: no two loans have one base. -/
theorem debts_of_struck {book : LoanBook} {loan : Loan} {loans : List Loan} {debts : List Debt}
    (ordered : book.Ordered) (struck : (loan :: loans).Perm book.toList)
    (balanced : (book.toList.map Loan.debt).Perm debts) :
    (loans.map Loan.debt).Perm
      (debts.filter fun debt => !(debt.base == loan.base && debt.token == loan.token)) := by
  have bases := (struck.map Loan.base).nodup_iff.mpr ordered.nodup_bases
  rw [List.map_cons, List.nodup_cons] at bases
  have filtered := ((struck.map Loan.debt).trans balanced).filter
    fun debt => !(debt.base == loan.base && debt.token == loan.token)
  rw [List.map_cons, List.filter_cons_of_neg (by simp [Loan.debt]),
    List.filter_eq_self.mpr] at filtered
  · exact filtered
  · intro debt member
    obtain ⟨other, inBook, rfl⟩ := List.mem_map.mp member
    have different : other.base ≠ loan.base := fun same =>
      bases.1 (List.mem_map.mpr ⟨other, inBook, same⟩)
    simp [Loan.debt, different]

/-! ### The invariant -/

namespace Trade

/-- Every block lies in memory, every loan in its block, and the loans are the debts. -/
structure Accounted (trade : Trade) : Prop where
  fits : ∀ block, trade.Holds block → block.address + block.capacity < Word.limit
  within : ∀ loan ∈ trade.loans, loan.length ≤ loan.block.capacity
  sound : trade.desk.lender.loans.Sound
  balanced : (trade.loans.map Loan.debt).Perm trade.record.debts

theorem accounted_opened (policy : Policy) (arena : Arena) :
    (opened policy arena).Accounted := by
  refine ⟨fun block holds => ?_, nofun, LoanBook.sound_empty, List.Perm.refl _⟩
  exact absurd holds (not_holds_opened policy arena block)

theorem fits_take {trade : Trade} {turn : Turn} (allowed : turn.Fits)
    (fits : ∀ block, trade.Holds block → block.address + block.capacity < Word.limit) :
    ∀ block, (trade.take turn).Holds block → block.address + block.capacity < Word.limit := by
  intro block holds
  rcases holds_take holds with holds | rfl | ⟨-, address, capacity, short⟩
  · exact fits block holds
  · decide
  · rw [address, capacity]
    exact allowed (capacity ▸ short)

/-- A turn after which the books are the same. -/
theorem Accounted.of_books {trade : Trade} {turn : Turn} (accounted : trade.Accounted)
    (allowed : turn.Fits)
    (loans : (trade.take turn).desk.lender.loans = trade.desk.lender.loans)
    (debts : (trade.take turn).record.debts = trade.record.debts) :
    (trade.take turn).Accounted := by
  have same : (trade.take turn).loans = trade.loans := congrArg LoanBook.toList loans
  refine ⟨fits_take allowed accounted.fits, ?_, ?_, ?_⟩
  · rw [same]
    exact accounted.within
  · rw [loans]
    exact accounted.sound
  · rw [same, debts]
    exact accounted.balanced

theorem take_lend_eq (trade : Trade) (size place : Nat) :
    trade.take ⟨.lend size, place⟩ =
      ⟨((trade.ready place).desk.lend size).2, trade.rented,
        (.lend size, Reply.ofAnswer (fun grant => .loan grant.1 grant.2)
          ((trade.ready place).desk.lend size).1) :: trade.record⟩ := rfl

theorem Accounted.exists_loan {trade : Trade} (accounted : trade.Accounted) {debt : Debt}
    (member : debt ∈ trade.record.debts) : ∃ loan ∈ trade.loans, loan.debt = debt :=
  List.mem_map.mp (accounted.balanced.mem_iff.mpr member)

theorem Accounted.loan_of_owed {trade : Trade} (accounted : trade.Accounted) {address : Nat}
    {token : Token} (owed : trade.record.Owed address token) :
    ∃ loan ∈ trade.loans, loan.base = address ∧ loan.token = token ∧
      trade.desk.lender.loans.at? address = some loan := by
  obtain ⟨length, member⟩ := Record.mem_debts_iff_owed.mpr owed
  obtain ⟨loan, inBook, same⟩ := accounted.exists_loan member
  have base : loan.base = address := congrArg Debt.base same
  exact ⟨loan, inBook, base, congrArg Debt.token same,
    (LoanBook.at?_eq_some_iff accounted.sound.ordered).mpr ⟨inBook, base⟩⟩

theorem Accounted.owed_of_loan {trade : Trade} (accounted : trade.Accounted) {address : Nat}
    {loan : Loan} (found : trade.desk.lender.loans.at? address = some loan) :
    trade.record.Owed address loan.token := by
  obtain ⟨inBook, rfl⟩ := (LoanBook.at?_eq_some_iff accounted.sound.ordered).mp found
  exact Record.mem_debts_iff_owed.mp
    ⟨loan.length, accounted.balanced.mem_iff.mp (List.mem_map_of_mem inBook)⟩

theorem Accounted.take_lend {trade : Trade} (accounted : trade.Accounted) {size place : Nat}
    (allowed : Turn.Fits ⟨.lend size, place⟩) :
    (trade.take ⟨.lend size, place⟩).Accounted := by
  have outcome := (trade.ready place).desk.lent size
  have fits := fits_take allowed accounted.fits
  have taken := trade.take_lend_eq size place
  generalize (trade.ready place).desk.lend size = result at outcome taken
  cases outcome with
  | refused fault after loans policy token =>
    exact accounted.of_books allowed (by rw [taken]; exact loans) (by rw [taken]; rfl)
  | granted block after long accepted policy token =>
    rw [taken] at fits ⊢
    have entered := LoanBook.perm_of_enter accepted
    have blockFits := fits block
      ⟨.pinned, Or.inl ⟨_, (LoanBook.mem_of_enter accepted).mpr (Or.inl rfl), rfl⟩⟩
    refine ⟨fits, fun loan member => ?_, accounted.sound.enter ?_ accepted, ?_⟩
    · rcases (LoanBook.mem_of_enter accepted).mp member with rfl | older
      · exact long
      · exact accounted.within loan older
    · exact Nat.lt_of_le_of_lt (Nat.add_le_add_left long block.address) blockFits
    · exact (entered.map Loan.debt).trans (accounted.balanced.cons _)

theorem Accounted.take_reclaim {trade : Trade} (accounted : trade.Accounted) {address place : Nat}
    {token : Token} (allowed : Turn.Fits ⟨.reclaim address token, place⟩) :
    (trade.take ⟨.reclaim address token, place⟩).Accounted := by
  have taken : trade.take ⟨.reclaim address token, place⟩ =
      ⟨((trade.ready place).desk.reclaim address token).2, trade.rented,
        (.reclaim address token, Reply.ofAnswer (fun _ => .done)
          (((trade.ready place).desk.reclaim address token).1.mapError Fault.refused)) ::
            trade.record⟩ := rfl
  cases found : (trade.ready place).desk.lender.loans.at? address with
  | some loan =>
    by_cases same : loan.token = token
    · obtain ⟨aside, reclaimed⟩ := Desk.reclaim_of_match found same
      have fits := fits_take allowed accounted.fits
      have struck := LoanBook.perm_strike found
      rw [taken, reclaimed] at fits ⊢
      refine ⟨fits, fun other member => ?_, accounted.sound.strike address, ?_⟩
      · exact accounted.within other ((LoanBook.mem_of_strike found).mpr (Or.inr member))
      · have settled := debts_of_struck accounted.sound.ordered struck accounted.balanced
        rw [same, (LoanBook.getElem?_rank_of_at? _ found).2] at settled
        exact settled
    · refine accounted.of_books allowed ?_ ?_ <;>
        rw [taken, Desk.reclaim_of_mismatch found same] <;> rfl
  | none =>
    have noDebt : ∀ debt ∈ trade.record.debts, debt.base ≠ address := by
      intro debt member
      obtain ⟨loan, inBook, rfl⟩ := accounted.exists_loan member
      exact (LoanBook.at?_eq_none_iff accounted.sound.ordered).mp found loan inBook
    refine accounted.of_books allowed ?_ ?_ <;> rw [taken, Desk.reclaim_of_absent found] <;>
      cases (trade.ready place).desk.lender.policy.unknownReturn
    · rfl
    · rfl
    · rfl
    · refine List.filter_eq_self.mpr fun debt member => ?_
      simp [noDebt debt member]

theorem Accounted.take {trade : Trade} (accounted : trade.Accounted) {turn : Turn}
    (allowed : turn.Fits) : (trade.take turn).Accounted := by
  obtain ⟨deed, place⟩ := turn
  rcases deed.lend_or_reclaim_or_other with
    ⟨size, rfl⟩ | ⟨address, token, rfl⟩ | ⟨noLend, noReclaim⟩
  · exact accounted.take_lend allowed
  · exact accounted.take_reclaim allowed
  · have books := (trade.ready place).books_perform noLend noReclaim
    exact accounted.of_books allowed (Desk.of_books books).1
      (Record.settle_of_other noLend noReclaim _ _)

theorem accounted_run (policy : Policy) (arena : Arena) (turns : List Turn)
    (fits : ∀ turn ∈ turns, turn.Fits) : ((opened policy arena).run turns).Accounted :=
  run_induction (accounted_opened policy arena) turns fits fun _ _ allowed accounted =>
    accounted.take allowed

/-! ### Tokens -/

/-- Only lending uses tokens up. -/
theorem token_perform (trade : Trade) {deed : Deed} (noLend : deed.isLend = false) :
    (trade.perform deed).2.desk.lender.nextToken = trade.desk.lender.nextToken := by
  rcases deed.lend_or_reclaim_or_other with
    ⟨size, rfl⟩ | ⟨address, token, rfl⟩ | ⟨-, noReclaim⟩
  · cases noLend
  · exact (trade.desk.reclaim_keeps address token).1
  · exact (Desk.of_books (trade.books_perform noLend noReclaim)).2.1

/-- The policy stays what it was. -/
theorem policy_perform (trade : Trade) (deed : Deed) :
    (trade.perform deed).2.desk.lender.policy = trade.desk.lender.policy := by
  rcases deed.lend_or_reclaim_or_other with
    ⟨size, rfl⟩ | ⟨address, token, rfl⟩ | ⟨noLend, noReclaim⟩
  · have outcome := trade.desk.lent size
    show (trade.desk.lend size).2.lender.policy = _
    generalize trade.desk.lend size = result at outcome
    cases outcome <;> assumption
  · exact (trade.desk.reclaim_keeps address token).2
  · exact (Desk.of_books (trade.books_perform noLend noReclaim)).2.2

theorem policy_run (trade : Trade) (turns : List Turn) :
    (trade.run turns).desk.lender.policy = trade.desk.lender.policy := by
  induction turns generalizing trade with
  | nil => rfl
  | cons turn rest inductionHypothesis =>
    exact (inductionHypothesis (trade.take turn)).trans
      ((trade.ready turn.place).policy_perform turn.deed)

/-- The next token is greater than every token that went out, and it is not greater than the
loans asked for allow. -/
structure Numbered (trade : Trade) : Prop where
  counted : trade.desk.lender.nextToken.number ≤ trade.record.lends + 1
  older : ∀ debt ∈ trade.record.granted,
    debt.token.number < trade.desk.lender.nextToken.number
  distinct : (trade.record.granted.map Debt.token).Nodup

theorem numbered_opened (policy : Policy) (arena : Arena) : (opened policy arena).Numbered :=
  ⟨Nat.le_refl 1, nofun, List.nodup_nil⟩

theorem lends_take (trade : Trade) (turn : Turn) :
    (trade.take turn).record.lends =
      trade.record.lends + if turn.deed.isLend then 1 else 0 :=
  List.countP_cons

/-- A turn that grants nothing, whether or not it uses a token up. -/
theorem Numbered.of_granted {trade : Trade} {turn : Turn} (numbered : trade.Numbered)
    (granted : (trade.take turn).record.granted = trade.record.granted)
    (least : trade.desk.lender.nextToken.number ≤
      (trade.take turn).desk.lender.nextToken.number)
    (greatest : (trade.take turn).desk.lender.nextToken.number ≤
      trade.desk.lender.nextToken.number + if turn.deed.isLend then 1 else 0) :
    (trade.take turn).Numbered := by
  refine ⟨?_, ?_, ?_⟩
  · rw [lends_take]
    have := numbered.counted
    omega
  · rw [granted]
    exact fun debt member => Nat.lt_of_lt_of_le (numbered.older debt member) least
  · rw [granted]
    exact numbered.distinct

theorem Numbered.take_lend {trade : Trade} (numbered : trade.Numbered) {size place : Nat}
    (room : trade.record.lends + 1 < UInt64.size - 1) :
    (trade.take ⟨.lend size, place⟩).Numbered := by
  have next : trade.desk.lender.nextToken.next.number =
      trade.desk.lender.nextToken.number + 1 := by
    have := numbered.counted
    exact Token.number_next _ (by omega)
  have outcome := (trade.ready place).desk.lent size
  have taken := trade.take_lend_eq size place
  generalize (trade.ready place).desk.lend size = result at outcome taken
  cases outcome with
  | refused fault after loans policy token =>
    refine numbered.of_granted (by rw [taken]; rfl) ?_ ?_ <;> rw [taken] <;> dsimp only <;>
      rcases token with same | same <;> rw [same]
    · exact Nat.le_refl _
    · exact next ▸ Nat.le_succ _
    · exact Nat.le_add_right _ _
    · exact Nat.le_of_eq next
  | granted block after long accepted policy token =>
    rw [taken]
    refine ⟨?_, fun debt member => ?_, List.nodup_cons.mpr ⟨fun member => ?_, numbered.distinct⟩⟩
    · show after.lender.nextToken.number ≤ _
      rw [token, Record.lends, List.countP_cons_of_pos rfl]
      exact next ▸ Nat.succ_le_succ numbered.counted
    · show debt.token.number < after.lender.nextToken.number
      rw [token]
      rcases List.mem_cons.mp member with rfl | earlier
      · exact next ▸ Nat.lt_succ_self _
      · exact next ▸ Nat.lt_succ_of_lt (numbered.older debt earlier)
    · obtain ⟨debt, earlier, same⟩ := List.mem_map.mp member
      exact Nat.lt_irrefl _ (same ▸ numbered.older debt earlier)

theorem Numbered.take {trade : Trade} (numbered : trade.Numbered) {turn : Turn}
    (room : (trade.take turn).record.lends < UInt64.size - 1) : (trade.take turn).Numbered := by
  obtain ⟨deed, place⟩ := turn
  rw [lends_take] at room
  by_cases noLend : deed.isLend = false
  · have token := (trade.ready place).token_perform noLend
    refine numbered.of_granted ?_ (Nat.le_of_eq (congrArg Token.number token.symm))
      (Nat.le_add_right_of_le (Nat.le_of_eq (congrArg Token.number token)))
    exact Record.granted_of_other noLend _ _
  · cases deed with
    | lend size => exact numbered.take_lend room
    | _ => exact absurd rfl noLend

/-- In a run with too few loans for the tokens to come round, the tokens are numbered. -/
theorem Numbered.run {trade : Trade} (numbered : trade.Numbered) (turns : List Turn)
    (few : trade.record.lends + Turn.lendCount turns < UInt64.size - 1) :
    (trade.run turns).Numbered := by
  induction turns generalizing trade with
  | nil => exact numbered
  | cons turn rest inductionHypothesis =>
    have count : (trade.take turn).record.lends + Turn.lendCount rest =
        trade.record.lends + Turn.lendCount (turn :: rest) := by
      rw [lends_take, Turn.lendCount, Turn.lendCount, List.countP_cons]
      omega
    exact inductionHypothesis (numbered.take (by omega)) (by omega)

theorem numbered_run (policy : Policy) (arena : Arena) (turns : List Turn)
    (few : Turn.lendCount turns < UInt64.size - 1) : ((opened policy arena).run turns).Numbered :=
  (numbered_opened policy arena).run turns ((Nat.zero_add _).symm ▸ few)

/-! ### The book and the record -/

/-- In every run the bases increase, each loan ends before the next one begins, no two loans
have one token, and the loans are the debts that the record has not settled. -/
theorem book_balances (policy : Policy) (arena : Arena) (turns : List Turn)
    (fits : ∀ turn ∈ turns, turn.Fits) (few : Turn.lendCount turns < UInt64.size - 1) :
    let trade := (opened policy arena).run turns
    (trade.loans.Pairwise fun left right =>
        left.base < right.base ∧ left.base + left.length ≤ right.base) ∧
      (trade.loans.map Loan.token).Nodup ∧
      (trade.loans.map Loan.debt).Perm trade.record.debts ∧
      trade.desk.lender.loans.count = trade.record.debts.length ∧
      trade.desk.lender.loans.bytes? = some (trade.record.debts.map Debt.length).sum := by
  have accounted := accounted_run policy arena turns fits
  have numbered := numbered_run policy arena turns few
  generalize (opened policy arena).run turns = trade at accounted numbered
  have balanced := accounted.balanced
  refine ⟨accounted.sound.apart, ?_, balanced, ?_, ?_⟩
  · have tokens := balanced.map Debt.token
    rw [List.map_map] at tokens
    exact tokens.nodup_iff.mpr
      (numbered.distinct.sublist (trade.record.debts_sublist_granted.map Debt.token))
  · rw [← balanced.length_eq, List.length_map]
    rfl
  · rw [LoanBook.bytes?_eq accounted.sound, ← (balanced.map Debt.length).sum_nat, List.map_map]
    rfl

/-- The third loan runs into the first one and fails, the fourth takes the block of the third
and fails too, and the fifth gets the address of the first one, which has been taken back. -/
theorem book_balances_after_conflict :
    let turns : List Turn := [⟨.lend 8, 4096⟩, ⟨.lend 0, 4104⟩, ⟨.lend 4, 4100⟩, ⟨.lend 4, 0⟩,
      ⟨.reclaim 4096 ⟨1⟩, 0⟩, ⟨.lend 8, 0⟩]
    let trade := (opened Policy.standard (Arena.startingAt 0 16 16)).run turns
    (∀ turn ∈ turns, turn.Fits) ∧ Turn.lendCount turns < UInt64.size - 1 ∧
      (trade.loans.map Loan.debt).Perm [⟨4096, 8, ⟨5⟩⟩, ⟨4104, 0, ⟨2⟩⟩] ∧
      trade.desk.lender.loans.bytes? = some 8 := by
  intro turns trade
  have fits : ∀ turn ∈ turns, turn.Fits := by decide
  have few : Turn.lendCount turns < UInt64.size - 1 := by decide
  have debts : trade.record.debts = [⟨4096, 8, ⟨5⟩⟩, ⟨4104, 0, ⟨2⟩⟩] := by decide +kernel
  obtain ⟨-, -, balanced, -, bytes⟩ :=
    book_balances Policy.standard (Arena.startingAt 0 16 16) turns fits few
  exact ⟨fits, few, debts ▸ balanced, bytes.trans (congrArg some (debts ▸ rfl))⟩

/-- What is taken back is exactly what is owed. A loan goes back for its address and its token
and takes no other with it; a wrong token and an address that is no base change nothing; and
what has been taken back is not owed again, whoever has the address then. -/
theorem reclaim_exact (policy : Policy) (arena : Arena) (turns : List Turn)
    (fits : ∀ turn ∈ turns, turn.Fits) (few : Turn.lendCount turns < UInt64.size - 1)
    (address : Nat) (token : Token) :
    let trade := (opened policy arena).run turns
    let result := trade.desk.reclaim address token
    (trade.record.Owed address token → result.1 = .ok () ∧
        ∃ loan ∈ trade.loans, loan.base = address ∧ loan.token = token ∧
          (loan :: result.2.lender.loans.toList).Perm trade.loans) ∧
      (¬trade.record.Owed address token →
        result.2.lender = trade.desk.lender ∧ result.2.arena = trade.desk.arena) ∧
      (∀ debt ∈ trade.record.debts, debt.base = address → debt.token ≠ token →
        result = (.error (.wrongToken address debt.token.number token.number), trade.desk)) ∧
      ((∀ debt ∈ trade.record.debts, debt.base ≠ address) →
        result.1 = match policy.unknownReturn with
          | .reject => .error (.untracked address)
          | .ignore => .ok ()) ∧
      ∀ later earlier, trade.record = later ++ (.reclaim address token, .done) :: earlier →
        Record.Owed earlier address token → ¬trade.record.Owed address token := by
  have accounted := accounted_run policy arena turns fits
  have numbered := numbered_run policy arena turns few
  have samePolicy : ((opened policy arena).run turns).desk.lender.policy = policy :=
    policy_run _ turns
  generalize (opened policy arena).run turns = trade at accounted numbered samePolicy
  refine ⟨fun owed => ?_, fun notOwed => ?_, fun debt member base other => ?_, fun noDebt => ?_,
    fun later earlier parts owed => ?_⟩
  · obtain ⟨loan, member, base, same, found⟩ := accounted.loan_of_owed owed
    obtain ⟨aside, reclaimed⟩ := Desk.reclaim_of_match found same
    rw [reclaimed]
    exact ⟨rfl, loan, member, base, same, LoanBook.perm_strike found⟩
  · cases found : trade.desk.lender.loans.at? address with
    | some loan =>
      have other : loan.token ≠ token := by
        rintro rfl
        exact notOwed (accounted.owed_of_loan found)
      rw [Desk.reclaim_of_mismatch found other]
      exact ⟨rfl, rfl⟩
    | none =>
      rw [Desk.reclaim_of_absent found]
      cases trade.desk.lender.policy.unknownReturn <;> exact ⟨rfl, rfl⟩
  · obtain ⟨loan, inBook, rfl⟩ := accounted.exists_loan member
    have found := (LoanBook.at?_eq_some_iff accounted.sound.ordered).mpr ⟨inBook, base⟩
    exact Desk.reclaim_of_mismatch found other
  · have missing : trade.desk.lender.loans.at? address = none := by
      refine (LoanBook.at?_eq_none_iff accounted.sound.ordered).mpr fun loan inBook => ?_
      exact noDebt loan.debt (accounted.balanced.mem_iff.mp (List.mem_map_of_mem inBook))
    rw [Desk.reclaim_of_absent missing, samePolicy]
    cases policy.unknownReturn <;> rfl
  · have distinct := numbered.distinct
    rw [parts] at distinct ⊢
    exact Record.not_owed_of_settled owed later distinct

/-- The token of a loan that has been taken back is refused at its address, which has been lent
again since, and the token of the new loan is accepted. -/
theorem reclaim_exact_after_reuse :
    let turns : List Turn := [⟨.lend 8, 4096⟩, ⟨.reclaim 4096 ⟨1⟩, 0⟩, ⟨.lend 8, 0⟩]
    let trade := (opened Policy.standard (Arena.startingAt 0 16 16)).run turns
    (∀ turn ∈ turns, turn.Fits) ∧ Turn.lendCount turns < UInt64.size - 1 ∧
      trade.desk.reclaim 4096 ⟨1⟩ = (.error (.wrongToken 4096 2 1), trade.desk) ∧
      (trade.desk.reclaim 4096 ⟨2⟩).1 = .ok () := by
  intro turns trade
  have fits : ∀ turn ∈ turns, turn.Fits := by decide
  have few : Turn.lendCount turns < UInt64.size - 1 := by decide
  have debt : (⟨4096, 8, ⟨2⟩⟩ : Debt) ∈ trade.record.debts := by decide +kernel
  have stale := reclaim_exact Policy.standard (Arena.startingAt 0 16 16) turns fits few 4096 ⟨1⟩
  have current := reclaim_exact Policy.standard (Arena.startingAt 0 16 16) turns fits few 4096 ⟨2⟩
  refine ⟨fits, few, stale.2.2.1 _ debt rfl (by decide), (current.1 ?_).1⟩
  exact Record.mem_debts_iff_owed.mp ⟨8, debt⟩

end Trade

end MemoryLending
