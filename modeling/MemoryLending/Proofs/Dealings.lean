/-
This file reads the dealings of a lender off the journal: the loans that went out, and what came
of returns. Each loan leaves one record, with its address, its length and its token. Each call of
the free callback leaves one record too, whether or not it keeps the contract, so the records of
returns count the calls. Nothing else that a lender does leaves records of these kinds.
-/

import MemoryLending.Proofs.NativeSide

namespace MemoryLending

namespace Journal

/-- The records of loans that went out, the latest first. -/
def grants (journal : Journal) : List Event := journal.filter Event.isGrant

/-- The records of what came of returns, the latest first. -/
def returns (journal : Journal) : List Event := journal.filter Event.isReturn

/-- What a journal says about loans and returns. -/
def dealings (journal : Journal) : List Event × List Event := (journal.grants, journal.returns)

theorem dealings_cons (journal : Journal) {event : Event} (idle : event.isDeal = false) :
    dealings (event :: journal) = journal.dealings := by
  obtain ⟨grant, back⟩ := Bool.or_eq_false_iff.mp idle
  exact Prod.ext (List.filter_cons_of_neg (Bool.eq_false_iff.mp grant))
    (List.filter_cons_of_neg (Bool.eq_false_iff.mp back))

theorem dealings_of_return (journal : Journal) {event : Event} (back : event.isReturn = true) :
    dealings (event :: journal) = (journal.grants, event :: journal.returns) := by
  have grant : event.isGrant = false := by
    cases event with
    | lent address size token => cases back
    | _ => rfl
  exact Prod.ext (List.filter_cons_of_neg (Bool.eq_false_iff.mp grant))
    (List.filter_cons_of_pos back)

end Journal

namespace Desk

/-- What the journal of a desk says about loans and returns. -/
def dealings (desk : Desk) : List Event × List Event := desk.journal.dealings

theorem overlooks_dealings : OverlooksArena dealings where
  reserve _ _ := rfl
  views _ _ := rfl
  record desk _ _ idle := desk.journal.dealings_cons idle
  replicas _ _ := rfl
  arena _ _ := rfl

theorem dealings_endLease (desk : Desk) (replica : Replica) :
    (desk.endLease replica).dealings = desk.dealings :=
  overlooks_dealings.toOverlooksReplicas.endLease desk fun _ _ _ => rfl

/-- Each loan leaves one record, and a loan that does not come about leaves none. -/
theorem dealings_lend (desk : Desk) (size : Nat) :
    (desk.lend size).2.dealings =
      match (desk.lend size).1 with
      | .ok (address, token) =>
        (.lent address size token :: desk.journal.grants, desk.journal.returns)
      | .error _ => desk.dealings := by
  have drawn : (desk.blockFor size).2.dealings = desk.dealings :=
    overlooks_dealings.blockFor desk size
  unfold lend
  generalize desk.blockFor size = result at drawn ⊢
  obtain ⟨fault | block, ready⟩ := result
  · exact drawn
  dsimp only
  cases ready.drawToken.lender.loans.enter ⟨ready.lender.nextToken, block, size⟩ with
  | error fault => exact (overlooks_dealings.retireBlock ready.drawToken block).trans drawn
  | ok loans =>
    have grants : ready.journal.grants = desk.journal.grants := congrArg Prod.fst drawn
    have returns : ready.journal.returns = desk.journal.returns := congrArg Prod.snd drawn
    show (Event.lent block.address size ready.lender.nextToken :: ready.journal.grants,
      ready.journal.returns) = _
    rw [grants, returns]

/-- A loan that is taken back leaves one record. -/
theorem dealings_reclaim {desk : Desk} {loan : Loan}
    (found : desk.lender.loans.at? loan.base = some loan) :
    (desk.reclaim loan.base loan.token).2.dealings =
      (desk.journal.grants,
        .reclaimed loan.base loan.length loan.token :: desk.journal.returns) := by
  unfold reclaim
  rw [found]
  dsimp only
  rw [if_pos rfl]
  exact (overlooks_dealings.unpin _ loan.block).trans (desk.journal.dealings_of_return rfl)

/-- A loan that is taken back is struck from the book and leaves one record. -/
theorem reclaim_of_lent {desk : Desk} {loan : Loan}
    (found : desk.lender.loans.at? loan.base = some loan) :
    ∃ after, desk.reclaim loan.base loan.token = (.ok (), after) ∧
      after.lender.loans = desk.lender.loans.strike loan.base ∧
      after.lender.roster = desk.lender.roster ∧
      after.dealings = (desk.journal.grants,
        .reclaimed loan.base loan.length loan.token :: desk.journal.returns) := by
  have dealt := dealings_reclaim found
  obtain ⟨aside, reclaimed⟩ := reclaim_of_match found rfl
  rw [reclaimed] at dealt
  exact ⟨_, reclaimed, rfl, rfl, dealt⟩

end Desk

namespace Action

/-- Each call of the free callback leaves one record of what came of it. -/
theorem dealings_answerFree (address : Nat) (context : Token) (office : Office) :
    ∃ event : Event, event.isReturn = true ∧
      (answerFree address context office).2.journal.dealings =
        (office.journal.grants, event :: office.journal.returns) := by
  have outcome := freeing office address context
  generalize answerFree address context office = result at outcome
  cases outcome with
  | unserved free => exact ⟨.freeUnserved, rfl, office.journal.dealings_of_return rfl⟩
  | broke lender violation desk served reclaimed =>
    have still : desk.journal = office.journal := by
      cases found : (office.desk lender).lender.loans.at? address with
      | some loan =>
        by_cases same : loan.token = context
        · obtain ⟨aside, settled⟩ := Desk.reclaim_of_match found same
          cases reclaimed.symm.trans settled
        · cases reclaimed.symm.trans (Desk.reclaim_of_mismatch found same)
          rfl
      | none =>
        have absent := @Desk.reclaim_of_absent (office.desk lender) address context found
        cases policy : (office.desk lender).lender.policy.unknownReturn with
        | reject =>
          rw [policy] at absent
          cases reclaimed.symm.trans absent
          rfl
        | ignore =>
          rw [policy] at absent
          cases reclaimed.symm.trans absent
    refine ⟨.freeBrokeContract violation, rfl, ?_⟩
    rw [← still]
    exact desk.journal.dealings_of_return rfl
  | returned lender desk served reclaimed =>
    cases found : (office.desk lender).lender.loans.at? address with
    | some loan =>
      by_cases same : loan.token = context
      · obtain rfl := ((office.desk lender).lender.loans.getElem?_rank_of_at? found).2
        obtain rfl := same
        have dealt := Desk.dealings_reclaim found
        rw [reclaimed] at dealt
        exact ⟨_, rfl, dealt⟩
      · cases reclaimed.symm.trans (Desk.reclaim_of_mismatch found same)
    | none =>
      have absent := @Desk.reclaim_of_absent (office.desk lender) address context found
      cases policy : (office.desk lender).lender.policy.unknownReturn with
      | reject =>
        rw [policy] at absent
        cases reclaimed.symm.trans absent
      | ignore =>
        rw [policy] at absent
        cases reclaimed.symm.trans absent
        exact ⟨.unknownReturnIgnored address context, rfl,
          office.journal.dealings_of_return rfl⟩

end Action

end MemoryLending
