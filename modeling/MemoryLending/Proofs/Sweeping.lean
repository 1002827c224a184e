/-
This file takes a sweep apart. First the wrappers on the roster are retired, whatever that does;
then the book is looked at. The outcome of the sweep, and the end of the process, are those of the
second part, given that the first one comes to its end: loans that are left are a violation, and
no wrapper can add any.
-/

import MemoryLending.Proofs.Provision

namespace MemoryLending

/-! ### Loans only go -/

/-- No lender has a loan that it did not have. -/
def Office.Returns (before after : Office) : Prop :=
  ∀ lender, (after.lender lender).loans.toList.Sublist (before.lender lender).loans.toList

theorem Office.returns_withDesk (office : Office) (index : Nat) {desk : Desk}
    (fewer : desk.lender.loans.toList.Sublist (office.lender index).loans.toList) :
    office.Returns (office.withDesk index desk) := by
  intro lender
  rw [lender_withDesk]
  split
  · rename_i here
    exact here.1 ▸ fewer
  · exact List.Sublist.refl _

theorem Desk.reclaim_sublist (desk : Desk) (address : Nat) (token : Token) :
    (desk.reclaim address token).2.lender.loans.toList.Sublist desk.lender.loans.toList := by
  cases found : desk.lender.loans.at? address with
  | some loan =>
    by_cases same : loan.token = token
    · obtain ⟨aside, reclaimed⟩ := reclaim_of_match found same
      rw [reclaimed]
      exact LoanBook.strike_sublist _ address
    · rw [reclaim_of_mismatch found same]
  | none =>
    rw [reclaim_of_absent found]
    cases desk.lender.policy.unknownReturn <;> exact List.Sublist.refl _

theorem Office.returns_of_lenders {before after : Office} (same : after.lenders = before.lenders) :
    before.Returns after := by
  intro lender
  unfold Office.lender
  rw [same]

theorem routine_returns : Routine Office.Returns where
  refl _ _ := List.Sublist.refl _
  trans first second lender := (second lender).trans (first lender)
  journal _ _ := Office.returns_of_lenders rfl
  wrappers _ _ := Office.returns_of_lenders rfl
  sensors _ _ := Office.returns_of_lenders rfl
  hosts _ _ := Office.returns_of_lenders rfl
  roster office index change := by
    intro lender
    have changed := office.lender_changeRoster index lender fun roster _ => change roster
    show ((Action.changeRoster index (fun roster _ => change roster) office).2.lender
      lender).loans.toList.Sublist _
    rw [changed]
    split <;> exact List.Sublist.refl _
  reclaim office index address token :=
    office.returns_withDesk index ((office.desk index).reclaim_sublist address token)
  endLease office index replica := by
    refine office.returns_withDesk index ?_
    have books : ((office.desk index).endLease replica).books = (office.desk index).books :=
      Desk.overlooks_books.endLease (office.desk index) fun _ _ _ => rfl
    rw [(Desk.of_books books).1]
    exact List.Sublist.refl _

namespace Action

/-! ### The two parts of a sweep -/

/-- The first part of a sweep. The answer is how many wrappers it has retired, and the number of
dead entries. -/
def retiring (lender : Nat) : Action (Nat × Nat) := do
  let (living, pruned) ← muster lender
  let retired ← thenLetGo living (retireAll living)
  return (retired, pruned)

/-- Whatever the wrappers do, no lender has a loan afterwards that it did not have. -/
theorem retiring_returns (lender : Nat) : Within Office.Returns (retiring lender) := by
  have routine := routine_returns
  exact routine.bind (routine.muster lender) fun mustered =>
    routine.bind (routine.thenLetGo routine.letGo _ (routine.retireAll routine.retire _)) fun _ =>
      routine.pure _

/-- What a sweep comes to once its wrappers have been retired. -/
inductive Swept (lender : Nat) (mid : Office) (report : SweepReport) :
    Except Fault SweepReport × Office → Prop where
  | cleared (journal : Journal) (none : (mid.lender lender).loans.toList = []) :
      Swept lender mid report (.ok report, { mid with journal })
  | outstanding (journal : Journal) (left : (mid.lender lender).loans.toList ≠ []) :
      Swept lender mid report
        (.error (.refused (.outstanding (mid.lender lender).loans.count)), { mid with journal })
  | beyond (left : (mid.lender lender).loans.toList ≠ [])
      (many : (mid.lender lender).loans.bytes? = none) :
      Swept lender mid report (.error (.panicked .addOverflow), mid)

theorem sweep_eq (lender : Nat) :
    sweep lender = retiring lender >>= fun counts => do
      requireNoLoans lender
      let replicas ← readDesk lender (·.lender.replicas.count)
      if replicas ≠ 0 then log (.replicasRemain replicas)
      log (.sweepComplete counts.1 counts.2)
      return ⟨counts.1, counts.2⟩ := by
  unfold sweep retiring
  simp only [bind_assoc, pure_bind]

theorem swept {lender : Nat} {office mid : Office} {retired pruned : Nat}
    (done : retiring lender office = (.ok (retired, pruned), mid)) :
    Swept lender mid ⟨retired, pruned⟩ (sweep lender office) := by
  have read : ∀ {Answer : Type} (question : Desk → Answer), readDesk lender question mid =
      (.ok (question (mid.desk lender)), mid) := fun _ => rfl
  have same : (mid.desk lender).lender = mid.lender lender := rfl
  rw [sweep_eq, run_bind_of_ok done]
  by_cases none : (mid.lender lender).loans.count = 0
  · have empty : (mid.lender lender).loans.toList = [] := List.length_eq_zero_iff.mp none
    have passed : requireNoLoans lender mid = (.ok (), mid) := by
      unfold requireNoLoans
      rw [run_bind_of_ok (read _), same, if_neg (not_not_intro none)]
      rfl
    rw [run_bind_of_ok passed, run_bind_of_ok (read _)]
    split
    · exact .cleared _ empty
    · exact .cleared _ empty
  · have left : (mid.lender lender).loans.toList ≠ [] := fun empty =>
      none (List.length_eq_zero_iff.mpr empty)
    cases many : (mid.lender lender).loans.bytes? with
    | none =>
      have stopped : requireNoLoans lender mid = (.error (.panicked .addOverflow), mid) := by
        unfold requireNoLoans
        rw [run_bind_of_ok (read _), same, if_pos none, many]
        rfl
      rw [run_bind_of_error stopped]
      exact .beyond left many
    | some bytes =>
      have stopped : requireNoLoans lender mid =
          (.error (.refused (.outstanding (mid.lender lender).loans.count)),
            { mid with
              journal :=
                .loansOutlived (mid.lender lender).loans.count bytes :: mid.journal }) := by
        unfold requireNoLoans
        rw [run_bind_of_ok (read _), same, if_pos none, many]
        rfl
      rw [run_bind_of_error stopped]
      exact .outstanding _ left

/-- The process ends well exactly if no loan is left once the wrappers have been retired. -/
theorem exit_eq {office mid : Office} {lender : Nat} {counts : Nat × Nat}
    (served : office.served = some lender) (sweeps : office.sweepsAtExit = true)
    (done : retiring lender office = (.ok counts, mid)) :
    (exit office).1 =
      if (mid.lender lender).loans.toList = [] then .ok () else .error .aborted := by
  have outcome := swept done
  unfold exit
  rw [run_get_bind, sweeps, served]
  dsimp only
  rw [run_tryCatch, run_discard]
  generalize sweep lender office = result at outcome
  cases outcome with
  | cleared journal none => rw [if_pos none]; rfl
  | outstanding journal left => rw [if_neg left]; rfl
  | beyond left many => rw [if_neg left]; rfl

end Action

end MemoryLending
