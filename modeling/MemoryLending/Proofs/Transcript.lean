/-
This file shows that the journal of a lender can be trusted after any run. The loans that it leaves
open are the loans of the book, the replicas that it has seen made and not released are the entries
of the table, and its records of fresh blocks and of blocks given up add up to the counters of the
reserve. A deed that comes to nothing leaves no record of a loan or of a replica.
-/

import MemoryLending.Proofs.Postings
import MemoryLending.Proofs.Sums

namespace MemoryLending

namespace Trade

/-! ### What a turn writes -/

/-- What a run brings back to the reserve, the earliest first. -/
def backInRun : Trade → List Turn → List Traffic
  | _, [] => []
  | trade, turn :: rest => trade.back turn ++ backInRun (trade.take turn) rest

/-- A turn comes to nothing: it fails, its return is of something not on loan, or its lease finds
no entry to give its reference back to. -/
def ComesToNothing (trade : Trade) (turn : Turn) : Prop :=
  (∃ fault, trade.answer turn = .failed fault) ∨
    (∃ address token, turn.deed = .reclaim address token ∧
      trade.desk.lender.loans.at? address = none) ∨
    ∃ replica, turn.deed = .endLease replica ∧ trade.replicas.entry? replica.address = none

/-- A deed that is no return and ends no lease comes to nothing only by failing. -/
theorem ComesToNothing.failed {trade : Trade} {turn : Turn} (nothing : trade.ComesToNothing turn)
    (noReclaim : ∀ address token, turn.deed ≠ .reclaim address token)
    (noEnd : ∀ replica, turn.deed ≠ .endLease replica) :
    ∃ fault, trade.answer turn = .failed fault := by
  obtain failed | ⟨address, token, deed, -⟩ | ⟨replica, deed, -⟩ := nothing
  · exact failed
  · exact absurd deed (noReclaim address token)
  · exact absurd deed (noEnd replica)

/-- A deed that posts nothing if it is refused posts nothing if it comes to nothing. -/
theorem noted_of_postsIfDone {trade : Trade} {deed : Deed} {place : Nat} {Answer : Type}
    {result : Except Fault Answer × Desk} {returned : List Traffic} {carry : Answer → Reply}
    (posts : Desk.PostsIfDone returned (trade.ready place).desk result)
    (answered : trade.answer ⟨deed, place⟩ = Reply.ofAnswer carry result.1)
    (carries : ∀ answer fault, carry answer ≠ .failed fault)
    (noReclaim : ∀ address token, deed ≠ .reclaim address token)
    (noEnd : ∀ replica, deed ≠ .endLease replica) :
    ∃ posted, Desk.Noted returned posted (trade.ready place).desk result.2 ∧
      (trade.ComesToNothing ⟨deed, place⟩ → posted = []) := by
  obtain ⟨posted, noted, silent⟩ := posts
  refine ⟨posted, noted, fun nothing => ?_⟩
  obtain ⟨fault, failed⟩ := nothing.failed noReclaim noEnd
  exact silent fault (Reply.error_of_failed (answered.symm.trans failed) fun answer =>
    carries answer fault)

theorem noted_whereRead (trade : Trade) (replica : Replica) (work : Desk → Desk)
    (noted : Desk.Noted [] [] trade.desk (work trade.desk)) :
    Desk.Noted [] [] trade.desk (trade.whereRead replica work).desk := by
  unfold whereRead
  split
  · exact noted
  · exact trade.desk.noted_same

theorem noted_donate (trade : Trade) (size : Nat) :
    Desk.Noted
      (if size = 0 then [.restore Block.empty]
        else if Word.longestBlock < size then []
        else [.restore (trade.desk.arena.nextBlock size true)])
      [] trade.desk (trade.donate size).desk := by
  unfold donate
  split
  · exact trade.desk.noted_restore Block.empty
  · split
    · exact trade.desk.noted_same
    · exact (trade.desk.noted_withArena _).trans (Desk.noted_restore _ _)

/-- A deed posts what it comes to, and nothing if it comes to nothing. -/
theorem noted_perform (trade : Trade) (turn : Turn) :
    ∃ posted, Desk.Noted (trade.back turn) posted (trade.ready turn.place).desk
        (trade.take turn).desk ∧ (trade.ComesToNothing turn → posted = []) := by
  obtain ⟨deed, place⟩ := turn
  have still : ∀ {returned}, Desk.Noted returned [] (trade.ready place).desk
      (trade.take ⟨deed, place⟩).desk → ∃ posted, Desk.Noted returned posted
        (trade.ready place).desk (trade.take ⟨deed, place⟩).desk ∧
          (trade.ComesToNothing ⟨deed, place⟩ → posted = []) :=
    fun noted => ⟨[], noted, fun _ => rfl⟩
  let desk := (trade.ready place).desk
  cases deed with
  | rent size => exact still (desk.noted_procure size)
  | handIn block =>
    refine still ?_
    show Desk.Noted (if block ∈ trade.rented then [.restore block] else []) [] _
      ((trade.ready place).perform (.handIn block)).2.desk
    unfold perform
    dsimp only
    rw [show (trade.ready place).rented = trade.rented from rfl]
    split
    · exact desk.noted_restore block
    · exact desk.noted_same
  | discard block => exact still desk.noted_same
  | donate size => exact still ((trade.ready place).noted_donate size)
  | clear => exact still desk.noted_clearReserve
  | lend size =>
    refine ⟨_, desk.noted_lend size, fun nothing => ?_⟩
    obtain ⟨fault, failed⟩ := nothing.failed nofun nofun
    rw [Reply.error_of_failed failed nofun]
  | reclaim address token =>
    refine ⟨_, desk.noted_reclaim address token, fun nothing => ?_⟩
    cases found : desk.lender.loans.at? address with
    | none => rfl
    | some loan =>
      dsimp only
      rw [if_neg]
      rintro same
      obtain ⟨aside, reclaimed⟩ := Desk.reclaim_of_match found same
      obtain ⟨fault, failed⟩ | ⟨place, other, deed, missing⟩ | ⟨replica, deed, -⟩ := nothing
      · have answered : trade.answer ⟨.reclaim address token, place⟩ = Reply.ofAnswer
            (fun _ => .done) ((desk.reclaim address token).1.mapError Fault.refused) := rfl
        rw [reclaimed] at answered
        cases answered.symm.trans failed
      · cases deed
        cases found.symm.trans missing
      · cases deed
  | openView address size => exact still (desk.noted_openView address size)
  | closeView view => exact still (desk.noted_closeView view)
  | share address size =>
    exact noted_of_postsIfDone (desk.postsIfDone_share address size) rfl nofun nofun nofun
  | giveBack address =>
    exact noted_of_postsIfDone ((desk.postsIfDone_giveBack address).mapError Fault.refused) rfl
      nofun nofun nofun
  | takeLease address size =>
    exact noted_of_postsIfDone (desk.postsIfDone_takeLease address size) rfl nofun nofun nofun
  | endLease replica =>
    obtain ⟨posted, noted, silent⟩ := desk.noted_endLease replica
    refine ⟨posted, noted, fun nothing => ?_⟩
    obtain ⟨fault, failed⟩ | ⟨address, token, deed, -⟩ | ⟨other, deed, missing⟩ := nothing
    · cases failed
    · cases deed
    · cases deed
      exact silent missing
  | copyHandle replica =>
    exact still ((trade.ready place).noted_whereRead replica _
      (Desk.noted_of_still rfl rfl fun _ => rfl))
  | closeHandle replica => exact still (desk.noted_closeHandle replica)
  | reach address size =>
    exact noted_of_postsIfDone (desk.postsIfDone_reach address size) rfl nofun nofun nofun
  | pull replica | push replica =>
    exact still ((trade.ready place).noted_whereRead replica _ (desk.noted_withArena _))
  | edit replica offset bytes =>
    refine still ((trade.ready place).noted_whereRead replica _ ?_)
    unfold Desk.editReplica?
    split
    · exact desk.noted_withArena _
    · exact desk.noted_same
  | write address bytes => exact still (desk.noted_withArena _)

theorem noted_take (trade : Trade) (turn : Turn) :
    ∃ posted, Desk.Noted (trade.back turn) posted trade.desk (trade.take turn).desk ∧
      (trade.ComesToNothing turn → posted = []) := by
  obtain ⟨posted, noted, silent⟩ := trade.noted_perform turn
  have ready := trade.desk.noted_withArena (trade.desk.arena.announce [turn.place])
  have taken := ready.trans noted
  rw [List.append_nil] at taken
  exact ⟨posted, taken, silent⟩

/-- A turn that comes to nothing posts nothing. -/
theorem postings_take {trade : Trade} {turn : Turn} (nothing : trade.ComesToNothing turn) :
    (trade.take turn).desk.journal.postings = trade.desk.journal.postings := by
  obtain ⟨posted, noted, silent⟩ := trade.noted_take turn
  rw [noted.postings, silent nothing, List.nil_append]

/-! ### What a run writes -/

theorem reported_opened (policy : Policy) (arena : Arena) :
    (opened policy arena).desk.Reported policy.budget [] :=
  ⟨rfl, rfl, rfl, rfl⟩

theorem matched_opened (policy : Policy) (arena : Arena) : (opened policy arena).desk.Matched :=
  fun _ => rfl

theorem reported_run {trade : Trade} {budget : Budget} {returned : List Traffic}
    (reported : trade.desk.Reported budget returned) (turns : List Turn) :
    (trade.run turns).desk.Reported budget (returned ++ trade.backInRun turns) := by
  induction turns generalizing trade returned with
  | nil => exact (List.append_nil returned).symm ▸ reported
  | cons turn rest inductionHypothesis =>
    obtain ⟨posted, noted, -⟩ := trade.noted_take turn
    have books := inductionHypothesis (noted.reported reported)
    rw [List.append_assoc] at books
    exact books

theorem matched_run {trade : Trade} (matched : trade.desk.Matched) (turns : List Turn) :
    (trade.run turns).desk.Matched := by
  induction turns generalizing trade with
  | nil => exact matched
  | cons turn rest inductionHypothesis =>
    obtain ⟨posted, noted, -⟩ := trade.noted_take turn
    exact inductionHypothesis (noted.matched matched)

/-! ### Loans -/

theorem overlooks_debts : Desk.OverlooksArena fun desk => desk.journal.debts where
  reserve _ _ := rfl
  views _ _ := rfl
  record desk event _ idle := by
    cases event with
    | lent address size token | reclaimed address size token => cases idle
    | _ => rfl
  replicas _ _ := rfl
  arena _ _ := rfl

/-- The debts that the journal leaves open are those that the record does, turn by turn. -/
theorem debts_take {trade : Trade} (accounted : trade.Accounted) (turn : Turn)
    (same : trade.desk.journal.debts = trade.record.debts) :
    (trade.take turn).desk.journal.debts = (trade.take turn).record.debts := by
  obtain ⟨deed, place⟩ := turn
  rcases deed.lend_or_reclaim_or_other with
    ⟨size, rfl⟩ | ⟨address, token, rfl⟩ | ⟨noLend, noReclaim⟩
  · have posted := Journal.debts_of_postings ((trade.ready place).desk.noted_lend size).postings
    rw [take_lend_eq]
    refine posted.trans ?_
    rw [Record.debts_cons, ← same]
    cases ((trade.ready place).desk.lend size).1 <;> rfl
  · have posted := Journal.debts_of_postings
      ((trade.ready place).desk.noted_reclaim address token).postings
    show ((trade.ready place).desk.reclaim address token).2.journal.debts = Record.settle
      (.reclaim address token, Reply.ofAnswer (fun _ => .done)
        (((trade.ready place).desk.reclaim address token).1.mapError Fault.refused))
      trade.record.debts
    rw [posted, ← same]
    cases found : (trade.ready place).desk.lender.loans.at? address with
    | some loan =>
      dsimp only
      by_cases settles : loan.token = token
      · obtain ⟨aside, reclaimed⟩ := Desk.reclaim_of_match found settles
        rw [if_pos settles, reclaimed]
        rfl
      · rw [if_neg settles, Desk.reclaim_of_mismatch found settles]
        rfl
    | none =>
      -- nothing is owed at the address, so that settling it changes nothing
      have noDebt : ∀ debt ∈ trade.desk.journal.debts, debt.base ≠ address := by
        intro debt member
        obtain ⟨loan, inBook, rfl⟩ := accounted.exists_loan (same ▸ member)
        exact (LoanBook.at?_eq_none_iff accounted.sound.ordered).mp found loan inBook
      rw [Desk.reclaim_of_absent found]
      cases (trade.ready place).desk.lender.policy.unknownReturn with
      | reject => rfl
      | ignore =>
        refine (List.filter_eq_self.mpr fun debt member => ?_).symm
        simp [noDebt debt member]
  · have read := (trade.ready place).read_perform overlooks_debts
      (fun size lends => absurd (lends ▸ noLend : (Deed.lend size).isLend = false) nofun)
      (fun address token reclaims => absurd reclaims (noReclaim address token))
      fun replica _ => overlooks_debts.endLease (trade.ready place).desk fun _ _ _ => rfl
    exact read.trans (same.trans
      (Record.settle_of_other noLend noReclaim _ trade.record.debts).symm)

/-- In every run the journal leaves the same debts open as the record. -/
theorem debts_run (policy : Policy) (arena : Arena) (turns : List Turn)
    (fits : ∀ turn ∈ turns, turn.Fits) :
    ((opened policy arena).run turns).desk.journal.debts =
      ((opened policy arena).run turns).record.debts := by
  let Balanced : Trade → Prop := fun trade =>
    trade.Accounted ∧ trade.desk.journal.debts = trade.record.debts
  have start : Balanced (opened policy arena) := ⟨accounted_opened policy arena, rfl⟩
  have balanced := run_induction start turns fits fun trade turn allowed books =>
    ⟨books.1.take allowed, debts_take books.1 turn books.2⟩
  exact balanced.2

/-! ### The journal of a run -/

/-- What the journal of a trade can be trusted for, where `returned` is what has come back to the
reserve, and its budget is `budget`. -/
structure Transcribed (trade : Trade) (budget : Budget) (returned : List Traffic) : Prop where
  /-- The loans are those that the journal leaves open: each posted, with no return posted since. -/
  loans : (trade.loans.map Loan.debt).Perm trade.desk.journal.debts
  owed : ∀ debt, debt ∈ trade.loans.map Loan.debt ↔ trade.desk.journal.Open debt
  /-- The replicas made at an address are those released there, and one more if it has an entry. -/
  replicas : ∀ address, trade.desk.journal.created address =
    trade.desk.journal.released address + if (trade.replicas.entry? address).isSome then 1 else 0
  /-- The records of fresh blocks are as many as their counter says, which counts in machine words
  and is exact below their number. -/
  misses : trade.counters.misses = .ofNat trade.desk.journal.misses
  misses_exact : trade.desk.journal.misses < UInt64.size →
    trade.desk.journal.misses = trade.counters.misses.toNat
  /-- What has come back to the reserve is as much as its counter says. -/
  returns : trade.counters.returns = .ofNat (returned.countP Traffic.isReturn)
  /-- The blocks given up on record, and the blocks turned away outright, are as many as their
  counter says. -/
  evictions : trade.counters.evictions = .ofNat
    (trade.desk.journal.evicted + returned.countP (Traffic.isTurnedAway budget))
  evictions_exact :
    trade.desk.journal.evicted + returned.countP (Traffic.isTurnedAway budget) < UInt64.size →
      trade.desk.journal.evicted =
        trade.counters.evictions.toNat - returned.countP (Traffic.isTurnedAway budget)
  /-- The next turn posts nothing if it comes to nothing. -/
  silent : ∀ turn, trade.ComesToNothing turn →
    (trade.take turn).desk.journal.postings = trade.desk.journal.postings

/-- After every run the journal agrees with the state of the lender. -/
theorem transcribed_run (policy : Policy) (arena : Arena) (turns : List Turn)
    (fits : ∀ turn ∈ turns, turn.Fits) :
    ((opened policy arena).run turns).Transcribed policy.budget
      ((opened policy arena).backInRun turns) := by
  have accounted := accounted_run policy arena turns fits
  have debts := debts_run policy arena turns fits
  have reported := reported_run (reported_opened policy arena) turns
  rw [List.nil_append] at reported
  have matched := matched_run (matched_opened policy arena) turns
  generalize (opened policy arena).run turns = trade at accounted debts reported matched
  have balanced : (trade.loans.map Loan.debt).Perm trade.desk.journal.debts :=
    debts ▸ accounted.balanced
  exact
    { loans := balanced
      owed := fun debt => balanced.mem_iff.trans Journal.mem_debts_iff_open
      replicas := matched
      misses := reported.misses
      misses_exact := fun few => by
        rw [counters, reported.misses, UInt64.toNat_ofNat_of_lt' few]
      returns := reported.returns
      evictions := reported.evictions
      evictions_exact := fun few => by
        rw [counters, reported.evictions, UInt64.toNat_ofNat_of_lt' few, Nat.add_sub_cancel]
      silent := fun turn nothing => postings_take nothing }

/-- A loan runs into another one, one is taken back and returned once more, which is ignored, and
one stays open; one replica is released and another one is not; a block that comes back displaces
another one, and a block is turned away. -/
theorem transcribed_run_turbulent :
    let turns : List Turn :=
      [⟨.rent 16, 4096⟩, ⟨.handIn ⟨1, 4096, 16, true⟩, 0⟩, ⟨.share 64 8, 0⟩, ⟨.lend 32, 8192⟩,
        ⟨.lend 48, 8192⟩, ⟨.reclaim 8192 ⟨1⟩, 0⟩, ⟨.reclaim 8192 ⟨1⟩, 0⟩, ⟨.giveBack 64, 0⟩,
        ⟨.share 80 4, 0⟩, ⟨.lend 50, 20480⟩, ⟨.donate 65, 16384⟩, ⟨.giveBack 96, 0⟩]
    let start := opened ⟨⟨64, 4⟩, .ignore⟩ (Arena.startingAt 0 16 16)
    let trade := start.run turns
    (∀ turn ∈ turns, turn.Fits) ∧ trade.Transcribed ⟨64, 4⟩ (start.backInRun turns) ∧
      trade.loans.map Loan.debt = [⟨20480, 50, ⟨3⟩⟩] ∧
      trade.counters = ⟨6, 2, 4, 4, 2⟩ ∧
      (trade.desk.journal.misses, trade.desk.journal.evicted) = (4, 1) ∧
      (start.backInRun turns).countP (Traffic.isTurnedAway ⟨64, 4⟩) = 1 := by
  intro turns start trade
  have fits : ∀ turn ∈ turns, turn.Fits := by decide
  exact ⟨fits, transcribed_run ⟨⟨64, 4⟩, .ignore⟩ (Arena.startingAt 0 16 16) turns fits,
    by decide +kernel, by decide +kernel, by decide +kernel, by decide +kernel⟩

end Trade

end MemoryLending
