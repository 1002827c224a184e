/-
This file says what is left of a call that comes to nothing. A refusal finds the books of the
lender, its replicas, the wrappers and the place of the serving lender as they were, and so does a
request for a block that nobody can have. Only a loan that is refused has used something up: its
token, and whatever it does to a reserve to take a block out and give the same one back.
-/

import MemoryLending.Proofs.Changes
import MemoryLending.Proofs.Roll

namespace MemoryLending

/-- The reserve once it has had to pass a request on. -/
def Reserve.missed (reserve : Reserve) : Reserve :=
  { reserve with
    tally :=
      { reserve.tally with
        requests := reserve.tally.requests + 1, misses := reserve.tally.misses + 1 } }

namespace Lender

/-- The lender after a request for a block that nobody can have. -/
def missed (lender : Lender) : Lender := { lender with reserve := lender.reserve.missed }

end Lender

namespace LoanBook

theorem fault_of_checkEnd {loan : Loan} {bound : Nat} {violation : Violation} {fault : Fault}
    (failed : checkEnd loan bound violation = .error fault) :
    fault = .refused violation ∨ fault = .panicked .addOverflow := by
  unfold checkEnd at failed
  split at failed
  · split at failed <;> cases failed
    exact Or.inl rfl
  · cases failed
    exact Or.inr rfl

/-- No conflict of loans is a want of room for a block. -/
theorem ne_of_enter {book : LoanBook} {loan : Loan} {fault : Fault}
    (failed : book.enter loan = .error fault) : fault ≠ .panicked .capacityOverflow := by
  have ends : ∀ {loan : Loan} {bound : Nat} {violation : Violation},
      checkEnd loan bound violation = .error fault → fault ≠ .panicked .capacityOverflow :=
    fun failed => by rcases fault_of_checkEnd failed with rfl | rfl <;> exact nofun
  cases denied_of_checkRoom (checkRoom_of_enter_error failed) with
  | duplicate live found => exact nofun
  | below lower fault vacant found failed => exact ends failed
  | above upper fault vacant found failed => exact ends failed

end LoanBook

namespace Desk

/-! ### Requests that come to nothing -/

/-- Takes a block of at least `size` bytes out of the reserve, or places a fresh one, and gives it
to the reserve. -/
def borrow (desk : Desk) (size : Nat) : Desk :=
  match desk.procure size with
  | (.ok block, desk) => desk.restore block
  | (.error _, desk) => desk

/-- What has become of a desk at which a block was asked for that nobody can have. -/
structure Missed (before after : Desk) : Prop where
  lender : after.lender = before.lender.missed
  arena : after.arena = before.arena

/-- A request without an answer is counted, and nothing else happens. -/
theorem missed_of_procure {desk after : Desk} {size : Nat} {fault : Fault}
    (drawn : desk.procure size = (.error fault, after)) :
    fault = .panicked .capacityOverflow ∧ desk.Missed after := by
  unfold procure at drawn
  split at drawn
  · cases drawn
  unfold Reserve.request at drawn
  cases taken : Reserve.takeFirst size desk.lender.reserve.kept with
  | some pair =>
    rw [taken] at drawn
    cases drawn
  | none =>
    rw [taken] at drawn
    dsimp only at drawn
    split at drawn
    · cases drawn
      exact ⟨rfl, rfl, rfl⟩
    · cases drawn

/-- What a request for a replica leaves of a desk when it comes to nothing. -/
inductive Foiled (desk : Desk) (size : Nat) : Fault → Desk → Prop where
  | refused (violation : Violation) : Foiled desk size (.refused violation) desk
  | missed (after : Desk) (long : Word.longestBlock < size) (missed : desk.Missed after) :
      Foiled desk size (.panicked .capacityOverflow) after

section Foiled

variable {desk after : Desk} {address size : Nat} {fault : Fault}

theorem foiled_reference (failed : desk.reference address size = (.error fault, after)) :
    desk.Foiled size fault after := by
  have outcome := desk.referencing address size
  rw [failed] at outcome
  cases outcome with
  | refused violation => exact .refused violation
  | failed _ _ missing drawn =>
    have long := desk.long_of_procure drawn
    obtain ⟨rfl, missed⟩ := missed_of_procure drawn
    exact .missed after long missed

theorem foiled_share (failed : desk.share address size = (.error fault, after)) :
    desk.Foiled size fault after := by
  unfold share at failed
  rcases referenced : desk.reference address size with ⟨fault' | replica, between⟩ <;>
    rw [referenced] at failed <;> cases failed
  exact foiled_reference referenced

theorem foiled_takeLease (failed : desk.takeLease address size = (.error fault, after)) :
    desk.Foiled size fault after := by
  unfold takeLease at failed
  rcases referenced : desk.reference address size with ⟨fault' | replica, between⟩ <;>
    rw [referenced] at failed <;> cases failed
  exact foiled_reference referenced

theorem foiled_reach (failed : desk.reach address size = (.error fault, after)) :
    desk.Foiled size fault after := by
  unfold reach at failed
  split at failed
  · cases failed
    exact .refused .nullAddress
  rcases viewed : desk.openView address size with ⟨_ | view, opened⟩ <;> rw [viewed] at failed
  · have unseen := openView_of_none (congrArg Prod.fst viewed)
    rw [viewed] at unseen
    obtain rfl : opened = desk := unseen
    dsimp only at failed
    rcases leased : opened.takeLease address size with ⟨fault' | replica, between⟩ <;>
      rw [leased] at failed <;> cases failed
    exact foiled_takeLease leased
  · cases failed

end Foiled

theorem same_of_reclaim {desk after : Desk} {address : Nat} {token : Token}
    {violation : Violation} (refused : desk.reclaim address token = (.error violation, after)) :
    after = desk := by
  cases found : desk.lender.loans.at? address with
  | some loan =>
    by_cases same : loan.token = token
    · obtain ⟨aside, reclaimed⟩ := reclaim_of_match found same
      cases reclaimed.symm.trans refused
    · cases (reclaim_of_mismatch found same).symm.trans refused
      rfl
  | none =>
    rw [reclaim_of_absent found] at refused
    split at refused <;> cases refused
    rfl

theorem same_of_giveBack {desk after : Desk} {address : Nat} {violation : Violation}
    (refused : desk.giveBack address = (.error violation, after)) : after = desk := by
  cases found : desk.lender.replicas.entry? address with
  | none =>
    cases (giveBack_of_absent found).symm.trans refused
    rfl
  | some entry =>
    by_cases last : entry.references - 1 = 0
    · obtain ⟨aside, given⟩ := giveBack_of_last found last
      cases given.symm.trans refused
    · cases (giveBack_of_more found last).symm.trans refused

/-! ### Loans that come to nothing -/

theorem lender_restore (desk : Desk) (block : Block) :
    (desk.restore block).lender =
      { desk.lender with reserve := (desk.lender.reserve.restore block).2 } := by
  unfold restore
  dsimp only
  split <;> rfl

theorem pooled_of_procure {desk after : Desk} {size : Nat} {block : Block}
    (stocked : desk.lender.Stocked) (drawn : desk.procure size = (.ok block, after)) :
    block.pooled = true := by
  have outcome := desk.procured size
  rw [drawn] at outcome
  cases outcome with
  | nothing zero => rfl
  | kept block rest aside positive taken =>
    exact stocked block (Reserve.mem_of_takeFirst taken)
  | fresh aside positive missing short => rfl

/-- To borrow no bytes does nothing to a reserve. -/
theorem reserve_borrow_zero (desk : Desk) :
    (desk.borrow 0).lender.reserve = desk.lender.reserve := by
  have drawn : desk.procure 0 = (.ok Block.empty, desk) := if_pos rfl
  unfold borrow
  rw [drawn]
  dsimp only
  rw [lender_restore]
  exact Reserve.restore_of_empty _ rfl

/-- What a loan leaves of a desk when it comes to nothing. -/
inductive Unlent (desk : Desk) (size : Nat) : Fault → Desk → Prop where
  | conflict (fault : Fault) (after : Desk) (other : fault ≠ .panicked .capacityOverflow)
      (arena : after.arena = (desk.blockFor size).2.arena)
      (lender : after.lender = { desk.lender with
        nextToken := desk.lender.nextToken.next
        reserve := (desk.borrow size).lender.reserve }) : Unlent desk size fault after
  | missed (after : Desk) (long : Word.longestBlock < size) (missed : desk.Missed after) :
      Unlent desk size (.panicked .capacityOverflow) after

theorem unlent {desk after : Desk} {size : Nat} {fault : Fault} (stocked : desk.lender.Stocked)
    (failed : desk.lend size = (.error fault, after)) : desk.Unlent size fault after := by
  unfold lend at failed
  by_cases zero : size = 0
  · subst zero
    have drawn : desk.blockFor 0 =
        (.ok (desk.arena.nextBlock 1 false), { desk with arena := desk.arena.place 1 }) :=
      if_pos rfl
    rw [drawn] at failed
    dsimp only at failed
    split at failed <;> cases failed
    rename_i conflict
    refine .conflict fault _ (LoanBook.ne_of_enter conflict) ?_ ?_
    · rw [drawn]
      rfl
    · rw [reserve_borrow_zero]
      rfl
  have same : desk.blockFor size = desk.procure size := if_neg zero
  rw [same] at failed
  rcases drawn : desk.procure size with ⟨fault' | block, between⟩ <;> rw [drawn] at failed
  · cases failed
    have long := desk.long_of_procure drawn
    obtain ⟨rfl, missed⟩ := missed_of_procure drawn
    exact .missed _ long missed
  · dsimp only at failed
    split at failed <;> cases failed
    rename_i conflict
    have retired : between.drawToken.retireBlock block = between.drawToken.restore block :=
      if_pos (pooled_of_procure stocked drawn)
    have lender := desk.lender_procure size
    rw [drawn] at lender
    refine .conflict fault _ (LoanBook.ne_of_enter conflict) ?_ ?_
    · rw [same, drawn]
      exact overlooks_arena.retireBlock between.drawToken block
    · have token : between.drawToken.lender = { desk.lender with
          nextToken := desk.lender.nextToken.next, reserve := between.lender.reserve } := by
        unfold drawToken
        rw [lender]
      unfold borrow
      rw [drawn, retired, lender_restore, token]
      dsimp only
      rw [lender_restore]

end Desk

namespace Office

/-- The lenders, the wrappers, who serves native code, and whether the process sweeps at its
end. -/
def books (office : Office) : Array Lender × Array Wrapper × Option Nat × Bool :=
  (office.lenders, office.wrappers, office.served, office.sweepsAtExit)

/-- Puts another lender in the place of one. -/
def withLender (office : Office) (index : Nat) (lender : Lender) : Office :=
  { office with lenders := office.lenders.setIfInBounds index lender }

theorem books_withDesk (office : Office) (index : Nat) (desk : Desk) :
    (office.withDesk index desk).books = (office.withLender index desk.lender).books := rfl

theorem withDesk_desk (office : Office) (index : Nat) :
    office.withDesk index (office.desk index) = office := by
  have same : office.lenders.setIfInBounds index (office.lenders.getD index default) =
      office.lenders := by
    refine Array.ext Array.size_setIfInBounds fun other inRange inRange' => ?_
    rw [Array.getElem_setIfInBounds]
    split
    · rename_i here
      subst here
      rw [Array.getD_eq_getD_getElem?, Array.getElem?_eq_getElem inRange']
      rfl
    · rfl
  exact congrArg (fun lenders => { office with lenders }) same

end Office

/-! ### Calls -/

/-- A call that can be refused. -/
inductive Call where
  | lend (size : Nat)
  | reclaim (address : Nat) (token : Token)
  | share (address size : Nat)
  | giveBack (address : Nat)
  | takeLease (address size : Nat)
  | reach (address size : Nat)
  /-- A party of any conduct is offered the callbacks. -/
  | engage (conduct : Conduct) (wrapper : WrapperId)

namespace Call

open MemoryLending.Action

/-- Calls a lender. -/
def place (lender : Nat) : Call → Action Unit
  | .lend size => discard (atDesk lender (·.lend size))
  | .reclaim address token => atDesk lender (orRefuse (·.reclaim address token))
  | .share address size => discard (atDesk lender (·.share address size))
  | .giveBack address => atDesk lender (orRefuse (·.giveBack address))
  | .takeLease address size => discard (atDesk lender (·.takeLease address size))
  | .reach address size => discard (atDesk lender (·.reach address size))
  | .engage conduct wrapper => do
    let (_, outcome) ← engageWith lender conduct wrapper
    match outcome with
    | .ok () => return ()
    | .error violation => refuse violation

/-- Whether a call is for a loan. -/
def isLend : Call → Bool
  | .lend _ => true
  | _ => false

/-- Whether a call is answered at the desk of the lender alone. -/
def isDesk : Call → Bool
  | .engage .. => false
  | _ => true

/-- If a party refuses, it says so in its answer and has left the lenders, the wrappers and the
place of the serving lender alone. -/
def Discreet (office : Office) : Call → Prop
  | .engage conduct _ => ∀ after,
      (∀ grants violation, conduct office = (.ok (grants, .error violation), after) →
        after.books = office.books) ∧
      ∀ violation, conduct office ≠ (.error (.refused violation), after)
  | _ => True

/-- The length of the block that is asked for. -/
def length? : Call → Option Nat
  | .lend size | .share _ size | .takeLease _ size | .reach _ size => some size
  | _ => none

/-- What is left of a call to a lender that comes to nothing. -/
structure Atomic (call : Call) (lender : Nat) (office : Office) : Prop where
  /-- A refusal leaves everything as it was, unless a loan was asked for. -/
  refused : ∀ violation after, call.isLend = false →
    call.place lender office = (.error (.refused violation), after) →
      after.books = office.books ∧ (call.isDesk = true → after.arena = office.arena)
  /-- A loan that is refused has used up a token, and its block has come and gone. -/
  unlent : ∀ size violation after, call = .lend size →
    call.place lender office = (.error (.refused violation), after) →
      after.books = (office.withLender lender
        { office.lender lender with
          nextToken := (office.lender lender).nextToken.next
          reserve := ((office.desk lender).borrow size).lender.reserve }).books ∧
      after.arena = ((office.desk lender).blockFor size).2.arena
  /-- To borrow no bytes does nothing to the reserve. -/
  nothing : ((office.desk lender).borrow 0).lender.reserve = (office.lender lender).reserve
  /-- A request for a block that nobody can have is counted, and nothing else happens. -/
  panicked : ∀ after, call.isDesk = true →
    call.place lender office = (.error (.panicked .capacityOverflow), after) →
      (∃ size, call.length? = some size ∧ Word.longestBlock < size) ∧
      after.books = (office.withLender lender (office.lender lender).missed).books ∧
      after.arena = office.arena

variable {office after : Office} {lender : Nat} {fault : Fault}

theorem failed_of_atDesk {Answer : Type} {work : Desk → Except Fault Answer × Desk}
    (failed : Functor.discard (atDesk lender work) office = (.error fault, after)) :
    ∃ desk, work (office.desk lender) = (.error fault, desk) ∧
      after = office.withDesk lender desk := by
  rw [run_discard] at failed
  unfold atDesk at failed
  dsimp only at failed
  rcases worked : work (office.desk lender) with ⟨fault' | answer, desk⟩ <;>
    rw [worked] at failed <;> cases failed
  exact ⟨desk, rfl, rfl⟩

theorem failed_of_orRefuse {work : Desk → Except Violation Unit × Desk}
    (failed : atDesk lender (orRefuse work) office = (.error fault, after)) :
    ∃ violation desk, work (office.desk lender) = (.error violation, desk) ∧
      fault = .refused violation ∧ after = office.withDesk lender desk := by
  unfold atDesk orRefuse at failed
  dsimp only at failed
  rcases worked : work (office.desk lender) with ⟨violation | answer, desk⟩ <;>
    rw [worked] at failed <;> cases failed
  exact ⟨violation, desk, rfl, rfl, rfl⟩

theorem same_of_engage (manned : office.Manned) {conduct : Conduct} {wrapper : WrapperId}
    {violation : Violation} (discreet : (engage conduct wrapper).Discreet (offering office lender))
    (refused : (engage conduct wrapper).place lender office =
      (.error (.refused violation), after)) : after.books = office.books := by
  have outcome := engaging manned lender conduct wrapper
  have ran := run_bind (engageWith lender conduct wrapper) (fun answer =>
    match answer.2 with
    | .ok () => return ()
    | .error violation => refuse violation) office
  have placed := ran.symm.trans refused
  generalize engageWith lender conduct wrapper office = result at outcome placed
  cases outcome with
  | serving served => cases placed
  | taken other served different =>
    cases placed
    rfl
  | refused grants violation' after' free came =>
    cases placed
    have same := (discreet after').1 grants _ came
    have lenders : after'.lenders = office.lenders := congrArg (·.1) same
    have wrappers : after'.wrappers = office.wrappers := congrArg (·.2.1) same
    have sweeps : after'.sweepsAtExit = office.sweepsAtExit := congrArg (·.2.2.2) same
    unfold Office.books
    rw [lenders, wrappers, sweeps, free]
  | accepted grants after' free accepted => cases placed
  | failed fault after' free failed =>
    cases placed
    exact absurd failed ((discreet after).2 violation)

theorem atomic_of_foiled {call : Call} {size : Nat} (other : call.isLend = false)
    (length : call.length? = some size)
    (foiled : ∀ fault after, call.place lender office = (.error fault, after) →
      ∃ desk, (office.desk lender).Foiled size fault desk ∧ after = office.withDesk lender desk) :
    call.Atomic lender office where
  refused violation after _ failed := by
    obtain ⟨desk, outcome, rfl⟩ := foiled _ _ failed
    cases outcome with
    | refused => rw [office.withDesk_desk]; exact ⟨rfl, fun _ => rfl⟩
  unlent size violation after asked := by
    rw [asked] at other
    cases other
  nothing := (office.desk lender).reserve_borrow_zero
  panicked after _ failed := by
    obtain ⟨desk, outcome, rfl⟩ := foiled _ _ failed
    cases outcome with
    | missed _ long missed =>
      refine ⟨⟨size, length, long⟩, ?_, missed.arena⟩
      rw [office.books_withDesk, missed.lender]
      rfl

theorem atomic_of_refusal {call : Call} (other : call.isLend = false)
    (refuses : ∀ fault after, call.place lender office = (.error fault, after) →
      ∃ violation, fault = .refused violation ∧ after = office) : call.Atomic lender office where
  refused violation after _ failed := by
    obtain ⟨_, -, rfl⟩ := refuses _ _ failed
    exact ⟨rfl, fun _ => rfl⟩
  unlent size violation after asked := by
    rw [asked] at other
    cases other
  nothing := (office.desk lender).reserve_borrow_zero
  panicked after _ failed := by
    obtain ⟨_, refused, -⟩ := refuses _ _ failed
    cases refused

theorem atomic_lend (stocked : (office.lender lender).Stocked) (size : Nat) :
    (lend size).Atomic lender office where
  refused _ _ other := by cases other
  unlent size violation after asked failed := by
    cases asked
    obtain ⟨desk, worked, rfl⟩ := failed_of_atDesk failed
    have outcome := Desk.unlent (show (office.desk lender).lender.Stocked from stocked) worked
    cases outcome with
    | conflict _ _ _ arena left =>
      rw [office.books_withDesk, left]
      exact ⟨rfl, arena⟩
  nothing := (office.desk lender).reserve_borrow_zero
  panicked after _ failed := by
    obtain ⟨desk, worked, rfl⟩ := failed_of_atDesk failed
    have outcome := Desk.unlent (show (office.desk lender).lender.Stocked from stocked) worked
    cases outcome with
    | conflict _ _ other => exact absurd rfl other
    | missed _ long missed =>
      refine ⟨⟨size, rfl, long⟩, ?_, missed.arena⟩
      rw [office.books_withDesk, missed.lender]
      rfl

theorem atomic_engage (manned : office.Manned) {conduct : Conduct} {wrapper : WrapperId}
    (discreet : (engage conduct wrapper).Discreet (offering office lender)) :
    (engage conduct wrapper).Atomic lender office where
  refused _ _ _ refused := ⟨same_of_engage manned discreet refused, nofun⟩
  unlent _ _ _ asked := by cases asked
  nothing := (office.desk lender).reserve_borrow_zero
  panicked _ desk := by cases desk

theorem atomic (manned : office.Manned) (stocked : (office.lender lender).Stocked) {call : Call}
    (discreet : call.Discreet (offering office lender)) : call.Atomic lender office := by
  cases call with
  | lend size => exact atomic_lend stocked size
  | reclaim address token =>
    refine atomic_of_refusal rfl fun fault after failed => ?_
    obtain ⟨violation, desk, worked, refused, rfl⟩ :=
      @failed_of_orRefuse _ _ _ _ (·.reclaim address token) failed
    exact ⟨violation, refused, Desk.same_of_reclaim worked ▸ office.withDesk_desk lender⟩
  | share address size =>
    refine atomic_of_foiled rfl rfl fun fault after failed => ?_
    obtain ⟨desk, worked, rfl⟩ := failed_of_atDesk failed
    exact ⟨desk, Desk.foiled_share worked, rfl⟩
  | giveBack address =>
    refine atomic_of_refusal rfl fun fault after failed => ?_
    obtain ⟨violation, desk, worked, refused, rfl⟩ :=
      @failed_of_orRefuse _ _ _ _ (·.giveBack address) failed
    exact ⟨violation, refused, Desk.same_of_giveBack worked ▸ office.withDesk_desk lender⟩
  | takeLease address size =>
    refine atomic_of_foiled rfl rfl fun fault after failed => ?_
    obtain ⟨desk, worked, rfl⟩ := failed_of_atDesk failed
    exact ⟨desk, Desk.foiled_takeLease worked, rfl⟩
  | reach address size =>
    refine atomic_of_foiled rfl rfl fun fault after failed => ?_
    obtain ⟨desk, worked, rfl⟩ := failed_of_atDesk failed
    exact ⟨desk, Desk.foiled_reach worked, rfl⟩
  | engage conduct wrapper => exact atomic_engage manned discreet

theorem books_offer (office : Office) (party : Party)
    (quiet : ∀ index, party = .host index → (office.hosts.getD index default).early = []) :
    (offer party office).2.books = office.books := by
  cases party with
  | host index =>
    have found : host index office = (.ok (office.hosts.getD index default), office) := rfl
    have connected : connectHost index true office =
        (.ok (), (connectHost index true office).2) := rfl
    unfold offer
    dsimp only
    rw [run_bind_of_ok found, run_bind_of_ok connected, quiet index rfl]
    rfl
  | sensor index =>
    have found : sensor index office = (.ok (office.sensors.getD index default), office) := rfl
    unfold offer
    dsimp only
    rw [run_bind_of_ok found]
    split <;> rfl

/-- A host that asks for nothing at once, and every sensor, leaves the books alone. -/
theorem discreet_offer (office : Office) (party : Party) (wrapper : WrapperId)
    (quiet : ∀ index, party = .host index → (office.hosts.getD index default).early = []) :
    (engage (offer party) wrapper).Discreet office := by
  have same := books_offer office party quiet
  refine fun after => ⟨fun grants violation came => ?_, fun violation came => ?_⟩
  · rw [came] at same
    exact same
  · cases onlyAborts_offer party office _ after came

end Call

namespace Process

/-- In every process that goes on, the two records of who serves agree. -/
theorem manned_run {process : Process} (manned : process.office.Manned) {tasks : List Task}
    (going : (process.run tasks).ended = false) : (process.run tasks).office.Manned := by
  induction tasks generalizing process with
  | nil => exact manned
  | cons task rest inductionHypothesis =>
    exact inductionHypothesis (steady_take manned task (going_of_run going)).manned going

/-- In every process that goes on, a call that comes to nothing leaves everything as it was, but
for the token and the block of a loan and for two counters of the reserve. -/
theorem calls_atomic (arena : Arena) (policies : List Policy) (tasks : List Task)
    (going : ((start arena policies).run tasks).ended = false) (places : List Nat) (lender : Nat)
    (call : Call) (discreet :
      call.Discreet (Action.offering (((start arena policies).run tasks).ready places) lender)) :
    call.Atomic lender (((start arena policies).run tasks).ready places) := by
  have stocked := (stocked_run arena policies tasks lender).kept
  have manned := manned_run (manned_start arena policies) going
  have same : (((start arena policies).run tasks).ready places).post =
      ((start arena policies).run tasks).office.post := rfl
  exact Call.atomic (manned.of_post same) stocked discreet

/-- A loan at an address where one is live: it is refused, its token is used up, and its block is
all that the reserve has got. -/
theorem calls_atomic_duplicate :
    let tasks : List Task := [.turn 0 ⟨.lend 16, 4096⟩]
    let process := (start (Arena.startingAt 4096 16 16) [Policy.standard]).run tasks
    let call : Call := .lend 24
    let refused := call.place 0 (process.ready [4096])
    process.ended = false ∧ call.Atomic 0 (process.ready [4096]) ∧
      refused.1 = .error (.refused (.duplicate 4096)) ∧
        (refused.2.lender 0).nextToken = ⟨3⟩ ∧
          (refused.2.lender 0).loans.toList = [⟨⟨1⟩, ⟨1, 4096, 16, true⟩, 16⟩] ∧
            (refused.2.lender 0).reserve.kept = [⟨2, 4096, 24, true⟩] := by
  intro tasks process call refused
  have going : process.ended = false := by decide +kernel
  have atomic : call.Atomic 0 (process.ready [4096]) :=
    calls_atomic _ _ tasks going [4096] 0 call trivial
  refine ⟨going, atomic, ?_, ?_, ?_, ?_⟩ <;> decide +kernel

end Process

end MemoryLending
