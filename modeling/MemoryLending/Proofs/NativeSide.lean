/-
This file says what native code meets when it calls back. In every process that goes on over a
heap and whose callbacks a lender serves, an allocation is answered with null exactly if it asks
for less than nothing or leaves no place for the token, and then nothing happens; any other one
is a new loan at an address and under a token that nobody else has. A return comes back exactly if
it returns a loan, or if the lender lets unknown addresses pass; anything else ends the process.
When the process ends, the sweep of the serving lender decides whether it ends well.
-/

import MemoryLending.Proofs.Sweeping

namespace MemoryLending

/-! ### Pairs in native hands -/

namespace Office

/-- An address and a token that went out together and have not been returned. -/
def Live (office : Office) (lender address : Nat) (token : Token) : Prop :=
  ∃ loan ∈ (office.lender lender).loans.toList, loan.base = address ∧ loan.token = token

/-- An address at which a loan begins. -/
def Begins (office : Office) (lender address : Nat) : Prop :=
  ∃ loan ∈ (office.lender lender).loans.toList, loan.base = address

instance decidableLive (office : Office) (lender address : Nat) (token : Token) :
    Decidable (office.Live lender address token) :=
  inferInstanceAs (Decidable (∃ loan ∈ (office.lender lender).loans.toList, _))

theorem Live.begins {office : Office} {lender address : Nat} {token : Token}
    (live : office.Live lender address token) : office.Begins lender address := by
  obtain ⟨loan, member, base, -⟩ := live
  exact ⟨loan, member, base⟩

theorem Orderly.sound {office : Office} {rented : Nat → List Block}
    (orderly : office.Orderly rented) {lender : Nat} (inRange : lender < office.lenders.size) :
    (office.lender lender).loans.Sound := by
  obtain ⟨record, housed⟩ := orderly lender inRange
  exact housed.tended.accounted.sound

end Office

/-- What taking a loan back can come to, on a book in order. -/
inductive Desk.Reclaiming (desk : Desk) (address : Nat) (token : Token) :
    Except Violation Unit × Desk → Prop where
  | settled (loan : Loan) (after : Desk) (member : loan ∈ desk.lender.loans.toList)
      (base : loan.base = address) (same : loan.token = token)
      (struck : (loan :: after.lender.loans.toList).Perm desk.lender.loans.toList) :
      Reclaiming desk address token (.ok (), after)
  | mistaken (loan : Loan) (violation : Violation) (member : loan ∈ desk.lender.loans.toList)
      (base : loan.base = address) (other : loan.token ≠ token) :
      Reclaiming desk address token (.error violation, desk)
  | rejected (violation : Violation)
      (absent : ∀ loan ∈ desk.lender.loans.toList, loan.base ≠ address)
      (policy : desk.lender.policy.unknownReturn = .reject) :
      Reclaiming desk address token (.error violation, desk)
  | ignored (after : Desk) (absent : ∀ loan ∈ desk.lender.loans.toList, loan.base ≠ address)
      (policy : desk.lender.policy.unknownReturn = .ignore) (same : after.lender = desk.lender) :
      Reclaiming desk address token (.ok (), after)

theorem Desk.reclaiming {desk : Desk} (ordered : desk.lender.loans.Ordered) (address : Nat)
    (token : Token) : desk.Reclaiming address token (desk.reclaim address token) := by
  cases found : desk.lender.loans.at? address with
  | some loan =>
    obtain ⟨member, base⟩ := (LoanBook.at?_eq_some_iff ordered).mp found
    by_cases same : loan.token = token
    · obtain ⟨aside, reclaimed⟩ := reclaim_of_match found same
      rw [reclaimed]
      exact .settled loan _ member base same (LoanBook.perm_strike found)
    · rw [reclaim_of_mismatch found same]
      exact .mistaken loan _ member base same
  | none =>
    have absent := (LoanBook.at?_eq_none_iff ordered).mp found
    rw [reclaim_of_absent found]
    cases policy : desk.lender.policy.unknownReturn with
    | reject => exact .rejected _ absent policy
    | ignore => exact .ignored _ absent policy rfl

namespace Action

/-! ### Allocations -/

/-- A new loan has come about for native code. -/
structure Allocated (office : Office) (lender size : Nat) (granted : List Token) (grant : Grant)
    (after : Office) : Prop where
  present : grant.address ≠ 0
  clear : ¬office.Begins lender grant.address
  marked : grant.context.raw ≠ 0
  fresh : grant.context ∉ granted
  /-- The book has the new loan and otherwise what it had. -/
  entered : ∃ loan : Loan, loan.base = grant.address ∧ loan.token = grant.context ∧
    loan.length = size ∧
      (after.lender lender).loans.toList.Perm (loan :: (office.lender lender).loans.toList)

section Allocate

variable {office : Office} {rented : Nat → List Block} {granted : Nat → List Token}

/-- Where there is nothing to lend or nowhere to put the token, nothing happens. -/
theorem answerAllocate_of_unmet {size : Int} {hasContext : Bool}
    (unmet : size < 0 ∨ hasContext = false) :
    ∃ event, answerAllocate size hasContext office =
      (.ok none, { office with journal := event :: office.journal }) := by
  have outcome := allocating office size hasContext
  have met : 0 ≤ size → hasContext = true → False := fun positive given => by
    rcases unmet with negative | missing
    · omega
    · exact Bool.false_ne_true (missing.symm.trans given)
  generalize answerAllocate size hasContext office = result at outcome
  cases outcome with
  | null event => exact ⟨event, rfl⟩
  | granted _ _ _ _ _ positive given => exact (met positive given).elim
  | refused _ _ _ _ positive given => exact (met positive given).elim
  | aborted _ _ _ _ positive given => exact (met positive given).elim

/-- Native code is always answered, whether or not the tokens have come round. -/
theorem answered_of_houses (inOrder : office.InOrder rented granted) {lender : Nat}
    (served : office.served = some lender) (inRange : lender < office.lenders.size) {size : Int}
    (small : size ≤ Sensor.longestFrame) {hasContext : Bool}
    (houses : hasContext = true → office.Houses rented size) :
    ∃ given after, answerAllocate size hasContext office = (.ok given, after) := by
  by_cases unmet : size < 0 ∨ hasContext = false
  · obtain ⟨event, answered⟩ := @answerAllocate_of_unmet office size hasContext unmet
    exact ⟨_, _, answered⟩
  obtain ⟨negative, given⟩ := not_or.mp unmet
  have positive := Int.not_lt.mp negative
  obtain rfl := Bool.eq_true_of_not_eq_false given
  rw [answerAllocate_of_served served positive]
  rcases inOrder.orderly.lent (houses rfl lender served positive) inRange with
    ⟨desk, lent, beyond⟩ | ⟨block, desk, lent, -⟩
  · have bound : Sensor.longestFrame ≤ Word.longestBlock := by decide
    have long := beyond.long
    omega
  · rw [lent]
    exact ⟨_, _, rfl⟩

theorem allocated_of_houses (inOrder : office.InOrder rented granted) {lender : Nat}
    (served : office.served = some lender) (inRange : lender < office.lenders.size) {size : Int}
    (positive : 0 ≤ size) (small : size ≤ Sensor.longestFrame) (houses : office.Houses rented size)
    (few : (granted lender).length < UInt64.size - 1) :
    ∃ grant after, answerAllocate size true office = (.ok (some grant), after) ∧
      Allocated office lender size.toNat (granted lender) grant after := by
  have short : size.toNat ≤ Word.longestBlock := by
    have bound : Sensor.longestFrame ≤ Word.longestBlock := by decide
    omega
  have fresh := (inOrder.ticketed lender inRange).fresh few
  rw [answerAllocate_of_served served positive]
  rcases inOrder.orderly.lent (houses lender served positive) inRange with
    ⟨desk, lent, beyond⟩ | ⟨block, desk, lent, entered⟩
  · exact absurd short (Nat.not_le_of_lt beyond.long)
  · rw [lent]
    refine ⟨_, _, rfl, entered.present, ?_, fresh.1, fresh.2, ?_⟩
    · rintro ⟨loan, member, same⟩
      exact entered.clear loan member same
    · refine ⟨⟨_, block, size.toNat⟩, rfl, rfl, rfl, ?_⟩
      rw [Office.lender_withDesk, if_pos ⟨rfl, inRange⟩]
      exact entered.loans

end Allocate

/-! ### Returns -/

/-- What a return comes to. -/
structure Frees (office : Office) (lender address : Nat) (context : Token) : Prop where
  back : (answerFree address context office).1 = .ok () ↔
    office.Live lender address context ∨
      (office.lender lender).policy.unknownReturn = .ignore ∧ ¬office.Begins lender address
  ends : (answerFree address context office).1 ≠ .ok () →
    (answerFree address context office).1 = .error .aborted
  /-- What is returned is taken out of the book, and nothing else. -/
  released : office.Live lender address context → ∃ loan : Loan, loan.base = address ∧
    loan.token = context ∧
      (loan :: ((answerFree address context office).2.lender lender).loans.toList).Perm
        (office.lender lender).loans.toList
  ignored : ¬office.Live lender address context →
    (answerFree address context office).2.lender lender = office.lender lender

theorem answerFree_of_served {office : Office} {lender : Nat} (served : office.served = some lender)
    (address : Nat) (context : Token) :
    answerFree address context office =
      match (office.desk lender).reclaim address context with
      | (.ok (), desk) => (.ok (), office.withDesk lender desk)
      | (.error violation, desk) =>
        (.error .aborted,
          (log (.freeBrokeContract violation) (office.withDesk lender desk)).2) := by
  have outcome := freeing office address context
  generalize answerFree address context office = result at outcome
  cases outcome with
  | unserved free => cases served.symm.trans free
  | returned other desk served' reclaimed =>
    cases served.symm.trans served'
    rw [reclaimed]
  | broke other violation desk served' reclaimed =>
    cases served.symm.trans served'
    rw [reclaimed]

theorem frees {office : Office} {lender : Nat} (served : office.served = some lender)
    (inRange : lender < office.lenders.size) (ordered : (office.lender lender).loans.Ordered)
    (address : Nat) (context : Token) : Frees office lender address context := by
  have came := answerFree_of_served served address context
  have outcome := @Desk.reclaiming (office.desk lender) ordered address context
  have worked : ∀ desk : Desk, (office.withDesk lender desk).lender lender = desk.lender := by
    intro desk
    rw [Office.lender_withDesk, if_pos ⟨rfl, inRange⟩]
  generalize (office.desk lender).reclaim address context = result at came outcome
  cases outcome with
  | settled loan after member base same struck =>
    have live : office.Live lender address context := ⟨loan, member, base, same⟩
    dsimp only at came
    refine ⟨?_, ?_, fun _ => ⟨loan, base, same, ?_⟩, fun dead => absurd live dead⟩
    · rw [came]
      exact iff_of_true rfl (Or.inl live)
    · rw [came]
      exact fun failed => absurd rfl failed
    · rw [came, worked]
      exact struck
  | mistaken loan violation member base other =>
    have dead : ¬office.Live lender address context := by
      rintro ⟨loan', member', base', same⟩
      exact other (ordered.eq_of_base member member' (base.trans base'.symm) ▸ same)
    dsimp only at came
    refine ⟨?_, ?_, fun live => absurd live dead, fun _ => ?_⟩
    · rw [came]
      refine iff_of_false nofun ?_
      rintro (live | ⟨-, absent⟩)
      · exact dead live
      · exact absent ⟨loan, member, base⟩
    · rw [came]
      exact fun _ => rfl
    · rw [came]
      exact worked (office.desk lender)
  | rejected violation absent policy =>
    have unknown : ¬office.Begins lender address := by
      rintro ⟨loan, member, base⟩
      exact absent loan member base
    dsimp only at came
    refine ⟨?_, ?_, fun live => absurd live.begins unknown, fun _ => ?_⟩
    · rw [came]
      refine iff_of_false nofun ?_
      rintro (live | ⟨ignores, -⟩)
      · exact unknown live.begins
      · cases policy.symm.trans ignores
    · rw [came]
      exact fun _ => rfl
    · rw [came]
      exact worked (office.desk lender)
  | ignored after absent policy same =>
    have unknown : ¬office.Begins lender address := by
      rintro ⟨loan, member, base⟩
      exact absent loan member base
    dsimp only at came
    refine ⟨?_, ?_, fun live => absurd live.begins unknown, fun _ => ?_⟩
    · rw [came]
      exact iff_of_true rfl (Or.inr ⟨policy, unknown⟩)
    · rw [came]
      exact fun failed => absurd rfl failed
    · rw [came]
      exact (worked after).trans same

end Action

namespace Process

open MemoryLending.Action

/-! ### Processes with a serving lender -/

/-- What a well-behaved native layer does: it allocates where the heap has places, and returns
what it holds. -/
def Faithful (lender : Nat) (process : Process) : Task → Prop
  | .errand (.allocate size hasContext) places =>
    size ≤ Sensor.longestFrame ∧ process.Houses (.errand (.allocate size hasContext) places)
  | .errand (.free address context) _ => process.office.Live lender address context
  | _ => False

/-- What native code meets in a process whose callbacks a lender serves. -/
structure NativeSide (process : Process) (lender : Nat) : Prop where
  /-- An allocation is answered with null exactly if it asks for less than nothing or has no place
  for the token. -/
  null : ∀ (size : Int) hasContext places, size ≤ Sensor.longestFrame →
    (hasContext = true → (process.ready places).Houses process.rented size) →
      (process.granted lender).length < UInt64.size - 1 →
        ((answerAllocate size hasContext (process.ready places)).1 = .ok none ↔
          size < 0 ∨ hasContext = false)
  /-- And then nothing happens but a record. -/
  unmet : ∀ (size : Int) hasContext places, size < 0 ∨ hasContext = false → ∃ event,
    answerAllocate size hasContext (process.ready places) =
      (.ok none, { process.ready places with journal := event :: process.office.journal })
  /-- Any other allocation is a new loan, at an address and under a token of its own. -/
  allocated : ∀ (size : Int) places, 0 ≤ size → size ≤ Sensor.longestFrame →
    (process.ready places).Houses process.rented size →
      (process.granted lender).length < UInt64.size - 1 → ∃ grant after,
        answerAllocate size true (process.ready places) = (.ok (some grant), after) ∧
          Allocated (process.ready places) lender size.toNat (process.granted lender) grant after
  frees : ∀ address context places, Frees (process.ready places) lender address context
  /-- The process ends well exactly if no loan is left when the wrappers have been retired. -/
  exits : ∀ counts mid, retiring lender process.office = (.ok counts, mid) →
    ((exit process.office).1 = .error .aborted ↔ (mid.lender lender).loans.toList ≠ []) ∧
      ((exit process.office).1 = .ok () ↔ (mid.lender lender).loans.toList = [])
  /-- Native code that returns what it holds, and nothing else, never ends the process. Once it
  has returned everything, the process ends well too. -/
  faithful : ∀ tasks, Throughout take (Faithful lender) process tasks →
    (process.run tasks).ended = false ∧
      (((process.run tasks).office.lender lender).loans.toList = [] → ∀ counts mid,
        retiring lender (process.run tasks).office = (.ok counts, mid) →
          (exit (process.run tasks).office).1 = .ok ())

theorem Running.ready {process : Process} (running : process.Running) (places : List Nat) :
    (process.ready places).InOrder process.rented process.granted := by
  have keeps : process.office.Keeps (process.ready places) :=
    Office.keeps_of_lenders rfl (Nat.le_refl process.office.arena.identities)
  exact keeps.inOrder running.inOrder

theorem houses_of_faithful {process : Process} {lender : Nat} {task : Task}
    (faithful : process.Faithful lender task) : process.Houses task := by
  unfold Faithful at faithful
  split at faithful
  · exact faithful.2
  · trivial
  · exact faithful.elim

section Native

variable {process : Process} (running : process.Running) {lender : Nat}
  (served : process.office.served = some lender)

include running served

theorem frees_ready (address : Nat) (context : Token) (places : List Nat) :
    Frees (process.ready places) lender address context := by
  have inRange := running.manned.inRange served
  have sound := @Office.Orderly.sound _ _ (running.ready places).orderly lender inRange
  exact @frees (process.ready places) lender served inRange sound.ordered address context

/-- Nothing that a well-behaved native layer does ends the process. -/
theorem going_of_faithful (going : process.ended = false) {task : Task}
    (faithful : process.Faithful lender task) : (process.take task).ended = false := by
  have inRange := running.manned.inRange served
  unfold take
  rw [if_neg (Bool.eq_false_iff.mp going)]
  unfold Faithful at faithful
  split at faithful
  · rename_i size hasContext places
    obtain ⟨small, houses⟩ := faithful
    obtain ⟨given, after, answered⟩ :=
      answered_of_houses (running.ready places) served inRange small houses
    have ran := Errand.conduct_allocate size hasContext (process.ready places)
    rw [answered] at ran
    exact @going_of_answer process going (.allocate size hasContext) places _ after ran
  · rename_i address context places
    have frees := frees_ready running served address context places
    have back := frees.back.mpr (Or.inl faithful)
    have ran := run_bind_pure (answerFree address context) (fun _ => ([] : List Token))
      (process.ready places)
    rw [back] at ran
    exact @going_of_answer process going (.free address context) places _ _ ran
  · exact faithful.elim

/-- What holds of the process is kept while the native layer is well-behaved. -/
theorem kept_of_faithful (going : process.ended = false) {tasks : List Task}
    (faithful : Throughout take (Faithful lender) process tasks) :
    (process.run tasks).ended = false ∧ (process.run tasks).Running ∧
      (process.run tasks).office.served = some lender := by
  refine @throughout_induction _ _ _ _ (fun later =>
    later.ended = false ∧ later.Running ∧ later.office.served = some lender) process
    ⟨going, running, served⟩ tasks faithful ?_
  rintro later task faithful ⟨going, running, served⟩
  have going' := going_of_faithful running served going faithful
  have steady := steady_take running.manned task going'
  exact ⟨going', running.take (houses_of_faithful faithful) going',
    (steady.taken (served ▸ rfl)).trans served⟩

/-- How a process ends whose callbacks a lender serves. -/
theorem exit_of_served {counts : Nat × Nat} {mid : Office}
    (done : retiring lender process.office = (.ok counts, mid)) :
    (exit process.office).1 =
      if (mid.lender lender).loans.toList = [] then .ok () else .error .aborted := by
  refine exit_eq served ?_ done
  rw [running.manned.exit, served]
  rfl

theorem nativeSide (going : process.ended = false) : process.NativeSide lender := by
  have inRange := running.manned.inRange served
  have allocated := fun (size : Int) places positive small houses few =>
    @allocated_of_houses (process.ready places) _ _ (running.ready places) lender served inRange
      size positive small houses few
  refine
    { null := fun size hasContext places small houses few => ⟨fun null => ?_, fun unmet => ?_⟩
      unmet := fun size hasContext places => answerAllocate_of_unmet
      allocated := allocated
      frees := frees_ready running served
      exits := fun counts mid done => ?_
      faithful := fun tasks faithful => ?_ }
  · by_contra met
    obtain ⟨negative, given⟩ := not_or.mp met
    obtain rfl := Bool.eq_true_of_not_eq_false given
    obtain ⟨grant, after, answered, -⟩ :=
      allocated size places (Int.not_lt.mp negative) small (houses rfl) few
    rw [answered] at null
    cases null
  · obtain ⟨event, answered⟩ :=
      @answerAllocate_of_unmet (process.ready places) size hasContext unmet
    rw [answered]
  · rw [exit_of_served running served done]
    by_cases none : (mid.lender lender).loans.toList = []
    · rw [if_pos none]
      exact ⟨iff_of_false nofun (not_not_intro none), iff_of_true rfl none⟩
    · rw [if_neg none]
      exact ⟨iff_of_true rfl none, iff_of_false nofun none⟩
  · obtain ⟨going', running', served'⟩ := kept_of_faithful running served going faithful
    refine ⟨going', fun none counts mid done => ?_⟩
    have fewer := retiring_returns lender (process.run tasks).office lender
    rw [done, none] at fewer
    rw [exit_of_served running' served' done, if_pos (List.sublist_nil.mp fewer)]

end Native

/-- In every process that goes on over a heap and whose callbacks a lender serves, native code
meets what has been promised. -/
theorem nativeSide_run (arena : Arena) (policies : List Policy) (tasks : List Task)
    (houses : Throughout take Houses (start arena policies) tasks)
    (going : ((start arena policies).run tasks).ended = false) (lender : Nat)
    (served : ((start arena policies).run tasks).office.served = some lender) :
    ((start arena policies).run tasks).NativeSide lender :=
  nativeSide (running_run arena policies houses going) served going

/-- A host asks for four bytes while it is offered the callbacks. Two more loans follow, the first
of them is returned and its block lent again for less. Then the old pair is dead, and a return
of it ends the process, while the new pair at the same address is live. -/
theorem nativeSide_run_reused :
    let tasks : List Task := [.errand (.makeHost 0 [4]) [],
      .errand (.makeWrapper "host" 0 .plain) [],
      .errand (.engage 0 (.host 0) 0) [4096], .errand (.allocate 16 true) [8192],
      .errand (.allocate (-1) true) [], .errand (.free 8192 ⟨2⟩) [],
      .errand (.allocate 8 true) []]
    let process := (start (Arena.startingAt 65536 16 16) [Policy.standard]).run tasks
    Throughout take Houses (start (Arena.startingAt 65536 16 16) [Policy.standard]) tasks ∧
      process.ended = false ∧ process.office.served = some 0 ∧
        process.granted 0 = [⟨3⟩, ⟨2⟩, ⟨1⟩] ∧
          (Action.answerFree 8192 ⟨2⟩ (process.ready [])).1 = .error .aborted ∧
            (Action.answerFree 8192 ⟨3⟩ (process.ready [])).1 = .ok () := by
  intro tasks process
  have houses : Throughout take Houses
      (start (Arena.startingAt 65536 16 16) [Policy.standard]) tasks := by decide +kernel
  have going : process.ended = false := by decide +kernel
  have served : process.office.served = some 0 := by decide +kernel
  have native : process.NativeSide 0 := nativeSide_run _ _ tasks houses going 0 served
  have dead := native.frees 8192 ⟨2⟩ []
  have live := native.frees 8192 ⟨3⟩ []
  refine ⟨houses, going, served, by decide +kernel, dead.ends ?_, live.back.mpr (Or.inl ?_)⟩
  · refine mt dead.back.mp ?_
    rintro (alive | ⟨ignores, -⟩)
    · have gone : ¬(process.ready []).Live 0 8192 ⟨2⟩ := by decide +kernel
      exact gone alive
    · have rejects : ((process.ready []).lender 0).policy.unknownReturn = .reject := by
        decide +kernel
      cases rejects.symm.trans ignores
  · decide +kernel

end Process

end MemoryLending
