/-
This file runs a process. Callers work at the desks of the lenders, wrappers are made, held,
enrolled and retired, native parties are offered the callbacks and use them, lenders sweep: a
task is any of these, together with the places that the heap has ready for the blocks it needs.
A process is its office, what callers have rented, and the tokens each lender has granted so far;
once an abort has ended it, nothing happens any more. After every list of tasks the two records
of who serves agree, and a place once taken stays taken.
-/

import MemoryLending.Proofs.Callbacks
import MemoryLending.Proofs.Upkeep

namespace MemoryLending

/-! ### Runs -/

section Run

variable {State Move : Type} (step : State → Move → State) (Allowed : State → Move → Prop)

/-- Whether each move of a run is allowed in the state that it finds. -/
def Throughout (state : State) : List Move → Prop
  | [] => True
  | move :: rest => Allowed state move ∧ Throughout (step state move) rest

instance decidableThroughout [∀ state move, Decidable (Allowed state move)] :
    (state : State) → (moves : List Move) → Decidable (Throughout step Allowed state moves)
  | _, [] => isTrue trivial
  | state, move :: rest =>
    have := decidableThroughout (step state move) rest
    inferInstanceAs
      (Decidable (Allowed state move ∧ Throughout step Allowed (step state move) rest))

variable {step Allowed}

/-- What holds at first and is kept by every allowed move holds after every run of such moves. -/
theorem throughout_induction {Holds : State → Prop} {state : State} (start : Holds state)
    {moves : List Move} (allowed : Throughout step Allowed state moves)
    (kept : ∀ state move, Allowed state move → Holds state → Holds (step state move)) :
    Holds (moves.foldl step state) := by
  induction moves generalizing state with
  | nil => exact start
  | cons move rest inductionHypothesis =>
    exact inductionHypothesis (kept state move allowed.1 start) allowed.2

end Run

/-! ### Tasks -/

/-- One thing that is asked of an office, besides work at its desks. -/
inductive Errand where
  | makeWrapper (name : String) (lender : Nat) (duty : Duty)
  | hold (id : WrapperId)
  | letGo (id : WrapperId)
  | retire (id : WrapperId)
  | enroll (lender : Nat) (id : WrapperId)
  | withdraw (lender : Nat) (id : WrapperId)
  | makeHost (result : Int) (early : List Int)
  | makeSensor (frameLength count : Nat)
  | engage (lender : Nat) (party : Party) (wrapper : WrapperId)
  | openSession (lender sensor : Nat)
  /-- Native code calls the allocate callback. -/
  | allocate (size : Int) (hasContext : Bool)
  /-- Native code calls the free callback. -/
  | free (address : Nat) (context : Token)
  | grab (sensor : Nat) (sequence : UInt64)
  | handBack (sensor : Nat) (frame : Frame)
  | halt (sensor : Nat)
  | sweep (lender : Nat)
  | endGuard (lender : Nat)
  | unwindGuard (lender : Nat)
  deriving DecidableEq, Repr

namespace Errand

open MemoryLending.Action in
/-- What is done, and the tokens that are granted meanwhile. -/
def conduct : Errand → Action (List Token)
  | makeWrapper name lender duty => do discard (Action.makeWrapper name lender duty); return []
  | hold id => do Action.hold id; return []
  | letGo id => do Action.letGo id; return []
  | retire id => do Action.retire id; return []
  | enroll lender id => do Action.enroll lender id; return []
  | withdraw lender id => do Action.withdraw lender id; return []
  | makeHost result early => do discard (Action.makeHost result early); return []
  | makeSensor frameLength count => do discard (Action.makeSensor frameLength count); return []
  | engage lender party wrapper => do
    let (grants, _) ← Action.engage lender party wrapper
    return grants.reduceOption.map Grant.context
  | openSession lender sensor => do discard (Action.openSession lender sensor); return []
  | allocate size hasContext => do
    return (← answerAllocate size hasContext).toList.map Grant.context
  | free address context => do answerFree address context; return []
  | grab sensor sequence => do return [(← Action.grab sensor sequence).context]
  | handBack sensor frame => do Action.handBack sensor frame; return []
  | halt sensor => do Action.halt sensor; return []
  | sweep lender => do discard (Action.sweep lender); return []
  | endGuard lender => do Action.endGuard lender; return []
  | unwindGuard lender => do
    (Action.unwindGuard lender : Action Unit)
    return []

/-- The lender an errand names. -/
def lender? : Errand → Option Nat
  | makeWrapper _ lender _ | enroll lender _ | withdraw lender _ | engage lender _ _
  | openSession lender _ | sweep lender | endGuard lender | unwindGuard lender => some lender
  | _ => none

/-- The lender whose tokens are granted. -/
def grantor (office : Office) : Errand → Option Nat
  | engage lender _ _ => some lender
  | _ => office.served

/-- Whether nothing but routine changes of the office is asked for. -/
def isRoutine : Errand → Bool
  | makeSensor .. | engage .. | openSession .. | allocate .. | grab .. => false
  | _ => true

end Errand

/-- One thing that happens in a process. -/
inductive Task where
  /-- Somebody takes a turn at the desk of a lender. -/
  | turn (lender : Nat) (turn : Turn)
  /-- An errand is done while the heap has places ready. -/
  | errand (errand : Errand) (places : List Nat)
  deriving DecidableEq, Repr

/-- The token of the loan that is answered. -/
def Reply.token? : Reply → Option Token
  | .loan _ token => some token
  | _ => none

/-- A process: its office, and for each lender the blocks that callers have rented and the tokens
it has granted, the latest first. -/
structure Process where
  office : Office
  rented : Nat → List Block
  granted : Nat → List Token
  /-- Whether an abort has ended the process. -/
  ended : Bool

namespace Process

/-- What has been granted once a lender has granted more, the latest last. -/
def grant (granted : Nat → List Token) (lender : Option Nat) (tokens : List Token) :
    Nat → List Token :=
  match lender with
  | some lender => Function.update granted lender (tokens.reverse ++ granted lender)
  | none => granted

/-- The process in which nothing has happened yet. -/
def start (arena : Arena) (policies : List Policy) : Process :=
  ⟨Office.start arena policies, fun _ => [], fun _ => [], false⟩

/-- The trade of a lender. -/
def trade (process : Process) (lender : Nat) : Trade :=
  process.office.tradeOf lender (process.rented lender) []

/-- Takes a turn at the desk of a lender, if there is such a lender. -/
def takeTurn (process : Process) (lender : Nat) (turn : Turn) : Process :=
  if lender < process.office.lenders.size then
    let trade := (process.trade lender).take turn
    let tokens := ((process.trade lender).answer turn).token?.toList
    { process with
      office := process.office.withDesk lender trade.desk
      rented := Function.update process.rented lender trade.rented
      granted := grant process.granted (some lender) tokens }
  else process

/-- The office in which the heap has places ready. -/
def ready (process : Process) (places : List Nat) : Office :=
  { process.office with arena := process.office.arena.announce places }

/-- Whether an errand names no lender that is not there. -/
def knows (process : Process) (errand : Errand) : Bool :=
  errand.lender?.all (· < process.office.lenders.size)

/-- Does an errand. -/
def doErrand (process : Process) (errand : Errand) (places : List Nat) : Process :=
  if process.knows errand then
    match errand.conduct (process.ready places) with
    | (.ok tokens, office) =>
      { process with
        office
        granted := grant process.granted (errand.grantor process.office) tokens }
    | (.error fault, office) => { process with office, ended := fault = .aborted }
  else process

/-- Takes a task up, unless the process has ended. -/
def take (process : Process) (task : Task) : Process :=
  if process.ended then process
  else
    match task with
    | .turn lender turn => process.takeTurn lender turn
    | .errand errand places => process.doErrand errand places

/-- Takes one task up after another. -/
def run (process : Process) (tasks : List Task) : Process := tasks.foldl take process

end Process

/-! ### What errands come to -/

namespace Errand

theorem conduct_engage (lender : Nat) (party : Party) (wrapper : WrapperId) (office : Office) :
    (engage lender party wrapper).conduct office =
      ((Action.engage lender party wrapper office).1.map fun answer =>
          answer.1.reduceOption.map Grant.context,
        (Action.engage lender party wrapper office).2) :=
  Action.run_bind_pure _ _ office

theorem conduct_openSession (lender sensor : Nat) (office : Office) :
    (openSession lender sensor).conduct office =
      ((Action.openSession lender sensor office).1.map fun _ => [],
        (Action.openSession lender sensor office).2) :=
  Action.run_discard_bind_pure _ _ office

theorem conduct_makeSensor (frameLength count : Nat) (office : Office) :
    (makeSensor frameLength count).conduct office =
      ((Action.makeSensor frameLength count office).1.map fun _ => [],
        (Action.makeSensor frameLength count office).2) :=
  Action.run_discard_bind_pure _ _ office

theorem conduct_allocate (size : Int) (hasContext : Bool) (office : Office) :
    (allocate size hasContext).conduct office =
      ((Action.answerAllocate size hasContext office).1.map fun given =>
          given.toList.map Grant.context,
        (Action.answerAllocate size hasContext office).2) :=
  Action.run_bind_pure _ _ office

theorem conduct_grab (sensor : Nat) (sequence : UInt64) (office : Office) :
    (grab sensor sequence).conduct office =
      ((Action.grab sensor sequence office).1.map fun frame => [frame.context],
        (Action.grab sensor sequence office).2) :=
  Action.run_bind_pure _ _ office

/-- What is made of the answer does not matter to an abort. -/
theorem alive_of_map {Answer : Type} {outcome : Except Fault Answer}
    {tokens : Answer → List Token} (alive : outcome.map tokens ≠ .error .aborted) :
    outcome ≠ .error .aborted := by
  rintro rfl
  exact alive rfl

end Errand

/-! ### Routine errands -/

theorem Routine.conduct {Related : Office → Office → Prop} (routine : Routine Related)
    {errand : Errand} (usual : errand.isRoutine = true) :
    Action.Within Related errand.conduct := by
  cases errand with
  | makeWrapper name lender duty =>
    exact routine.thenPure (routine.discard (routine.makeWrapper name lender duty))
  | hold id => exact routine.thenPure (routine.hold id)
  | letGo id => exact routine.thenPure (routine.letGo id)
  | retire id => exact routine.thenPure (routine.retire id)
  | enroll lender id => exact routine.thenPure (routine.enroll lender id)
  | withdraw lender id => exact routine.thenPure (routine.withdraw lender id)
  | makeHost result early =>
    exact routine.thenPure (routine.discard fun office => routine.hosts office _)
  | free address context => exact routine.thenPure (routine.answerFree address context)
  | handBack sensor frame => exact routine.thenPure (routine.handBack sensor frame)
  | halt sensor => exact routine.thenPure (routine.halt sensor)
  | sweep lender => exact routine.thenPure (routine.discard (routine.sweep lender))
  | endGuard lender => exact routine.thenPure (routine.endGuard lender)
  | unwindGuard lender => exact routine.thenPure (routine.unwindGuard lender)
  | makeSensor frameLength count => cases usual
  | engage lender party wrapper => cases usual
  | openSession lender sensor => cases usual
  | allocate size hasContext => cases usual
  | grab sensor sequence => cases usual

/-! ### Who serves -/

/-- The two records of who serves agree again, and a place that is taken stays taken. -/
structure Office.Steady (before after : Office) : Prop where
  manned : after.Manned
  taken : before.served.isSome → after.served = before.served

theorem Office.Steady.trans {first second third : Office} (before : first.Steady second)
    (after : second.Steady third) : first.Steady third where
  manned := after.manned
  taken served := by
    have same := before.taken served
    exact (after.taken (same ▸ served)).trans same

theorem Office.Manned.steady_of_post {before after : Office} (manned : before.Manned)
    (same : after.post = before.post) : before.Steady after :=
  ⟨manned.of_post same, fun _ => congrArg (·.1) same⟩

namespace Office.Manned

open MemoryLending.Action

variable {office : Office} (manned : office.Manned) {lender : Nat}
  (inRange : lender < office.lenders.size)

include manned inRange

/-- Installation in a host or a sensor, unless the process ends meanwhile. -/
theorem steady_engage (party : Party) (wrapper : WrapperId)
    (alive : (engage lender party wrapper office).1 ≠ .error .aborted) :
    office.Steady (engage lender party wrapper office).2 := by
  rw [engage_eq] at alive ⊢
  have fair : office.served = none → Fair (offer party) (offering office lender) := by
    intro free
    refine fair_offer party _ fun aborted => alive ?_
    rcases came : offer party (offering office lender) with ⟨fault | answer, after⟩
    · rw [came] at aborted
      have outcome := engaging manned lender (offer party) wrapper
      generalize engageWith lender (offer party) wrapper office = result at outcome
      cases outcome with
      | serving served => cases free.symm.trans served
      | taken other served => cases free.symm.trans served
      | refused grants violation after free refused => cases came.symm.trans refused
      | accepted grants after free accepted => cases came.symm.trans accepted
      | failed fault after free failed =>
        cases came.symm.trans failed
        exact aborted
    · rw [came] at aborted
      cases aborted
  obtain ⟨answer, after, came, manned', taken⟩ := manned_engageWith manned inRange wrapper fair
  rw [came]
  exact ⟨manned', taken⟩

theorem steady_openSession (sensor : Nat)
    (alive : (openSession lender sensor office).1 ≠ .error .aborted) :
    office.Steady (openSession lender sensor office).2 := by
  have made := manned.steady_of_post
    (routine_post.makeWrapper "" lender (.session sensor) office)
  have inRange' : lender < (makeWrapper "" lender (.session sensor) office).2.lenders.size :=
    inRange
  have outcome := opening office lender sensor
  refine made.trans ?_
  have steady := made.manned.steady_engage inRange' (.sensor sensor) office.wrappers.size
  generalize openSession lender sensor office = result at outcome alive ⊢
  cases outcome with
  | opened grants after accepted =>
    rw [accepted] at steady
    exact steady nofun
  | refused grants violation after refused =>
    rw [refused] at steady
    refine (steady nofun).trans ((steady nofun).manned.steady_of_post ?_)
    exact routine_post.bind (routine_post.letGo _) (fun _ => routine_post.throw _) after
  | failed fault after failed =>
    rw [failed] at steady
    exact steady fun aborted => alive (congrArg Except.error (Except.error.inj aborted))

end Office.Manned

theorem Office.Manned.steady_conduct {office : Office} (manned : office.Manned) (errand : Errand)
    (known : ∀ lender, errand.lender? = some lender → lender < office.lenders.size)
    (alive : (errand.conduct office).1 ≠ .error .aborted) :
    office.Steady (errand.conduct office).2 := by
  cases errand with
  | engage lender party wrapper =>
    rw [Errand.conduct_engage] at alive ⊢
    exact manned.steady_engage (known lender rfl) party wrapper (Errand.alive_of_map alive)
  | openSession lender sensor =>
    rw [Errand.conduct_openSession] at alive ⊢
    exact manned.steady_openSession (known lender rfl) sensor (Errand.alive_of_map alive)
  | makeSensor frameLength count =>
    obtain ⟨arena, sensors, -, made⟩ := Action.makeSensor_eq office frameLength count
    rw [Errand.conduct_makeSensor, made]
    exact manned.steady_of_post rfl
  | allocate size hasContext =>
    exact manned.steady_of_post (Office.post_of_standing
      (asks_standing.thenPure (asks_standing.answerAllocate size hasContext) office))
  | grab sensor sequence =>
    exact manned.steady_of_post (Office.post_of_standing
      (asks_standing.thenPure (asks_standing.grab sensor sequence) office))
  | _ => exact manned.steady_of_post (routine_post.conduct rfl office)

namespace Process

/-- At first no lender has done anything. -/
theorem lender_start (arena : Arena) (policies : List Policy) (lender : Nat) :
    ∃ policy, (start arena policies).office.lender lender = Lender.ofPolicy policy := by
  refine ⟨policies.getD lender Policy.standard, ?_⟩
  show (policies.map Lender.ofPolicy).toArray.getD lender default = _
  rw [Array.getD_eq_getD_getElem?, List.getElem?_toArray, List.getElem?_map,
    List.getD_eq_getElem?_getD]
  cases policies[lender]? <;> rfl

theorem manned_start (arena : Arena) (policies : List Policy) :
    (start arena policies).office.Manned := by
  refine ⟨fun lender => ?_, rfl⟩
  obtain ⟨policy, same⟩ := lender_start arena policies lender
  rw [same]
  exact iff_of_false nofun Bool.false_ne_true

theorem steady_takeTurn {process : Process} (manned : process.office.Manned) (lender : Nat)
    (turn : Turn) : process.office.Steady (process.takeTurn lender turn).office := by
  unfold takeTurn
  split
  · exact manned.steady_of_post (Office.post_of_standing (process.office.standing_withDesk lender
      (((process.trade lender).ready turn.place).standing_perform turn.deed)))
  · exact manned.steady_of_post rfl

theorem lender_of_knows {process : Process} {errand : Errand}
    (knows : process.knows errand = true) {lender : Nat} (named : errand.lender? = some lender) :
    lender < process.office.lenders.size := by
  unfold Process.knows at knows
  rw [named] at knows
  exact of_decide_eq_true knows

theorem steady_doErrand {process : Process} (manned : process.office.Manned) (errand : Errand)
    (places : List Nat) (alive : (process.doErrand errand places).ended = false) :
    process.office.Steady (process.doErrand errand places).office := by
  have ready : process.office.Steady (process.ready places) := manned.steady_of_post rfl
  unfold doErrand at alive ⊢
  by_cases knows : process.knows errand = true
  · rw [if_pos knows] at alive ⊢
    have steady := ready.manned.steady_conduct errand fun _ named => lender_of_knows knows named
    rcases done : errand.conduct (process.ready places) with ⟨fault | tokens, after⟩
    · rw [done] at alive steady
      refine ready.trans (steady fun aborted => ?_)
      cases aborted
      cases alive
    · rw [done] at steady
      exact ready.trans (steady nofun)
  · rw [if_neg knows]
    exact manned.steady_of_post rfl

/-- An errand that ends with an answer does not end the process. -/
theorem going_of_answer {process : Process} (going : process.ended = false) {errand : Errand}
    {places : List Nat} {tokens : List Token} {after : Office}
    (done : errand.conduct (process.ready places) = (.ok tokens, after)) :
    (process.doErrand errand places).ended = false := by
  unfold doErrand
  split
  · rw [done]
    exact going
  · exact going

theorem going_of_take {process : Process} {task : Task}
    (going : (process.take task).ended = false) : process.ended = false := by
  refine Bool.eq_false_iff.mpr fun ended => ?_
  unfold take at going
  rw [if_pos ended] at going
  exact Bool.eq_false_iff.mp going ended

/-- Unless it ends the process, a task leaves the two records of who serves agreeing, and the
place where it is taken. -/
theorem steady_take {process : Process} (manned : process.office.Manned) (task : Task)
    (alive : (process.take task).ended = false) :
    process.office.Steady (process.take task).office := by
  unfold take at alive ⊢
  by_cases ended : process.ended = true
  · rw [if_pos ended] at alive
    exact absurd (ended.symm.trans alive) nofun
  · rw [if_neg ended] at alive ⊢
    cases task with
    | turn lender turn => exact steady_takeTurn manned lender turn
    | errand errand places => exact steady_doErrand manned errand places alive

end Process

end MemoryLending
