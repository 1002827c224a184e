/-
This file follows actions through an office. An action is a chain of small changes, and most
actions only ever make routine ones: a record, a change of wrappers, rosters, sensors or hosts, a
loan that is taken back, a lease that is ended. A relation between offices that all routine
changes stay within is one that retiring, letting go, sweeping and the end of the process stay
within, however far they follow the wrappers that hold one another, and also when they fail on
the way. So a rule about offices has to be checked for the routine changes alone.
-/

import MemoryLending.Office.Serving
import MemoryLending.Proofs.Readings

namespace MemoryLending

variable {Answer Other : Type}

namespace Action

/-! ### How actions run -/

theorem run_bind (act : Action Answer) (next : Answer → Action Other) (office : Office) :
    (act >>= next) office =
      match act office with
      | (.ok answer, after) => next answer after
      | (.error fault, after) => (.error fault, after) := by
  simp only [bind, ExceptT.bind, ExceptT.mk, StateT.bind, ExceptT.bindCont]
  rcases act office with ⟨_ | _, _⟩ <;> rfl

theorem run_tryCatch (act : Action Answer) (handle : Fault → Action Answer) (office : Office) :
    (tryCatch act handle) office =
      match act office with
      | (.ok answer, after) => (.ok answer, after)
      | (.error fault, after) => handle fault after := by
  simp only [tryCatch, tryCatchThe, MonadExceptOf.tryCatch, ExceptT.tryCatch, ExceptT.mk, bind,
    StateT.bind]
  rcases act office with ⟨_ | _, _⟩ <;> rfl

theorem run_bind_of_ok {act : Action Answer} {next : Answer → Action Other}
    {office after : Office} {answer : Answer} (ran : act office = (.ok answer, after)) :
    (act >>= next) office = next answer after := by
  rw [run_bind, ran]

theorem run_bind_of_error {act : Action Answer} {next : Answer → Action Other}
    {office after : Office} {fault : Fault} (ran : act office = (.error fault, after)) :
    (act >>= next) office = (.error fault, after) := by
  rw [run_bind, ran]

theorem run_bind_pure (act : Action Answer) (result : Answer → Other) (office : Office) :
    (act >>= fun answer => pure (result answer)) office =
      ((act office).1.map result, (act office).2) := by
  rw [run_bind]
  rcases act office with ⟨_ | _, _⟩ <;> rfl

theorem run_discard (act : Action Answer) (office : Office) :
    Functor.discard act office = ((act office).1.map fun _ => (), (act office).2) :=
  run_bind_pure act (fun _ => ()) office

/-- It makes no difference that an answer is thrown away first that nobody looks at. -/
theorem run_discard_bind_pure (act : Action Answer) (result : Other) (office : Office) :
    (Functor.discard act >>= fun _ => pure result) office =
      ((act office).1.map fun _ => result, (act office).2) := by
  rw [run_bind_pure, run_discard]
  rcases act office with ⟨_ | _, _⟩ <;> rfl

theorem run_get_bind (next : Office → Action Answer) (office : Office) :
    ((MonadState.get : Action Office) >>= next) office = next office office := rfl

/-! ### Retirement in parts -/

/-- The first claim gets the wrapper; the flag is set at any rate. -/
theorem claim_of_found {office : Office} {id : WrapperId} {wrapper : Wrapper}
    (found : office.wrappers[id]? = some wrapper) :
    claim id office = (.ok (if wrapper.flag.released then none else some wrapper),
      (changeWrapper id (fun wrapper => { wrapper with flag := ⟨true⟩ }) office).2) := by
  unfold claim
  rw [run_get_bind, found]
  dsimp only [ReleaseFlag.claim]
  cases wrapper.flag.released <;> rfl

theorem claim_of_absent {office : Office} {id : WrapperId} (absent : office.wrappers[id]? = none) :
    claim id office = (.ok none, office) := by
  unfold claim
  rw [run_get_bind, absent]
  rfl

/-- Does something under a condition. -/
def whenever (condition : Bool) (act : Action Unit) : Action Unit :=
  if condition then act else pure ()

theorem whenever_bind (condition : Bool) (act : Action Unit) (next : Action Answer) :
    (whenever condition act >>= fun _ => next) =
      if condition then act >>= fun _ => next else next := by
  unfold whenever
  split
  · rfl
  · rw [pure_bind]

/-- Releases what a wrapper holds, as its duty says. -/
def discharge (depth : Nat) (id : WrapperId) (wrapper : Wrapper) : Action Unit :=
  match wrapper.duty with
  | .plain | .automatic | .lease none | .parent none | .owner none | .capture _ none => pure ()
  | .loan address token => returnLoan wrapper.lender address token
  | .lease (some replica) => do
    setDuty id (.lease none)
    changeDesk wrapper.lender (·.endLease replica)
  | .parent (some child) => do
    setDuty id (.parent none)
    retireWithin depth child
    letGoWithin depth child
  | .owner (some child) => do
    setDuty id (.owner none)
    letGoWithin depth child
  | .spawner _ => do
    let spawned ← makeWrapper (wrapper.name ++ "+") wrapper.lender .plain
    enroll wrapper.lender spawned
    setDuty id (.spawner (some spawned))
  | .capture sensor (some frame) => do
    setDuty id (.capture sensor none)
    handBack sensor frame
  | .session sensor => halt sensor
  | .faulty => throw (.panicked (.refusedRetirement wrapper.name))
  | .chores todo => todo.forM (doChore id)

theorem retireWithin_succ (depth : Nat) (id : WrapperId) :
    retireWithin (depth + 1) id = (do
      match ← claim id with
      | none => pure ()
      | some wrapper =>
        whenever wrapper.duty.announced (log (.wrapperRetired wrapper.name))
        discharge depth id wrapper
        whenever wrapper.duty.selfRetiring (withdraw wrapper.lender id)) := by
  rw [retireWithin]
  congr 1
  funext claimed
  cases claimed with
  | none => rfl
  | some wrapper =>
    dsimp only
    rw [whenever_bind, ← whenever]
    generalize whenever wrapper.duty.selfRetiring (withdraw wrapper.lender id) = last
    unfold discharge
    rcases wrapper.duty with
      _ | _ | _ | (_ | _) | (_ | _) | (_ | _) | _ | ⟨_, _ | _⟩ | _ | _ | _ <;>
      dsimp only <;> first | rfl | simp only [bind_assoc]

theorem letGoWithin_succ (depth : Nat) (id : WrapperId) :
    letGoWithin (depth + 1) id = (do
      match ← unhold id with
      | none => pure ()
      | some wrapper =>
        whenever wrapper.duty.selfRetiring (retireWithin depth id)
        whenever wrapper.duty.announced (log (.wrapperDropped wrapper.name))
        match wrapper.duty.child? with
        | some child => letGoWithin depth child
        | none => pure ()) := by
  rw [letGoWithin]
  congr 1
  funext last
  cases last with
  | none => rfl
  | some wrapper =>
    have unfolded (rest : Action Unit) := congrArg
      (fun next => if wrapper.duty.selfRetiring then retireWithin depth id >>= fun _ => next
        else next)
      (whenever_bind wrapper.duty.announced (log (.wrapperDropped wrapper.name)) rest)
    exact ((whenever_bind ..).trans (unfolded _)).symm

/-- What a sweep does once it has mustered the roster. -/
def dismiss (lender : Nat) (living : List WrapperId) (pruned : Nat) : Action SweepReport := do
  let retired ← thenLetGo living (retireAll living)
  requireNoLoans lender
  let replicas ← readDesk lender (·.lender.replicas.count)
  if replicas ≠ 0 then log (.replicasRemain replicas)
  log (.sweepComplete retired pruned)
  return ⟨retired, pruned⟩

theorem sweep_eq_dismiss (lender : Nat) :
    sweep lender = muster lender >>= fun mustered => dismiss lender mustered.1 mustered.2 := rfl

/-! ### Relations that actions stay within -/

/-- An action leads from every office to a related one, whether or not it fails. -/
def Within (Related : Office → Office → Prop) (act : Action Answer) : Prop :=
  ∀ office, Related office (act office).2

end Action

/-- A relation that chains of related offices stay within. -/
structure Chained (Related : Office → Office → Prop) : Prop where
  refl : ∀ office, Related office office
  trans : ∀ {first second third}, Related first second → Related second third →
    Related first third

theorem Chained.of_reading {Reading : Type} (read : Office → Reading) :
    Chained fun before after => read after = read before where
  refl _ := rfl
  trans first second := second.trans first

/-- A relation that the changes stay within that concern neither wrappers nor rosters. -/
structure Quiet (Related : Office → Office → Prop) : Prop extends Chained Related where
  journal : ∀ office event, Related office { office with journal := event :: office.journal }
  sensors : ∀ office sensors, Related office { office with sensors }
  hosts : ∀ office hosts, Related office { office with hosts }
  reclaim : ∀ office lender address token,
    Related office
      (office.withDesk lender ((office.desk lender).reclaim address token).2)
  endLease : ∀ office lender replica,
    Related office (office.withDesk lender ((office.desk lender).endLease replica))

/-- A relation that retiring and letting go stay within. It may depend on it that only a wrapper
whose release has been claimed withdraws. -/
structure Retires (Related : Office → Office → Prop) (Claimed : Office → WrapperId → Prop) : Prop
    extends Quiet Related where
  claim : ∀ id, Action.Within Related (Action.claim id)
  unhold : ∀ id, Action.Within Related (Action.unhold id)
  setDuty : ∀ id duty, Action.Within Related (Action.setDuty id duty)
  spawn : ∀ office name lender, Related office
    (Action.enroll lender office.wrappers.size (Action.makeWrapper name lender .plain office).2).2
  claimed : ∀ {office after id wrapper},
    Action.claim id office = (.ok (some wrapper), after) → Claimed after id
  keeps : ∀ {before after id}, Related before after → Claimed before id → Claimed after id
  withdraw : ∀ {office id}, Claimed office id → ∀ lender,
    Related office (Action.withdraw lender id office).2

/-- A relation that the routine changes of an office stay within. -/
structure Routine (Related : Office → Office → Prop) : Prop extends Quiet Related where
  wrappers : ∀ office wrappers, Related office { office with wrappers }
  roster : ∀ office lender (change : Roster → Roster),
    Related office
      { office with
        lenders := office.lenders.modify lender fun lender =>
          { lender with roster := change lender.roster } }

/-- What all routine changes leave alone is a relation of that kind. -/
theorem Routine.of_reading {Reading : Type} {read : Office → Reading}
    (journal : ∀ office event,
      read { office with journal := event :: office.journal } = read office)
    (wrappers : ∀ office wrappers, read { office with wrappers } = read office)
    (sensors : ∀ office sensors, read { office with sensors } = read office)
    (hosts : ∀ office hosts, read { office with hosts } = read office)
    (roster : ∀ office lender (change : Roster → Roster),
      read { office with
        lenders := office.lenders.modify lender fun lender =>
          { lender with roster := change lender.roster } } = read office)
    (reclaim : ∀ office lender address token,
      read (office.withDesk lender ((office.desk lender).reclaim address token).2) = read office)
    (endLease : ∀ office lender replica,
      read (office.withDesk lender ((office.desk lender).endLease replica)) = read office) :
    Routine fun before after => read after = read before :=
  { Chained.of_reading read with
    journal, wrappers, sensors, hosts, roster, reclaim, endLease }

/-- What is told by what all routine changes leave alone. -/
theorem Routine.comp {Reading Told : Type} {read : Office → Reading} (tell : Reading → Told)
    (routine : Routine fun before after => read after = read before) :
    Routine fun before after => tell (read after) = tell (read before) :=
  { Chained.of_reading fun office => tell (read office) with
    journal := fun office event => congrArg tell (routine.journal office event)
    wrappers := fun office wrappers => congrArg tell (routine.wrappers office wrappers)
    sensors := fun office sensors => congrArg tell (routine.sensors office sensors)
    hosts := fun office hosts => congrArg tell (routine.hosts office hosts)
    roster := fun office lender change => congrArg tell (routine.roster office lender change)
    reclaim := fun office lender address token =>
      congrArg tell (routine.reclaim office lender address token)
    endLease := fun office lender replica =>
      congrArg tell (routine.endLease office lender replica) }

theorem Routine.and {First Second : Office → Office → Prop} (first : Routine First)
    (second : Routine Second) :
    Routine fun before after => First before after ∧ Second before after where
  refl office := ⟨first.refl office, second.refl office⟩
  trans before after := ⟨first.trans before.1 after.1, second.trans before.2 after.2⟩
  journal office event := ⟨first.journal office event, second.journal office event⟩
  wrappers office wrappers := ⟨first.wrappers office wrappers, second.wrappers office wrappers⟩
  sensors office sensors := ⟨first.sensors office sensors, second.sensors office sensors⟩
  hosts office hosts := ⟨first.hosts office hosts, second.hosts office hosts⟩
  roster office lender change :=
    ⟨first.roster office lender change, second.roster office lender change⟩
  reclaim office lender address token :=
    ⟨first.reclaim office lender address token, second.reclaim office lender address token⟩
  endLease office lender replica :=
    ⟨first.endLease office lender replica, second.endLease office lender replica⟩

namespace Chained

open MemoryLending.Action

variable {Related : Office → Office → Prop} (chained : Chained Related)

include chained

theorem pure (answer : Answer) : Within Related (Pure.pure answer : Action Answer) :=
  chained.refl

theorem throw (fault : Fault) : Within Related (MonadExcept.throw fault : Action Answer) :=
  chained.refl

theorem get : Within Related (MonadState.get : Action Office) :=
  chained.refl

theorem bind {act : Action Answer} {next : Answer → Action Other} (first : Within Related act)
    (rest : ∀ answer, Within Related (next answer)) : Within Related (act >>= next) := by
  intro office
  have here : Related office (act office).2 := first office
  rw [run_bind]
  generalize act office = result at here ⊢
  obtain ⟨fault | answer, after⟩ := result
  · exact here
  · exact chained.trans here (rest answer after)

theorem thenPure {act : Action Answer} {result : Answer → Other} (within : Within Related act) :
    Within Related (act >>= fun answer => Pure.pure (result answer)) :=
  chained.bind within fun _ => chained.pure _

theorem discard {act : Action Answer} (within : Within Related act) :
    Within Related (Functor.discard act) :=
  chained.thenPure within

theorem tryCatch {act : Action Answer} {handle : Fault → Action Answer}
    (tried : Within Related act) (handled : ∀ fault, Within Related (handle fault)) :
    Within Related (MonadExcept.tryCatch act handle) := by
  intro office
  have here : Related office (act office).2 := tried office
  rw [run_tryCatch]
  generalize act office = result at here ⊢
  obtain ⟨fault | answer, after⟩ := result
  · exact chained.trans here (handled fault after)
  · exact here

theorem forM {Item : Type} {act : Item → Action PUnit} (each : ∀ item, Within Related (act item))
    (items : List Item) : Within Related (items.forM act) := by
  induction items with
  | nil => exact chained.pure _
  | cons item rest inductionHypothesis =>
    exact chained.bind (each item) fun _ => inductionHypothesis

theorem mapM {Item : Type} {act : Item → Action Answer}
    (each : ∀ item, Within Related (act item)) (items : List Item) :
    Within Related (items.mapM act) := by
  induction items with
  | nil => exact chained.pure _
  | cons item rest inductionHypothesis =>
    rw [List.mapM_cons]
    exact chained.bind (each item) fun _ => chained.thenPure inductionHypothesis

theorem whenever {act : Action Unit} (condition : Bool) (done : Within Related act) :
    Within Related (whenever condition act) := by
  unfold Action.whenever
  split
  · exact done
  · exact chained.pure _

theorem sensor (index : Nat) : Within Related (sensor index) :=
  chained.thenPure chained.get

theorem thenLetGo {work : Action Answer} (letsGo : ∀ id, Within Related (letGo id))
    (ids : List WrapperId) (worked : Within Related work) :
    Within Related (thenLetGo ids work) := by
  unfold Action.thenLetGo
  refine chained.bind (chained.tryCatch ?_ fun fault => ?_) fun outcome => ?_
  · exact chained.thenPure worked
  · split
    · exact chained.throw _
    · exact chained.pure _
  · refine chained.bind (chained.forM letsGo ids) fun _ => ?_
    cases outcome with
    | ok answer => exact chained.pure _
    | error fault => exact chained.throw _

theorem retireAll (retires : ∀ id, Within Related (retire id)) (ids : List WrapperId) :
    Within Related (retireAll ids) := by
  induction ids with
  | nil => exact chained.pure _
  | cons id later inductionHypothesis =>
    rw [Action.retireAll]
    refine chained.bind chained.get fun office => ?_
    split
    · exact inductionHypothesis
    · exact chained.bind (retires id) fun _ => chained.thenPure inductionHypothesis

end Chained

namespace Quiet

open MemoryLending.Action

variable {Related : Office → Office → Prop} (quiet : Quiet Related)

include quiet

theorem log (event : Event) : Within Related (log event) := fun office =>
  quiet.journal office event

/-! ### Work at a desk -/

theorem reclaiming (lender address : Nat) (token : Token) :
    Within Related (atDesk lender (orRefuse (·.reclaim address token))) := by
  intro office
  have here := quiet.reclaim office lender address token
  show Related office (office.withDesk lender (orRefuse (·.reclaim address token)
    (office.desk lender)).2)
  unfold orRefuse
  dsimp only
  generalize (office.desk lender).reclaim address token = result at here ⊢
  obtain ⟨violation | _, after⟩ := result <;> exact here

theorem returnLoan (lender address : Nat) (token : Token) :
    Within Related (returnLoan lender address token) := by
  unfold Action.returnLoan
  refine quiet.tryCatch (quiet.reclaiming lender address token) fun fault => ?_
  split
  · exact quiet.log _
  · exact quiet.throw _

theorem endingLease (lender : Nat) (replica : Replica) :
    Within Related (changeDesk lender (·.endLease replica)) := fun office =>
  quiet.endLease office lender replica

theorem answerFree (address : Nat) (context : Token) :
    Within Related (answerFree address context) := by
  unfold Action.answerFree
  refine quiet.bind quiet.get fun office => ?_
  split
  · exact quiet.bind (quiet.log _) fun _ => quiet.throw _
  · refine quiet.tryCatch (quiet.reclaiming _ address context) fun fault => ?_
    split
    · exact quiet.bind (quiet.log _) fun _ => quiet.throw _
    · exact quiet.throw _

theorem handBack (index : Nat) (frame : Frame) : Within Related (handBack index frame) := by
  unfold Action.handBack
  refine quiet.bind (quiet.sensor index) fun sensor => ?_
  split
  · exact quiet.answerFree _ _
  · exact quiet.pure _

theorem halt (index : Nat) : Within Related (halt index) := by
  unfold Action.halt
  refine quiet.bind (quiet.sensor index) fun sensor => ?_
  split
  · exact quiet.bind (fun office => quiet.sensors office _) fun _ => quiet.log _
  · exact quiet.pure _

theorem requireNoLoans (lender : Nat) : Within Related (requireNoLoans lender) := by
  unfold Action.requireNoLoans
  refine quiet.bind (quiet.thenPure quiet.get) fun loans => ?_
  split
  · split
    · exact quiet.throw _
    · exact quiet.bind (quiet.log _) fun _ => quiet.throw _
  · exact quiet.pure _

theorem dismiss (retires : ∀ id, Within Related (retire id))
    (letsGo : ∀ id, Within Related (letGo id)) (lender : Nat) (living : List WrapperId)
    (pruned : Nat) : Within Related (dismiss lender living pruned) := by
  unfold Action.dismiss
  refine quiet.bind (quiet.thenLetGo letsGo _ (quiet.retireAll retires _)) fun retired => ?_
  refine quiet.bind (quiet.requireNoLoans lender) fun _ => ?_
  refine quiet.bind (quiet.thenPure quiet.get) fun replicas => ?_
  split
  · exact quiet.bind (quiet.log _) fun _ => quiet.thenPure (quiet.log _)
  · exact quiet.thenPure (quiet.log _)

end Quiet

/-! ### Retiring and letting go -/

namespace Retires

open MemoryLending.Action

variable {Related : Office → Office → Prop} {Claimed : Office → WrapperId → Prop}
  (retires : Retires Related Claimed)

include retires

/-- What is done after the release of a wrapper has been claimed. -/
theorem bind_of_claimed {act : Action Answer} {next : Answer → Action Other} {office : Office}
    {id : WrapperId} (claimed : Claimed office id) (first : Related office (act office).2)
    (rest : ∀ answer later, Claimed later id → Related later (next answer later).2) :
    Related office ((act >>= next) office).2 := by
  rw [run_bind]
  generalize act office = result at first ⊢
  obtain ⟨fault | answer, after⟩ := result
  · exact first
  · exact retires.trans first (rest answer after (retires.keeps first claimed))

theorem chores {office : Office} {id : WrapperId} (claimed : Claimed office id)
    (todo : List Chore) : Related office (todo.forM (doChore id) office).2 := by
  induction todo generalizing office with
  | nil => exact retires.refl office
  | cons chore rest inductionHypothesis =>
    refine retires.bind_of_claimed claimed ?_ fun _ later claimed => inductionHypothesis claimed
    cases chore with
    | returnLoan lender address token => exact retires.returnLoan lender address token office
    | withdraw lender => exact retires.withdraw claimed lender

theorem discharge {depth : Nat} (within : ∀ id, Within Related (retireWithin depth id))
    (letsGo : ∀ id, Within Related (letGoWithin depth id)) {office : Office} {id : WrapperId}
    (claimed : Claimed office id) (wrapper : Wrapper) :
    Related office (discharge depth id wrapper office).2 := by
  obtain ⟨name, lender, duty, flag, holders⟩ := wrapper
  unfold Action.discharge
  cases duty with
  | plain | automatic => exact retires.refl office
  | loan address token => exact retires.returnLoan lender address token office
  | lease held =>
    cases held with
    | none => exact retires.refl office
    | some replica =>
      exact retires.bind (retires.setDuty id _) (fun _ => retires.endingLease lender replica) office
  | parent child =>
    cases child with
    | none => exact retires.refl office
    | some child =>
      refine retires.bind (retires.setDuty id _) (fun _ => ?_) office
      exact retires.bind (within child) fun _ => letsGo child
  | owner child =>
    cases child with
    | none => exact retires.refl office
    | some child => exact retires.bind (retires.setDuty id _) (fun _ => letsGo child) office
  | spawner spawned =>
    exact retires.trans (retires.spawn office (name ++ "+") lender) (retires.setDuty id _ _)
  | capture sensor frame =>
    cases frame with
    | none => exact retires.refl office
    | some frame =>
      exact retires.bind (retires.setDuty id _) (fun _ => retires.handBack sensor frame) office
  | session sensor => exact retires.halt sensor office
  | faulty => exact retires.refl office
  | chores todo => exact retires.chores claimed todo

/-- The two follow the chain of wrappers together, so what holds to a depth holds one deeper. -/
theorem retireWithin_letGoWithin (depth : Nat) :
    (∀ id, Within Related (retireWithin depth id)) ∧
      ∀ id, Within Related (letGoWithin depth id) := by
  induction depth with
  | zero => exact ⟨fun _ => retires.pure _, fun _ => retires.pure _⟩
  | succ depth inductionHypothesis =>
    obtain ⟨within, letsGo⟩ := inductionHypothesis
    constructor
    · intro id office
      have here := retires.claim id office
      rw [retireWithin_succ]
      rcases claimed : Action.claim id office with ⟨fault | (_ | wrapper), after⟩ <;>
        rw [claimed] at here
      · rw [run_bind_of_error claimed]
        exact here
      · rw [run_bind_of_ok claimed]
        exact here
      · rw [run_bind_of_ok claimed]
        refine retires.trans here ?_
        refine retires.bind_of_claimed (retires.claimed claimed)
          (retires.whenever _ (retires.log _) after) fun _ later claimed => ?_
        refine retires.bind_of_claimed claimed
          (retires.discharge within letsGo claimed wrapper) fun _ last claimed => ?_
        unfold Action.whenever
        split
        · exact retires.withdraw claimed wrapper.lender
        · exact retires.refl last
    · intro id
      rw [letGoWithin_succ]
      refine retires.bind (retires.unhold id) fun last => ?_
      cases last with
      | none => exact retires.pure _
      | some wrapper =>
        refine retires.bind (retires.whenever _ (within id)) fun _ =>
          retires.bind (retires.whenever _ (retires.log _)) fun _ => ?_
        split
        · exact letsGo _
        · exact retires.pure _

theorem retire (id : WrapperId) : Within Related (retire id) :=
  retires.bind retires.get fun office => (retires.retireWithin_letGoWithin office.depth).1 id

theorem letGo (id : WrapperId) : Within Related (letGo id) :=
  retires.bind retires.get fun office => (retires.retireWithin_letGoWithin office.depth).2 id

end Retires

namespace Routine

open MemoryLending.Action

variable {Related : Office → Office → Prop} (routine : Routine Related)

include routine

/-! ### Small changes -/

theorem changeWrapper (id : WrapperId) (change : Wrapper → Wrapper) :
    Within Related (changeWrapper id change) := fun office =>
  routine.wrappers office (office.wrappers.modify id change)

theorem makeWrapper (name : String) (lender : Nat) (duty : Duty) :
    Within Related (makeWrapper name lender duty) := fun office =>
  routine.wrappers office (office.wrappers.push ⟨name, lender, duty, ReleaseFlag.held, 1⟩)

theorem hold (id : WrapperId) : Within Related (hold id) :=
  routine.changeWrapper id _

theorem setDuty (id : WrapperId) (duty : Duty) : Within Related (setDuty id duty) :=
  routine.changeWrapper id _

theorem changeRoster (lender : Nat) (change : Roster → (WrapperId → Bool) → Roster) :
    Within Related (changeRoster lender change) := fun office =>
  routine.roster office lender fun roster => change roster office.alive

theorem enroll (lender : Nat) (id : WrapperId) : Within Related (enroll lender id) :=
  routine.changeRoster lender _

theorem withdraw (lender : Nat) (id : WrapperId) : Within Related (withdraw lender id) :=
  routine.changeRoster lender _

theorem claim (id : WrapperId) : Within Related (claim id) := by
  unfold Action.claim
  refine routine.bind routine.get fun office => ?_
  split
  · exact routine.pure _
  · exact routine.thenPure (routine.changeWrapper id _)

theorem unhold (id : WrapperId) : Within Related (unhold id) := by
  unfold Action.unhold
  refine routine.bind routine.get fun office => ?_
  split
  · exact routine.pure _
  · split
    · exact routine.pure _
    · exact routine.thenPure (routine.changeWrapper id _)

/-! ### Retiring and letting go -/

theorem retires : Retires Related fun _ _ => True :=
  { routine.toQuiet with
    claim := routine.claim
    unhold := routine.unhold
    setDuty := routine.setDuty
    spawn := fun office name lender =>
      routine.trans (routine.makeWrapper name lender .plain office) (routine.enroll lender _ _)
    claimed := fun _ => trivial
    keeps := fun _ _ => trivial
    withdraw := fun _ lender => routine.withdraw lender _ _ }

theorem retire (id : WrapperId) : Within Related (retire id) :=
  routine.retires.retire id

theorem letGo (id : WrapperId) : Within Related (letGo id) :=
  routine.retires.letGo id

/-! ### Sweeping -/

theorem muster (lender : Nat) : Within Related (muster lender) := by
  unfold Action.muster
  refine routine.bind routine.get fun office => routine.bind ?_ fun mustered =>
    routine.thenPure (routine.changeRoster lender _)
  unfold holdLiving
  exact routine.bind routine.get fun office =>
    routine.thenPure (routine.forM routine.hold _)

theorem sweep (lender : Nat) : Within Related (sweep lender) := by
  rw [sweep_eq_dismiss]
  exact routine.bind (routine.muster lender) fun _ =>
    routine.toQuiet.dismiss routine.retire routine.letGo lender _ _

theorem endGuard (lender : Nat) : Within Related (endGuard lender) := by
  unfold Action.endGuard
  refine routine.tryCatch ?_ fun fault => ?_
  · exact routine.discard (routine.sweep lender)
  · split <;> exact routine.throw _

theorem unwindGuard (lender : Nat) : Within Related (unwindGuard lender : Action Answer) := by
  unfold Action.unwindGuard
  refine routine.bind (routine.tryCatch ?_ fun fault => ?_) fun _ => routine.throw _
  · exact routine.discard (routine.sweep lender)
  · split
    · exact routine.log _
    · exact routine.throw _

end Routine

/-! ### Lenders and wrappers of an office -/

namespace Office

theorem lender_withDesk (office : Office) (index other : Nat) (desk : Desk) :
    (office.withDesk index desk).lender other =
      if index = other ∧ index < office.lenders.size then desk.lender else office.lender other := by
  unfold withDesk lender
  simp only [Array.getD_eq_getD_getElem?, Array.getElem?_setIfInBounds]
  by_cases same : index = other
  · subst same
    by_cases inRange : index < office.lenders.size <;> simp [inRange]
  · simp [same]

theorem size_withDesk (office : Office) (index : Nat) (desk : Desk) :
    (office.withDesk index desk).lenders.size = office.lenders.size :=
  Array.size_setIfInBounds

theorem lender_modify (office : Office) (index other : Nat) (change : Lender → Lender)
    (inRange : other < office.lenders.size) :
    lender { office with lenders := office.lenders.modify index change } other =
      if index = other then change (office.lender other) else office.lender other := by
  unfold lender
  simp [Array.getD_eq_getD_getElem?, Array.getElem_modify, inRange]

/-- Past the last lender there is only one that nobody can change. -/
theorem lender_of_beyond {office : Office} {index : Nat} (beyond : office.lenders.size ≤ index) :
    office.lender index = default := by
  unfold lender
  rw [Array.getD_eq_getD_getElem?, Array.getElem?_eq_none beyond]
  rfl

theorem lender_changeRoster (office : Office) (index other : Nat)
    (change : Roster → (WrapperId → Bool) → Roster) :
    (Action.changeRoster index change office).2.lender other =
      if index = other ∧ index < office.lenders.size then
        { office.lender other with roster := change (office.lender other).roster office.alive }
      else office.lender other := by
  by_cases inRange : other < office.lenders.size
  · have found : (Action.changeRoster index change office).2.lender other = _ :=
      office.lender_modify index other _ inRange
    rw [found]
    refine ite_congr (propext ⟨fun same => ⟨same, same ▸ inRange⟩, And.left⟩) (fun _ => rfl)
      fun _ => rfl
  · have beyond := Nat.le_of_not_lt inRange
    have size : (Action.changeRoster index change office).2.lenders.size = office.lenders.size :=
      Array.size_modify
    rw [lender_of_beyond beyond, lender_of_beyond (Nat.le_trans (Nat.le_of_eq size) beyond),
      if_neg]
    rintro ⟨rfl, inRange'⟩
    exact inRange inRange'

theorem getElem?_changeWrapper (office : Office) (id other : WrapperId)
    (change : Wrapper → Wrapper) :
    (Action.changeWrapper id change office).2.wrappers[other]? =
      if id = other then office.wrappers[other]?.map change else office.wrappers[other]? :=
  Array.getElem?_modify

variable {Reading : Type} {read : Lender → Reading}

theorem map_withDesk (office : Office) (index : Nat) {desk : Desk}
    (same : read desk.lender = read (office.lender index)) :
    (office.withDesk index desk).lenders.map read = office.lenders.map read := by
  refine Array.ext (by simp [withDesk]) fun other inRange inRange' => ?_
  have here := office.lender_withDesk index other desk
  have size := office.size_withDesk index desk
  rw [Array.size_map] at inRange inRange'
  rw [Array.getElem_map, Array.getElem_map]
  have found : ∀ (office : Office) (inRange : other < office.lenders.size),
      office.lenders[other] = office.lender other := fun office inRange => by
    unfold lender
    rw [Array.getD_eq_getD_getElem?, Array.getElem?_eq_getElem inRange]
    rfl
  rw [found _ inRange, found _ inRange', here]
  split
  · rename_i both
    exact both.1 ▸ same
  · rfl

theorem map_modify (lenders : Array Lender) (index : Nat) {change : Lender → Lender}
    (same : ∀ lender, read (change lender) = read lender) :
    (lenders.modify index change).map read = lenders.map read := by
  refine Array.ext (by simp) fun other inRange inRange' => ?_
  rw [Array.getElem_map, Array.getElem_map, Array.getElem_modify]
  split
  · exact same _
  · rfl

end Office

/-- Who has the place, whether the process sweeps at its end, and whatever a desk leaves alone
that takes a loan back or ends a lease, are left alone by all routine changes. -/
theorem Routine.of_lenders {Reading : Type} {read : Lender → Reading}
    (roster : ∀ lender roster, read { lender with roster } = read lender)
    (reclaim : ∀ (desk : Desk) address token,
      read (desk.reclaim address token).2.lender = read desk.lender)
    (endLease : ∀ (desk : Desk) replica, read (desk.endLease replica).lender = read desk.lender) :
    Routine fun before after =>
      (after.served, after.sweepsAtExit, after.lenders.map read) =
        (before.served, before.sweepsAtExit, before.lenders.map read) :=
  .of_reading (fun _ _ => rfl) (fun _ _ => rfl) (fun _ _ => rfl) (fun _ _ => rfl)
    (fun office index change => congrArg (office.served, office.sweepsAtExit, ·)
      (Office.map_modify office.lenders index fun lender => roster lender (change lender.roster)))
    (fun office index address token => congrArg (office.served, office.sweepsAtExit, ·)
      (office.map_withDesk index (reclaim (office.desk index) address token)))
    fun office index replica => congrArg (office.served, office.sweepsAtExit, ·)
      (office.map_withDesk index (endLease (office.desk index) replica))

end MemoryLending
