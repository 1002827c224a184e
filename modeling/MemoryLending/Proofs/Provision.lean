/-
This file runs a process over a heap. The heap has a place ready for each block that a task asks
for: where no block of the same lender is, before the last address, and not at zero. Then every
desk stays in order and every token stays numbered, whatever is done in the process, until an
abort ends it. Of the errands only four ask for blocks, and they ask through the callbacks, so one
answer of the allocate callback is all that has to be followed here.
-/

import MemoryLending.Proofs.Grants

namespace MemoryLending

open Process (grant)

/-! ### Places for what is asked for -/

namespace Office

/-- The heap has a place for a loan that the serving lender is asked for. -/
def Houses (office : Office) (rented : Nat → List Block) (size : Int) : Prop :=
  ∀ lender ∈ office.served, 0 ≤ size →
    (office.tradeOf lender (rented lender) []).Houses
      ⟨.lend size.toNat, office.arena.nextAddress⟩

instance decidableHouses (office : Office) (rented : Nat → List Block) (size : Int) :
    Decidable (office.Houses rented size) :=
  inferInstanceAs (Decidable (∀ lender ∈ office.served, _))

/-- The heap has places for loans that are asked for one after another. -/
def Provides (office : Office) (rented : Nat → List Block) : List Int → Prop
  | [] => True
  | size :: later =>
    office.Houses rented size ∧
      Provides (Action.answerAllocate size true office).2 rented later

instance decidableProvides (rented : Nat → List Block) :
    (office : Office) → (sizes : List Int) → Decidable (office.Provides rented sizes)
  | _, [] => isTrue trivial
  | office, size :: later =>
    have := decidableProvides rented (Action.answerAllocate size true office).2 later
    inferInstanceAs (Decidable (_ ∧ _))

/-- The serving lender is one of the lenders. -/
def Staffed (office : Office) : Prop := ∀ lender ∈ office.served, lender < office.lenders.size

theorem Staffed.of_standing {before after : Office} (staffed : before.Staffed)
    (same : after.standing = before.standing) : after.Staffed := by
  intro lender served
  rw [size_of_post (post_of_standing same)]
  exact staffed lender ((congrArg (·.1) same : after.served = before.served) ▸ served)

/-! ### The allocate callback -/

section Answer

variable {office after : Office} {rented : Nat → List Block} {granted : Nat → List Token}

theorem InOrder.allocate (inOrder : office.InOrder rented granted) (staffed : office.Staffed)
    {size : Int} {hasContext : Bool} (houses : hasContext = true → office.Houses rented size)
    {given : Option Grant}
    (answered : Action.answerAllocate size hasContext office = (.ok given, after)) :
    after.InOrder rented (grant granted office.served (given.toList.map Grant.context)) := by
  have outcome := Action.allocating office size hasContext
  rw [answered] at outcome
  cases outcome with
  | null event unmet =>
    show Office.InOrder _ rented (grant granted office.served [])
    rw [grant_nil]
    exact Keeps.inOrder (routine_keeps.journal office event) inOrder
  | granted lender address token desk served positive context lent =>
    rw [served]
    exact inOrder.lend (houses context lender served positive) lent
  | refused lender violation desk served positive context lent =>
    have houses := houses context lender served positive
    rcases inOrder.orderly.lent houses (staffed lender served) with
      ⟨_, failed, -⟩ | ⟨_, _, given, -⟩
    · cases lent.symm.trans failed
    · cases lent.symm.trans given

theorem InOrder.allocateAll {sizes : List Int} {grants : List (Option Grant)}
    (inOrder : office.InOrder rented granted) (staffed : office.Staffed)
    (provides : office.Provides rented sizes)
    (answered : (sizes.mapM fun size => Action.answerAllocate size true) office =
      (.ok grants, after)) :
    after.InOrder rented (grant granted office.served (grants.reduceOption.map Grant.context)) := by
  induction sizes generalizing office granted grants with
  | nil =>
    cases answered
    show after.InOrder rented (grant granted after.served [])
    rw [grant_nil]
    exact inOrder
  | cons size later inductionHypothesis =>
    obtain ⟨houses, provides⟩ := provides
    rw [List.mapM_cons] at answered
    have same := asks_standing.answerAllocate size true office
    rcases asked : Action.answerAllocate size true office with ⟨fault | given, between⟩
    · rw [Action.run_bind_of_error asked] at answered
      cases answered
    rw [Action.run_bind_of_ok asked] at answered
    rw [asked] at provides same
    have inOrder := inOrder.allocate staffed (fun _ => houses) asked
    rcases rest : (later.mapM fun size => Action.answerAllocate size true) between with
      ⟨fault | others, last⟩
    · rw [Action.run_bind_of_error rest] at answered
      cases answered
    rw [Action.run_bind_of_ok rest] at answered
    cases answered
    have served : between.served = office.served := congrArg (·.1) same
    have inOrder := inductionHypothesis inOrder (staffed.of_standing same) provides rest
    rw [served, grant_append] at inOrder
    cases given with
    | none => exact inOrder
    | some given => exact inOrder

end Answer

/-! ### Changes that no desk sees -/

/-- What is done beside the lenders. -/
theorem keeps_of_lenders {before after : Office} (same : after.lenders = before.lenders)
    (issued : before.arena.identities ≤ after.arena.identities) : before.Keeps after := by
  have lenders : ∀ lender, after.lender lender = before.lender lender := fun lender => by
    unfold Office.lender
    rw [same]
  refine ⟨⟨congrArg Array.size same, fun rented orderly => ?_⟩, ?_⟩
  · exact orderly.beside (congrArg Array.size same) issued fun lender _ =>
      ⟨(before.lender lender).roster, (before.lender lender).serving, lenders lender⟩
  · unfold tokens
    rw [same]

theorem keeps_served (office : Office) (served : Option Nat) :
    office.Keeps { office with served } :=
  keeps_of_lenders rfl (Nat.le_refl office.arena.identities)

theorem keeps_setServing (office : Office) (lender : Nat) :
    office.Keeps (Action.setServing lender office).2 := by
  have size : (Action.setServing lender office).2.lenders.size = office.lenders.size :=
    Array.size_modify
  have tokens := @map_modify _ Lender.nextToken office.lenders lender
    (fun lender => { lender with serving := true }) fun _ => rfl
  refine ⟨⟨size, fun rented orderly => ?_⟩, tokens⟩
  refine orderly.beside size (Nat.le_refl _) fun other inRange => ?_
  have marked := office.lender_modify lender other (fun lender => { lender with serving := true })
    inRange
  rw [show (Action.setServing lender office).2.lender other = _ from marked]
  split
  · exact ⟨_, _, rfl⟩
  · exact ⟨_, _, rfl⟩

theorem keeps_engaged (office : Office) (lender : Nat) (wrapper : WrapperId) :
    office.Keeps (Action.engaged office lender wrapper) := by
  have sweeping : office.Keeps { office with sweepsAtExit := true } :=
    keeps_of_lenders rfl (Nat.le_refl _)
  exact routine_keeps.trans sweeping (routine_keeps.trans (keeps_setServing _ lender)
    (routine_keeps.enroll lender wrapper _))

end Office

/-! ### Errands that ask for blocks -/

namespace Action

/-- The offer of the callbacks to a host is a row of requests. -/
theorem offer_host (index : Nat) (office : Office) :
    let host := office.hosts.getD index default
    let asked := (host.early.mapM fun size => answerAllocate size true)
      (connectHost index true office).2
    offer (.host index) office =
      (asked.1.map fun grants =>
        (grants, if host.result = 0 then .ok () else .error (.hostRefused host.result)),
        asked.2) := by
  have found : host index office = (.ok (office.hosts.getD index default), office) := rfl
  have connected : connectHost index true office =
      (.ok (), (connectHost index true office).2) := rfl
  unfold offer
  dsimp only
  rw [run_bind_of_ok found, run_bind_of_ok connected]
  exact run_bind_pure _ _ _

/-- A sensor asks for nothing while it is offered the callbacks. -/
theorem offer_sensor (index : Nat) (office : Office) :
    ∃ outcome sensors, offer (.sensor index) office =
      (.ok ([], outcome), { office with sensors }) := by
  have found : sensor index office = (.ok (office.sensors.getD index default), office) := rfl
  unfold offer
  dsimp only
  rw [run_bind_of_ok found]
  split
  · exact ⟨_, _, rfl⟩
  · exact ⟨_, _, rfl⟩

end Action

namespace Errand

/-- The heap has places for what an errand asks for. -/
def Supplied (office : Office) (rented : Nat → List Block) : Errand → Prop
  | engage lender (.host index) _ => office.served = none →
      Office.Provides (Action.connectHost index true (Action.offering office lender)).2 rented
        (office.hosts.getD index default).early
  | allocate size hasContext => hasContext = true → office.Houses rented size
  | grab sensor _ => office.Houses rented (Action.frameLength office sensor)
  | _ => True

instance decidableSupplied (office : Office) (rented : Nat → List Block) :
    (errand : Errand) → Decidable (errand.Supplied office rented)
  | engage _ (.host _) _ => inferInstanceAs (Decidable (office.served = none → _))
  | allocate _ hasContext => inferInstanceAs (Decidable (hasContext = true → _))
  | grab sensor _ =>
    inferInstanceAs (Decidable (office.Houses rented (Action.frameLength office sensor)))
  | makeWrapper .. | hold _ | letGo _ | retire _ | enroll .. | withdraw .. | makeHost ..
  | makeSensor .. | engage _ (.sensor _) _ | openSession .. | free .. | handBack .. | halt _
  | sweep _ | endGuard _ | unwindGuard _ => isTrue trivial

/-- The tokens that an errand has ended with. -/
def tokensOf : Except Fault (List Token) → List Token
  | .ok tokens => tokens
  | .error _ => []

/-- Routine errands use no tokens. -/
theorem tokensOf_routine {errand : Errand} (usual : errand.isRoutine = true) (office : Office) :
    tokensOf (errand.conduct office).1 = [] := by
  have silent : ∀ {Answer : Type} (act : Action Answer),
      tokensOf ((act >>= fun _ => pure ([] : List Token)) office).1 = [] := by
    intro Answer act
    rw [Action.run_bind_pure]
    rcases (act office).1 with _ | _ <;> rfl
  cases errand with
  | makeWrapper name lender duty => exact silent _
  | hold id => exact silent _
  | letGo id => exact silent _
  | retire id => exact silent _
  | enroll lender id => exact silent _
  | withdraw lender id => exact silent _
  | makeHost result early => exact silent _
  | free address context => exact silent _
  | handBack sensor frame => exact silent _
  | halt sensor => exact silent _
  | sweep lender => exact silent _
  | endGuard lender => exact silent _
  | unwindGuard lender => exact silent _
  | makeSensor frameLength count => cases usual
  | engage lender party wrapper => cases usual
  | openSession lender sensor => cases usual
  | allocate size hasContext => cases usual
  | grab sensor sequence => cases usual

end Errand

namespace Office

section Errands

variable {office after : Office} {rented : Nat → List Block} {granted : Nat → List Token}

/-- What a party is granted while it is offered the callbacks. -/
theorem InOrder.offer (inOrder : office.InOrder rented granted) (staffed : office.Staffed)
    {party : Party}
    (provides : ∀ index, party = .host index →
      (Action.connectHost index true office).2.Provides rented
        (office.hosts.getD index default).early)
    {grants : List (Option Grant)} {outcome : Except Violation Unit}
    (offered : Action.offer party office = (.ok (grants, outcome), after)) :
    after.InOrder rented (grant granted office.served (grants.reduceOption.map Grant.context)) := by
  cases party with
  | host index =>
    have row := Action.offer_host index office
    dsimp only at row
    rw [offered] at row
    have connected : (Action.connectHost index true office).2.InOrder rented granted :=
      Keeps.inOrder (routine_keeps.hosts office _) inOrder
    rcases asked : ((office.hosts.getD index default).early.mapM fun size =>
      Action.answerAllocate size true) (Action.connectHost index true office).2 with
      ⟨fault | given, last⟩
    · rw [asked] at row
      cases row
    · rw [asked] at row
      cases row
      exact connected.allocateAll staffed (provides index rfl) asked
  | sensor index =>
    obtain ⟨outcome', sensors, made⟩ := Action.offer_sensor index office
    cases offered.symm.trans made
    show Office.InOrder _ rented (grant granted office.served [])
    rw [grant_nil]
    exact Keeps.inOrder (routine_keeps.sensors office sensors) inOrder

section Engage

variable (manned : office.Manned) {lender : Nat} {party : Party} {wrapper : WrapperId}

include manned

theorem InOrder.engage (inOrder : office.InOrder rented granted)
    (inRange : lender < office.lenders.size)
    (supplied : (Errand.engage lender party wrapper).Supplied office rented)
    {grants : List (Option Grant)} {outcome : Except Violation Unit}
    (came : Action.engage lender party wrapper office = (.ok (grants, outcome), after)) :
    after.InOrder rented (grant granted (some lender) (grants.reduceOption.map Grant.context)) := by
  have offering : (Action.offering office lender).InOrder rented granted :=
    Keeps.inOrder (office.keeps_served (some lender)) inOrder
  have staffed : (Action.offering office lender).Staffed := by
    rintro other ⟨⟩
    exact inRange
  have provides : office.served = none → ∀ index, party = .host index →
      (Action.connectHost index true (Action.offering office lender)).2.Provides rented
        ((Action.offering office lender).hosts.getD index default).early := by
    rintro free index rfl
    exact supplied free
  rw [Action.engage_eq] at came
  have result := Action.engaging manned lender (Action.offer party) wrapper
  rw [came] at result
  cases result with
  | serving served =>
    show Office.InOrder _ rented (grant granted (some lender) [])
    rw [grant_nil]
    exact Keeps.inOrder (routine_keeps.enroll lender wrapper office) inOrder
  | taken other served different =>
    show office.InOrder rented (grant granted (some lender) [])
    rw [grant_nil]
    exact inOrder
  | refused _ violation between free refused =>
    have asked := offering.offer staffed (provides free) refused
    exact Keeps.inOrder (between.keeps_served none) asked
  | accepted _ between free accepted =>
    have asked := offering.offer staffed (provides free) accepted
    exact Keeps.inOrder (keeps_engaged between lender wrapper) asked

/-- A fault of an installation ends the process. -/
theorem aborted_of_engage {fault : Fault}
    (failed : Action.engage lender party wrapper office = (.error fault, after)) :
    fault = .aborted := by
  rw [Action.engage_eq] at failed
  have result := Action.engaging manned lender (Action.offer party) wrapper
  rw [failed] at result
  cases result with
  | failed _ _ free failed => exact Action.onlyAborts_offer party _ _ _ failed

theorem grants_of_sensor {sensor : Nat} {grants : List (Option Grant)}
    {outcome : Except Violation Unit}
    (came : Action.engage lender (.sensor sensor) wrapper office =
      (.ok (grants, outcome), after)) : grants = [] := by
  rw [Action.engage_eq] at came
  obtain ⟨outcome', sensors, made⟩ := Action.offer_sensor sensor (Action.offering office lender)
  have result := Action.engaging manned lender (Action.offer (.sensor sensor)) wrapper
  rw [came] at result
  cases result with
  | serving => rfl
  | taken => rfl
  | refused _ _ _ free refused =>
    cases refused.symm.trans made
    rfl
  | accepted _ _ free accepted =>
    cases accepted.symm.trans made
    rfl

theorem InOrder.openSession (inOrder : office.InOrder rented granted)
    (inRange : lender < office.lenders.size) (sensor : Nat)
    (alive : (Action.openSession lender sensor office).1 ≠ .error .aborted) :
    (Action.openSession lender sensor office).2.InOrder rented granted := by
  have manned' := manned.of_post (routine_post.makeWrapper "" lender (.session sensor) office)
  have ready := Keeps.inOrder (routine_keeps.makeWrapper "" lender (.session sensor) office) inOrder
  have inRange' : lender < (Action.makeWrapper "" lender (.session sensor) office).2.lenders.size :=
    inRange
  have outcome := Action.opening office lender sensor
  generalize (Action.makeWrapper "" lender (.session sensor) office).2 = made
    at manned' ready inRange' outcome
  have asked : ∀ {grants outcome after},
      Action.engage lender (.sensor sensor) office.wrappers.size made =
        (.ok (grants, outcome), after) → after.InOrder rented granted := by
    intro grants outcome after came
    have supplied : Errand.Supplied made rented
      (.engage lender (.sensor sensor) office.wrappers.size) := trivial
    have asked := ready.engage manned' inRange' supplied came
    obtain rfl := grants_of_sensor manned' came
    rwa [show ([] : List (Option Grant)).reduceOption.map Grant.context = [] from rfl,
      grant_nil] at asked
  generalize Action.openSession lender sensor office = result at outcome alive
  cases outcome with
  | opened grants after accepted => exact asked accepted
  | refused grants violation after refused =>
    refine Keeps.inOrder ?_ (asked refused)
    exact routine_keeps.bind (routine_keeps.letGo _) (fun _ => routine_keeps.throw _) after
  | failed fault after failed =>
    exact absurd (congrArg Except.error (aborted_of_engage manned' failed)) alive

end Engage

/-- Unless it ends the process, an errand for which the heap has places leaves the desks and the
tokens in order. -/
theorem InOrder.conduct (inOrder : office.InOrder rented granted) (manned : office.Manned)
    {errand : Errand}
    (known : ∀ lender, errand.lender? = some lender → lender < office.lenders.size)
    (supplied : errand.Supplied office rented)
    (alive : (errand.conduct office).1 ≠ .error .aborted) :
    (errand.conduct office).2.InOrder rented
      (grant granted (errand.grantor office) (Errand.tokensOf (errand.conduct office).1)) := by
  have silent : ∀ {Answer : Type} (outcome : Except Fault Answer),
      Errand.tokensOf (outcome.map fun _ => []) = [] := by
    rintro Answer (_ | _) <;> rfl
  by_cases usual : errand.isRoutine = true
  · rw [Errand.tokensOf_routine usual, grant_nil]
    exact Keeps.inOrder (routine_keeps.conduct usual office) inOrder
  cases errand with
  | engage lender party wrapper =>
    rw [Errand.conduct_engage] at alive ⊢
    rcases came : Action.engage lender party wrapper office with ⟨fault | ⟨grants, outcome⟩, after⟩
    · rw [came] at alive
      exact absurd (congrArg Except.error (aborted_of_engage manned came)) alive
    · exact inOrder.engage manned (known lender rfl) supplied came
  | openSession lender sensor =>
    rw [Errand.conduct_openSession] at alive ⊢
    rw [silent, grant_nil]
    exact inOrder.openSession manned (known lender rfl) sensor (Errand.alive_of_map alive)
  | makeSensor frameLength count =>
    obtain ⟨arena, sensors, issued, made⟩ := Action.makeSensor_eq office frameLength count
    rw [Errand.conduct_makeSensor, silent, grant_nil, made]
    have keeps : office.Keeps { office with arena, sensors } := keeps_of_lenders rfl issued
    exact keeps.inOrder inOrder
  | allocate size hasContext =>
    rw [Errand.conduct_allocate] at alive ⊢
    rcases came : Action.answerAllocate size hasContext office with ⟨fault | given, after⟩
    · rw [came] at alive
      exact absurd (congrArg Except.error
        (Action.onlyAborts_answerAllocate size hasContext office _ _ came)) alive
    · exact inOrder.allocate (fun _ => manned.inRange) supplied came
  | grab sensor sequence =>
    rw [Errand.conduct_grab] at alive ⊢
    have outcome := Action.grabbing office sensor sequence
    generalize Action.grab sensor sequence office = result at outcome alive
    cases outcome with
    | complained complaint =>
      show office.InOrder rented (grant granted office.served [])
      rw [grant_nil]
      exact inOrder
    | refused after asked =>
      exact inOrder.allocate (fun _ => manned.inRange) (fun _ => supplied) asked
    | granted given after asked =>
      have asked := inOrder.allocate (fun _ => manned.inRange) (fun _ => supplied) asked
      have keeps : after.Keeps { after with
          arena := after.arena.write given.address
            (Sensor.frameContents sequence (Action.frameLength office sensor)) } :=
        keeps_of_lenders rfl (Nat.le_refl after.arena.identities)
      exact keeps.inOrder asked
    | aborted fault after asked =>
      exact absurd (congrArg Except.error
        (Action.onlyAborts_answerAllocate _ true office _ _ asked)) alive
  | _ => exact absurd rfl usual

end Errands

end Office

namespace Process

/-- The heap has places for what a task asks for. -/
def Houses (process : Process) : Task → Prop
  | .turn lender turn =>
    lender < process.office.lenders.size → (process.trade lender).Houses turn
  | .errand errand places => errand.Supplied (process.ready places) process.rented

instance decidableHouses (process : Process) : (task : Task) → Decidable (process.Houses task)
  | .turn lender _ => inferInstanceAs (Decidable (lender < process.office.lenders.size → _))
  | .errand errand places =>
    inferInstanceAs (Decidable (errand.Supplied (process.ready places) process.rented))

/-- What holds of a process that goes on over a heap. -/
structure Running (process : Process) : Prop where
  manned : process.office.Manned
  inOrder : process.office.InOrder process.rented process.granted

theorem running_start (arena : Arena) (policies : List Policy) :
    (start arena policies).Running := by
  refine ⟨manned_start arena policies, fun lender _ => ?_, fun lender _ => ?_⟩ <;>
    obtain ⟨policy, same⟩ := lender_start arena policies lender
  · refine ⟨[], ?_⟩
    unfold Office.tradeOf Office.desk
    rw [same]
    exact Trade.housed_opened policy arena
  · rw [same]
    exact Token.follows_first

theorem running_takeTurn {process : Process} (running : process.Running) {lender : Nat}
    {turn : Turn} (houses : process.Houses (.turn lender turn)) :
    (process.takeTurn lender turn).Running := by
  have steady := steady_takeTurn running.manned lender turn
  have inOrder := running.inOrder
  unfold takeTurn at steady ⊢
  by_cases inRange : lender < process.office.lenders.size
  · rw [if_pos inRange] at steady ⊢
    obtain ⟨record, housed⟩ := inOrder.orderly lender inRange
    have houses := houses inRange
    refine ⟨steady.manned, inOrder.orderly.turn houses, ?_⟩
    refine inOrder.ticketed.withDesk fun _ => ?_
    have follows := housed.follows_take (Trade.houses_of_record houses record)
      (inOrder.ticketed lender inRange)
    rw [show process.office.tradeOf lender (process.rented lender) record =
      { process.trade lender with record } from rfl, Trade.take_of_record,
      (process.trade lender).answer_of_record record turn] at follows
    cases given : ((process.trade lender).answer turn).token? with
    | none =>
      rw [given] at follows
      exact follows
    | some token =>
      rw [given] at follows
      exact follows
  · rw [if_neg inRange]
    exact running

theorem running_doErrand {process : Process} (running : process.Running) {errand : Errand}
    {places : List Nat} (houses : process.Houses (.errand errand places))
    (going : (process.doErrand errand places).ended = false) :
    (process.doErrand errand places).Running := by
  have steady := steady_doErrand running.manned errand places going
  unfold doErrand at steady going ⊢
  by_cases knows : process.knows errand = true
  · rw [if_pos knows] at steady going ⊢
    have keeps : process.office.Keeps (process.ready places) :=
      Office.keeps_of_lenders rfl (Nat.le_refl process.office.arena.identities)
    have ready := keeps.inOrder running.inOrder
    have same : (process.ready places).post = process.office.post := rfl
    have manned := running.manned.of_post same
    have conducted := ready.conduct manned (fun _ named => lender_of_knows knows named) houses
    rcases done : errand.conduct (process.ready places) with ⟨fault | tokens, after⟩
    · rw [done] at going steady conducted
      have conducted := conducted fun aborted => by
        cases aborted
        cases going
      refine ⟨steady.manned, ?_⟩
      rw [show Errand.tokensOf (.error fault) = [] from rfl, Office.grant_nil] at conducted
      exact conducted
    · rw [done] at steady conducted
      exact ⟨steady.manned, conducted nofun⟩
  · rw [if_neg knows]
    exact running

theorem Running.take {process : Process} (running : process.Running) {task : Task}
    (houses : process.Houses task) (going : (process.take task).ended = false) :
    (process.take task).Running := by
  unfold Process.take at going ⊢
  by_cases ended : process.ended = true
  · rw [if_pos ended]
    exact running
  · rw [if_neg ended] at going ⊢
    cases task with
    | turn lender turn => exact running_takeTurn running houses
    | errand errand places => exact running_doErrand running houses going

/-- A process over a heap keeps its desks, its tokens and its place in order until it ends. -/
theorem running_run (arena : Arena) (policies : List Policy) {tasks : List Task}
    (houses : Throughout take Houses (start arena policies) tasks)
    (going : ((start arena policies).run tasks).ended = false) :
    ((start arena policies).run tasks).Running := by
  refine @throughout_induction _ _ _ _ (fun later => later.ended = false → later.Running) _
    (fun _ => running_start arena policies) tasks houses (fun later task houses running going => ?_)
    going
  exact (running (going_of_take going)).take houses going

end Process

end MemoryLending
