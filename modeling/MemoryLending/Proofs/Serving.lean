/-
This file shows that the place of the serving lender is safe in every process. Lenders install
their callbacks in parties of any conduct, in any order and as often as they like, and anything
else happens in between; all that is asked of a party is that it comes back and installs nothing
itself. Then the place in the office and the marks of the lenders tell one story, so that at most
one lender serves; who is refused leaves nothing behind, and who is accepted serves for good. What
an installation comes to is said for each state of the place, and with it who gets on the roster.
-/

import MemoryLending.Proofs.Process

namespace MemoryLending

/-! ### One installation -/

/-- The roster of one lender and of the others, once an installation has had an outcome. -/
structure Enrolled (before after : Office) (lender : Nat) (wrapper : WrapperId)
    (outcome : Except Violation Unit) : Prop where
  accepted : outcome = .ok () →
    (after.lender lender).roster = (before.lender lender).roster.enroll before.alive wrapper
  refused : outcome ≠ .ok () → (after.lender lender).roster = (before.lender lender).roster
  others : ∀ other < before.lenders.size, other ≠ lender →
    (after.lender other).roster = (before.lender other).roster

theorem Roster.mem_enroll (roster : Roster) (alive : WrapperId → Bool) (wrapper : WrapperId) :
    wrapper ∈ (roster.enroll alive wrapper).entries :=
  List.mem_append_right _ (List.mem_singleton_self wrapper)

/-- A wrapper that was not on the roster is there exactly if all went well. -/
theorem Enrolled.mem_iff {before after : Office} {lender : Nat} {wrapper : WrapperId}
    {outcome : Except Violation Unit} (enrolled : Enrolled before after lender wrapper outcome)
    (new : wrapper ∉ (before.lender lender).roster.entries) :
    wrapper ∈ (after.lender lender).roster.entries ↔ outcome = .ok () := by
  constructor
  · intro member
    by_contra failed
    exact new (enrolled.refused failed ▸ member)
  · intro fine
    rw [enrolled.accepted fine]
    exact Roster.mem_enroll _ _ wrapper

namespace Action

/-- The office as the party leaves it, if one is asked. -/
def asked (office : Office) (lender : Nat) (conduct : Conduct) : Office :=
  match office.served with
  | none => (conduct (offering office lender)).2
  | some _ => office

variable {office : Office} {lender : Nat} {conduct : Conduct} {wrapper : WrapperId}

theorem enrolled_enroll (inRange : lender < office.lenders.size) :
    Enrolled office (enroll lender wrapper office).2 lender wrapper (.ok ()) where
  accepted _ := by rw [lender_enroll office lender wrapper inRange, if_pos rfl]
  refused failed := absurd rfl failed
  others other inRange' different := by
    rw [lender_enroll office lender wrapper inRange', if_neg (Ne.symm different)]

theorem enrolled_engaged (inRange : lender < office.lenders.size) :
    Enrolled office (engaged office lender wrapper) lender wrapper (.ok ()) where
  accepted _ := by rw [lender_engaged office lender wrapper inRange, if_pos rfl]
  refused failed := absurd rfl failed
  others other inRange' different := by
    rw [lender_engaged office lender wrapper inRange', if_neg (Ne.symm different)]

/-- Where no roster changes, nobody has been enrolled. -/
theorem enrolled_of_refused {before after : Office} (same : after.lenders = before.lenders)
    (violation : Violation) : Enrolled before after lender wrapper (.error violation) := by
  have lenders : ∀ other, after.lender other = before.lender other := fun other => by
    unfold Office.lender
    rw [same]
  exact ⟨nofun, fun _ => congrArg Lender.roster (lenders lender),
    fun other _ _ => congrArg Lender.roster (lenders other)⟩

/-- What an installation of a lender comes to. -/
structure Installing (office : Office) (lender : Nat) (conduct : Conduct) (wrapper : WrapperId) :
    Prop where
  /-- The serving lender asks nobody, and all goes well. -/
  again : office.served = some lender → engageWith lender conduct wrapper office =
    (.ok ([], .ok ()), (enroll lender wrapper office).2)
  /-- Any other lender asks nobody, and nothing happens. -/
  elsewhere : ∀ other, office.served = some other → other ≠ lender →
    engageWith lender conduct wrapper office = (.ok ([], .error .servedElsewhere), office)
  /-- What a refusing party says is the answer, and nobody serves, as before. -/
  refused : office.served = none → ∀ grants violation after,
    conduct (offering office lender) = (.ok (grants, .error violation), after) →
      engageWith lender conduct wrapper office =
          (.ok (grants, .error violation), { after with served := none }) ∧
        Office.post { after with served := none } = office.post
  /-- A party that accepts makes the lender the serving one. -/
  accepted : office.served = none → ∀ grants after,
    conduct (offering office lender) = (.ok (grants, .ok ()), after) →
      engageWith lender conduct wrapper office =
          (.ok (grants, .ok ()), engaged after lender wrapper) ∧
        (engaged after lender wrapper).served = some lender
  /-- The installation comes back, and the wrapper gets on the roster exactly if all went well. -/
  enrolled : ∃ grants outcome after,
    engageWith lender conduct wrapper office = (.ok (grants, outcome), after) ∧
      Enrolled (asked office lender conduct) after lender wrapper outcome

theorem installing (manned : office.Manned) (inRange : lender < office.lenders.size)
    (fair : office.served = none → Fair conduct (offering office lender)) (wrapper : WrapperId) :
    Installing office lender conduct wrapper := by
  have idle : ∀ served, office.served = served → served ≠ some lender →
      (office.lender lender).serving = false := by
    rintro served rfl other
    exact Bool.eq_false_iff.mpr fun serving => other ((manned.place lender).mpr serving)
  have again := fun served : office.served = some lender =>
    engageWith_of_serving conduct wrapper ((manned.place lender).mp served)
  have elsewhere := fun other (served : office.served = some other) different =>
    engageWith_of_taken conduct wrapper
      (idle _ served fun same => different (Option.some.inj same)) served different
  refine ⟨again, elsewhere, fun free grants violation after came => ⟨?_, ?_⟩,
    fun free grants after came => ⟨?_, ?_⟩, ?_⟩
  · exact engageWith_of_refusal wrapper (idle _ free nofun) free came
  · obtain ⟨answer, after', came', same⟩ := fair free
    cases came.symm.trans came'
    exact post_of_refused free same
  · exact engageWith_of_acceptance wrapper (idle _ free nofun) free came
  · obtain ⟨answer, after', came', same⟩ := fair free
    cases came.symm.trans came'
    exact congrArg (·.1) same
  · unfold asked
    cases served : office.served with
    | some other =>
      by_cases here : other = lender
      · subst here
        exact ⟨_, _, _, again served, enrolled_enroll inRange⟩
      · exact ⟨_, _, _, elsewhere other served here, enrolled_of_refused rfl _⟩
    | none =>
      obtain ⟨⟨grants, violation | ⟨⟩⟩, after, came, same⟩ := fair served
      · refine ⟨_, _, _, engageWith_of_refusal wrapper (idle _ served nofun) served came, ?_⟩
        rw [came]
        exact @enrolled_of_refused lender wrapper after { after with served := none } rfl violation
      · refine ⟨_, _, _, engageWith_of_acceptance wrapper (idle _ served nofun) served came, ?_⟩
        rw [came]
        exact enrolled_engaged (Nat.lt_of_lt_of_eq inRange (Office.size_of_post same).symm)

end Action

/-! ### Runs with parties of any conduct -/

/-- One thing that happens in a process whose parties do as they like. -/
inductive Step where
  | task (task : Task)
  | install (lender : Nat) (conduct : Conduct) (wrapper : WrapperId)

namespace Process

open MemoryLending.Action

/-- Installs the callbacks of a lender, if there is such a lender. -/
def install (process : Process) (lender : Nat) (conduct : Conduct) (wrapper : WrapperId) :
    Process :=
  if lender < process.office.lenders.size then
    match engageWith lender conduct wrapper process.office with
    | (.error .aborted, office) => { process with office, ended := true }
    | (_, office) => { process with office }
  else process

/-- Takes a step, unless the process has ended. -/
def step (process : Process) (step : Step) : Process :=
  if process.ended then process
  else
    match step with
    | .task task => process.take task
    | .install lender conduct wrapper => process.install lender conduct wrapper

/-- Takes one step after another. -/
def steps (process : Process) (steps : List Step) : Process := steps.foldl step process

/-- A party that is asked comes back, and has not installed any callbacks. -/
def Decent (process : Process) : Step → Prop
  | .task _ => True
  | .install lender conduct _ =>
    process.office.served = none → Fair conduct (offering process.office lender)

theorem steady_install {process : Process} (manned : process.office.Manned) {lender : Nat}
    {conduct : Conduct} (wrapper : WrapperId)
    (decent : process.office.served = none → Fair conduct (offering process.office lender)) :
    process.office.Steady (process.install lender conduct wrapper).office := by
  unfold install
  by_cases inRange : lender < process.office.lenders.size
  · obtain ⟨answer, after, came, manned', taken⟩ :=
      manned_engageWith manned inRange wrapper decent
    rw [if_pos inRange, came]
    exact ⟨manned', taken⟩
  · rw [if_neg inRange]
    exact manned.steady_of_post rfl

theorem going_of_step {process : Process} {step : Step}
    (going : (process.step step).ended = false) : process.ended = false := by
  refine Bool.eq_false_iff.mpr fun ended => ?_
  unfold Process.step at going
  rw [if_pos ended] at going
  exact Bool.eq_false_iff.mp going ended

theorem steady_step {process : Process} (manned : process.office.Manned) {step : Step}
    (decent : process.Decent step) (going : (process.step step).ended = false) :
    process.office.Steady (process.step step).office := by
  have before := going_of_step going
  unfold Process.step at going ⊢
  rw [before, if_neg Bool.false_ne_true] at going ⊢
  cases step with
  | task task => exact steady_take manned task going
  | install lender conduct wrapper => exact steady_install manned wrapper decent

/-- As long as the process goes on, the records agree and the place stays with who has it. -/
theorem steady_steps {process : Process} (manned : process.office.Manned) {steps : List Step}
    (decent : Throughout step Decent process steps)
    (going : (process.steps steps).ended = false) :
    process.office.Steady (process.steps steps).office := by
  refine @throughout_induction _ _ _ _
    (fun later => later.ended = false → process.office.Steady later.office) process
    (fun _ => manned.steady_of_post rfl) steps decent
    (fun later move decent steady going => ?_) going
  have before := steady (going_of_step going)
  exact before.trans (steady_step before.manned decent going)

/-! ### The place of the serving lender -/

/-- What holds of the place of the serving lender. -/
structure Serving (process : Process) : Prop where
  /-- The place and the marks tell one story. -/
  place : ∀ lender,
    process.office.served = some lender ↔ (process.office.lender lender).serving = true
  /-- At most one lender serves. -/
  alone : ∀ first second, (process.office.lender first).serving = true →
    (process.office.lender second).serving = true → first = second
  /-- Who serves once serves for good. -/
  stays : ∀ lender, process.office.served = some lender → ∀ later,
    Throughout step Decent process later → (process.steps later).ended = false →
      (process.steps later).office.served = some lender
  installing : ∀ lender < process.office.lenders.size, ∀ conduct wrapper,
    process.Decent (.install lender conduct wrapper) →
      Installing process.office lender conduct wrapper
  /-- While a party is asked, the callbacks are those of the lender that asks. -/
  offering : ∀ lender size, 0 ≤ size → ∀ grant after,
    answerAllocate size true (offering process.office lender) = (.ok (some grant), after) →
      ∃ desk, (process.office.desk lender).lend size.toNat =
          (.ok (grant.address, grant.context), desk) ∧
        after = (Action.offering process.office lender).withDesk lender desk
  /-- A host or a sensor that refuses leaves the place, the marks and the rosters as they were. -/
  refused : ∀ lender party wrapper grants violation after,
    engage lender party wrapper process.office = (.ok (grants, .error violation), after) →
      after.standing = process.office.standing

theorem standing_of_refused {office after : Office} (manned : office.Manned) {lender : Nat}
    {party : Party} {wrapper : WrapperId} {grants : List (Option Grant)} {violation : Violation}
    (refused : engage lender party wrapper office = (.ok (grants, .error violation), after)) :
    after.standing = office.standing := by
  rw [engage_eq] at refused
  have outcome := engaging manned lender (offer party) wrapper
  rw [refused] at outcome
  cases outcome with
  | taken => rfl
  | refused _ _ after free came =>
    have same := asks_standing.offer party (Action.offering office lender)
    rw [came] at same
    have sweeps : after.sweepsAtExit = office.sweepsAtExit := congrArg (·.2.1) same
    have lenders : after.lenders.map Lender.standing = office.lenders.map Lender.standing :=
      congrArg (·.2.2) same
    unfold Office.standing
    rw [sweeps, lenders, free]

/-- In every process whose parties come back and install nothing themselves, at most one lender
serves and serves for good. -/
theorem serving_steps (arena : Arena) (policies : List Policy) (steps : List Step)
    (decent : Throughout step Decent (start arena policies) steps)
    (going : ((start arena policies).steps steps).ended = false) :
    Serving ((start arena policies).steps steps) := by
  have manned := (steady_steps (manned_start arena policies) decent going).manned
  generalize (start arena policies).steps steps = process at going manned
  refine
    { place := manned.place
      alone := fun first second serving serving' => ?_
      stays := fun lender served later decent going => ?_
      installing := fun lender inRange conduct wrapper decent =>
        installing manned inRange decent wrapper
      offering := fun lender size positive grant after granted => ?_
      refused := fun lender party wrapper grants violation after => standing_of_refused manned }
  · exact Option.some.inj
      (((manned.place first).mpr serving).symm.trans ((manned.place second).mpr serving'))
  · exact ((steady_steps manned decent going).taken (served ▸ rfl)).trans served
  · have outcome := allocating (Action.offering process.office lender) size true
    rw [granted] at outcome
    cases outcome with
    | granted _ _ _ desk served positive given lent =>
      cases served
      exact ⟨desk, lent, rfl⟩

/-- The first lender is refused, the second one is accepted. From then on the first one is turned
away, although its party would accept, and the second one succeeds, although its party would
refuse. -/
theorem serving_steps_second :
    let refusing : Conduct := return ([], .error (.hostRefused 7))
    let accepting : Conduct := return ([], .ok ())
    let steps : List Step := [.task (.errand (.makeWrapper "camera" 1 .plain) []),
      .install 0 refusing 0, .install 1 accepting 0, .install 0 accepting 0, .install 1 refusing 0]
    let start := start (Arena.startingAt 4096 16 16) [Policy.standard, Policy.standard]
    Throughout step Decent start steps ∧ (start.steps steps).ended = false ∧
      (start.steps steps).office.served = some 1 ∧
        ((start.steps steps).office.lender 0).serving = false ∧
          ((start.steps steps).office.lender 0).roster.entries = [] ∧
            ((start.steps steps).office.lender 1).roster.entries = [0, 0] := by
  intro refusing accepting steps start
  have fair : ∀ answer office, Fair (return answer : Conduct) office := fun answer office =>
    ⟨answer, office, rfl, rfl⟩
  have decent : Throughout step Decent start steps :=
    ⟨trivial, fun _ => fair _ _, fun _ => fair _ _, fun _ => fair _ _, fun _ => fair _ _, trivial⟩
  have going : (start.steps steps).ended = false := by decide +kernel
  have served : (start.steps steps).office.served = some 1 := by decide +kernel
  have serving : Serving (start.steps steps) := serving_steps _ _ steps decent going
  refine ⟨decent, going, served, ?_, by decide +kernel, by decide +kernel⟩
  refine Bool.eq_false_iff.mpr fun first => ?_
  have second := (serving.place 1).mp served
  exact Nat.zero_ne_one (serving.alone 0 1 first second)

end Process

end MemoryLending
