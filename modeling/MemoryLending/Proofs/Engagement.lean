/-
This file follows the installation of callbacks. Two records say which lender serves the native
layer: the place in the office, and a mark at the lender itself. They are changed one after the
other, with the native party in between, and the party may refuse. The party is any action here
that comes back and does not install callbacks itself, so whatever it does while it is offered
them is covered. Then the two records agree before and after every installation, the place is
given up only by the one who has just taken it, and once a party has accepted it stays taken.
-/

import MemoryLending.Proofs.Conduct
import MemoryLending.Proofs.Readings

namespace MemoryLending

/-- What a party does when it is offered the callbacks: it asks for memory or not, and accepts
or not. -/
abbrev Conduct := Action (List (Option Grant) × Except Violation Unit)

namespace Action

/-! ### Installation in a party of any conduct -/

/-- Takes the place and lets a party see the callbacks. -/
def takePlaceFor (lender : Nat) (conduct : Conduct) :
    Action (List (Option Grant) × Except Violation Unit) := do
  match ← claimPlace lender with
  | .error violation => return ([], .error violation)
  | .ok claimed =>
    match ← conduct with
    | (grants, .error violation) =>
      if claimed then setServed none
      return (grants, .error violation)
    | (grants, .ok ()) =>
      modify fun office => { office with sweepsAtExit := true }
      return (grants, .ok ())

/-- Installs the callbacks of a lender in a party of any conduct. -/
def engageWith (lender : Nat) (conduct : Conduct) (wrapper : WrapperId) :
    Action (List (Option Grant) × Except Violation Unit) := do
  if (← get).lender lender |>.serving then
    enroll lender wrapper
    return ([], .ok ())
  match ← takePlaceFor lender conduct with
  | (grants, .error violation) => return (grants, .error violation)
  | (grants, .ok ()) =>
    setServing lender
    enroll lender wrapper
    return (grants, .ok ())

theorem engage_eq (lender : Nat) (party : Party) (wrapper : WrapperId) :
    engage lender party wrapper = engageWith lender (offer party) wrapper := rfl

section Engage

variable {office : Office} {lender : Nat} (conduct : Conduct) (wrapper : WrapperId)

/-- The serving lender puts the wrapper on its roster and asks nobody. -/
theorem engageWith_of_serving (serving : (office.lender lender).serving = true) :
    engageWith lender conduct wrapper office =
      (.ok ([], .ok ()), (enroll lender wrapper office).2) := by
  unfold engageWith
  rw [run_get_bind, if_pos serving]
  rfl

/-- The office as a party sees it that is offered the callbacks of a lender. -/
def offering (office : Office) (lender : Nat) : Office := { office with served := some lender }

/-- The office once a lender serves and the wrapper is on its roster. -/
def engaged (office : Office) (lender : Nat) (wrapper : WrapperId) : Office :=
  (enroll lender wrapper (setServing lender { office with sweepsAtExit := true }).2).2

/-- Where another lender has the place, nobody is asked and nothing changes. -/
theorem engageWith_of_taken {other : Nat} (idle : (office.lender lender).serving = false)
    (taken : office.served = some other) (different : other ≠ lender) :
    engageWith lender conduct wrapper office =
      (.ok ([], .error .servedElsewhere), office) := by
  have claimed : claimPlace lender office = (.ok (.error .servedElsewhere), office) := by
    unfold claimPlace
    rw [run_get_bind, taken]
    dsimp only
    rw [if_neg different]
    rfl
  have placed : takePlaceFor lender conduct office =
      (.ok ([], .error .servedElsewhere), office) := by
    unfold takePlaceFor
    rw [run_bind_of_ok claimed]
    rfl
  unfold engageWith
  rw [run_get_bind, idle, if_neg Bool.false_ne_true, run_bind_of_ok placed]
  rfl

section Free

variable {conduct} {grants : List (Option Grant)} {after : Office}
  (idle : (office.lender lender).serving = false) (free : office.served = none)

theorem claimPlace_of_free (lender : Nat) (free : office.served = none) :
    claimPlace lender office = (.ok (.ok true), offering office lender) := by
  unfold claimPlace
  rw [run_get_bind, free]
  rfl

include idle free

/-- A party that refuses is the end of it, and the place is free again. -/
theorem engageWith_of_refusal {violation : Violation}
    (refused : conduct (offering office lender) = (.ok (grants, .error violation), after)) :
    engageWith lender conduct wrapper office =
      (.ok (grants, .error violation), { after with served := none }) := by
  have placed : takePlaceFor lender conduct office =
      (.ok (grants, .error violation), { after with served := none }) := by
    unfold takePlaceFor
    rw [run_bind_of_ok (claimPlace_of_free lender free)]
    dsimp only
    rw [run_bind_of_ok refused]
    rfl
  unfold engageWith
  rw [run_get_bind, idle, if_neg Bool.false_ne_true, run_bind_of_ok placed]
  rfl

theorem engageWith_of_fault {fault : Fault}
    (failed : conduct (offering office lender) = (.error fault, after)) :
    engageWith lender conduct wrapper office = (.error fault, after) := by
  have placed : takePlaceFor lender conduct office = (.error fault, after) := by
    unfold takePlaceFor
    rw [run_bind_of_ok (claimPlace_of_free lender free)]
    exact run_bind_of_error failed
  unfold engageWith
  rw [run_get_bind, idle, if_neg Bool.false_ne_true, run_bind_of_error placed]

/-- A party that accepts makes the lender the serving one. -/
theorem engageWith_of_acceptance
    (accepted : conduct (offering office lender) = (.ok (grants, .ok ()), after)) :
    engageWith lender conduct wrapper office =
      (.ok (grants, .ok ()), engaged after lender wrapper) := by
  have placed : takePlaceFor lender conduct office =
      (.ok (grants, .ok ()), { after with sweepsAtExit := true }) := by
    unfold takePlaceFor
    rw [run_bind_of_ok (claimPlace_of_free lender free)]
    dsimp only
    rw [run_bind_of_ok accepted]
    rfl
  unfold engageWith
  rw [run_get_bind, idle, if_neg Bool.false_ne_true, run_bind_of_ok placed]
  rfl

end Free

end Engage

end Action

/-! ### Two records of one fact -/

namespace Office

/-- Who serves the native layer, as the office and the lenders have it, and whether the process
sweeps at its end. -/
def post (office : Office) : Option Nat × Bool × Array Bool :=
  (office.served, office.sweepsAtExit, office.lenders.map Lender.serving)

theorem serving_eq (office : Office) (lender : Nat) :
    (office.lender lender).serving = (office.lenders.map Lender.serving).getD lender false := by
  unfold Office.lender
  simp only [Array.getD_eq_getD_getElem?, Array.getElem?_map]
  cases office.lenders[lender]? <;> rfl

theorem size_of_post {before after : Office} (same : after.post = before.post) :
    after.lenders.size = before.lenders.size := by
  have marks : after.lenders.map Lender.serving = before.lenders.map Lender.serving :=
    congrArg (·.2.2) same
  rw [← Array.size_map, marks, Array.size_map]

/-- A lender has the place exactly if it is marked as serving, and the process sweeps at its end
exactly if some lender does. -/
structure Manned (office : Office) : Prop where
  place : ∀ lender, office.served = some lender ↔ (office.lender lender).serving = true
  exit : office.sweepsAtExit = office.served.isSome

theorem Manned.of_post {before after : Office} (same : after.post = before.post)
    (manned : before.Manned) : after.Manned := by
  have served : after.served = before.served := congrArg (·.1) same
  have sweeps : after.sweepsAtExit = before.sweepsAtExit := congrArg (·.2.1) same
  have serving : after.lenders.map Lender.serving = before.lenders.map Lender.serving :=
    congrArg (·.2.2) same
  refine ⟨fun lender => ?_, ?_⟩
  · rw [served, serving_eq, serving, ← serving_eq]
    exact manned.place lender
  · rw [served, sweeps]
    exact manned.exit

theorem Manned.inRange {office : Office} (manned : office.Manned) {lender : Nat}
    (served : office.served = some lender) : lender < office.lenders.size := by
  refine Nat.lt_of_not_le fun beyond => ?_
  have serving := (manned.place lender).mp served
  unfold Office.lender at serving
  rw [Array.getD_eq_getD_getElem?, Array.getElem?_eq_none beyond] at serving
  cases serving

end Office

/-! ### What no work at a desk changes -/

/-- The policy of a lender, its roster, and whether it is marked as serving. -/
def Lender.standing (lender : Lender) : Policy × Roster × Bool :=
  (lender.policy, lender.roster, lender.serving)

namespace Desk

/-- The standing of the lender. -/
def standing (desk : Desk) : Policy × Roster × Bool := desk.lender.standing

theorem standing_loans : OverlooksLoans standing where
  reserve _ _ := rfl
  views _ _ := rfl
  record _ _ _ _ := rfl
  deals _ _ _ := rfl
  loans _ _ := rfl
  token _ := rfl

theorem standing_arena : OverlooksArena standing where
  reserve _ _ := rfl
  views _ _ := rfl
  record _ _ _ _ := rfl
  replicas _ _ := rfl
  arena _ _ := rfl

theorem standing_lend (desk : Desk) (size : Nat) : (desk.lend size).2.standing = desk.standing :=
  (standing_loans.lend desk size).trans (standing_arena.blockFor desk size)

theorem standing_endLease (desk : Desk) (replica : Replica) :
    (desk.endLease replica).standing = desk.standing :=
  standing_arena.toOverlooksReplicas.endLease desk fun _ _ _ => rfl

end Desk

theorem Trade.standing_perform (trade : Trade) (deed : Deed) :
    (trade.perform deed).2.desk.standing = trade.desk.standing :=
  trade.read_perform Desk.standing_arena (fun size _ => trade.desk.standing_lend size)
    (fun address token _ => Desk.standing_loans.reclaim trade.desk address token)
    fun replica _ => trade.desk.standing_endLease replica

theorem serving_of_standing {first second : Desk} (same : first.standing = second.standing) :
    first.lender.serving = second.lender.serving :=
  congrArg (·.2.2) same

namespace Office

/-- Who serves the native layer, whether the process sweeps at its end, and the standing of every
lender. -/
def standing (office : Office) : Option Nat × Bool × Array (Policy × Roster × Bool) :=
  (office.served, office.sweepsAtExit, office.lenders.map Lender.standing)

theorem post_of_standing {before after : Office} (same : after.standing = before.standing) :
    after.post = before.post := by
  have served : after.served = before.served := congrArg (·.1) same
  have sweeps : after.sweepsAtExit = before.sweepsAtExit := congrArg (·.2.1) same
  have lenders := congrArg (·.2.2.map (·.2.2)) same
  dsimp only [standing] at lenders
  rw [Array.map_map, Array.map_map] at lenders
  unfold post
  rw [served, sweeps]
  exact congrArg (before.served, before.sweepsAtExit, ·) lenders

theorem standing_withDesk (office : Office) (index : Nat) {desk : Desk}
    (same : desk.standing = (office.desk index).standing) :
    (office.withDesk index desk).standing = office.standing :=
  congrArg (office.served, office.sweepsAtExit, ·) (office.map_withDesk index same)

end Office

/-- Routine changes leave alone who serves. -/
theorem routine_post : Routine fun before after => after.post = before.post :=
  .of_lenders (fun _ _ => rfl)
    (fun desk address token =>
      serving_of_standing (Desk.standing_loans.reclaim desk address token))
    fun desk replica => serving_of_standing (desk.standing_endLease replica)

/-! ### One installation -/

/-- A party that is offered the callbacks comes back, and has not installed any. -/
def Fair (conduct : Conduct) (office : Office) : Prop :=
  ∃ answer after, conduct office = (.ok answer, after) ∧ after.post = office.post

namespace Action

/-- What an installation can come to. -/
inductive Engaging (office : Office) (lender : Nat) (conduct : Conduct) (wrapper : WrapperId) :
    Except Fault (List (Option Grant) × Except Violation Unit) × Office → Prop where
  | serving (served : office.served = some lender) :
      Engaging office lender conduct wrapper
        (.ok ([], .ok ()), (enroll lender wrapper office).2)
  | taken (other : Nat) (served : office.served = some other) (different : other ≠ lender) :
      Engaging office lender conduct wrapper (.ok ([], .error .servedElsewhere), office)
  | refused (grants : List (Option Grant)) (violation : Violation) (after : Office)
      (free : office.served = none)
      (refused : conduct (offering office lender) = (.ok (grants, .error violation), after)) :
      Engaging office lender conduct wrapper
        (.ok (grants, .error violation), { after with served := none })
  | accepted (grants : List (Option Grant)) (after : Office) (free : office.served = none)
      (accepted : conduct (offering office lender) = (.ok (grants, .ok ()), after)) :
      Engaging office lender conduct wrapper
        (.ok (grants, .ok ()), engaged after lender wrapper)
  | failed (fault : Fault) (after : Office) (free : office.served = none)
      (failed : conduct (offering office lender) = (.error fault, after)) :
      Engaging office lender conduct wrapper (.error fault, after)

theorem engaging {office : Office} (manned : office.Manned) (lender : Nat) (conduct : Conduct)
    (wrapper : WrapperId) :
    Engaging office lender conduct wrapper (engageWith lender conduct wrapper office) := by
  cases serving : (office.lender lender).serving with
  | true =>
    rw [engageWith_of_serving conduct wrapper serving]
    exact .serving ((manned.place lender).mpr serving)
  | false =>
    cases served : office.served with
    | some other =>
      have different : other ≠ lender := fun same =>
        Bool.false_ne_true (serving.symm.trans ((manned.place lender).mp (same ▸ served)))
      rw [engageWith_of_taken conduct wrapper serving served different]
      exact .taken other served different
    | none =>
      rcases offered : conduct (offering office lender) with
        ⟨fault | ⟨grants, violation | ⟨⟩⟩, after⟩
      · rw [engageWith_of_fault wrapper serving served offered]
        exact .failed fault after served offered
      · rw [engageWith_of_refusal wrapper serving served offered]
        exact .refused grants violation after served offered
      · rw [engageWith_of_acceptance wrapper serving served offered]
        exact .accepted grants after served offered

/-- What the opening of a session can come to, once there is a wrapper for it. -/
inductive Opening (office : Office) (lender sensor : Nat) (session : WrapperId) :
    Except Fault WrapperId × Office → Prop where
  | opened (grants : List (Option Grant)) (after : Office)
      (accepted : engage lender (.sensor sensor) session office = (.ok (grants, .ok ()), after)) :
      Opening office lender sensor session (.ok session, after)
  | refused (grants : List (Option Grant)) (violation : Violation) (after : Office)
      (refused : engage lender (.sensor sensor) session office =
        (.ok (grants, .error violation), after)) :
      Opening office lender sensor session ((letGo session >>= fun _ => refuse violation) after)
  | failed (fault : Fault) (after : Office)
      (failed : engage lender (.sensor sensor) session office = (.error fault, after)) :
      Opening office lender sensor session (.error fault, after)

theorem opening (office : Office) (lender sensor : Nat) :
    Opening (makeWrapper "" lender (.session sensor) office).2 lender sensor office.wrappers.size
      (openSession lender sensor office) := by
  have made : makeWrapper "" lender (.session sensor) office =
      (.ok office.wrappers.size, (makeWrapper "" lender (.session sensor) office).2) := rfl
  unfold openSession
  rw [run_bind_of_ok made]
  generalize (makeWrapper "" lender (.session sensor) office).2 = between
  rcases engaged : engage lender (.sensor sensor) office.wrappers.size between with
    ⟨fault | ⟨grants, violation | ⟨⟩⟩, after⟩
  · rw [run_bind_of_error engaged]
    exact .failed fault after engaged
  · rw [run_bind_of_ok engaged]
    exact .refused grants violation after engaged
  · rw [run_bind_of_ok engaged]
    exact .opened grants after engaged

/-! ### The office after an installation -/

section After

variable (office : Office) (lender : Nat) (wrapper : WrapperId)

theorem size_engaged : (engaged office lender wrapper).lenders.size = office.lenders.size :=
  Array.size_modify.trans Array.size_modify

theorem lender_enroll {other : Nat} (inRange : other < office.lenders.size) :
    (enroll lender wrapper office).2.lender other =
      if lender = other then
        { office.lender other with
          roster := (office.lender other).roster.enroll office.alive wrapper }
      else office.lender other :=
  office.lender_modify lender other _ inRange

theorem lender_engaged {other : Nat} (inRange : other < office.lenders.size) :
    (engaged office lender wrapper).lender other =
      if lender = other then
        { office.lender other with
          roster := (office.lender other).roster.enroll office.alive wrapper
          serving := true }
      else office.lender other := by
  have serving := office.lender_modify lender other (fun lender => { lender with serving := true })
    inRange
  have inRange' : other <
      ((setServing lender { office with sweepsAtExit := true }).2).lenders.size :=
    Nat.lt_of_lt_of_eq inRange Array.size_modify.symm
  have enrolled := lender_enroll (setServing lender { office with sweepsAtExit := true }).2 lender
    wrapper inRange'
  refine enrolled.trans ?_
  rw [show (setServing lender { office with sweepsAtExit := true }).2.lender other = _ from serving]
  split <;> rfl

end After

variable {office : Office} {lender : Nat}

/-- The party has kept its hands off the two records, so the office is manned as before once the
place is given up again. -/
theorem post_of_refused {after : Office} (free : office.served = none)
    (same : after.post = (offering office lender).post) :
    Office.post { after with served := none } = office.post := by
  have sweeps : after.sweepsAtExit = office.sweepsAtExit := congrArg (·.2.1) same
  have serving : after.lenders.map Lender.serving = office.lenders.map Lender.serving :=
    congrArg (·.2.2) same
  unfold Office.post
  rw [sweeps, serving, free]

theorem manned_engaged (manned : office.Manned) (inRange : lender < office.lenders.size)
    {wrapper : WrapperId} {after : Office} (free : office.served = none)
    (same : after.post = (offering office lender).post) :
    (engaged after lender wrapper).Manned := by
  have served : (engaged after lender wrapper).served = some lender := congrArg (·.1) same
  have marks : after.lenders.map Lender.serving = office.lenders.map Lender.serving :=
    congrArg (·.2.2) same
  have size : after.lenders.size = office.lenders.size := (Office.size_of_post same).trans rfl
  have idle : ∀ other, (after.lender other).serving = false := fun other => by
    rw [after.serving_eq, marks, ← office.serving_eq]
    refine Bool.eq_false_iff.mpr fun serving => ?_
    cases free.symm.trans ((manned.place other).mpr serving)
  refine ⟨fun other => ?_, by rw [served]; rfl⟩
  rw [served, Option.some_inj]
  by_cases inRange' : other < after.lenders.size
  · rw [lender_engaged after lender wrapper inRange']
    by_cases here : lender = other
    · rw [if_pos here]
      exact iff_of_true here rfl
    · rw [if_neg here, idle other]
      exact iff_of_false here Bool.false_ne_true
  · have beyond : other ≠ lender := fun here => inRange' (size ▸ here ▸ inRange)
    have idle' : ((engaged after lender wrapper).lender other).serving = false := by
      unfold Office.lender
      rw [Array.getD_eq_getD_getElem?, Array.getElem?_eq_none]
      · rfl
      · rw [size_engaged]
        exact Nat.le_of_not_lt inRange'
    rw [idle']
    exact iff_of_false beyond.symm Bool.false_ne_true

/-- A fair party leaves the two records agreeing, whatever it answers, and a place that is taken
stays taken. -/
theorem manned_engageWith (manned : office.Manned) (inRange : lender < office.lenders.size)
    (wrapper : WrapperId) {conduct : Conduct}
    (fair : office.served = none → Fair conduct (offering office lender)) :
    ∃ answer after, engageWith lender conduct wrapper office = (.ok answer, after) ∧
      after.Manned ∧ (office.served.isSome → after.served = office.served) := by
  have outcome := engaging manned lender conduct wrapper
  generalize engageWith lender conduct wrapper office = result at outcome
  cases outcome with
  | serving served =>
    have same : ((enroll lender wrapper office).2).post = office.post :=
      routine_post.enroll lender wrapper office
    exact ⟨_, _, rfl, manned.of_post same, fun _ => congrArg (·.1) same⟩
  | taken other served different => exact ⟨_, _, rfl, manned, fun _ => rfl⟩
  | refused grants violation after free refused =>
    obtain ⟨answer, after', came, same⟩ := fair free
    cases refused.symm.trans came
    refine ⟨_, _, rfl, manned.of_post (post_of_refused free same), fun taken => ?_⟩
    rw [free] at taken
    cases taken
  | accepted grants after free accepted =>
    obtain ⟨answer, after', came, same⟩ := fair free
    cases accepted.symm.trans came
    refine ⟨_, _, rfl, manned_engaged manned inRange free same, fun taken => ?_⟩
    rw [free] at taken
    cases taken
  | failed fault after free failed =>
    obtain ⟨answer, after', came, same⟩ := fair free
    cases failed.symm.trans came

end Action

end MemoryLending
