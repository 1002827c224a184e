/-
This file follows one roster through its life. Wrappers enrol, withdraw and die, and now and then
everybody is called up. What the roster should list is read off the history alone: an enrolment
stands until its wrapper withdraws or the roster is mustered. Whatever dead entries were swept
out on the way, the living entries are the standing enrolments of the living, in their order; and
the roster has at most twice as many entries as there ever were living ones, or a fixed small
number.
-/

import Mathlib.Data.List.Basic
import Mathlib.Data.List.Induction
import MemoryLending.Proofs.Peak
import MemoryLending.Roster

namespace MemoryLending

/-! ### The history -/

/-- What can happen to a roster and to those who may be on it. -/
inductive Occasion where
  | enroll (id : WrapperId)
  | withdraw (id : WrapperId)
  | muster
  /-- A wrapper dies, for good. -/
  | death (id : WrapperId)
  deriving DecidableEq, Repr

namespace Occasion

/-- Whether an occasion ends the enrolments of a wrapper. -/
def ends (id : WrapperId) : Occasion → Bool
  | withdraw other => id == other
  | muster => true
  | enroll _ | death _ => false

/-- Whether a wrapper dies on an occasion. -/
def kills (id : WrapperId) : Occasion → Bool
  | death other => id == other
  | enroll _ | withdraw _ | muster => false

/-- The enrolment that an occasion is. -/
def enrolled : Occasion → List WrapperId
  | enroll id => [id]
  | withdraw _ | muster | death _ => []

/-- The enrolments of a history that nothing later in it has ended, in their order. -/
def standing : List Occasion → List WrapperId
  | [] => []
  | occasion :: later =>
    (occasion.enrolled.filter fun id => !later.any (ends id)) ++ standing later

/-- An occasion ends some of the enrolments before it, and may be one more. -/
theorem standing_concat (history : List Occasion) (occasion : Occasion) :
    standing (history ++ [occasion]) =
      (standing history).filter (fun id => !occasion.ends id) ++ occasion.enrolled := by
  induction history with
  | nil => simp [standing]
  | cons first later inductionHypothesis =>
    have ended : ∀ id, (!(later ++ [occasion]).any (ends id)) =
        (!occasion.ends id && !later.any (ends id)) := fun id => by
      rw [List.any_append, Bool.not_or, Bool.and_comm, List.any_cons, List.any_nil, Bool.or_false]
    rw [List.cons_append, standing, inductionHypothesis, funext ended, standing,
      List.filter_append, List.filter_filter, List.append_assoc]

end Occasion

/-! ### The company -/

/-- A roster, and the wrappers that have died. -/
structure Company where
  roster : Roster
  dead : List WrapperId

namespace Company

/-- Nobody is enrolled and nobody has died. -/
def founded : Company := ⟨Roster.empty, []⟩

def alive (company : Company) (id : WrapperId) : Bool := !company.dead.contains id

/-- The entries of the living. -/
def living (company : Company) : List WrapperId := company.roster.living company.alive

/-- What an occasion makes of a company. -/
def attend (company : Company) : Occasion → Company
  | .enroll id => { company with roster := company.roster.enroll company.alive id }
  | .withdraw id => { company with roster := company.roster.withdraw company.alive id }
  | .muster => { company with roster := (company.roster.muster company.alive).2.2 }
  | .death id => { company with dead := id :: company.dead }

/-- The company once a history has happened. -/
def after (history : List Occasion) : Company := history.foldl attend founded

theorem after_concat (history : List Occasion) (occasion : Occasion) :
    after (history ++ [occasion]) = (after history).attend occasion :=
  List.foldl_append

/-! ### The living entries -/

/-- The dead stay dead. -/
theorem alive_attend (company : Company) (occasion : Occasion) (id : WrapperId) :
    (company.attend occasion).alive id = (company.alive id && !occasion.kills id) := by
  cases occasion with
  | death other =>
    unfold alive attend Occasion.kills
    rw [List.contains_cons, Bool.not_or, Bool.and_comm]
  | enroll _ | withdraw _ | muster => exact (Bool.and_true _).symm

/-- Those alive are those whose death is not in the history. -/
theorem alive_after (history : List Occasion) (id : WrapperId) :
    (after history).alive id = !history.any (Occasion.kills id) := by
  induction history using List.reverseRecOn with
  | nil => rfl
  | append_singleton front last inductionHypothesis =>
    rw [after_concat, alive_attend, inductionHypothesis, List.any_append, Bool.not_or,
      List.any_cons, List.any_nil, Bool.or_false]

/-- An occasion takes out whoever it ends the enrolments of and whoever dies on it. -/
theorem living_attend (company : Company) (occasion : Occasion) :
    (company.attend occasion).living =
      company.living.filter (fun id => !occasion.ends id && !occasion.kills id) ++
        occasion.enrolled.filter company.alive := by
  cases occasion with
  | enroll id =>
    refine (company.roster.living_enroll company.alive id).trans ?_
    exact congrArg (· ++ _) (List.filter_eq_self.mpr fun _ _ => rfl).symm
  | withdraw id =>
    refine (company.roster.living_withdraw company.alive id).trans ?_
    simp only [Occasion.ends, Occasion.kills, Occasion.enrolled, List.filter_nil, List.append_nil,
      Bool.not_false, Bool.and_true]
    rfl
  | muster => simp [living, attend, Roster.muster, Roster.living, Occasion.ends, Occasion.enrolled]
  | death id =>
    have fewer : (company.attend (.death id)).alive =
        fun other => company.alive other && !Occasion.kills other (.death id) :=
      funext (company.alive_attend (.death id))
    unfold living Roster.living
    rw [fewer, List.filter_filter]
    simp only [Occasion.ends, Occasion.enrolled, List.filter_nil, List.append_nil,
      Bool.not_false, Bool.true_and, Bool.and_comm]
    rfl

/-- Whatever was swept out, the living entries are the standing enrolments of the living. -/
theorem living_after (history : List Occasion) :
    (after history).living =
      (Occasion.standing history).filter fun id => !history.any (Occasion.kills id) := by
  rw [← funext (alive_after history)]
  induction history using List.reverseRecOn with
  | nil => rfl
  | append_singleton front last inductionHypothesis =>
    have fewer := funext ((after front).alive_attend last)
    have enrolled : last.enrolled.filter (after front).alive =
        last.enrolled.filter fun id => (after front).alive id && !last.kills id := by
      cases last with
      | enroll id => simp only [Occasion.kills, Bool.not_false, Bool.and_true]
      | withdraw _ | muster | death _ => rfl
    rw [after_concat, living_attend, inductionHypothesis, Occasion.standing_concat, fewer,
      enrolled, List.filter_append, List.filter_filter, List.filter_filter]
    congr 2
    funext id
    cases (after front).alive id <;> simp [Bool.and_comm]

/-! ### The number of entries -/

/-- The most living entries there ever were in a history. -/
def mostLiving (history : List Occasion) : Nat :=
  peak attend (fun company => company.living.length) founded history

theorem mostLiving_concat (history : List Occasion) (occasion : Occasion) :
    mostLiving (history ++ [occasion]) =
      max (mostLiving history) ((after history).attend occasion).living.length :=
  peak_concat attend (fun company => company.living.length) founded history occasion

/-- The number of entries that a roster stays within, if it never had more living entries. -/
def bound (most : Nat) : Nat := max Roster.sweepFloor (2 * most)

/-- A roster has no more entries than the bound, and sweeps before it would have more. -/
structure Short (company : Company) (most : Nat) : Prop where
  count : company.roster.count ≤ bound most
  sweepAt : company.roster.sweepAt ≤ bound most

theorem bound_mono {less more : Nat} (grows : less ≤ more) : bound less ≤ bound more :=
  Nat.max_le.mpr ⟨Nat.le_max_left _ _,
    Nat.le_trans (Nat.mul_le_mul_left 2 grows) (Nat.le_max_right _ _)⟩

theorem Short.mono {company : Company} {less more : Nat} (short : company.Short less)
    (grows : less ≤ more) : company.Short more :=
  ⟨Nat.le_trans short.count (bound_mono grows), Nat.le_trans short.sweepAt (bound_mono grows)⟩

/-- A sweep leaves room for one more entry: the number of the living at most doubles, and the
floor is not zero. -/
theorem living_lt_bound {company : Company} {most : Nat} (living : company.living.length ≤ most) :
    company.living.length < bound most := by
  unfold bound Roster.sweepFloor
  omega

theorem Short.attend {company : Company} {most : Nat} (short : company.Short most)
    (living : company.living.length ≤ most) (occasion : Occasion) :
    (company.attend occasion).Short most := by
  cases occasion with
  | enroll id =>
    unfold Company.attend Roster.enroll
    dsimp only
    split
    case isTrue =>
      refine ⟨?_, ?_⟩
      · show (company.living ++ [id]).length ≤ bound most
        rw [List.length_append]
        exact living_lt_bound living
      · show max (company.living.length * 2) Roster.sweepFloor ≤ bound most
        rw [Nat.max_comm, Nat.mul_comm]
        exact bound_mono living
    case isFalse early =>
      refine ⟨?_, short.sweepAt⟩
      show (company.roster.entries ++ [id]).length ≤ bound most
      rw [List.length_append]
      exact Nat.le_trans (Nat.lt_of_not_le early) short.sweepAt
  | withdraw id =>
    have fewer : (company.roster.withdraw company.alive id).count ≤ company.roster.count :=
      (List.filter_sublist.trans List.filter_sublist).length_le
    exact ⟨Nat.le_trans fewer short.count, short.sweepAt⟩
  | muster => exact ⟨Nat.zero_le _, short.sweepAt⟩
  | death id => exact ⟨short.count, short.sweepAt⟩

theorem short_after (history : List Occasion) : (after history).Short (mostLiving history) := by
  induction history using List.reverseRecOn with
  | nil => exact ⟨Nat.zero_le _, Nat.zero_le _⟩
  | append_singleton front last inductionHypothesis =>
    have living : (after front).living.length ≤ mostLiving front :=
      le_peak attend (fun company => company.living.length) founded front
    rw [after_concat, mostLiving_concat]
    exact (inductionHypothesis.attend living last).mono (Nat.le_max_left _ _)

/-! ### Everything together -/

/-- What a roster says after a history. -/
structure Listed (company : Company) (history : List Occasion) : Prop where
  /-- The living entries are the enrolments, each as often as it was made, of those who have not
  died and for whom no later occasion has ended it. -/
  living : company.living =
    (Occasion.standing history).filter fun id => !history.any (Occasion.kills id)
  /-- Calling everybody up answers the living entries and the number of the others. -/
  mustered : company.roster.muster company.alive =
    (company.living, (company.roster.entries.filter (!company.alive ·)).length,
      { company.roster with entries := [] })
  /-- Whoever withdraws has no entry left. -/
  withdrawn : ∀ id, id ∉ (company.attend (.withdraw id)).roster.entries
  /-- The others keep their living entries when somebody withdraws. -/
  undisturbed : ∀ id, (company.attend (.withdraw id)).living = company.living.filter (· != id)
  count : company.roster.count ≤ max Roster.sweepFloor (2 * mostLiving history)

/-- A roster forgets nobody who lives and has neither withdrawn nor been called up, and however
many wrappers come and go it stays short. -/
theorem listed_after (history : List Occasion) : (after history).Listed history where
  living := living_after history
  mustered := by
    have both : (after history).roster.count = (after history).living.length + _ :=
      List.length_eq_length_filter_add (after history).alive
    have others := Nat.sub_eq_of_eq_add' both
    exact congrArg (fun number => ((after history).living, number, Roster.mk [] _)) others
  withdrawn id member := by
    have other := List.of_mem_filter member
    simp at other
  undisturbed id := (after history).roster.living_withdraw (after history).alive id
  count := (short_after history).count

end Company

end MemoryLending
